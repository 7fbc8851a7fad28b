/-
This file is about the lists of the members of a server that connections are sent. It
says which list was the last one on a connection, what the list should be, and that a
refresh of those who look at a server makes it so.
-/

import Tizcord.Client.Network
import Tizcord.Server.ListReplies
import Tizcord.Server.ShownViews

namespace Tizcord

open CModel

/-! ### The last list -/

/-- The packets of the last list of members, after one more packet. An answer that refuses the list
has the code of an error. -/
def memberFrames (frames : List TizcordPacket) (packet : TizcordPacket) : List TizcordPacket :=
  if packet.request = some (.server .listMembers) ∧ 0 ≤ packet.serverStatusCode then
    if ListFrameType.start.marks packet || ListFrameType.single.marks packet then [packet]
    else frames ++ [packet]
  else frames

/-- The packets of the last list of members among some packets. -/
def lastMemberList (packets : List TizcordPacket) : List TizcordPacket :=
  packets.foldl memberFrames []

section Reading

variable {packet : TizcordPacket} {frames packets : List TizcordPacket} {items : List ListItem}
  {item : ListItem} {total index : Nat}

theorem memberFrames_other (other : ∀ topic, packet.topic = some topic → topic ≠ .members) :
    memberFrames frames packet = frames := by
  refine if_neg fun both => ?_
  exact other .members (topic_of_request both.1) rfl

/-- An answer with the code of an error is no list. -/
theorem memberFrames_refused (refused : packet.serverStatusCode < 0) :
    memberFrames frames packet = frames :=
  if_neg fun both => absurd both.2 (not_le.mpr refused)

theorem ShowsItem.listed (shows : ShowsItem packet ServerAction.listMembers.code total index item) :
    packet.request = some (.server .listMembers) ∧ 0 ≤ packet.serverStatusCode := by
  refine ⟨TizcordPacket.request_of_serverAction shows.type shows.action, ?_⟩
  rw [shows.status]
  decide

theorem memberFrames_first (shows : ShowsItem packet ServerAction.listMembers.code total 0 item) :
    memberFrames frames packet = [packet] := by
  have opens : (ListFrameType.start.marks packet || ListFrameType.single.marks packet) = true := by
    rw [Bool.or_eq_true, ListFrameType.marks, ListFrameType.marks, shows.listFrame, itemFrame]
    by_cases alone : total = 1
    · rw [if_pos alone]
      exact Or.inr rfl
    · rw [if_neg alone, if_pos rfl]
      exact Or.inl rfl
  rw [memberFrames, if_pos shows.listed, if_pos opens]

theorem memberFrames_later (shows : ShowsItem packet ServerAction.listMembers.code total index item)
    (later : 0 < index) (more : 1 < total) : memberFrames frames packet = frames ++ [packet] := by
  have goesOn : ¬ (ListFrameType.start.marks packet || ListFrameType.single.marks packet) = true := by
    rw [Bool.or_eq_true, ListFrameType.marks, ListFrameType.marks, shows.listFrame, itemFrame,
      if_neg more.ne', if_neg later.ne']
    split <;> decide
  rw [memberFrames, if_pos shows.listed, if_neg goesOn]

theorem foldl_memberFrames_later (later : 0 < index) (more : 1 < total)
    (each : List.Forall₂ (fun item packet =>
      ShowsItem packet ServerAction.listMembers.code total item.2 item.1) (items.zipIdx index)
        packets) : packets.foldl memberFrames frames = frames ++ packets := by
  induction items generalizing index packets frames with
  | nil =>
    obtain rfl := List.forall₂_nil_left_iff.mp each
    exact (List.append_nil _).symm
  | cons item rest inductionHypothesis =>
    rw [List.zipIdx_cons] at each
    obtain ⟨packet, packetsLater, shows, eachLater, rfl⟩ := List.forall₂_cons_left_iff.mp each
    rw [List.foldl_cons, memberFrames_later shows later more,
      inductionHypothesis (Nat.succ_pos _) eachLater, List.append_assoc]
    rfl

/-- Whatever came before it, the last list of members is this one. -/
theorem ListReply.memberFrames (reply : ListReply .listMembers items packets) :
    packets.foldl memberFrames frames = packets := by
  cases items with
  | nil =>
    rw [ListReply, if_pos rfl] at reply
    obtain ⟨packet, rfl, carries⟩ := reply
    have single : ListFrameType.single.marks packet = true := decide_eq_true carries.listFrame
    have asked := TizcordPacket.request_of_serverAction carries.type carries.action
    have accepted : 0 ≤ packet.serverStatusCode := by
      rw [carries.status]
      decide
    rw [List.foldl_cons, List.foldl_nil, Tizcord.memberFrames, if_pos ⟨asked, accepted⟩, single,
      Bool.or_true, if_pos rfl]
  | cons item rest =>
    rw [ListReply, if_neg (List.cons_ne_nil _ _), List.zipIdx_cons] at reply
    obtain ⟨packet, later, shows, each, rfl⟩ := List.forall₂_cons_left_iff.mp reply
    rw [List.foldl_cons, memberFrames_first shows]
    cases rest with
    | nil =>
      obtain rfl := List.forall₂_nil_left_iff.mp each
      rfl
    | cons second others =>
      rw [foldl_memberFrames_later Nat.one_pos (by simp) each]
      rfl

end Reading

/-! ### The list as it should be -/

/-- The user is a member of the server. -/
def Tables.HasMember (tables : Tables) (serverId userId : Int) : Prop :=
  (serverId, userId) ∈ tables.serverMembers.map ServerMemberRow.pair

instance (tables : Tables) (serverId userId : Int) : Decidable (tables.HasMember serverId userId) :=
  inferInstanceAs (Decidable (_ ∈ _))

/-- The members of a server, as a list shows them: with the flag of their row, and the flag of those
who are online. -/
def presentMembers (ctx : ServerContext) (serverId : Int) : List ListItem :=
  (ctx.db.serverMembers.filter fun row => row.serverId = serverId).map (memberListItem ctx)

/-- The packets list the members of a server in the order of their names, as many as there is room
for. -/
def ListsMembers (ctx : ServerContext) (serverId : Int) (packets : List TizcordPacket) : Prop :=
  ∃ sorted, InNameOrder (presentMembers ctx serverId) sorted ∧
    ListReply .listMembers (sorted.take maxServerMembers) packets

theorem ListsMembers.congr {before after : ServerContext} {serverId : Int}
    {packets : List TizcordPacket} (lists : ListsMembers before serverId packets)
    (same : presentMembers after serverId = presentMembers before serverId) :
    ListsMembers after serverId packets := by
  rw [ListsMembers, same]
  exact lists

/-- A list depends on the rows of the server, and on the names of its members and on who of them is
online. -/
theorem presentMembers_congr {before after : ServerContext} {serverId : Int}
    (rows : (after.db.serverMembers.filter fun row => row.serverId = serverId) =
      before.db.serverMembers.filter fun row => row.serverId = serverId)
    (accounts : before.db.accounts ⊆ after.db.accounts)
    (online : ∀ row ∈ before.db.serverMembers, row.serverId = serverId →
      userIsOnline after row.userId = userIsOnline before row.userId) :
    presentMembers after serverId = presentMembers before serverId := by
  rw [presentMembers, presentMembers, rows]
  refine List.map_congr_left fun row listed => ?_
  obtain ⟨member, here⟩ := List.mem_filter.mp listed
  have name : after.db.nameOf row.userId = before.db.nameOf row.userId := by
    obtain ⟨user, known, is⟩ := List.mem_map.mp (before.db.integrity.members_user row member)
    obtain ⟨other, knownToo, same⟩ := List.mem_map.mp (accounts (List.mem_map_of_mem known))
    have id : (other.id : Int) = user.id := congrArg Account.userId same
    rw [← is, before.db.nameOf_eq known, ← id, after.db.nameOf_eq knownToo]
    exact congrArg Account.username same
  rw [memberListItem, memberListItem, memberFlags, memberFlags, name,
    online row member (of_decide_eq_true here)]

/-! ### Those who look at a server -/

/-- What the nodes of a reachable state look at: an index that fits into its field, and none at all
where nobody is signed in. -/
structure TracksServers (ctx : ServerContext) : Prop where
  distinct : ctx.fds.Nodup
  fits : ∀ node ∈ ctx.clients, signed 32 node.currentServerIndex = node.currentServerIndex
  strangers : ∀ node ∈ ctx.clients, node.isAuthenticated = false → node.currentServerIndex = -1
  opened : ∀ node ∈ ctx.clients, node.isAuthenticated = true → 0 < node.socketFd

/-- Every connection that looks at a server was sent its present members last, up to the servers
whose lists have yet to be refreshed. -/
structure Process.MembersShown (process : Process) (but : Int → Prop) : Prop where
  tracks : TracksServers process.ctx
  shown : ∀ node ∈ process.ctx.clients, node.currentServerIndex ∈ process.ctx.db.serverIds →
    ¬ but node.currentServerIndex → process.Shown memberFrames []
      (ListsMembers process.ctx node.currentServerIndex) node.socketFd

theorem Tables.serverId_pos {tables : Tables} {serverId : Int} (there : serverId ∈ tables.serverIds) :
    0 < serverId := by
  obtain ⟨row, -, rfl⟩ := List.mem_map.mp there
  exact row.id.2.1

section Refreshes

variable {env : Env} {before after process : Process} {but more : Int → Prop}
  {topics : List Topic} {index : Nat} {serverId userId : Int}

/-- Who looks at a server that is there is signed in. -/
theorem TracksServers.signedIn {ctx : ServerContext} (tracks : TracksServers ctx)
    {node : ClientNode} (member : node ∈ ctx.clients)
    (looks : node.currentServerIndex ∈ ctx.db.serverIds) : node.isAuthenticated = true := by
  refine Bool.eq_true_of_not_eq_false fun stranger => ?_
  have positive := Tables.serverId_pos looks
  rw [tracks.strangers node member stranger] at positive
  exact absurd positive (by decide)

/-- What sends no list of members keeps the lists of those who looked at the same server before,
where its members are the same. -/
theorem Process.MembersShown.of_emits (shown : before.MembersShown but)
    (emits : Emits topics before after) (other : .members ∉ topics)
    (tracks : TracksServers after.ctx)
    (lists : ∀ node ∈ after.ctx.clients, node.currentServerIndex ∈ after.ctx.db.serverIds →
      ¬ more node.currentServerIndex → ¬ but node.currentServerIndex ∧
        node.currentServerIndex ∈ before.ctx.db.serverIds ∧
        (∃ old ∈ before.ctx.clients, old.socketFd = node.socketFd ∧
          old.currentServerIndex = node.currentServerIndex) ∧
        presentMembers after.ctx node.currentServerIndex =
          presentMembers before.ctx node.currentServerIndex) : after.MembersShown more := by
  refine ⟨tracks, fun node member looks spared => ?_⟩
  obtain ⟨fresh, there, ⟨old, present, fd, index⟩, same⟩ := lists node member looks spared
  have told := shown.shown old present (index ▸ there) (index ▸ fresh)
  rw [fd, index] at told
  refine (told.of_emits emits fun packet about view => ?_).weaken fun view lists =>
    lists.congr same
  refine memberFrames_other fun topic is members => other ?_
  exact members ▸ about topic is

/-- What leaves the table of connections as it is. -/
theorem Process.MembersShown.of_database (shown : before.MembersShown but)
    (emits : Emits topics before after) (other : .members ∉ topics)
    (clients : after.ctx.clients = before.ctx.clients)
    (lists : ∀ node ∈ before.ctx.clients, node.currentServerIndex ∈ after.ctx.db.serverIds →
      ¬ more node.currentServerIndex → ¬ but node.currentServerIndex ∧
        node.currentServerIndex ∈ before.ctx.db.serverIds ∧
        presentMembers after.ctx node.currentServerIndex =
          presentMembers before.ctx node.currentServerIndex) : after.MembersShown more := by
  have tracks : TracksServers after.ctx := by
    refine ⟨?_, ?_, ?_, ?_⟩
    · rw [ServerContext.fds, clients]
      exact shown.tracks.distinct
    · rw [clients]
      exact shown.tracks.fits
    · rw [clients]
      exact shown.tracks.strangers
    · rw [clients]
      exact shown.tracks.opened
  refine shown.of_emits emits other tracks fun node member looks spared => ?_
  rw [clients] at member
  obtain ⟨fresh, there, same⟩ := lists node member looks spared
  exact ⟨fresh, there, ⟨node, member, rfl, rfl⟩, same⟩

/-- What changes nothing but the record. -/
theorem Process.MembersShown.of_ctx (shown : before.MembersShown but)
    (emits : Emits topics before after) (other : .members ∉ topics)
    (ctx : after.ctx = before.ctx) : after.MembersShown but :=
  shown.of_database emits other (by rw [ctx]) fun _ _ looks spared =>
    ⟨spared, by rwa [ctx] at looks, by rw [ctx]⟩

theorem Process.MembersShown.weaken (shown : process.MembersShown but)
    (weaker : ∀ serverId, but serverId → more serverId) : process.MembersShown more :=
  ⟨shown.tracks, fun node member looks spared =>
    shown.shown node member looks fun is => spared (weaker _ is)⟩

/-- Looking at the server one already looks at is no change. -/
theorem lookAt_same (fits : signed 32 serverId = serverId)
    (looks : (process.clientAt index).currentServerIndex = serverId) :
    (process.modifyClient index fun node =>
      { node with currentServerIndex := signed 32 serverId }) = process := by
  have same : process.ctx.clients.modify index (fun node =>
      { node with currentServerIndex := signed 32 serverId }) =
      process.ctx.clients.modify index id := by
    refine modify_congr fun inside => ?_
    rw [Process.clientAt, clientAt_eq_getElem inside] at looks
    rw [fits, id, ← looks]
  rw [Process.modifyClient, same, List.modify_id]
  rfl

/-- The client at an index is sent the members of a server, whatever it was sent before. -/
theorem listMembers_shows (reliable : env.Reliable) (accepting : env.Accepting)
    (positive : 0 < serverId) (process : Process) (index : Nat)
    (authenticated : (process.clientAt index).isAuthenticated = true)
    (opened : 0 < (process.clientAt index).socketFd) :
    ∃ copies, SendsList (process.clientAt index).socketFd copies
        (process.modifyClient index fun node =>
          { node with currentServerIndex := signed 32 serverId })
        (listMembers env index serverId process) ∧
      ∀ view, ListsMembers process.ctx serverId (copies.foldl memberFrames view) := by
  obtain ⟨sorted, listId, inOrder, sent⟩ :=
    listMembers_lists reliable accepting positive process authenticated opened.le 0
  refine ⟨_, sent, fun view => ⟨sorted, inOrder, ?_⟩⟩
  have reply := listStream_shows .listMembers listId
    (sorted.take ServerAction.listMembers.capacity)
  rw [reply.memberFrames]
  exact reply

/-- Whoever looks at the server is sent its members. -/
theorem notifyServerMemberList_shows (reliable : env.Reliable) (accepting : env.Accepting)
    (shown : process.MembersShown but) (serverId : Int) :
    (notifyServerMemberList env serverId process).ctx = process.ctx ∧
      (notifyServerMemberList env serverId process).MembersShown
        fun other => but other ∧ other ≠ serverId := by
  by_cases positive : 0 < serverId
  · -- a connection looks at one server, so it is this one or one that was shown before
    have unique : ∀ node ∈ process.ctx.clients, ∀ other ∈ process.ctx.clients,
        node.socketFd = other.socketFd → node = other :=
      fun node member other present same =>
        List.inj_on_of_nodup_map shown.tracks.distinct member present same
    have looped := @forClients_shown (List TizcordPacket) memberFrames []
      (fun index client process =>
        if client.socketFd ≤ 0 ∨ client.isAuthenticated = false then process
        else if client.currentServerIndex ≠ serverId then process
        else listMembers env index serverId process)
      (fun fd view => ∀ node ∈ process.ctx.clients, node.socketFd = fd →
        node.currentServerIndex ∈ process.ctx.db.serverIds →
        ¬ (but node.currentServerIndex ∧ node.currentServerIndex ≠ serverId) →
        ListsMembers process.ctx node.currentServerIndex view)
      (fun _ _ => True)
      (fun node => (0 < node.socketFd ∧ node.isAuthenticated = true) ∧
        node.currentServerIndex = serverId) process ?_ ?_ fun _ _ _ => trivial
    · rw [notifyServerMemberList, if_neg (not_le.mpr positive)]
      refine ⟨looped.1, ?_, fun node member looks spared => ?_⟩
      · rw [looped.1]
        exact shown.tracks
      · rw [looped.1] at member looks ⊢
        refine (looped.2 node.socketFd (Process.shown_any List.nil_prefix) ?_).weaken
          fun view lists => lists node member rfl looks spared
        by_cases here : node.currentServerIndex = serverId
        · have authenticated := shown.tracks.signedIn member looks
          exact Or.inr ⟨node, member, rfl,
            ⟨shown.tracks.opened node member authenticated, authenticated⟩, here⟩
        · have old := shown.shown node member looks fun is => spared ⟨is, here⟩
          refine Or.inl (old.weaken fun view lists other present same _ _ => ?_)
          rw [unique other present node member same]
          exact lists
    · rintro index other same ⟨⟨opened, authenticated⟩, looks⟩
      have at' : other.clientAt index = process.clientAt index := by
        rw [Process.clientAt, Process.clientAt, same]
      have member := clientAt_mem_of_authenticated authenticated
      have fits := shown.tracks.fits _ member
      rw [← Process.clientAt, looks] at fits
      obtain ⟨copies, sent, lists⟩ := listMembers_shows reliable accepting positive other index
        (at' ▸ authenticated) (at' ▸ opened)
      rw [lookAt_same fits (at' ▸ looks), at'] at sent
      have going : ¬ ((process.clientAt index).socketFd ≤ 0 ∨
          (process.clientAt index).isAuthenticated = false) := by
        rw [authenticated]
        rintro (closed | no)
        · exact absurd opened (not_lt.mpr closed)
        · cases no
      refine ⟨copies, ?_, fun view _ node present own _ _ => ?_⟩
      · rw [if_neg going, if_neg (not_not.mpr looks)]
        exact sent
      · rw [unique node present _ member own, ← Process.clientAt, looks, ← same]
        exact lists view
    · intro index other skipped
      split
      · rfl
      · next going =>
        rw [not_or, not_le, Bool.not_eq_false] at going
        exact if_pos fun looks => skipped ⟨going, looks⟩
  · rw [notifyServerMemberList, if_pos (not_lt.mp positive)]
    refine ⟨rfl, shown.tracks, fun node member looks spared => ?_⟩
    refine shown.shown node member looks fun is => spared ⟨is, fun same => ?_⟩
    exact positive (same ▸ Tables.serverId_pos looks)

/-- The servers of a user are found. -/
theorem dbListJoinedServers_ids {dbEnv : DbEnv} (reliable : dbEnv.Reliable) (database : Database)
    (userId : Int) :
    serverId ∈ (dbListJoinedServers dbEnv database userId).1.map ServerListRow.serverId ↔
      database.HasMember serverId userId := by
  have rows : (dbListJoinedServers dbEnv database userId).1.map ServerListRow.serverId =
      (orderBy (fun first second : ServerRow => first.name.le second.name)
        ((database.serverMembers.filter fun row => row.userId = userId).flatMap fun member =>
          database.servers.filter fun row => (row.id : Int) = member.serverId)).map
            fun row => (row.id : Int) := by
    unfold dbListJoinedServers
    rw [reliable.prepare, if_neg Bool.false_ne_true]
    dsimp only
    rw [reliable.allRows, List.map_map]
    rfl
  rw [rows, List.mem_map]
  simp only [mem_orderBy, (joinedServers_perm database userId).mem_iff]
  constructor
  · rintro ⟨row, member, rfl⟩
    exact of_decide_eq_true (List.mem_filter.mp member).2
  · intro joined
    obtain ⟨row, member, is⟩ := List.mem_map.mp joined
    obtain ⟨server, there, same⟩ := List.mem_map.mp (database.integrity.members_server row member)
    have here : (server.id : Int) = serverId := same.trans (congrArg Prod.fst is)
    exact ⟨server, List.mem_filter.mpr ⟨there, decide_eq_true (here ▸ joined)⟩, here⟩

/-- Whoever looks at a server of the user is sent its members. -/
theorem notifyServerMemberListsForUser_shows (reliable : env.Reliable) (accepting : env.Accepting)
    (shown : process.MembersShown but) (user : 0 < userId) :
    (notifyServerMemberListsForUser env userId process).ctx = process.ctx ∧
      (notifyServerMemberListsForUser env userId process).MembersShown fun other =>
        but other ∧ ¬ process.ctx.db.HasMember other userId := by
  have refreshes : ∀ (rows : List ServerListRow) (before : Process) (but : Int → Prop),
      before.MembersShown but →
      (rows.foldl (fun process row => notifyServerMemberList env row.serverId process) before).ctx =
          before.ctx ∧
        (rows.foldl (fun process row => notifyServerMemberList env row.serverId process)
          before).MembersShown fun other =>
            but other ∧ other ∉ rows.map ServerListRow.serverId := by
    intro rows
    induction rows with
    | nil => exact fun before but shown => ⟨rfl, shown.weaken fun _ is => ⟨is, List.not_mem_nil⟩⟩
    | cons row rest inductionHypothesis =>
      intro before but shown
      obtain ⟨ctx, refreshed⟩ := notifyServerMemberList_shows reliable accepting shown row.serverId
      obtain ⟨ctxLater, later⟩ := inductionHypothesis _ _ refreshed
      refine ⟨ctxLater.trans ctx, later.weaken fun other is => ⟨is.1.1, ?_⟩⟩
      rw [List.map_cons, List.mem_cons, not_or]
      exact ⟨is.1.2, is.2⟩
  have ticked : Emits [] process process.tick := .idle rfl
  obtain ⟨ctx, refreshed⟩ := refreshes
    (dbListJoinedServers (env.db process.clock) process.ctx.db userId).1 process.tick but
    (shown.of_ctx ticked List.not_mem_nil rfl)
  rw [notifyServerMemberListsForUser, if_neg (not_le.mpr user)]
  refine ⟨ctx, refreshed.weaken fun other is => ⟨is.1, fun joined => is.2 ?_⟩⟩
  exact (dbListJoinedServers_ids (reliable _) _ _).mpr joined

end Refreshes

end Tizcord
