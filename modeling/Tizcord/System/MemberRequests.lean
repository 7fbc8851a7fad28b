/-
This file is about requests that change who is a member of a server, and about looking
at one. Joining and leaving send those who look at the server its members as they are.
Kicking a member tells nobody, and creating a server tells only who asked for it: the
lists stay right where nobody looks at that server.
-/

import Tizcord.System.MemberLists

namespace Tizcord

open CModel

/-! ### Requests about servers -/

/-- After a change of the tables the members of a server are the same. -/
structure SameMembers (serverId : Int) (before after : Database) : Prop where
  there : serverId ∈ after.serverIds → serverId ∈ before.serverIds
  rows : (after.serverMembers.filter fun row => row.serverId = serverId) =
    before.serverMembers.filter fun row => row.serverId = serverId
  accounts : before.accounts ⊆ after.accounts

section Tables

variable {env : DbEnv} {before after : Database} {serverId : Int}

theorem SameMembers.refl (serverId : Int) (database : Database) :
    SameMembers serverId database database :=
  ⟨id, rfl, List.Subset.refl _⟩

theorem SameMembers.trans {middle : Database} (first : SameMembers serverId before middle)
    (second : SameMembers serverId middle after) : SameMembers serverId before after :=
  ⟨fun there => first.there (second.there there), second.rows.trans first.rows,
    List.Subset.trans first.accounts second.accounts⟩

theorem sameMembers_joinServer {joinedId userId status : Int} {isAdmin : Bool}
    (ran : dbJoinServer env before joinedId userId isAdmin = (after, status))
    (apart : status = 0 → serverId ≠ joinedId) : SameMembers serverId before after := by
  rcases dbJoinServer_spec ran with ⟨done, inserted⟩ | ⟨-, rfl⟩
  · have other := apart done
    have tables := Database.commit_eq_some.mp inserted
    refine ⟨?_, ?_, ?_⟩ <;> rw [tables]
    · exact id
    · simp [List.filter_append, other.symm]
    · exact List.Subset.refl _
  · exact .refl _ _

/-- Nobody is a member of a new server but its creator. -/
theorem sameMembers_createServer {name : Text} {userId status : Int} {created : Option RowId}
    (other : ∀ id, newRowid env.rowid before.serverIds = some id → serverId ≠ id)
    (ran : dbCreateServer env before name userId = (after, created, status)) :
    SameMembers serverId before after := by
  rcases dbCreateServer_spec ran with ⟨-, rfl⟩ | ⟨id, rfl, -, middle, tables, joined⟩
  · exact .refl _ _
  · have apart := other id (dbCreateServer_assigned ran)
    refine SameMembers.trans ⟨fun there => ?_, ?_, ?_⟩ (sameMembers_joinServer joined fun _ => apart)
    · rw [Tables.serverIds, tables, List.map_append] at there
      exact (List.mem_append.mp there).resolve_right fun new => apart (List.mem_singleton.mp new)
    · rw [tables]
    · rw [tables]
      exact List.Subset.refl _

theorem sameMembers_deleteServerMember {pair : Int × Int}
    (other : serverId = pair.1 → pair ∉ before.serverMembers.map ServerMemberRow.pair) :
    SameMembers serverId before (before.deleteServerMember pair) := by
  refine ⟨id, ?_, List.Subset.refl _⟩
  rw [Database.deleteServerMember, List.filter_filter]
  refine List.filter_congr fun row member => ?_
  by_cases here : row.serverId = serverId
  · have kept : row.pair ≠ pair := fun same =>
      other (here.symm.trans (congrArg Prod.fst same)) (same ▸ List.mem_map_of_mem member)
    simp [here, kept]
  · simp [here]

theorem sameMembers_leaveServer {leftId userId status : Int}
    (ran : dbLeaveServer env before leftId userId = (after, status))
    (apart : status = 0 → serverId ≠ leftId) : SameMembers serverId before after := by
  rcases dbLeaveServer_spec ran with ⟨done, rfl⟩ | ⟨-, rfl⟩
  · exact sameMembers_deleteServerMember fun same => absurd same (apart done)
  · exact .refl _ _

theorem sameMembers_kickServerMember {leftId userId status : Int}
    (ran : dbKickServerMember env before leftId userId = (after, status))
    (apart : serverId = leftId → (leftId, userId) ∉ before.serverMembers.map ServerMemberRow.pair) :
    SameMembers serverId before after := by
  rcases dbKickServerMember_spec ran with ⟨-, rfl⟩ | ⟨-, rfl⟩
  · exact sameMembers_deleteServerMember apart
  · exact .refl _ _

/-- A server that is there after a deletion is not the deleted one. -/
theorem sameMembers_deleteServer {deletedId userId status : Int}
    (ran : dbDeleteServer env before deletedId userId = (after, status))
    (there : serverId ∈ after.serverIds) : SameMembers serverId before after := by
  rcases dbDeleteServer_spec ran with ⟨-, rfl⟩ | ⟨-, rfl⟩
  case inr => exact .refl _ _
  obtain ⟨row, kept, rfl⟩ := List.mem_map.mp there
  have apart : (row.id : Int) ≠ deletedId := by
    have passed := (List.mem_filter.mp kept).2
    simpa using passed
  refine ⟨fun _ => List.mem_map.mpr ⟨row, (List.mem_filter.mp kept).1, rfl⟩, ?_,
    List.Subset.refl _⟩
  rw [Database.deleteServer, List.filter_filter]
  refine List.filter_congr fun member _ => ?_
  by_cases here : member.serverId = row.id
  · simp [here, apart]
  · simp [here]

end Tables

/-- Some session looks at the server. -/
def Watched (ctx : ServerContext) (serverId : Int) : Prop :=
  ∃ node ∈ ctx.clients, node.isAuthenticated = true ∧ node.currentServerIndex = serverId

section Servers

variable {env : Env} {process : Process} {but more : Int → Prop} {index : Nat} {serverId : Int}

/-- Where the table of connections stays, a list depends on the tables of the database. -/
theorem SameMembers.present {before after : ServerContext}
    (same : SameMembers serverId before.db after.db) (clients : after.clients = before.clients) :
    presentMembers after serverId = presentMembers before serverId :=
  presentMembers_congr same.rows same.accounts fun row _ _ => by
    rw [userIsOnline, userIsOnline, clients]

/-- A change of the tables keeps the lists of the servers whose members it leaves. -/
theorem Process.MembersShown.change {Result : Type} (shown : process.MembersShown but)
    {operation : DbEnv → Database → Database × Result} {call : Result → DbCall}
    (same : ∀ node ∈ process.ctx.clients, node.isAuthenticated = true →
      node.currentServerIndex ∈ (operation (env.db process.clock) process.ctx.db).1.serverIds →
      ¬ more node.currentServerIndex → ¬ but node.currentServerIndex ∧
        SameMembers node.currentServerIndex process.ctx.db
          (operation (env.db process.clock) process.ctx.db).1) :
    (process.change env operation call).1.MembersShown more := by
  have changed : Emits [] process (process.change env operation call).1 := .change env process _ _
  refine shown.of_database changed List.not_mem_nil rfl fun node member there spared => ?_
  have authenticated : node.isAuthenticated = true := by
    refine Bool.eq_true_of_not_eq_false fun stranger => ?_
    have positive := Tables.serverId_pos there
    rw [shown.tracks.strangers node member stranger] at positive
    exact absurd positive (by decide)
  obtain ⟨fresh, kept⟩ := same node member authenticated there spared
  exact ⟨fresh, kept.there there, kept.present rfl⟩

theorem Process.MembersShown.response (shown : process.MembersShown but) (env : Env) (fd : Int)
    {action : ServerAction} (other : action ≠ .listMembers) (status : ResponseCode) :
    (serverResponse env fd action status process).MembersShown but := by
  have emits : Emits [] process (serverResponse env fd action status process) :=
    serverResponse_emits env fd action status process (no_topic_server other)
  obtain ⟨_, sent⟩ := sendActionResponse_sends env fd .server action.code status process
  exact shown.of_ctx emits List.not_mem_nil sent.ctx

/-- A node after a write is the one the write has made, or an old node of another connection. -/
theorem mem_modifyClient (distinct : process.ctx.fds.Nodup)
    (inside : index < process.ctx.clients.length) {update : ClientNode → ClientNode}
    {node : ClientNode} : node ∈ (process.modifyClient index update).ctx.clients ↔
      node = update (process.clientAt index) ∨
        node ∈ process.ctx.clients ∧ node.socketFd ≠ (process.clientAt index).socketFd := by
  have known : process.ctx.clients[index]? = some (process.clientAt index) := by
    rw [List.getElem?_eq_getElem inside, Process.clientAt, clientAt_eq_getElem inside]
  have written : ∀ place : Nat, (process.modifyClient index update).ctx.clients[place]? =
      process.ctx.clients[place]?.map fun old => if index = place then update old else old :=
    fun place => List.getElem?_modify ..
  rw [List.mem_iff_getElem?]
  constructor
  · rintro ⟨place, there⟩
    rw [written] at there
    obtain ⟨old, before, is⟩ := Option.map_eq_some_iff.mp there
    by_cases here : index = place
    · subst here
      obtain rfl := Option.some.inj (known.symm.trans before)
      exact Or.inl (is.symm.trans (if_pos rfl))
    · rw [if_neg here] at is
      subst is
      refine Or.inr ⟨List.mem_of_getElem? before, fun same => here ?_⟩
      have fds : process.ctx.fds[index]? = process.ctx.fds[place]? := by
        rw [ServerContext.fds, List.getElem?_map, List.getElem?_map, known, before]
        exact congrArg some same.symm
      exact (List.getElem?_inj (by simpa [ServerContext.fds] using inside) distinct).mp fds
  · rintro (rfl | ⟨member, other⟩)
    · exact ⟨index, by rw [written, known, Option.map_some, if_pos rfl]⟩
    · obtain ⟨place, before⟩ := List.mem_iff_getElem?.mp member
      have apart : index ≠ place := by
        rintro rfl
        exact other (congrArg ClientNode.socketFd (Option.some.inj (before.symm.trans known)))
      exact ⟨place, by rw [written, before, Option.map_some, if_neg apart]⟩

theorem inside_of_authenticated (authenticated : (process.clientAt index).isAuthenticated = true) :
    index < process.ctx.clients.length := by
  by_contra outside
  have nobody : process.clientAt index = default := by
    rw [Process.clientAt, ServerContext.clientAt, List.getD_eq_getElem?_getD,
      List.getElem?_eq_none (not_lt.mp outside)]
    rfl
  rw [nobody] at authenticated
  cases authenticated

/-- A write to a node keeps what all nodes look at, if the new node looks at something it may. -/
theorem TracksServers.modifyClient (tracks : TracksServers process.ctx)
    (inside : index < process.ctx.clients.length) {update : ClientNode → ClientNode}
    (fd : ∀ node, (update node).socketFd = node.socketFd)
    (fits : signed 32 (update (process.clientAt index)).currentServerIndex =
      (update (process.clientAt index)).currentServerIndex)
    (stranger : (update (process.clientAt index)).isAuthenticated = false →
      (update (process.clientAt index)).currentServerIndex = -1)
    (opened : (update (process.clientAt index)).isAuthenticated = true →
      0 < (process.clientAt index).socketFd) :
    TracksServers (process.modifyClient index update).ctx := by
  have fds : (process.modifyClient index update).ctx.fds = process.ctx.fds :=
    map_modify_of_same ClientNode.socketFd update fd process.ctx.clients index
  refine ⟨fds ▸ tracks.distinct, fun node member => ?_, fun node member is => ?_,
    fun node member signedIn => ?_⟩ <;>
      rcases (mem_modifyClient tracks.distinct inside).mp member with rfl | ⟨old, -⟩
  · exact fits
  · exact tracks.fits node old
  · exact stranger is
  · exact tracks.strangers node old is
  · rw [fd]
    exact opened signedIn
  · exact tracks.opened node old signedIn

/-- A user may look at any server whose id fits. -/
theorem TracksServers.lookAt (tracks : TracksServers process.ctx)
    (authenticated : (process.clientAt index).isAuthenticated = true) {value : Int}
    (fits : signed 32 value = value) :
    TracksServers (process.modifyClient index fun node =>
      { node with currentServerIndex := value }).ctx := by
  refine tracks.modifyClient (inside_of_authenticated authenticated) (fun _ => rfl) fits
    (fun stranger => ?_) fun _ =>
      tracks.opened _ (clientAt_mem_of_authenticated authenticated) authenticated
  exact absurd authenticated (ne_true_of_eq_false stranger)

/-- Who looks at which server has no part in the members of one. -/
theorem presentMembers_lookAt (process : Process) (index : Nat) (value serverId : Int) :
    presentMembers (process.modifyClient index fun node =>
      { node with currentServerIndex := value }).ctx serverId =
        presentMembers process.ctx serverId :=
  presentMembers_congr rfl (List.Subset.refl _) fun row _ _ => by
    rw [userIsOnline_eq, userIsOnline_eq, identities_lookAt]

/-- A user who looks at another server, and is sent its members with it. -/
theorem Process.MembersShown.lookAt {after : Process} {value : Int} {copies : List TizcordPacket}
    (shown : process.MembersShown but)
    (authenticated : (process.clientAt index).isAuthenticated = true)
    (fits : signed 32 value = value)
    (sent : SendsList (process.clientAt index).socketFd copies
      (process.modifyClient index fun node => { node with currentServerIndex := value }) after)
    (reads : value ∈ process.ctx.db.serverIds →
      ∀ view, ListsMembers process.ctx value (copies.foldl memberFrames view)) :
    after.MembersShown but := by
  have inside := inside_of_authenticated authenticated
  have db : after.ctx.db = process.ctx.db := by rw [sent.ctx]; rfl
  have same : ∀ serverId, presentMembers after.ctx serverId = presentMembers process.ctx serverId :=
    fun serverId => by rw [sent.ctx, presentMembers_lookAt]
  refine ⟨sent.ctx ▸ shown.tracks.lookAt authenticated fits, fun node member looks spared => ?_⟩
  rw [sent.ctx] at member
  rw [db] at looks
  rcases (mem_modifyClient shown.tracks.distinct inside).mp member with rfl | ⟨old, other⟩
  · have any : (process.modifyClient index fun node =>
        { node with currentServerIndex := value }).Shown memberFrames [] (fun _ => True)
          (process.clientAt index).socketFd := Process.shown_any List.nil_prefix
    exact any.told sent fun view _ => (reads looks view).congr (same value)
  · have told : (process.modifyClient index fun node =>
        { node with currentServerIndex := value }).Shown memberFrames []
          (ListsMembers process.ctx node.currentServerIndex) node.socketFd :=
      shown.shown node old looks spared
    exact (told.elsewhere sent other.symm).weaken fun view lists => lists.congr (same _)

/-- The members of a server whose list has yet to be refreshed are sent at once. -/
theorem Process.MembersShown.refreshed (reliable : env.Reliable) (accepting : env.Accepting)
    (shown : process.MembersShown fun other => other = serverId) :
    (notifyServerMemberList env serverId process).MembersShown fun _ => False :=
  (notifyServerMemberList_shows reliable accepting shown serverId).2.weaken
    fun _ is => is.2 is.1

/-- Whoever looks at a server sees a new member. -/
theorem joinTizcordServer_members (reliable : env.Reliable) (accepting : env.Accepting)
    (shown : process.MembersShown fun _ => False) (index : Nat) (serverId : Int) :
    (joinTizcordServer env index serverId process).MembersShown fun _ => False := by
  unfold joinTizcordServer
  dsimp only
  split
  · exact shown.response env _ (by decide) _
  · split
    · exact shown.response env _ (by decide) _
    · split
      · refine Process.MembersShown.refreshed reliable accepting
          (Process.MembersShown.response ?_ env _ (by decide) _)
        exact shown.change fun _ _ _ _ other =>
          ⟨id, sameMembers_joinServer rfl fun _ => other⟩
      · next failed =>
        refine Process.MembersShown.response ?_ env _ (by decide) _
        exact shown.change fun _ _ _ _ _ =>
          ⟨id, sameMembers_joinServer rfl fun done => absurd done failed⟩

/-- Whoever looks at a server sees that a member has left it. -/
theorem leaveTizcordServer_members (reliable : env.Reliable) (accepting : env.Accepting)
    (shown : process.MembersShown fun _ => False) (index : Nat) (serverId : Int) :
    (leaveTizcordServer env index serverId process).MembersShown fun _ => False := by
  unfold leaveTizcordServer
  dsimp only
  split
  · exact shown.response env _ (by decide) _
  · split
    · exact shown.response env _ (by decide) _
    · next checked =>
      split
      · have changed : (process.change env
            (fun env db => dbLeaveServer env db serverId (process.clientAt index).id)
            (fun status => .leaveServer serverId (process.clientAt index).id
              status)).1.MembersShown fun other => other = serverId :=
          shown.change fun _ _ _ _ other => ⟨id, sameMembers_leaveServer rfl fun _ => other⟩
        refine Process.MembersShown.refreshed reliable accepting
          (Process.MembersShown.response ?_ env _ (by decide) _)
        split
        · refine changed.lookAt (authenticated_of_checked checked) (by decide)
            (.idle rfl rfl : SendsList _ [] _ _) fun there => ?_
          exact absurd (Tables.serverId_pos there) (by decide)
        · exact changed
      · next failed =>
        refine Process.MembersShown.response ?_ env _ (by decide) _
        exact shown.change fun _ _ _ _ _ =>
          ⟨id, sameMembers_leaveServer rfl fun done => absurd done failed⟩

/-- Nobody looks at a server that has just been created, if nobody looked at its id. -/
theorem createTizcordServer_members (shown : process.MembersShown fun _ => False) (index : Nat)
    (serverName : Text)
    (unseen : ∀ userId, SignedIn process.ctx (process.clientAt index).socketFd userId →
      ∀ id, newRowid (env.db process.clock).rowid process.ctx.db.serverIds = some id →
        ¬ Watched process.ctx id) :
    (createTizcordServer env index serverName process).MembersShown fun _ => False := by
  unfold createTizcordServer
  dsimp only
  split
  · exact shown.response env _ (by decide) _
  · split
    · exact shown.response env _ (by decide) _
    · next checked =>
      have signedIn := signedIn_of_clientAt rfl (authenticated_of_checked checked)
      have changed : (process.change env
          (fun env db => dbCreateServer env db serverName (process.clientAt index).id)
          (fun created => .createServer serverName (process.clientAt index).id created.1
            created.2)).1.MembersShown fun _ => False :=
        shown.change fun node member authenticated _ _ =>
          ⟨id, sameMembers_createServer (fun id assigned same =>
            unseen _ signedIn id assigned ⟨node, member, authenticated, same⟩) rfl⟩
      split <;> exact changed.response env _ (by decide) _

/-- A server that is deleted is none any more, whoever looks at it. -/
theorem deleteTizcordServer_members (shown : process.MembersShown fun _ => False) (index : Nat)
    (serverId : Int) :
    (deleteTizcordServer env index serverId process).MembersShown fun _ => False := by
  have ticked : process.tick.MembersShown fun _ => False :=
    shown.of_ctx (.idle rfl : Emits [] process process.tick) List.not_mem_nil rfl
  unfold deleteTizcordServer
  dsimp only
  split
  · exact shown.response env _ (by decide) _
  · split
    · exact shown.response env _ (by decide) _
    · split
      · exact ticked.response env _ (by decide) _
      · have changed : (process.tick.change env
            (fun env db => dbDeleteServer env db serverId (process.clientAt index).id)
            (fun status => .deleteServer serverId (process.clientAt index).id
              status)).1.MembersShown fun _ => False :=
          ticked.change fun _ _ _ there _ => ⟨id, sameMembers_deleteServer rfl there⟩
        split <;> exact changed.response env _ (by decide) _

/-- A member is kicked, and nobody looks. -/
theorem kickServerMember_members (shown : process.MembersShown fun _ => False) (index : Nat)
    (serverId targetUserId : Int)
    (unseen : ∀ userId, SignedIn process.ctx (process.clientAt index).socketFd userId →
      ⟨serverId, userId, true⟩ ∈ process.ctx.db.serverMembers →
      process.ctx.db.HasMember serverId targetUserId → ¬ Watched process.ctx serverId) :
    (kickServerMember env index serverId targetUserId process).MembersShown fun _ => False := by
  have ticked : process.tick.MembersShown fun _ => False :=
    shown.of_ctx (.idle rfl : Emits [] process process.tick) List.not_mem_nil rfl
  unfold kickServerMember
  dsimp only
  split
  · exact shown.response env _ (by decide) _
  · split
    · exact shown.response env _ (by decide) _
    · next checked =>
      split
      · exact ticked.response env _ (by decide) _
      · next admin =>
        have signedIn := signedIn_of_clientAt rfl (authenticated_of_checked checked)
        have isAdmin := mem_serverMembers_of_isAdmin (not_not.mp admin)
        have changed : (process.tick.change env
            (fun env db => dbKickServerMember env db serverId targetUserId)
            (fun status => .kickServerMember serverId targetUserId
              status)).1.MembersShown fun _ => False := by
          refine ticked.change fun node member authenticated _ _ =>
            ⟨id, sameMembers_kickServerMember rfl fun here joined => ?_⟩
          exact unseen _ signedIn isAdmin joined ⟨node, member, authenticated, here⟩
        split <;> exact changed.response env _ (by decide) _

/-- What sends packets that are no list of members to one connection. -/
theorem Process.MembersShown.sent {before after : Process} {fd : Int} {copies : List TizcordPacket}
    (shown : before.MembersShown but) (sent : SendsList fd copies before after)
    (ignored : ∀ packet ∈ copies, ∀ view, memberFrames view packet = view) :
    after.MembersShown but := by
  refine ⟨sent.ctx ▸ shown.tracks, fun node member looks spared => ?_⟩
  rw [sent.ctx] at member looks ⊢
  have told := shown.shown node member looks spared
  by_cases own : fd = node.socketFd
  · subst own
    refine told.told sent fun view lists => ?_
    rw [foldl_of_ignored ignored]
    exact lists
  · exact told.elsewhere sent own

theorem Process.MembersShown.refusal (shown : process.MembersShown but) (env : Env) (fd : Int)
    {status : ResponseCode} (refused : status.code < 0) :
    (serverResponse env fd .listMembers status process).MembersShown but := by
  rw [serverResponse, sendActionResponse, sendPacketToClient]
  split
  · exact shown
  · refine shown.sent (sendsList_send env fd process _) fun packet member view => ?_
    refine memberFrames_refused ?_
    rw [List.mem_singleton.mp member, serverStatusCode_actionResponse]
    exact refused

/-- Whoever asks for the members of a server is sent them, and looks at it, if its id is no more
than the index of a server can hold. -/
theorem listMembers_members (reliable : env.Reliable) (accepting : env.Accepting)
    (shown : process.MembersShown fun _ => False) (index : Nat) (serverId : Int)
    (whole : ∀ userId, SignedIn process.ctx (process.clientAt index).socketFd userId →
      0 < serverId → signed 32 serverId ∈ process.ctx.db.serverIds →
      signed 32 serverId = serverId) :
    (listMembers env index serverId process).MembersShown fun _ => False := by
  by_cases positive : 0 < serverId
  case neg =>
    rw [listMembers]
    dsimp only
    rw [if_pos (not_lt.mp positive)]
    exact shown.refusal env _ (by decide)
  by_cases authenticated : (process.clientAt index).isAuthenticated = true
  case neg =>
    rw [listMembers]
    dsimp only
    rw [if_neg (not_le.mpr positive), if_pos (by rw [Bool.eq_false_of_not_eq_true authenticated]; rfl)]
    exact shown.refusal env _ (by decide)
  have opened := shown.tracks.opened _ (clientAt_mem_of_authenticated authenticated) authenticated
  obtain ⟨copies, sent, lists⟩ :=
    listMembers_shows reliable accepting positive process index authenticated opened
  refine shown.lookAt authenticated (signed_signed ..) sent fun there view => ?_
  rw [whole _ (signedIn_of_clientAt rfl authenticated) positive there]
  exact lists view

end Servers

end Tizcord
