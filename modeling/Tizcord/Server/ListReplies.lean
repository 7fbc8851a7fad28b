/-
This file compares the replies to list requests with the tables. The rows of a
query are in the order of their names, and an accumulator keeps as many of them
as it has room for: what is sent is the front of the ordered list, a packet for
each row, and nothing limits how many rows there are behind it.
-/

import Tizcord.Server.ListPackets
import Tizcord.Server.Sessions
import Tizcord.Server.Streams

namespace Tizcord

open CModel

/-! ### Sending a list -/

/-- The sockets take every packet. -/
def Env.Accepting (env : Env) : Prop :=
  ∀ time packet, (Tizcord.packetSend (env.send time) packet).1 = 0

theorem Env.ideal_accepting : Env.ideal.Accepting := fun _ _ => rfl

section Sending

variable {env : Env} {fd : Int} {process : Process}

theorem sendPacketToClient_accepting (accepting : env.Accepting) (opened : 0 ≤ fd)
    (packet : TizcordPacket) (process : Process) :
    (sendPacketToClient env fd packet process).2 = 0 ∧
      SendsList fd [packet] process (sendPacketToClient env fd packet process).1 := by
  have status : (process.packetSend env fd packet).2 = 0 := accepting _ _
  rw [sendPacketToClient, if_neg (not_lt.mpr opened)]
  dsimp only
  rw [if_neg (not_not.mpr status)]
  exact ⟨rfl, sendsList_send env fd process packet⟩

/-- The loop over the items sends a packet for each. -/
theorem sendListItems_accepting (accepting : env.Accepting) (opened : 0 ≤ fd) (action listId : Int)
    (total : Nat) (items : List ListItem) (index : Nat) (process : Process) :
    (sendListItems env fd .server action listId total index items process).2 = 0 ∧
      SendsList fd ((items.zipIdx index).filterMap fun item =>
          listItemPacket .server action listId total item.2 item.1) process
        (sendListItems env fd .server action listId total index items process).1 := by
  induction items generalizing index process with
  | nil => exact ⟨rfl, .idle rfl rfl⟩
  | cons item rest inductionHypothesis =>
    cases made : listItemPacket .server action listId total index item with
    | none => cases made
    | some packet =>
      obtain ⟨status, sent⟩ := sendPacketToClient_accepting accepting opened packet process
      rw [sendListItems, made]
      dsimp only
      rw [if_neg (not_not.mpr status)]
      simp only [List.zipIdx_cons, List.filterMap_cons, made]
      obtain ⟨statusRest, sentRest⟩ := inductionHypothesis (index + 1)
        (sendPacketToClient env fd packet process).1
      exact ⟨statusRest, sent.trans sentRest⟩

/-- A list is sent as the packets of its stream. -/
theorem sendListResponse_accepting (accepting : env.Accepting) (opened : 0 ≤ fd)
    (action : ServerAction) (items : List ListItem) (short : items.length ≤ 2 ^ 31 - 1)
    (process : Process) :
    (sendListResponse env fd .server action.code items process).2 = 0 ∧
      ∃ listId, SendsList fd (listStream action listId items) process
        (sendListResponse env fd .server action.code items process).1 := by
  have allocated : SendsList fd [] process (allocateListId process).1 := .idle rfl rfl
  rw [sendListResponse, if_neg (not_lt.mpr short)]
  dsimp only
  by_cases empty : items = []
  · rw [if_pos empty]
    cases made : emptyListPacket .server action.code (allocateListId process).2 with
    | none => cases made
    | some packet =>
      obtain ⟨status, sent⟩ := sendPacketToClient_accepting accepting opened packet
        (allocateListId process).1
      refine ⟨status, (allocateListId process).2, ?_⟩
      rw [listStream, if_pos empty, made]
      exact allocated.trans sent
  · obtain ⟨status, sent⟩ := sendListItems_accepting accepting opened action.code
      (allocateListId process).2 items.length items 0 (allocateListId process).1
    rw [if_neg empty]
    refine ⟨status, (allocateListId process).2, ?_⟩
    rw [listStream, if_neg empty]
    exact allocated.trans sent

theorem serverListReply_accepting (accepting : env.Accepting) (opened : 0 ≤ fd)
    (action : ServerAction) (items : List ListItem) (short : items.length ≤ 2 ^ 31 - 1)
    (process : Process) :
    ∃ listId, SendsList fd (listStream action listId items) process
      (serverListReply env fd action 0 items process) := by
  obtain ⟨status, sent⟩ := sendListResponse_accepting accepting opened action items short process
  rw [serverListReply, if_neg (not_not.mpr rfl)]
  dsimp only
  rw [if_neg (not_not.mpr status)]
  exact sent

end Sending

/-! ### What a reply shows -/

/-- The packets show the items of a list, one each and in order, with their number; an empty list
is a packet that shows this. -/
def ListReply (action : ServerAction) (items : List ListItem) (packets : List TizcordPacket) :
    Prop :=
  if items = [] then ∃ packet, packets = [packet] ∧ CarriesNothing packet action.code
  else List.Forall₂
    (fun item packet => ShowsItem packet action.code items.length item.2 item.1)
    items.zipIdx packets

/-- An item as an accumulator holds it. -/
def ListItem.cut (item : ListItem) : ListItem :=
  { item with name := accumulatedName item.name }

theorem ShowsItem.of_cut {packet : TizcordPacket} {action : Int} {total index : Nat}
    {item : ListItem} (shows : ShowsItem packet action total index item.cut) :
    ShowsItem packet action total index item where
  toCarriesItem := ⟨shows.type, shows.action, shows.listTotal, shows.listFrame, shows.id,
    shows.count⟩
  status := shows.status
  name beyond := by
    rw [shows.name beyond, ListItem.cut, accumulatedName]
    refine Text.ext ?_
    simp [Text.take, List.take_take]

/-- The stream of the accumulated items shows the items. -/
theorem listStream_shows (action : ServerAction) (listId : Int) (items : List ListItem) :
    ListReply action items (listStream action listId (items.map ListItem.cut)) := by
  rw [ListReply, listStream]
  by_cases empty : items = []
  · subst empty
    rw [if_pos rfl, List.map_nil, if_pos rfl]
    cases made : emptyListPacket .server action.code listId with
    | none => cases made
    | some packet => exact ⟨packet, rfl, emptyListPacket_carries made⟩
  · rw [if_neg empty, if_neg (by simpa using empty), List.length_map]
    have each : ∀ (rest : List ListItem) (index : Nat), List.Forall₂
        (fun item packet => ShowsItem packet action.code items.length item.2 item.1)
        (rest.zipIdx index) (((rest.map ListItem.cut).zipIdx index).filterMap fun item =>
          listItemPacket .server action.code listId items.length item.2 item.1) := by
      intro rest
      induction rest with
      | nil => exact fun _ => .nil
      | cons item rest inductionHypothesis =>
        intro index
        cases made : listItemPacket .server action.code listId items.length index item.cut with
        | none => cases made
        | some packet =>
          simp only [List.map_cons, List.zipIdx_cons, List.filterMap_cons, made]
          exact .cons (listItemPacket_shows made).of_cut (inductionHypothesis (index + 1))
    exact each items 0

/-! ### What is accumulated -/

/-- The number of items the accumulator of a list has room for. -/
def ServerAction.capacity : ServerAction → Nat
  | .list | .listJoined => maxServers
  | .listChannels => maxChannels
  | .listMembers => maxServerMembers
  | _ => 0

/-- An accumulator keeps the first rows it has room for. -/
theorem foldl_accumulate {Row Item : Type} (capacity : Nat) (item : Row → Item) (rows : List Row) :
    rows.foldl (fun items row => if capacity ≤ items.length then items else items ++ [item row])
      [] = (rows.take capacity).map item := by
  have general : ∀ (rows : List Row) (items : List Item), items.length ≤ capacity →
      rows.foldl (fun items row => if capacity ≤ items.length then items else items ++ [item row])
        items = items ++ (rows.take (capacity - items.length)).map item := by
    intro rows
    induction rows with
    | nil => simp
    | cons row rest inductionHypothesis =>
      intro items bounded
      rw [List.foldl_cons]
      by_cases full : capacity ≤ items.length
      · rw [if_pos full, inductionHypothesis items bounded]
        have none' : capacity - items.length = 0 := by omega
        rw [none', List.take_zero, List.take_zero]
      · obtain ⟨room, is⟩ : ∃ room, capacity - items.length = room + 1 :=
          ⟨capacity - items.length - 1, by omega⟩
        have less : capacity - (items ++ [item row]).length = room := by
          rw [List.length_append, List.length_singleton]
          omega
        rw [if_neg full, inductionHypothesis _ (by simp; omega), less, is, List.take_succ_cons,
          List.map_cons, List.append_assoc]
        rfl
  exact general rows [] (Nat.zero_le _)

/-! ### The rows of a list -/

/-- A server as an item of a list of servers, with the number of its members. -/
def serverListItem (database : Database) (row : ServerRow) : ListItem :=
  ⟨row.name, some row.id, some (memberCount database row.id)⟩

def channelListItem (row : ChannelRow) : ListItem :=
  ⟨row.name, some row.id, none⟩

def memberListItem (ctx : ServerContext) (row : ServerMemberRow) : ListItem :=
  ⟨ctx.db.nameOf row.userId, some row.userId,
    some (memberFlags ctx ⟨row.userId, ctx.db.nameOf row.userId, row.isAdmin⟩)⟩

/-- The items a list request of a user is about, in the order of their table. -/
def listedItems (ctx : ServerContext) (userId serverId : Int) : ServerAction → List ListItem
  | .list => ctx.db.servers.map (serverListItem ctx.db)
  | .listJoined =>
    (ctx.db.servers.filter fun row =>
      ((row.id : Int), userId) ∈ ctx.db.serverMembers.map ServerMemberRow.pair).map
        (serverListItem ctx.db)
  | .listChannels =>
    (ctx.db.channels.filter fun row => row.serverId = serverId).map channelListItem
  | .listMembers =>
    (ctx.db.serverMembers.filter fun row => row.serverId = serverId).map (memberListItem ctx)
  | _ => []

/-- The items in the order of their names. -/
structure InNameOrder (items sorted : List ListItem) : Prop where
  perm : sorted.Perm items
  ordered : sorted.Pairwise fun first second => first.name.le second.name

/-- Ordering rows by a name orders their items by it. -/
theorem InNameOrder.of_orderBy {Row : Type} {rows : List Row} {items : List ListItem}
    (name : Row → Text) {item : Row → ListItem} (named : ∀ row, (item row).name = name row)
    (perm : (rows.map item).Perm items) :
    InNameOrder items ((orderBy (fun first second => (name first).le (name second)) rows).map
      item) where
  perm := ((List.perm_insertionSort _ _).map item).trans perm
  ordered := by
    refine List.pairwise_map.mpr ?_
    simp only [named]
    exact orderBy_pairwise (fun first second => Text.le_total (name first) (name second))
      (fun first second third => Text.le_trans (name first) (name second) (name third)) rows

/-- An accumulator filled with the rows of a query holds the first items of the ordered list. -/
theorem foldl_collect {Row QueryRow : Type} {rows : List Row} {query : Row → QueryRow}
    {accumulated : QueryRow → ListItem} {item : Row → ListItem} (capacity : Nat)
    (same : ∀ row, accumulated (query row) = (item row).cut) :
    (rows.map query).foldl
        (fun items row => if capacity ≤ items.length then items else items ++ [accumulated row])
        [] = ((rows.map item).take capacity).map ListItem.cut := by
  rw [foldl_accumulate, ← List.map_take, ← List.map_take, List.map_map, List.map_map]
  exact List.map_congr_left fun row _ => same row

section Rows

variable {dbEnv : DbEnv} {ctx : ServerContext}

theorem dbListServers_collected (reliable : dbEnv.Reliable) (ctx : ServerContext)
    (userId serverId : Int) :
    (dbListServers dbEnv ctx.db).2 = 0 ∧
      ∃ sorted, InNameOrder (listedItems ctx userId serverId .list) sorted ∧
        (dbListServers dbEnv ctx.db).1.foldl collectServerListItem [] =
          (sorted.take maxServers).map ListItem.cut := by
  unfold dbListServers
  rw [reliable.prepare, if_neg Bool.false_ne_true]
  dsimp only
  rw [reliable.allRows]
  refine ⟨rfl, _, .of_orderBy _ (fun _ => rfl) (List.Perm.refl _), ?_⟩
  exact foldl_collect maxServers fun row => rfl

theorem dbListServerChannels_collected (reliable : dbEnv.Reliable) (ctx : ServerContext)
    (userId serverId : Int) :
    (dbListServerChannels dbEnv ctx.db serverId).2 = 0 ∧
      ∃ sorted, InNameOrder (listedItems ctx userId serverId .listChannels) sorted ∧
        (dbListServerChannels dbEnv ctx.db serverId).1.foldl collectChannelListItem [] =
          (sorted.take maxChannels).map ListItem.cut := by
  unfold dbListServerChannels
  rw [reliable.prepare, if_neg Bool.false_ne_true]
  dsimp only
  rw [reliable.allRows]
  refine ⟨rfl, _, .of_orderBy _ (fun _ => rfl) (List.Perm.refl _), ?_⟩
  exact foldl_collect maxChannels fun row => rfl

/-- The servers of a user, found by way of the memberships, each once. -/
theorem joinedServers_perm (database : Database) (userId : Int) :
    ((database.serverMembers.filter fun row => row.userId = userId).flatMap fun member =>
        database.servers.filter fun row => (row.id : Int) = member.serverId).Perm
      (database.servers.filter fun row =>
        ((row.id : Int), userId) ∈ database.serverMembers.map ServerMemberRow.pair) := by
  have ids : ((database.serverMembers.filter fun row => row.userId = userId).flatMap fun member =>
        database.servers.filter fun row => (row.id : Int) = member.serverId).map
          (fun row : ServerRow => (row.id : Int)) =
      (database.serverMembers.filter fun row => row.userId = userId).map
        ServerMemberRow.serverId := by
    have joined : ((database.serverMembers.filter fun row => row.userId = userId).flatMap
          fun member => (database.servers.filter fun row => (row.id : Int) = member.serverId).map
            fun server => server).map (fun row : ServerRow => (row.id : Int)) =
        (database.serverMembers.filter fun row => row.userId = userId).map
          ServerMemberRow.serverId :=
      (database.integrity.members_server.filter _).map_join database.integrity.servers_id
        fun _ _ => rfl
    simpa using joined
  have unique : ((database.serverMembers.filter fun row => row.userId = userId).map
      ServerMemberRow.serverId).Nodup := by
    refine List.Nodup.of_map (fun id => (id, userId)) ?_
    have pairs := database.integrity.members_pair.filter fun row => row.userId = userId
    rw [List.map_map]
    refine (List.map_congr_left fun row member => ?_) ▸ pairs
    rw [← of_decide_eq_true (List.mem_filter.mp member).2]
    rfl
  refine (List.perm_ext_iff_of_nodup ?_ ?_).mpr fun row => ?_
  · refine List.Nodup.of_map (fun row : ServerRow => (row.id : Int)) ?_
    rw [ids]
    exact unique
  · exact (database.integrity.servers_id.filter _).of_map _
  · simp only [List.mem_flatMap, List.mem_filter, decide_eq_true_eq, List.mem_map,
      ServerMemberRow.pair, Prod.mk.injEq]
    constructor
    · rintro ⟨member, ⟨present, own⟩, server, same⟩
      exact ⟨server, member, present, same.symm, own⟩
    · rintro ⟨server, member, present, same, own⟩
      exact ⟨member, ⟨present, own⟩, server, same.symm⟩

theorem dbListJoinedServers_collected (reliable : dbEnv.Reliable) (ctx : ServerContext)
    (userId serverId : Int) :
    (dbListJoinedServers dbEnv ctx.db userId).2 = 0 ∧
      ∃ sorted, InNameOrder (listedItems ctx userId serverId .listJoined) sorted ∧
        (dbListJoinedServers dbEnv ctx.db userId).1.foldl collectServerListItem [] =
          (sorted.take maxServers).map ListItem.cut := by
  unfold dbListJoinedServers
  rw [reliable.prepare, if_neg Bool.false_ne_true]
  dsimp only
  rw [reliable.allRows]
  refine ⟨rfl, _, .of_orderBy _ (fun _ => rfl) ((joinedServers_perm ctx.db userId).map _), ?_⟩
  exact foldl_collect maxServers fun row => rfl

theorem dbListServerMembers_collected (reliable : dbEnv.Reliable) (ctx : ServerContext)
    (userId serverId : Int) :
    (dbListServerMembers dbEnv ctx.db serverId).2 = 0 ∧
      ∃ sorted, InNameOrder (listedItems ctx userId serverId .listMembers) sorted ∧
        (dbListServerMembers dbEnv ctx.db serverId).1.foldl (collectMemberListItem ctx) [] =
          (sorted.take maxServerMembers).map ListItem.cut := by
  unfold dbListServerMembers
  rw [reliable.prepare, if_neg Bool.false_ne_true]
  dsimp only
  rw [reliable.allRows]
  have joined : (((ctx.db.serverMembers.filter fun row => row.serverId = serverId).flatMap
        fun member => (ctx.db.users.filter fun user => (user.id : Int) = member.userId).map
          fun user => (user, member.isAdmin)).map fun row : UserRow × Bool =>
        (⟨row.1.username, some row.1.id,
          some (memberFlags ctx ⟨row.1.id, row.1.username, row.2⟩)⟩ : ListItem)) =
      listedItems ctx userId serverId .listMembers := by
    refine (ctx.db.integrity.members_user.filter _).map_join_eq ctx.db.integrity.users_id
      fun row other member same => ?_
    rw [memberListItem, ← same, ctx.db.nameOf_eq member]
  refine ⟨rfl, _, .of_orderBy (fun row => row.1.username) (fun _ => rfl) (.of_eq joined), ?_⟩
  exact foldl_collect maxServerMembers fun row => rfl

end Rows

/-! ### The replies -/

section Replies

variable {env : Env} {index : Nat} {packet : TizcordPacket} {process : Process}

/-- The process sends the first items of a list, in the order of their names. -/
def Lists (action : ServerAction) (items : List ListItem) (fd : Int) (before after : Process) :
    Prop :=
  ∃ sorted listId, InNameOrder items sorted ∧
    SendsList fd (listStream action listId ((sorted.take action.capacity).map ListItem.cut))
      before after

theorem Lists.of_collected {action : ServerAction} {items collected : List ListItem} {fd : Int}
    {status : Int} (accepting : env.Accepting) (opened : 0 ≤ fd)
    (bounded : action.capacity ≤ 2 ^ 31 - 1)
    (found : status = 0 ∧ ∃ sorted, InNameOrder items sorted ∧
      collected = (sorted.take action.capacity).map ListItem.cut) :
    Lists action items fd process (serverListReply env fd action status collected process.tick) := by
  obtain ⟨rfl, sorted, inOrder, rfl⟩ := found
  have short : ((sorted.take action.capacity).map ListItem.cut).length ≤ 2 ^ 31 - 1 := by
    rw [List.length_map, List.length_take]
    exact (min_le_left _ _).trans bounded
  obtain ⟨listId, sent⟩ := serverListReply_accepting accepting opened action _ short process.tick
  have ticked : SendsList fd [] process process.tick := .idle rfl rfl
  exact ⟨sorted, listId, inOrder, ticked.trans sent⟩

/-- The items of a list depend on the table of connections by the identities alone. -/
theorem listedItems_congr {before after : ServerContext} (db : after.db = before.db)
    (identities : after.identities = before.identities) (userId serverId : Int)
    (action : ServerAction) :
    listedItems after userId serverId action = listedItems before userId serverId action := by
  have flags : memberFlags after = memberFlags before := by
    funext row
    rw [memberFlags, memberFlags, userIsOnline_eq, userIsOnline_eq, identities]
  have members : memberListItem after = memberListItem before := by
    funext row
    rw [memberListItem, memberListItem, db, flags]
  cases action with
  | listMembers => rw [listedItems, listedItems, db, members]
  | _ => simp only [listedItems, db]

/-- Looking at a server is no change of identity. -/
theorem identities_lookAt (process : Process) (index : Nat) (serverId : Int) :
    (process.modifyClient index fun node =>
      { node with currentServerIndex := serverId }).ctx.identities = process.ctx.identities := by
  have unchanged : ∀ node : ClientNode,
      ({ node with currentServerIndex := serverId } : ClientNode).identity = id node.identity :=
    fun _ => rfl
  exact (identities_modify unchanged process.ctx.clients).trans (List.modify_id _ _)

/-- The requests for lists, with ids for those that are about a server. -/
def IsListRequest (packet : TizcordPacket) : ServerAction → Prop
  | .list | .listJoined => True
  | .listChannels | .listMembers => 0 < packet.serverServerId
  | _ => False

/-- A client that asks for the members of a server looks at it, and is sent the list. -/
theorem listMembers_lists (reliable : env.Reliable) (accepting : env.Accepting) {serverId : Int}
    (positive : 0 < serverId) (process : Process)
    (authenticated : (process.clientAt index).isAuthenticated = true)
    (opened : 0 ≤ (process.clientAt index).socketFd) (userId : Int) :
    Lists .listMembers (listedItems process.ctx userId serverId .listMembers)
      (process.clientAt index).socketFd
      (process.modifyClient index fun node =>
        { node with currentServerIndex := signed 32 serverId })
      (listMembers env index serverId process) := by
  have signedIn : ¬ (!(process.clientAt index).isAuthenticated) = true := by
    rw [authenticated]
    exact Bool.false_ne_true
  have same := listedItems_congr (show (process.modifyClient index fun node => { node with
      currentServerIndex := signed 32 serverId }).ctx.db = process.ctx.db from rfl)
    (identities_lookAt process index (signed 32 serverId))
  rw [listMembers]
  dsimp only
  rw [if_neg (not_le.mpr positive), if_neg signedIn, ← same]
  exact .of_collected accepting opened (by decide)
    (dbListServerMembers_collected (reliable process.clock) _ _ _)

/-- A request for a list is answered with the list: it may look at a server first. -/
theorem handleServerAction_lists (reliable : env.Reliable) (accepting : env.Accepting)
    {action : ServerAction} (beyond : List UInt8) (process : Process)
    (authenticated : (process.clientAt index).isAuthenticated = true)
    (opened : 0 ≤ (process.clientAt index).socketFd) (lists : IsListRequest packet action) :
    ∃ middle : Process, middle.trace = process.trace ∧
      Lists action (listedItems process.ctx (process.clientAt index).id packet.serverServerId action)
        (process.clientAt index).socketFd middle
        (handleServerAction env beyond index packet process (some action)) := by
  have signedIn : ¬ (!(process.clientAt index).isAuthenticated) = true := by
    rw [authenticated]
    exact Bool.false_ne_true
  cases action with
  | list =>
    refine ⟨process, rfl, ?_⟩
    rw [handleServerAction, listTizcordServers]
    dsimp only
    rw [if_neg signedIn]
    exact .of_collected accepting opened (by decide)
      (dbListServers_collected (reliable process.clock) process.ctx _ _)
  | listJoined =>
    refine ⟨process, rfl, ?_⟩
    rw [handleServerAction, listJoinedServers]
    dsimp only
    rw [if_neg signedIn]
    exact .of_collected accepting opened (by decide)
      (dbListJoinedServers_collected (reliable process.clock) process.ctx _ _)
  | listChannels =>
    refine ⟨process, rfl, ?_⟩
    rw [handleServerAction, listTizcordChannels]
    dsimp only
    rw [if_neg (not_le.mpr lists), if_neg signedIn]
    exact .of_collected accepting opened (by decide)
      (dbListServerChannels_collected (reliable process.clock) process.ctx _ _)
  | listMembers =>
    refine ⟨process.modifyClient index fun node =>
      { node with currentServerIndex := signed 32 packet.serverServerId }, rfl, ?_⟩
    rw [handleServerAction]
    exact listMembers_lists reliable accepting lists process authenticated opened _
  | join | leave | create | delete | kickMember => exact lists.elim

theorem processClientPacket_serverAction {action : ServerAction} (env : Env) (index : Nat)
    (process : Process) (asked : packet.request = some (.server action)) :
    processClientPacket env index packet process =
      handleServerAction env (env.beyond process.clock) index packet
        (process.log (.handling (process.clientAt index).socketFd packet
          (process.ctx.userOf (process.clientAt index).socketFd))) (some action) := by
  obtain ⟨type, acted⟩ := TizcordPacket.request_server asked
  rw [processClientPacket, type, handlePacket, handleServerPacket, acted]

/-- The answer to a request for a list is one packet for each of the first rows in the order of
their names, as many as the accumulator holds, with their number; and the list of the members of a
server is as long as the number of its members that the lists of servers show, up to this
capacity. -/
theorem list_replies (reliable : env.Reliable) (accepting : env.Accepting) {action : ServerAction}
    (authenticated : (process.clientAt index).isAuthenticated = true)
    (opened : 0 ≤ (process.clientAt index).socketFd)
    (asked : packet.request = some (.server action)) (lists : IsListRequest packet action) :
    (∃ sorted user packets effects,
      InNameOrder (listedItems process.ctx (process.clientAt index).id packet.serverServerId action)
        sorted ∧
      handlingGain env index packet process = .handling (process.clientAt index).socketFd packet
        (process.ctx.userOf (process.clientAt index).socketFd) :: effects ∧
      Delivers (process.clientAt index).socketFd user packets effects ∧
      ListReply action (sorted.take action.capacity) packets) ∧
    ∀ userId serverId : Int, (listedItems process.ctx userId serverId .listMembers).length =
      memberCount process.ctx.db serverId := by
  refine ⟨?_, fun userId serverId => ?_⟩
  · obtain ⟨middle, unlogged, sorted, listId, inOrder, sent⟩ :=
      handleServerAction_lists reliable accepting (env.beyond process.clock)
        (process.log (.handling (process.clientAt index).socketFd packet
          (process.ctx.userOf (process.clientAt index).socketFd))) authenticated opened lists
    obtain ⟨effects, logged, delivers⟩ := sent.gained
    have whole := processClientPacket_trace env index packet process
    rw [processClientPacket_serverAction env index process asked, logged, unlogged, Process.log,
      List.append_assoc] at whole
    exact ⟨sorted, _, _, effects, inOrder, (List.append_cancel_left whole).symm, delivers,
      listStream_shows action listId _⟩
  · rw [listedItems, List.length_map, memberCount, List.countP_eq_length_filter]

end Replies

/-! ### More servers than a list has room for -/

def numberedServer (number : Fin 17) : ServerRow where
  id := ⟨number.val + 1, by omega⟩
  name := ⟨[97 + UInt8.ofNat number.val], by revert number; decide⟩

/-- A user, and one server more than the accumulator of servers holds. -/
def crowdedDatabase : Database where
  users := [⟨RowId.first, Text.letterA, Text.empty, Text.empty, Text.empty⟩]
  friends := []
  servers := (List.finRange 17).map numberedServer
  serverMembers := []
  channels := []
  messages := []
  directMessages := []
  integrity := by decide +kernel

/-- The user is signed in on the only connection. -/
def crowdedProcess : Process where
  ctx :=
    { serverFd := 3
      clients := [{ newClient 5 with id := 1, isAuthenticated := true }]
      db := crowdedDatabase }
  nextListId := 1
  clock := 0
  trace := []

def listServersPacket : TizcordPacket :=
  TizcordPacket.setServerAction (TizcordPacket.setType Image.zero .server) ServerAction.list.code

/-- The reply has as many packets as there is room. -/
theorem list_replies_crowded : ∃ user packets effects,
    handlingGain Env.ideal 0 listServersPacket crowdedProcess =
      .handling 5 listServersPacket (some 1) :: effects ∧
    Delivers 5 user packets effects ∧ packets.length = 16 := by
  obtain ⟨⟨sorted, user, packets, effects, inOrder, gained, delivers, reply⟩, -⟩ :=
    @list_replies Env.ideal 0 listServersPacket crowdedProcess Env.ideal_reliable
      Env.ideal_accepting .list rfl (by decide) (by decide +kernel) trivial
  refine ⟨user, packets, effects, gained, delivers, ?_⟩
  have number : sorted.length = 17 := inOrder.perm.length_eq
  have shown : (sorted.take ServerAction.list.capacity).length = 16 := by
    rw [List.length_take, number]
    rfl
  rw [ListReply, if_neg (by rintro none'; rw [none'] at shown; cases shown)] at reply
  rw [← reply.length_eq, List.length_zipIdx, shown]

/-- An effect that shows no server with a certain id. -/
def Effect.showsOther (id : Int) : Effect → Bool
  | .sent _ copy _ _ => copy.serverServerId ≠ id
  | _ => true

theorem showsOther_of_all {fd id status : Int} {copy : TizcordPacket} {user : Option Int}
    {effects : List Effect} (others : effects.all (Effect.showsOther id) = true)
    (sent : .sent fd copy status user ∈ effects) : copy.serverServerId ≠ id := by
  have other := List.all_eq_true.mp others _ sent
  rw [Effect.showsOther] at other
  exact of_decide_eq_true other

/-- No packet of the reply shows the last server. -/
theorem list_replies_truncated : ∃ row ∈ crowdedProcess.ctx.db.servers,
    ∀ copy, Sends Env.ideal 0 listServersPacket crowdedProcess 5 copy →
      copy.serverServerId ≠ row.id := by
  refine ⟨numberedServer 16, by decide +kernel, ?_⟩
  rintro copy ⟨status, user, sent⟩
  exact showsOther_of_all (by decide +kernel) sent

end Tizcord
