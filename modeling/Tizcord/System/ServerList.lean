/-
This file is about the refresh of the list of servers. The client keeps what its
user has selected as indices, and refills the list under them, so a selection
survives a refresh exactly when its server comes back at the same place.
-/

import Tizcord.Client.Views
import Tizcord.Server.ListPackets

namespace Tizcord

open CModel

/-- The packets of a stream, processed in order. -/
def processPackets (now : Int) (packets : List TizcordPacket) (ui : Ui) : Except Fault Ui :=
  packets.foldlM (fun ui packet => processNetworkPacket now packet ui) ui

/-- The id under which the client lists an item. -/
def ListItem.listedId (item : ListItem) : Int :=
  signed 32 (signed 64 (item.id.getD 0))

/-! ### A stream of servers -/

section Stream

variable {action : ServerAction} {now listId : Int} {items : List ListItem} {ui : Ui}

theorem processNetworkPacket_server {packet : TizcordPacket}
    (refreshes : action = .list ∨ action = .listJoined)
    (type : packet.type = PacketType.server.code)
    (acted : packet.serverAction = signed 32 action.code) :
    processNetworkPacket now packet ui = .ok (serverListed packet ui) := by
  rw [processNetworkPacket_eq, TizcordPacket.request_of_serverAction type acted]
  rcases refreshes with rfl | rfl <;> rfl

/-- The packet of the item at an index, of a list of a certain length. -/
def serverItem (action : ServerAction) (listId : Int) (total : Nat) (item : ListItem × Nat) :
    TizcordPacket :=
  (listItemPacket .server action.code listId total item.2 item.1).getD Image.zero

theorem serverItem_carries (action : ServerAction) (listId : Int) (total : Nat)
    (item : ListItem × Nat) :
    CarriesItem (serverItem action listId total item) action.code total item.2 item.1 :=
  listItemPacket_carries rfl

theorem listStream_of_nonempty (filled : items ≠ []) :
    listStream action listId items = items.zipIdx.map (serverItem action listId items.length) := by
  rw [listStream, if_neg filled, ← List.filterMap_eq_map]
  rfl

/-- The first packet of a list empties the list that is held, and the others do not. -/
theorem opensList_of_carries {packet : TizcordPacket} {total index : Nat} {item : ListItem}
    (carries : CarriesItem packet action.code total index item) (inside : index < total) :
    opensList packet = true ↔ index = 0 := by
  rw [opensList, ListFrameType.marks, ListFrameType.marks, carries.listFrame, itemFrame]
  split_ifs <;> simp [ListFrameType.code] <;> omega

theorem processPackets_cons {packet : TizcordPacket} {rest : List TizcordPacket} {next : Ui}
    (processed : processNetworkPacket now packet ui = .ok next) :
    processPackets now (packet :: rest) ui = processPackets now rest next := by
  rw [processPackets, List.foldlM_cons, processed]
  rfl

theorem processPackets_refresh {packets : List TizcordPacket}
    (each : ∀ packet ∈ packets, ∀ ui, processNetworkPacket now packet ui =
      .ok (serverListed packet ui)) :
    processPackets now packets ui = .ok { ui with
      servers := packets.foldl (fun servers packet => fileServer packet servers) ui.servers } := by
  induction packets generalizing ui with
  | nil => rfl
  | cons packet rest inductionHypothesis =>
    rw [processPackets_cons (each packet List.mem_cons_self ui),
      inductionHypothesis fun other member => each other (List.mem_cons_of_mem _ member)]
    unfold serverListed
    rw [List.foldl_cons]

theorem fileServer_of_carries {packet : TizcordPacket} {total index : Nat} {item : ListItem}
    (carries : CarriesItem packet action.code total index item) (inside : index < total)
    (bounded : total < 2 ^ 31) (servers : SlotArray UIServer uiMaxServers) :
    fileServer packet servers =
      (if index = 0 then servers.clear else servers).file fun _ => listedServer packet := by
  have positive : packet.listTotal > 0 := by
    rw [carries.listTotal, signed_of_bounds (by omega) (by omega)]
    omega
  have opens := opensList_of_carries carries inside
  unfold fileServer
  dsimp only
  rw [if_pos positive]
  by_cases first : index = 0
  · rw [if_pos first, if_pos (opens.mpr first)]
  · rw [if_neg first, if_neg fun opened => first (opens.mp opened)]

/-- Behind the first item, a stream files one server after another. -/
theorem foldl_fileServer_rest (bounded : items.length < 2 ^ 31) (rest : List ListItem)
    (index : Nat) (behind : 0 < index) (inside : index + rest.length ≤ items.length)
    (servers : SlotArray UIServer uiMaxServers) :
    ((rest.zipIdx index).map (serverItem action listId items.length)).foldl
        (fun servers packet => fileServer packet servers) servers =
      (((rest.zipIdx index).map (serverItem action listId items.length)).map listedServer).foldl
        (fun servers server => servers.file fun _ => server) servers := by
  induction rest generalizing index servers with
  | nil => rfl
  | cons item rest inductionHypothesis =>
    rw [List.length_cons] at inside
    have carries := serverItem_carries action listId items.length (item, index)
    rw [List.zipIdx_cons, List.map_cons, List.map_cons, List.foldl_cons, List.foldl_cons,
      fileServer_of_carries carries (by omega) bounded, if_neg (by omega : index ≠ 0)]
    exact inductionHypothesis (index + 1) (by omega) (by omega) _

/-- After a stream of servers the client lists the servers of the stream, as many as it has room
for, and everything else is as it was. -/
theorem processPackets_listStream (refreshes : action = .list ∨ action = .listJoined)
    (bounded : items.length < 2 ^ 31) :
    ∃ servers, processPackets now (listStream action listId items) ui = .ok { ui with servers } ∧
      servers.entries = ((items.zipIdx.map (serverItem action listId items.length)).map
        listedServer).take uiMaxServers := by
  cases items with
  | nil =>
    have carries : CarriesNothing ((emptyListPacket .server action.code listId).getD Image.zero)
        action.code := emptyListPacket_carries rfl
    have opens : opensList ((emptyListPacket .server action.code listId).getD Image.zero) = true := by
      rw [opensList, ListFrameType.marks, ListFrameType.marks, carries.listFrame]
      rfl
    have stream : listStream action listId [] =
        [(emptyListPacket .server action.code listId).getD Image.zero] := rfl
    rw [stream]
    generalize (emptyListPacket .server action.code listId).getD Image.zero = packet at carries opens
    have empties : fileServer packet ui.servers = ui.servers.clear := by
      unfold fileServer
      dsimp only
      rw [if_neg (by rw [carries.listTotal]; decide), if_pos opens]
    have processed : processNetworkPacket now packet ui = .ok (serverListed packet ui) :=
      processNetworkPacket_server refreshes carries.type carries.action
    refine ⟨ui.servers.clear, ?_, rfl⟩
    rw [processPackets_cons processed]
    unfold serverListed
    rw [empties]
    rfl
  | cons item rest =>
    rw [listStream_of_nonempty (List.cons_ne_nil item rest)]
    refine ⟨_, processPackets_refresh ?_, ?_⟩
    · intro packet member ui
      obtain ⟨place, -, rfl⟩ := List.mem_map.mp member
      have carries := serverItem_carries action listId (item :: rest).length place
      exact processNetworkPacket_server refreshes carries.type carries.action
    · have carries := serverItem_carries action listId (item :: rest).length (item, 0)
      rw [List.zipIdx_cons, List.map_cons, List.foldl_cons,
        fileServer_of_carries carries (Nat.succ_pos _) bounded, if_pos rfl,
        foldl_fileServer_rest bounded rest _ (by omega) (by simp; omega)]
      rw [List.map_cons]
      exact SlotArray.entries_foldl_file (_ :: _) ui.servers.clear

theorem listedServer_id (packet : TizcordPacket) :
    (listedServer packet).id = signed 32 packet.serverServerId := by
  dsimp only [listedServer]

/-- The id of each listed server is that of its item. -/
theorem ids_of_listStream :
    ((items.zipIdx.map (serverItem action listId items.length)).map listedServer).map UIServer.id =
      items.map ListItem.listedId := by
  rw [List.map_map, List.map_map]
  conv_rhs => rw [← List.zipIdx_map_fst 0 items, List.map_map]
  refine List.map_congr_left fun item _ => ?_
  have carries := serverItem_carries action listId items.length item
  rw [Function.comp_apply, Function.comp_apply, Function.comp_apply, listedServer_id, carries.id]
  rfl

end Stream

/-! ### What is selected -/

/-- The active server is one of the list, and has a certain id. -/
def Ui.Denotes (ui : Ui) (id : Int) : Prop :=
  ∃ server, ui.openServer = some server ∧ (ui.servers.slot server).id = id

/-- A refresh with certain items does not change what the user has selected. -/
structure KeepsTarget (before after : Ui) (items : List ListItem) : Prop where
  target : ∀ id, before.Denotes id →
    after.Denotes id ∨ after.activeServer = none ∧ id ∉ items.map ListItem.listedId
  cursor : 0 < after.servers.count → after.serverCursor.val < after.servers.count

theorem openServer_eq_some {ui : Ui} {server : Fin uiMaxServers} :
    ui.openServer = some server ↔
      ui.activeServer = some server ∧ server.val < ui.servers.count := by
  rw [Ui.openServer, Option.filter_eq_some_iff, SlotArray.inUse_iff]

/-- A slot in use and its id, read off the list of the ids. -/
theorem ids_getElem? (servers : SlotArray UIServer uiMaxServers) (server : Fin uiMaxServers)
    (id : Int) :
    (servers.entries.map UIServer.id)[server.val]? = some id ↔
      server.val < servers.count ∧ (servers.slot server).id = id := by
  rw [List.getElem?_map, Option.map_eq_some_iff]
  constructor
  · rintro ⟨entry, found, same⟩
    obtain ⟨inside, is⟩ := List.getElem?_eq_some_iff.mp found
    rw [SlotArray.getElem_entries inside] at is
    exact ⟨inside.trans_eq servers.length_entries, is ▸ same⟩
  · rintro ⟨used, same⟩
    have inside : server.val < servers.entries.length := used.trans_eq servers.length_entries.symm
    exact ⟨_, List.getElem?_eq_getElem inside, (SlotArray.getElem_entries inside) ▸ same⟩

/-- A refresh keeps what the user has selected exactly when the active server, if there is one,
comes back at its index, and the list reaches down to the cursor. -/
theorem refresh_keepsTarget_iff (action : ServerAction)
    (refreshes : action = .list ∨ action = .listJoined) (now listId : Int) (items : List ListItem)
    (bounded : items.length < 2 ^ 31) (ui : Ui) :
    (∃ after, processPackets now (listStream action listId items) ui = .ok after ∧
        KeepsTarget ui after items) ↔
      (∀ server, ui.openServer = some server →
        (items.map ListItem.listedId)[server.val]? = some (ui.servers.slot server).id) ∧
      (items = [] ∨ ui.serverCursor.val < items.length) := by
  obtain ⟨servers, processed, entries⟩ :
      ∃ servers, processPackets now (listStream action listId items) ui = .ok { ui with servers } ∧
        servers.entries = ((items.zipIdx.map (serverItem action listId items.length)).map
          listedServer).take uiMaxServers := processPackets_listStream refreshes bounded
  have ids : servers.entries.map UIServer.id =
      (items.map ListItem.listedId).take uiMaxServers := by
    rw [entries, List.map_take, ids_of_listStream]
  have count : servers.count = min uiMaxServers items.length := by
    rw [← servers.length_entries, entries]
    simp
  have shown : ∀ (server : Fin uiMaxServers) (id : Int),
      (items.map ListItem.listedId)[server.val]? = some id ↔
        server.val < servers.count ∧ (servers.slot server).id = id := by
    intro server id
    rw [← ids_getElem?, ids, List.getElem?_take_of_lt server.isLt]
  constructor
  · rintro ⟨after, same, target, cursor⟩
    obtain rfl := Except.ok.inj (processed.symm.trans same)
    refine ⟨fun server opened => ?_, ?_⟩
    · obtain ⟨active, -⟩ := openServer_eq_some.mp opened
      rcases target _ ⟨server, opened, rfl⟩ with ⟨again, openedAgain, kept⟩ | ⟨gone, -⟩
      · obtain ⟨activeAgain, used⟩ := openServer_eq_some.mp openedAgain
        obtain rfl := Option.some.inj (active.symm.trans activeAgain)
        exact (shown server _).mpr ⟨used, kept⟩
      · exact nomatch gone.symm.trans active
    · rcases List.eq_nil_or_concat items with none' | ⟨_, _, filled⟩
      · exact Or.inl none'
      · have positive : 0 < items.length := by
          rw [filled]
          simp
        have below := cursor (by rw [count]; exact lt_min (by decide) positive)
        dsimp only at below
        rw [count] at below
        exact Or.inr (below.trans_le (min_le_right _ _))
  · rintro ⟨target, cursor⟩
    refine ⟨_, processed, fun id => ?_, fun positive => ?_⟩
    · rintro ⟨server, opened, rfl⟩
      obtain ⟨used, same⟩ := (shown server _).mp (target server opened)
      exact Or.inl ⟨server, openServer_eq_some.mpr ⟨(openServer_eq_some.mp opened).1, used⟩, same⟩
    · dsimp only at positive ⊢
      rw [count] at positive ⊢
      refine lt_min ui.serverCursor.isLt (cursor.resolve_left ?_)
      rintro rfl
      exact absurd positive (by simp)

/-- A server with a certain id, in a list of servers. -/
def itemWithId (id : Int) : ListItem :=
  ⟨Text.letterB, some id, some 1⟩

/-- In the chat of the only server, whose id is 1, the first server is active. -/
theorem chatRounds_target : ∃ ui, runUi chatRounds Ui.start = .ok ui ∧
    ui.openServer = some 0 ∧ (ui.servers.slot 0).id = 1 ∧ ui.serverCursor = 0 :=
  reached_of_any (by decide +kernel)

/-- The same list again keeps the target. -/
theorem refresh_keepsTarget_same : ∃ ui after, runUi chatRounds Ui.start = .ok ui ∧
    processPackets 0 (listStream .list 2 [itemWithId 1]) ui = .ok after ∧
      KeepsTarget ui after [itemWithId 1] := by
  obtain ⟨ui, ran, opened, id, cursor⟩ := chatRounds_target
  have keeps := (refresh_keepsTarget_iff .list (Or.inl rfl) 0 2 [itemWithId 1] (by decide) ui).mpr
    ⟨fun server is => by
      obtain rfl := Option.some.inj (opened.symm.trans is)
      rw [id]
      decide, Or.inr (by rw [cursor]; decide)⟩
  obtain ⟨after, processed, kept⟩ := keeps
  exact ⟨ui, after, ran, processed, kept⟩

/-- A server that comes to stand in front of the active one takes its place. -/
theorem refresh_retargets :
    ¬ ∀ (action : ServerAction), action = .list ∨ action = .listJoined →
      ∀ (now listId : Int) (items : List ListItem), items.length < 2 ^ 31 →
      ∀ (rounds : List UiRound) (ui : Ui), runUi rounds Ui.start = .ok ui →
        ∃ after, processPackets now (listStream action listId items) ui = .ok after ∧
          KeepsTarget ui after items := by
  intro claim
  obtain ⟨ui, ran, shifted⟩ : ∃ ui, runUi chatRounds Ui.start = .ok ui ∧
      (processPackets 0 (listStream .list 2 [itemWithId 2, itemWithId 1]) ui).toOption.any
        (fun after => (ui.openServer = some 0 ∧ (ui.servers.slot 0).id = 1) ∧
          after.activeServer = some 0 ∧ (after.servers.slot 0).id = 2) = true :=
    reached_of_any (by decide +kernel)
  obtain ⟨after, processed, kept⟩ := claim .list (Or.inl rfl) 0 2 [itemWithId 2, itemWithId 1]
    (by decide) chatRounds ui ran
  rw [processed] at shifted
  obtain ⟨⟨opened, id⟩, active, other⟩ := of_decide_eq_true shifted
  rcases kept.target 1 ⟨0, opened, id⟩ with ⟨server, openedAfter, same⟩ | ⟨gone, -⟩
  · obtain rfl := Option.some.inj (active.symm.trans (openServer_eq_some.mp openedAfter).1)
    exact absurd (same.symm.trans other) (by decide)
  · exact nomatch gone.symm.trans active

end Tizcord
