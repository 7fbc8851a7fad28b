/-
This file follows a list from the server into a client. The server sends a packet
for each row and marks its place, and the client empties what it holds at the
first packet and files one row after another. What it holds at the end is the
front of the list, whatever it held before.
-/

import Tizcord.Client.Navigation
import Tizcord.Server.ListReplies
import Tizcord.System.ServerList

namespace Tizcord

open CModel

/-! ### Filling a list -/

/-- The values of an item are of the types of the fields that carry them. The id of a server is one
of 32 bits, as the client keeps it. -/
structure ListItem.Typed (item : ListItem) (action : ServerAction) : Prop where
  id : -2 ^ 63 ≤ item.id.getD 0 ∧ item.id.getD 0 < 2 ^ 63
  serverId : action = .list ∨ action = .listJoined →
    -2 ^ 31 ≤ item.id.getD 0 ∧ item.id.getD 0 < 2 ^ 31
  count : -2 ^ 31 ≤ item.count.getD 0 ∧ item.count.getD 0 < 2 ^ 31

/-- How a client takes in the lists of an action: while it is ready for them, an empty list leaves
it holding nothing, the first packet of another list makes it hold the first item only, and a later
one adds its item as far as there is room. -/
structure Reassembles (action : ServerAction) (room : Nat) (ready : Ui → Prop)
    (holds : Ui → List ListItem → Prop) : Prop where
  empties : ∀ {now : Int} {packet : TizcordPacket} {ui : Ui}, ready ui →
    CarriesNothing packet action.code →
    ∃ after, processNetworkPacket now packet ui = .ok after ∧ ready after ∧ holds after []
  files : ∀ {now : Int} {packet : TizcordPacket} {ui : Ui} {total index : Nat} {item : ListItem}
    {before : List ListItem}, ready ui → ShowsItem packet action.code total index item →
    item.Typed action → index < total → total < 2 ^ 31 → before.length = index →
    (index ≠ 0 → holds ui (before.take room)) →
    ∃ after, processNetworkPacket now packet ui = .ok after ∧ ready after ∧
      holds after ((before ++ [item]).take room)

section Stream

variable {action : ServerAction} {room : Nat} {ready : Ui → Prop}
  {holds : Ui → List ListItem → Prop} {listId : Int}

theorem serverItem_shows (action : ServerAction) (listId : Int) (total : Nat)
    (item : ListItem × Nat) :
    ShowsItem (serverItem action listId total item) action.code total item.2 item.1 :=
  listItemPacket_shows rfl

/-- While the packets of a list come in, the client holds the items so far. -/
theorem Reassembles.rest (reassembles : Reassembles action room ready holds)
    {rest before : List ListItem} {total : Nat} (typed : ∀ item ∈ rest, item.Typed action)
    (whole : before.length + rest.length = total) (bounded : total < 2 ^ 31)
    {packets : List (Int × TizcordPacket)}
    (taken : packets.map Prod.snd =
      (rest.zipIdx before.length).map (serverItem action listId total))
    {ui : Ui} (isReady : ready ui) (held : before ≠ [] → holds ui (before.take room))
    (some' : before ++ rest ≠ []) :
    ∃ after, processTimed packets ui = .ok after ∧ holds after ((before ++ rest).take room) := by
  induction rest generalizing before packets ui with
  | nil =>
    obtain rfl : packets = [] := by simpa using taken
    rw [List.append_nil] at some' ⊢
    exact ⟨ui, rfl, held some'⟩
  | cons item rest inductionHypothesis =>
    rw [List.length_cons] at whole
    obtain ⟨⟨now, packet⟩, later, rfl, rfl, others⟩ :
        ∃ first later, packets = first :: later ∧
          first.2 = serverItem action listId total (item, before.length) ∧
          later.map Prod.snd =
            (rest.zipIdx (before.length + 1)).map (serverItem action listId total) := by
      rw [List.zipIdx_cons, List.map_cons] at taken
      exact List.map_eq_cons_iff.mp taken
    obtain ⟨next, processed, readyNext, heldNext⟩ :
        ∃ next, processNetworkPacket now (serverItem action listId total (item, before.length)) ui =
          .ok next ∧ ready next ∧ holds next ((before ++ [item]).take room) :=
      reassembles.files isReady (serverItem_shows action listId total (item, before.length))
        (typed item List.mem_cons_self) (by omega) bounded rfl fun later =>
          held (List.ne_nil_of_length_pos (Nat.pos_of_ne_zero later))
    rw [processTimed_cons processed]
    have length : (before ++ [item]).length = before.length + 1 := by simp
    obtain ⟨after, rest, holdsAfter⟩ := inductionHypothesis
      (fun other member => typed other (List.mem_cons_of_mem _ member))
      (by rw [length]; omega) (by rw [length]; exact others) readyNext (fun _ => heldNext) (by simp)
    refine ⟨after, rest, ?_⟩
    rw [List.append_assoc] at holdsAfter
    exact holdsAfter

/-- After the packets of a list the client holds the items of the list, as many as it has room
for. -/
theorem Reassembles.stream (reassembles : Reassembles action room ready holds)
    {items : List ListItem} (typed : ∀ item ∈ items, item.Typed action)
    (bounded : items.length < 2 ^ 31) {packets : List (Int × TizcordPacket)}
    (taken : packets.map Prod.snd = listStream action listId items) {ui : Ui}
    (isReady : ready ui) :
    ∃ after, processTimed packets ui = .ok after ∧ holds after (items.take room) := by
  by_cases empty : items = []
  · subst empty
    have only : listStream action listId [] =
        [(emptyListPacket .server action.code listId).getD Image.zero] := rfl
    rw [only] at taken
    obtain ⟨⟨now, packet⟩, rfl, rfl⟩ := List.map_eq_singleton_iff.mp taken
    obtain ⟨after, processed, -, held⟩ : ∃ after, processNetworkPacket now
        ((emptyListPacket .server action.code listId).getD Image.zero) ui = .ok after ∧
          ready after ∧ holds after [] :=
      reassembles.empties isReady (emptyListPacket_carries rfl)
    refine ⟨after, processTimed_cons processed, ?_⟩
    rw [List.take_nil]
    exact held
  · rw [listStream_of_nonempty empty] at taken
    have first : ([] : List ListItem) ≠ [] → holds ui (([] : List ListItem).take room) :=
      fun impossible => absurd rfl impossible
    exact reassembles.rest typed (Nat.zero_add _) bounded taken isReady first empty

end Stream

/-! ### The lists of a client -/

/-- The server that the client lists for an item. -/
def ListItem.toServer (item : ListItem) : UIServer :=
  { UIServer.zero with
    id := item.id.getD 0
    memberCount := item.count.getD 0
    name := storedName item.name }

/-- The channel that the client lists for an item: its id, its name, and no messages. -/
def ListItem.toChannel (item : ListItem) : Int × Text × List Message :=
  (item.id.getD 0, storedName item.name, [])

/-- The member that the client lists for an item. -/
def ListItem.toMember (item : ListItem) : UIMember where
  name := storedName item.name
  isAdmin := (item.count.getD 0 % 2 ^ 32).toNat.testBit 0
  isOnline := (item.count.getD 0 % 2 ^ 32).toNat.testBit 1
  id := item.id.getD 0

/-- The channels of a server that the client shows. -/
def UIServer.shownChannels (entry : UIServer) : List (Int × Text × List Message) :=
  entry.channels.entries.map fun channel => (channel.id, channel.name, channel.messages.entries)

/-- The members of a server that the client shows: as many as its counter says. -/
def UIServer.shownMembers (entry : UIServer) : List UIMember :=
  (List.ofFn entry.members).take entry.memberCount.toNat

/-- The client holds these items as the list of an action. The channels and members are those of
the active server. -/
def Ui.Holds (ui : Ui) (items : List ListItem) : ServerAction → Prop
  | .list | .listJoined => ui.servers.entries = items.map ListItem.toServer
  | .listChannels => ∃ server, ui.openServer = some server ∧
      (ui.servers.slot server).shownChannels = items.map ListItem.toChannel
  | .listMembers => ∃ server, ui.openServer = some server ∧
      (ui.servers.slot server).memberCount = items.length ∧
      (ui.servers.slot server).shownMembers = items.map ListItem.toMember
  | _ => False

/-- Where the client lists the channels or members of a server, that is the active one. -/
def Ui.Ready (ui : Ui) : ServerAction → Prop
  | .listChannels | .listMembers => ui.openServer ≠ none
  | _ => True

/-- The number of rows of a list that the client has room for. -/
def ServerAction.room : ServerAction → Nat
  | .list | .listJoined => uiMaxServers
  | .listChannels => uiMaxChannels
  | .listMembers => maxUsers
  | _ => 0

section Lists

variable {now : Int} {packet : TizcordPacket} {ui : Ui} {action : ServerAction}
  {total index : Nat} {item : ListItem} {before : List ListItem}

theorem ShowsItem.stored (shows : ShowsItem packet action.code total index item) :
    storedName (packet.serverServerName []) = storedName item.name := by
  rw [shows.name, storedName_take]

theorem CarriesNothing.opens (carries : CarriesNothing packet action.code) :
    opensList packet = true := by
  rw [opensList, ListFrameType.marks, ListFrameType.marks, carries.listFrame]
  rfl

theorem CarriesNothing.noRow (carries : CarriesNothing packet action.code) :
    ¬ packet.listTotal > 0 := by
  rw [carries.listTotal]
  decide

theorem CarriesItem.hasRow (carries : CarriesItem packet action.code total index item)
    (inside : index < total) (bounded : total < 2 ^ 31) : packet.listTotal > 0 := by
  rw [carries.listTotal, signed_of_bounds (by omega) (by omega)]
  omega

theorem ShowsItem.id_eq (shows : ShowsItem packet action.code total index item)
    (typed : item.Typed action) : packet.serverServerId = item.id.getD 0 := by
  obtain ⟨low, high⟩ := typed.id
  rw [shows.id, signed_of_bounds (by omega) (by omega)]

theorem ShowsItem.count_eq (shows : ShowsItem packet action.code total index item)
    (typed : item.Typed action) : packet.serverMemberCount = item.count.getD 0 := by
  obtain ⟨low, high⟩ := typed.count
  rw [shows.count, signed_of_bounds (by omega) (by omega)]

/-- The client lists a server for an item. -/
theorem listedServer_of_shows (refreshes : action = .list ∨ action = .listJoined)
    (shows : ShowsItem packet action.code total index item) (typed : item.Typed action) :
    listedServer packet = item.toServer := by
  obtain ⟨low, high⟩ := typed.serverId refreshes
  have narrow : signed 32 (item.id.getD 0) = item.id.getD 0 :=
    signed_of_bounds (by omega) (by omega)
  rw [listedServer, shows.id_eq typed, narrow, shows.count_eq typed, shows.stored]
  rfl

theorem listedMember_of_shows (shows : ShowsItem packet action.code total index item)
    (typed : item.Typed action) : listedMember packet = item.toMember := by
  rw [listedMember, memberFlag, memberFlag, shows.id_eq typed, shows.count_eq typed, shows.stored]
  rfl

/-- The rows before an item, or none before the first one, with the item behind them. -/
theorem take_append_item {Shown : Type} {room : Nat} {show' : ListItem → Shown}
    {held : List Shown} (is : held = (before.take room).map show') :
    (held ++ [show' item]).take room = ((before ++ [item]).take room).map show' := by
  rw [is, List.map_take, List.map_take, List.map_append, List.take_append, List.take_append,
    List.take_take, min_self, List.length_take]
  congr 2
  simp
  omega

/-- What an array shows that the client files a row in, and may have to empty before. -/
theorem shown_of_file {Element Shown : Type} {room : Nat} {array : SlotArray Element room}
    {write : Element → Element} {shows : Element → Shown} {show' : ListItem → Shown}
    (shown : ∀ element, shows (write element) = show' item) (length : before.length = index)
    (held : index ≠ 0 → array.entries.map shows = (before.take room).map show') :
    ((if index = 0 then array.clear else array).file write).entries.map shows =
      ((before ++ [item]).take room).map show' := by
  rw [SlotArray.map_entries_file shown]
  refine take_append_item ?_
  by_cases first : index = 0
  · rw [if_pos first, List.eq_nil_of_length_eq_zero (length.trans first), List.take_nil]
    rfl
  · rw [if_neg first, held first]

/-- The servers. -/
theorem reassembles_servers (refreshes : action = .list ∨ action = .listJoined) :
    Reassembles action uiMaxServers (fun _ => True)
      fun ui items => ui.servers.entries = items.map ListItem.toServer where
  empties := by
    intro now packet ui _ carries
    refine ⟨_, processNetworkPacket_server refreshes carries.type carries.action, trivial, ?_⟩
    dsimp only [serverListed, fileServer]
    rw [if_neg carries.noRow, if_pos carries.opens]
    rfl
  files := by
    intro now packet ui total index item before _ shows typed inside bounded length held
    refine ⟨_, processNetworkPacket_server refreshes shows.type shows.action, trivial, ?_⟩
    dsimp only [serverListed]
    rw [fileServer_of_carries shows.toCarriesItem inside bounded]
    have filed : ((if index = 0 then ui.servers.clear else ui.servers).file fun _ =>
          listedServer packet).entries.map id =
        ((before ++ [item]).take uiMaxServers).map ListItem.toServer :=
      shown_of_file (fun _ => listedServer_of_shows refreshes shows typed) length
        (by simpa using held)
    rwa [List.map_id] at filed

theorem processNetworkPacket_serverAction (type : packet.type = PacketType.server.code)
    (acted : packet.serverAction = signed 32 action.code) :
    processNetworkPacket now packet ui = updateServerState now packet ui (some action) := by
  rw [processNetworkPacket_eq, TizcordPacket.request_of_serverAction type acted]
  rfl

theorem shown_listedChannel (shows : ShowsItem packet action.code total index item)
    (typed : item.Typed action) (channel : UIChannel) :
    ((listedChannel packet channel).id, (listedChannel packet channel).name,
      (listedChannel packet channel).messages.entries) = item.toChannel := by
  dsimp only [listedChannel]
  rw [shows.id_eq typed, shows.stored]
  rfl

/-- The channels of the active server. -/
theorem reassembles_channels (server : Fin uiMaxServers) :
    Reassembles .listChannels uiMaxChannels (fun ui => ui.openServer = some server)
      fun ui items => ui.openServer = some server ∧
        (ui.servers.slot server).shownChannels = items.map ListItem.toChannel where
  empties := by
    intro now packet ui opened carries
    obtain ⟨openedAfter, channels⟩ := channelListed_entry opened
    refine ⟨channelListed now packet ui,
      processNetworkPacket_serverAction carries.type carries.action, openedAfter, openedAfter, ?_⟩
    rw [UIServer.shownChannels, channels, fileChannel, if_neg carries.noRow, if_pos carries.opens]
    rfl
  files := by
    intro now packet ui total index item before opened shows typed inside bounded length held
    obtain ⟨openedAfter, channels⟩ := channelListed_entry opened
    refine ⟨channelListed now packet ui,
      processNetworkPacket_serverAction shows.type shows.action, openedAfter, openedAfter, ?_⟩
    have opens := opensList_of_carries shows.toCarriesItem inside
    rw [UIServer.shownChannels, channels, fileChannel, if_pos (shows.hasRow inside bounded)]
    simp only [opens]
    exact shown_of_file (shown_listedChannel shows typed) length fun later => (held later).2

/-- The members of a server are held in the slots of an array. -/
structure UIServer.MembersAre (entry : UIServer) (array : SlotArray UIMember maxUsers) : Prop where
  slots : entry.members = array.slot
  count : entry.memberCount = array.count

theorem UIServer.MembersAre.shown {entry : UIServer} {array : SlotArray UIMember maxUsers}
    (are : entry.MembersAre array) : entry.shownMembers = array.entries := by
  have fits := array.fits
  rw [UIServer.shownMembers, are.slots, are.count, Int.toNat_natCast]
  refine List.ext_getElem (by simp; exact fits) fun index _ inside => ?_
  rw [SlotArray.getElem_entries inside]
  simp

/-- A row of a list of members is filed in the array of the members. -/
theorem fileMember_file {entry : UIServer} {array : SlotArray UIMember maxUsers}
    (row : packet.listTotal > 0)
    (start : (if opensList packet then { entry with memberCount := 0 }
      else entry).MembersAre array) :
    ∃ after, fileMember packet entry = .ok after ∧
      after.MembersAre (array.file fun _ => listedMember packet) := by
  rw [fileMember]
  generalize (if opensList packet then { entry with memberCount := 0 } else entry) = emptied
    at start ⊢
  by_cases room : array.count < maxUsers
  · have inside : 0 ≤ emptied.memberCount ∧ emptied.memberCount.toNat < maxUsers := by
      rw [start.count]
      exact ⟨Int.natCast_nonneg _, room⟩
    have below : emptied.memberCount < maxUsers := by
      rw [start.count]
      exact Int.ofNat_lt.mpr room
    rw [if_pos ⟨row, below⟩, slotAt, dif_pos inside]
    refine ⟨_, rfl, ?_, ?_⟩
    · have same : (⟨emptied.memberCount.toNat, inside.2⟩ : Fin maxUsers) = ⟨array.count, room⟩ :=
        Fin.ext (congrArg Int.toNat start.count)
      rw [SlotArray.slot_file_of_room room, ← start.slots]
      dsimp only
      rw [same]
    · rw [SlotArray.count_file_of_room room]
      dsimp only
      rw [start.count]
      rfl
  · have full : ¬ (packet.listTotal > 0 ∧ emptied.memberCount < maxUsers) := by
      rw [start.count]
      exact fun both => room (Int.ofNat_lt.mp both.2)
    rw [if_neg full, SlotArray.file_of_full room]
    exact ⟨emptied, rfl, start⟩

/-- A row of a list of members is shown behind the rows before it. -/
theorem fileMember_shows {entry : UIServer}
    (shows : ShowsItem packet action.code total index item) (typed : item.Typed action)
    (inside : index < total) (bounded : total < 2 ^ 31) (length : before.length = index)
    (held : index ≠ 0 → entry.memberCount = (before.take maxUsers).length ∧
      entry.shownMembers = (before.take maxUsers).map ListItem.toMember) :
    ∃ after, fileMember packet entry = .ok after ∧
      after.memberCount = ((before ++ [item]).take maxUsers).length ∧
      after.shownMembers = ((before ++ [item]).take maxUsers).map ListItem.toMember := by
  have opens := opensList_of_carries shows.toCarriesItem inside
  have row := shows.hasRow inside bounded
  have fits : (before.take maxUsers).length ≤ maxUsers := List.length_take_le _ _
  obtain ⟨array, start, entries⟩ : ∃ array : SlotArray UIMember maxUsers,
      (if opensList packet then { entry with memberCount := 0 } else entry).MembersAre array ∧
        array.entries = (before.take maxUsers).map ListItem.toMember := by
    by_cases first : index = 0
    · refine ⟨⟨entry.members, 0, Nat.zero_le _⟩, ?_, ?_⟩
      · rw [if_pos (opens.mpr first)]
        exact ⟨rfl, rfl⟩
      · rw [List.eq_nil_of_length_eq_zero (length.trans first), List.take_nil]
        rfl
    · obtain ⟨count, shown⟩ := held first
      have are : entry.MembersAre ⟨entry.members, (before.take maxUsers).length, fits⟩ :=
        ⟨rfl, count⟩
      refine ⟨_, ?_, are.shown.symm.trans shown⟩
      rw [if_neg fun opened => first (opens.mp opened)]
      exact are
  obtain ⟨after, filed, are⟩ := fileMember_file row start
  have shown : (array.file fun _ => listedMember packet).entries =
      ((before ++ [item]).take maxUsers).map ListItem.toMember := by
    rw [SlotArray.entries_file_const, listedMember_of_shows shows typed]
    exact take_append_item entries
  refine ⟨after, filed, ?_, are.shown.trans shown⟩
  rw [are.count, ← SlotArray.length_entries, shown, List.length_map]

theorem memberListed_entry {server : Fin uiMaxServers} {entry : UIServer}
    (opened : ui.openServer = some server)
    (filed : fileMember packet (ui.servers.slot server) = .ok entry) :
    ∃ after, memberListed packet ui = .ok after ∧ after.openServer = some server ∧
      after.servers.slot server = entry := by
  rw [memberListed, opened]
  dsimp only
  rw [filed]
  exact ⟨_, rfl, opened, by simp [Ui.modifyServer]⟩

/-- The members of the active server. -/
theorem reassembles_members (server : Fin uiMaxServers) :
    Reassembles .listMembers maxUsers (fun ui => ui.openServer = some server)
      fun ui items => ui.openServer = some server ∧
        (ui.servers.slot server).memberCount = items.length ∧
        (ui.servers.slot server).shownMembers = items.map ListItem.toMember where
  empties := by
    intro now packet ui opened carries
    have filed : fileMember packet (ui.servers.slot server) =
        .ok { ui.servers.slot server with memberCount := 0 } := by
      rw [fileMember, if_pos carries.opens]
      dsimp only
      rw [if_neg fun both => carries.noRow both.1]
    obtain ⟨after, listed, openedAfter, entry⟩ := memberListed_entry opened filed
    refine ⟨after, (processNetworkPacket_serverAction carries.type carries.action).trans listed,
      openedAfter, openedAfter, ?_, ?_⟩
    · rw [entry]
      rfl
    · rw [entry, UIServer.shownMembers]
      rfl
  files := by
    intro now packet ui total index item before opened shows typed inside bounded length held
    obtain ⟨entry, filed, count, shown⟩ :=
      fileMember_shows shows typed inside bounded length fun later => (held later).2
    obtain ⟨after, listed, openedAfter, is⟩ := memberListed_entry opened filed
    refine ⟨after, (processNetworkPacket_serverAction shows.type shows.action).trans listed,
      openedAfter, openedAfter, ?_, ?_⟩
    · rw [is, count]
    · rw [is, shown]

end Lists

/-! ### From the server into the client -/

/-- The actions whose replies are lists of the server type. -/
def ServerAction.IsList (action : ServerAction) : Prop :=
  action = .list ∨ action = .listJoined ∨ action = .listChannels ∨ action = .listMembers

/-- After the packets of a list a client holds the front of the list, as far as it has room, and
nothing of what it held before. -/
theorem holds_of_listStream {action : ServerAction} (lists : action.IsList) {listId : Int}
    {items : List ListItem} (typed : ∀ item ∈ items, item.Typed action)
    (bounded : items.length < 2 ^ 31) {packets : List (Int × TizcordPacket)}
    (taken : packets.map Prod.snd = listStream action listId items) {ui : Ui}
    (ready : ui.Ready action) :
    ∃ after, processTimed packets ui = .ok after ∧
      after.Holds (items.take action.room) action := by
  rcases lists with rfl | rfl | rfl | rfl
  · exact (reassembles_servers (Or.inl rfl)).stream typed bounded taken trivial
  · exact (reassembles_servers (Or.inr rfl)).stream typed bounded taken trivial
  · obtain ⟨server, opened⟩ := Option.ne_none_iff_exists'.mp ready
    obtain ⟨after, processed, held⟩ :=
      (reassembles_channels server).stream typed bounded taken opened
    exact ⟨after, processed, server, held⟩
  · obtain ⟨server, opened⟩ := Option.ne_none_iff_exists'.mp ready
    obtain ⟨after, processed, held⟩ :=
      (reassembles_members server).stream typed bounded taken opened
    exact ⟨after, processed, server, held⟩

/-- What the server sends for a list of rows is, when a client has processed it in order, what the
client holds: the first rows, as many as it has room for, with their ids, counts or flags, and
names, and none of an earlier list. -/
theorem list_reassembled {env : Env} (accepting : env.Accepting) {fd : Int} (opened : 0 ≤ fd)
    {action : ServerAction} (lists : action.IsList) {items : List ListItem}
    (short : items.length ≤ 2 ^ 31 - 1) (typed : ∀ item ∈ items, item.Typed action)
    (process : Process) :
    (sendListResponse env fd .server action.code items process).2 = 0 ∧
      ∃ packets, SendsList fd packets process
          (sendListResponse env fd .server action.code items process).1 ∧
        ∀ (timed : List (Int × TizcordPacket)) (ui : Ui), timed.map Prod.snd = packets →
          ui.Ready action →
          ∃ after, processTimed timed ui = .ok after ∧
            after.Holds (items.take action.room) action := by
  obtain ⟨status, listId, sent⟩ :=
    sendListResponse_accepting accepting opened action items short process
  refine ⟨status, listStream action listId items, sent, fun timed ui taken ready => ?_⟩
  exact holds_of_listStream lists typed (by omega) taken ready

/-- Of nine servers a client lists eight. -/
theorem list_reassembled_nine : ∃ packets after,
    SendsList 5 packets crowdedProcess (sendListResponse Env.ideal 5 .server
      ServerAction.list.code ((List.range 9).map fun id : Nat => itemWithId id) crowdedProcess).1 ∧
    processTimed (packets.map fun packet => (0, packet)) Ui.start = .ok after ∧
    after.servers.entries.map UIServer.id = [0, 1, 2, 3, 4, 5, 6, 7] := by
  have typed : ∀ item ∈ (List.range 9).map fun id : Nat => itemWithId id, item.Typed .list := by
    intro item member
    obtain ⟨id, below, rfl⟩ := List.mem_map.mp member
    have small := List.mem_range.mp below
    refine ⟨?_, fun _ => ?_, ?_⟩ <;>
    · dsimp only [itemWithId, Option.getD_some]
      omega
  obtain ⟨-, packets, sent, holds⟩ := list_reassembled Env.ideal_accepting (by decide : (0 : Int) ≤ 5)
    (Or.inl rfl) (by decide) typed crowdedProcess
  obtain ⟨after, processed, held⟩ := holds (packets.map fun packet => (0, packet)) Ui.start
    (by rw [List.map_map]; exact List.map_id _) trivial
  refine ⟨packets, after, sent, processed, ?_⟩
  rw [show after.servers.entries = _ from held]
  rfl

end Tizcord
