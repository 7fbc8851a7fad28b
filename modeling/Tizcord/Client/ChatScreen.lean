/-
This file is about the channel in which the user writes. The client keeps its
index apart from the list of channels, which is empty when a server is entered
and is emptied and refilled with every list that comes in, so the index may lie
behind the list, and the list may be empty.
-/

import Tizcord.Client.Navigation
import Tizcord.Client.Views

namespace Tizcord

open CModel

/-! ### A channel that is listed -/

/-- The index of the channel lies in the list of the active server. -/
def Ui.HasChannel (ui : Ui) : Prop :=
  ∃ server, ui.activeServer = some server ∧
    ui.activeChannel.val < (ui.servers.slot server).channels.count

/-- What TAB and ENTER do in the chat: TAB ends at a channel of the list, and ENTER sends what is
typed to a channel of the list. -/
structure Ui.ActsOnChannel (ui : Ui) : Prop where
  tab : ∀ now, ∃ after, handleKey now .tab ui = .ok after ∧ after.HasChannel
  enter : 0 < ui.chatInput.length → ∀ now, ∃ after server, handleKey now .enter ui = .ok after ∧
    ui.activeServer = some server ∧ ∃ channel ∈ (ui.servers.slot server).channels.entries,
      after.requests =
        (Client.sendChannelMessage now channel.id ui.chatInput.text ui).requests

/-- While the chat is shown, it acts on a channel of the list. -/
def Ui.ChatActs (ui : Ui) : Prop :=
  ui.currentScreen = .chat → ui.ActsOnChannel

/-- The chat is shown, or stands behind the command line. -/
def Ui.Chatting (ui : Ui) : Prop :=
  ui.currentScreen = .chat ∨ ui.currentScreen = .command ∧ ui.previousScreen = .chat

/-- The chat has a channel of the list. -/
def Ui.ChatsInChannel (ui : Ui) : Prop :=
  ui.Chatting → ui.HasChannel

section Channel

variable {now : Int} {ui after : Ui}

theorem hasChannel_safeSendPacket (packet : TizcordPacket) :
    (Client.safeSendPacket packet ui).HasChannel ↔ ui.HasChannel := by
  have channel : (Client.safeSendPacket packet ui).activeChannel = ui.activeChannel :=
    congrArg Place.channel (safeSendPacket_place packet ui)
  rw [Ui.HasChannel, Ui.HasChannel, safeSendPacket_activeServer, channel, safeSendPacket_servers]

theorem handleKey_chat {key : Key} (shown : ui.currentScreen = .chat) :
    handleKey now key ui = handleChatInput now key ui := by
  rw [handleKey, shown]

/-- In a channel of the list, the chat acts on channels of the list. -/
theorem Ui.HasChannel.acts (listed : ui.HasChannel) (shown : ui.currentScreen = .chat) :
    ui.ActsOnChannel := by
  obtain ⟨server, active, below⟩ := listed
  have chosen : ui.anyServer = .ok server := anyServer_eq_ok.mpr active
  constructor
  · intro now
    have positive : 0 < (ui.servers.slot server).channels.count := (Nat.zero_le _).trans_lt below
    rw [handleKey_chat shown, handleChatInput, nextChannel, chosen]
    refine ⟨_, dif_pos positive, ?_⟩
    rw [Client.requestChannelHistory, hasChannel_safeSendPacket]
    exact ⟨server, active, Nat.mod_lt _ positive⟩
  · intro typed now
    rw [handleKey_chat shown, handleChatInput, submitChat, if_pos typed, chosen]
    exact ⟨_, server, rfl, active, _, SlotArray.mem_entries.mpr ⟨_, below, rfl⟩, rfl⟩

/-- Without a channel in the list TAB ends the program. -/
theorem tab_divides (shown : ui.currentScreen = .chat) {server : Fin uiMaxServers}
    (active : ui.activeServer = some server)
    (empty : (ui.servers.slot server).channels.count = 0) :
    handleKey now .tab ui = .error .divisionByZero := by
  have chosen : ui.anyServer = .ok server := anyServer_eq_ok.mpr active
  rw [handleKey_chat shown, handleChatInput, nextChannel, chosen]
  exact dif_neg (by rw [empty]; exact Nat.not_lt_zero _)

end Channel

/-! ### What steps do to the lists of channels -/

section Lists

variable {now : Int} {packet : TizcordPacket} {ui after : Ui}

/-- The slot in which a row of a list of servers is filed. -/
def filedAt (packet : TizcordPacket) (ui : Ui) : Nat :=
  if opensList packet then 0 else ui.servers.count

theorem fileServer_slot_ne {server : Fin uiMaxServers}
    (elsewhere : packet.listTotal > 0 → server.val ≠ filedAt packet ui) :
    (fileServer packet ui.servers).slot server = ui.servers.slot server := by
  rw [fileServer]
  by_cases row : packet.listTotal > 0
  · have other := elsewhere row
    rw [filedAt] at other
    rw [if_pos row]
    split at other
    · next opens =>
      rw [if_pos opens]
      exact SlotArray.slot_file_ne other
    · next goesOn =>
      rw [if_neg goesOn]
      exact SlotArray.slot_file_ne other
  · rw [if_neg row]
    split <;> rfl

theorem fileServer_slot_same {server : Fin uiMaxServers} (row : packet.listTotal > 0)
    (here : server.val = filedAt packet ui) :
    (fileServer packet ui.servers).slot server = listedServer packet := by
  rw [fileServer]
  rw [if_pos row]
  rw [filedAt] at here
  split at here
  · next opens =>
    rw [if_pos opens]
    exact SlotArray.slot_file_same here
  · next goesOn =>
    rw [if_neg goesOn]
    exact SlotArray.slot_file_same here

/-- A write to a server that keeps the number of its channels. -/
theorem channels_of_modify {servers : SlotArray UIServer uiMaxServers}
    {other : Fin uiMaxServers} {write : UIServer → UIServer}
    (kept : (write (servers.slot other)).channels.count = (servers.slot other).channels.count)
    (server : Fin uiMaxServers) :
    ((servers.modify other write).slot server).channels.count =
      (servers.slot server).channels.count := by
  by_cases same : server = other
  · rw [same, SlotArray.slot_modify_same, kept]
  · rw [SlotArray.slot_modify_ne _ _ same]

/-- A packet that is no list of servers or channels leaves the length of all lists of channels. -/
theorem channels_of_packet (processed : processNetworkPacket now packet ui = .ok after)
    (notServers : packet.request ≠ some (.server .list) ∧
      packet.request ≠ some (.server .listJoined))
    (notChannels : packet.request ≠ some (.server .listChannels)) (server : Fin uiMaxServers) :
    (after.servers.slot server).channels.count = (ui.servers.slot server).channels.count := by
  rcases (processNetworkPacket_changes processed).servers with same | changed
  · rw [same]
  · generalize after.servers = servers at changed
    cases changed with
    | signedOut => rfl
    | listed asked => exact absurd asked (not_or.mpr notServers)
    | channels _ _ asked => exact absurd asked notChannels
    | members other opened filed asked =>
      exact channels_of_modify (by rw [fileMember_channels filed]) server
    | message other channel opened asked =>
      rw [uiReceiveChannelMessage, opened]
      dsimp only [Ui.modifyChannel, Ui.modifyServer]
      exact channels_of_modify rfl server

end Lists

/-! ### Steps -/

/-- ENTER shows the chat of a server only when a channel of it is listed already. While someone
chats, no row of a list of servers is written over the active server, and a list of its channels
starts only with a channel, and only at the first one. -/
structure Ui.AllowsChat (ui : Ui) (events : List UiEvent) : Prop where
  enters : .key .enter ∈ events → ui.currentScreen = .servers → 0 < ui.servers.count →
    0 < (ui.servers.slot ui.serverCursor).channels.count
  servers : ∀ packet, .packet packet ∈ events → packet.request = some (.server .list) ∨
    packet.request = some (.server .listJoined) → packet.listTotal > 0 → ui.Chatting →
    ∀ server, ui.activeServer = some server → server.val ≠ filedAt packet ui
  channels : ∀ packet, .packet packet ∈ events → packet.request = some (.server .listChannels) →
    opensList packet = true → ui.Chatting → ui.openServer ≠ none →
    packet.listTotal > 0 ∧ ui.activeChannel = 0

section Steps

variable {now : Int} {packet : TizcordPacket} {ui after : Ui} {events : List UiEvent}

/-- A step that shows no chat of its own, and takes no channels from the active server. -/
theorem Ui.ChatsInChannel.of_place (chats : ui.ChatsInChannel)
    (chatting : after.Chatting → ui.Chatting) (active : after.activeServer = ui.activeServer)
    (channel : after.activeChannel.val ≤ ui.activeChannel.val)
    (channels : ∀ server, ui.activeServer = some server →
      (ui.servers.slot server).channels.count ≤ (after.servers.slot server).channels.count) :
    after.ChatsInChannel := by
  intro chatsAfter
  obtain ⟨server, is, below⟩ := chats (chatting chatsAfter)
  exact ⟨server, active.trans is, (channel.trans_lt below).trans_le (channels server is)⟩

theorem not_chatting {screen : Screen} (shown : ui.currentScreen = screen)
    (chat : screen ≠ .chat) (command : screen ≠ .command) : ¬ ui.Chatting := by
  rintro (is | ⟨is, -⟩)
  · exact chat (shown.symm.trans is)
  · exact command (shown.symm.trans is)

theorem chatting_of_same (screen : after.currentScreen = ui.currentScreen)
    (previous : after.previousScreen = ui.previousScreen) : after.Chatting → ui.Chatting := by
  rw [Ui.Chatting, Ui.Chatting, screen, previous]
  exact id

theorem chatting_of_place (place : after.place = ui.place) : after.Chatting → ui.Chatting :=
  chatting_of_same (congrArg Place.screen place) (congrArg Place.previous place)

/-- The good end of a command leads back to the chat, if at all. -/
theorem chatting_of_closeCommand (screen : after.currentScreen = ui.place.closeCommand.screen)
    (previous : after.previousScreen = ui.previousScreen) : after.Chatting → ui.Chatting := by
  by_cases shown : ui.currentScreen = .command
  · have closed : ui.place.closeCommand.screen = ui.previousScreen :=
      congrArg Place.screen (if_pos shown)
    rw [closed] at screen
    rintro (is | ⟨-, is⟩)
    · exact Or.inr ⟨shown, screen.symm.trans is⟩
    · exact Or.inr ⟨shown, previous.symm.trans is⟩
  · have same : ui.place.closeCommand = ui.place := if_neg shown
    rw [same] at screen
    exact chatting_of_same screen previous

/-- A packet that is no list of servers or channels keeps the chat in a channel of the list. -/
theorem Ui.ChatsInChannel.of_packet (chats : ui.ChatsInChannel)
    (processed : processNetworkPacket now packet ui = .ok after)
    (notServers : packet.request ≠ some (.server .list) ∧
      packet.request ≠ some (.server .listJoined))
    (notChannels : packet.request ≠ some (.server .listChannels)) : after.ChatsInChannel := by
  have channels := channels_of_packet processed notServers notChannels
  have screen : after.currentScreen = after.place.screen := rfl
  have previous : after.previousScreen = after.place.previous := rfl
  have active : after.activeServer = after.place.server := rfl
  have channel : after.activeChannel = after.place.channel := rfl
  cases processNetworkPacket_moves processed with
  | stays place | selects _ _ _ _ place =>
    rw [place] at screen previous active channel
    exact chats.of_place (chatting_of_same screen previous) active channel.le
      fun server _ => (channels server).ge
  | signsIn _ _ place | signsOut _ place | leaves _ place | deletes _ _ place =>
    rw [place] at screen
    exact fun chatsAfter => absurd chatsAfter (not_chatting screen nofun nofun)
  | closes place =>
    rw [place] at screen previous active channel
    have same := ui.place.closeCommand_eq
    exact chats.of_place (chatting_of_closeCommand screen
        (previous.trans (congrArg Place.previous same)))
      (active.trans (congrArg Place.server same)) (channel.trans (congrArg Place.channel same)).le
      fun server _ => (channels server).ge
  | resets _ _ place =>
    rw [place] at screen previous active channel
    have same := ui.place.closeCommand_eq
    exact chats.of_place (chatting_of_closeCommand screen
        (previous.trans (congrArg Place.previous same)))
      (active.trans (congrArg Place.server same)) (by rw [channel]; exact Nat.zero_le _)
      fun server _ => (channels server).ge

theorem processNetworkPacket_servers (asked : packet.request = some (.server .list) ∨
      packet.request = some (.server .listJoined)) :
    processNetworkPacket now packet ui = .ok (serverListed packet ui) := by
  rcases asked with asked | asked <;> rw [processNetworkPacket_eq, asked] <;> rfl

theorem processNetworkPacket_channels (asked : packet.request = some (.server .listChannels)) :
    processNetworkPacket now packet ui = .ok (channelListed now packet ui) := by
  rw [processNetworkPacket_eq, asked]
  rfl

/-- A server that comes in with a list has no channels yet. -/
theorem listedServer_channels (packet : TizcordPacket) :
    (listedServer packet).channels.count = 0 := by
  simp only [listedServer, UIServer.zero, SlotArray.empty]

/-- A row of a list of servers takes the channels from the active server when it is written over
that server. -/
theorem serverListed_hasChannel_iff (has : ui.HasChannel) :
    (serverListed packet ui).HasChannel ↔ (packet.listTotal > 0 →
      ∀ server, ui.activeServer = some server → server.val ≠ filedAt packet ui) := by
  have place := serverListed_place packet ui
  have servers : (serverListed packet ui).servers = fileServer packet ui.servers := by
    rw [serverListed]
  generalize serverListed packet ui = after at place servers ⊢
  have active : after.activeServer = ui.activeServer := congrArg Place.server place
  have channel : after.activeChannel = ui.activeChannel := congrArg Place.channel place
  rw [Ui.HasChannel, active, channel, servers]
  constructor
  · rintro ⟨server, is, below⟩ row other isToo here
    obtain rfl := Option.some.inj (is.symm.trans isToo)
    rw [fileServer_slot_same row here, listedServer_channels] at below
    exact absurd below (Nat.not_lt_zero _)
  · intro elsewhere
    obtain ⟨server, is, below⟩ := has
    refine ⟨server, is, ?_⟩
    rw [fileServer_slot_ne fun row => elsewhere row server is]
    exact below

theorem fileChannel_count_of_opens (opens : opensList packet = true)
    (channels : SlotArray UIChannel uiMaxChannels) :
    (fileChannel packet channels).count = if packet.listTotal > 0 then 1 else 0 := by
  rw [fileChannel, if_pos opens]
  split
  · exact SlotArray.count_file_of_room (show (0 : Nat) < uiMaxChannels by decide)
  · rfl

theorem le_fileChannel_count (goesOn : ¬ opensList packet = true)
    (channels : SlotArray UIChannel uiMaxChannels) :
    channels.count ≤ (fileChannel packet channels).count := by
  rw [fileChannel, if_neg goesOn]
  split
  · exact SlotArray.count_le_file
  · exact Nat.le_refl _

/-- A row of a list of channels takes the channel from the chat when the list starts over, unless
it is the first channel. -/
theorem channelListed_hasChannel_iff (has : ui.HasChannel) :
    (channelListed now packet ui).HasChannel ↔ (opensList packet = true → ui.openServer ≠ none →
      packet.listTotal > 0 ∧ ui.activeChannel = 0) := by
  cases opened : ui.openServer with
  | none =>
    have same : channelListed now packet ui = ui := by rw [channelListed, opened]
    rw [same]
    exact ⟨fun _ _ impossible => absurd rfl impossible, fun _ => has⟩
  | some server =>
    obtain ⟨other, active, below⟩ := has
    have isOpen : ui.activeServer = some server := (Option.filter_eq_some_iff.mp opened).1
    obtain rfl := Option.some.inj (active.symm.trans isOpen)
    have place := channelListed_place now packet ui
    have activeAfter : (channelListed now packet ui).activeServer = some other :=
      (congrArg Place.server place).trans active
    have channel : (channelListed now packet ui).activeChannel = ui.activeChannel :=
      congrArg Place.channel place
    have channels : ((channelListed now packet ui).servers.slot other).channels =
        fileChannel packet (ui.servers.slot other).channels := (channelListed_entry opened).2
    have reads : (channelListed now packet ui).HasChannel ↔ ui.activeChannel.val <
        (fileChannel packet (ui.servers.slot other).channels).count := by
      rw [Ui.HasChannel, activeAfter, channel]
      constructor
      · rintro ⟨server, is, inside⟩
        obtain rfl := Option.some.inj is
        rw [← channels]
        exact inside
      · intro inside
        exact ⟨other, rfl, channels ▸ inside⟩
    rw [reads]
    by_cases opens : opensList packet = true
    · rw [fileChannel_count_of_opens opens]
      by_cases row : packet.listTotal > 0
      · rw [if_pos row, Nat.lt_one_iff]
        exact ⟨fun zero _ _ => ⟨row, Fin.ext zero⟩, fun allowed =>
          congrArg Fin.val (allowed opens (Option.some_ne_none _)).2⟩
      · rw [if_neg row]
        exact ⟨fun impossible => absurd impossible (Nat.not_lt_zero _), fun allowed =>
          absurd (allowed opens (Option.some_ne_none _)).1 row⟩
    · exact ⟨fun _ starts => absurd starts opens, fun _ =>
        below.trans_le (le_fileChannel_count opens _)⟩

/-- A key keeps the chat in a channel of the list, unless ENTER shows the chat of a server that has
none yet. -/
theorem Ui.ChatsInChannel.of_key {key : Key} (chats : ui.ChatsInChannel)
    (previous : ui.previousScreen ≠ .command) (handled : handleKey now key ui = .ok after)
    (enters : key = .enter → ui.currentScreen = .servers → 0 < ui.servers.count →
      0 < (ui.servers.slot ui.serverCursor).channels.count) : after.ChatsInChannel := by
  have kept : ∀ server, (after.servers.slot server).channels.count =
      (ui.servers.slot server).channels.count := by
    intro server
    rcases handleKey_cases handled with same | submits
    · rw [same.servers]
    · rw [submits.servers]
  have screen : after.currentScreen = after.place.screen := rfl
  have behind : after.previousScreen = after.place.previous := rfl
  have active : after.activeServer = after.place.server := rfl
  have channel : after.activeChannel = after.place.channel := rfl
  cases handleKey_moves handled with
  | stays place | erases _ place | types _ place | changesFriend _ _ _ place =>
    rw [place] at screen behind active channel
    exact chats.of_place (chatting_of_same screen behind) active channel.le
      fun server _ => (kept server).ge
  | switchesForm _ form place =>
    rw [place] at screen
    rcases form with rfl | rfl <;>
      exact fun chatsAfter => absurd chatsAfter (not_chatting screen nofun nofun)
  | turns _ list place =>
    rw [place] at screen
    rcases list with rfl | rfl | rfl <;>
      exact fun chatsAfter => absurd chatsAfter (not_chatting screen nofun nofun)
  | leavesChat _ _ place | opensDms _ place =>
    rw [place] at screen
    exact fun chatsAfter => absurd chatsAfter (not_chatting screen nofun nofun)
  | entersServer shown filled _ place =>
    rw [place] at active channel
    intro _
    refine ⟨ui.serverCursor, active, ?_⟩
    rw [channel, kept]
    exact enters rfl shown filled
  | changesChannel _ is below place =>
    rw [place] at active channel
    intro _
    refine ⟨_, active.trans is, ?_⟩
    rw [channel, kept]
    exact below
  | opensCommand _ place =>
    rw [place] at screen behind active channel
    refine chats.of_place ?_ active channel.le fun server _ => (kept server).ge
    rintro (is | ⟨-, is⟩)
    · exact nomatch screen.symm.trans is
    · exact Or.inl (behind.symm.trans is)
  | cancels shown place | submits shown place =>
    rw [place] at screen behind active channel
    refine chats.of_place ?_ active channel.le fun server _ => (kept server).ge
    rintro (is | ⟨is, -⟩)
    · exact Or.inr ⟨shown, screen.symm.trans is⟩
    · exact absurd (screen.symm.trans is) previous

/-- ENTER on the list of servers shows the chat of the server under the cursor. -/
theorem handleKey_enterServer (shown : ui.currentScreen = .servers)
    (filled : 0 < ui.servers.count) (handled : handleKey now .enter ui = .ok after) :
    after.place = { ui.place with
      screen := .chat, server := some ui.serverCursor, channel := 0 } ∧
      after.servers = ui.servers := by
  have same : after.servers = ui.servers := by
    rcases handleKey_cases handled with same | submits
    · exact same.servers
    · exact submits.servers
  rw [handleKey, shown] at handled
  unfold handleServerInput enterServer at handled
  rw [if_neg (Nat.ne_of_gt filled)] at handled
  obtain ⟨user, -, handled⟩ := bind_eq_ok handled
  obtain rfl := Except.ok.inj handled
  refine ⟨?_, same⟩
  simp
  rfl

/-- An allowed step keeps the chat in a channel of the list. -/
theorem UiStep.chatsInChannel (step : UiStep ui events after)
    (behind : ui.previousScreen.IsBehind) (chats : ui.ChatsInChannel)
    (allowed : ui.AllowsChat events) : after.ChatsInChannel := by
  cases step with
  | packet now packet processed =>
    by_cases servers : packet.request = some (.server .list) ∨
      packet.request = some (.server .listJoined)
    · obtain rfl := Except.ok.inj ((processNetworkPacket_servers servers).symm.trans processed)
      intro chatsAfter
      have chatting := chatting_of_place (serverListed_place packet ui) chatsAfter
      rw [serverListed_hasChannel_iff (chats chatting)]
      exact fun row => allowed.servers packet List.mem_cons_self servers row chatting
    by_cases channels : packet.request = some (.server .listChannels)
    · obtain rfl := Except.ok.inj ((processNetworkPacket_channels channels).symm.trans processed)
      intro chatsAfter
      have chatting := chatting_of_place (channelListed_place now packet ui) chatsAfter
      rw [channelListed_hasChannel_iff (chats chatting)]
      exact fun opens => allowed.channels packet List.mem_cons_self channels opens chatting
    exact chats.of_packet processed (not_or.mp servers) channels
  | key now key handled =>
    exact chats.of_key behind.ne_command handled fun same =>
      allowed.enters (same ▸ List.mem_cons_self)
  | draw =>
    have kept := (redraw_same ui).servers
    have screen : (redraw ui).currentScreen = ui.currentScreen ∧
        (redraw ui).previousScreen = ui.previousScreen ∧
        (redraw ui).activeServer = ui.activeServer ∧
        (redraw ui).activeChannel = ui.activeChannel := by
      rcases redraw_place ui with place | ⟨-, -, place⟩ <;>
        exact ⟨congrArg Place.screen place, congrArg Place.previous place,
          congrArg Place.server place, congrArg Place.channel place⟩
    exact chats.of_place (chatting_of_same screen.1 screen.2.1) screen.2.2.1 screen.2.2.2.le
      fun server _ => by rw [kept]
  | disconnect => exact chats.of_place id rfl (Nat.le_refl _) fun _ _ => Nat.le_refl _

/-- A step that keeps the chat in a channel of the list was allowed. -/
theorem UiStep.allowsChat (step : UiStep ui events after) (before : ui.ChatsInChannel)
    (chats : after.ChatsInChannel) : ui.AllowsChat events where
  enters pressed shown filled := by
    cases step with
    | packet => exact nomatch List.mem_singleton.mp pressed
    | key now pressedKey handled =>
      cases List.mem_singleton.mp pressed
      obtain ⟨place, servers⟩ := handleKey_enterServer shown filled handled
      obtain ⟨server, active, below⟩ := chats (Or.inl (congrArg Place.screen place))
      obtain rfl := Option.some.inj ((congrArg Place.server place).symm.trans active)
      have first : after.activeChannel = 0 := congrArg Place.channel place
      rw [first, servers] at below
      exact below
    | draw | disconnect => exact nomatch pressed
  servers packet taken asked row chatting := by
    cases step with
    | packet now other processed =>
      cases List.mem_singleton.mp taken
      obtain rfl := Except.ok.inj ((processNetworkPacket_servers asked).symm.trans processed)
      have still := chatting_of_place (serverListed_place packet ui).symm chatting
      exact (serverListed_hasChannel_iff (before chatting)).mp (chats still) row
    | key => exact nomatch List.mem_singleton.mp taken
    | draw | disconnect => exact nomatch taken
  channels packet taken asked opens chatting := by
    cases step with
    | packet now other processed =>
      cases List.mem_singleton.mp taken
      obtain rfl := Except.ok.inj ((processNetworkPacket_channels asked).symm.trans processed)
      have still := chatting_of_place (channelListed_place now packet ui).symm chatting
      exact (channelListed_hasChannel_iff (before chatting)).mp (chats still) opens
    | key => exact nomatch List.mem_singleton.mp taken
    | draw | disconnect => exact nomatch taken

end Steps

/-! ### Before the first chat -/

/-- Nobody has chatted yet: there is no active server, and no server has a channel. -/
structure Ui.Quiet (ui : Ui) : Prop where
  quiet : ¬ ui.Chatting
  inactive : ui.activeServer = none
  empty : ∀ server, (ui.servers.slot server).channels.count = 0

/-- ENTER is not pressed on a list of servers that has one. -/
def Ui.EntersNone (ui : Ui) (events : List UiEvent) : Prop :=
  .key .enter ∈ events → ui.currentScreen = .servers → ui.servers.count = 0

section Quiet

variable {now : Int} {packet : TizcordPacket} {ui after : Ui} {events : List UiEvent}

theorem Ui.Quiet.acts (quiet : ui.Quiet) : ui.ChatActs :=
  fun shown => absurd (Or.inl shown) quiet.quiet

/-- Without an active server, no packet brings a channel. -/
theorem Ui.Quiet.empty_of_packet (quiet : ui.Quiet)
    (processed : processNetworkPacket now packet ui = .ok after) (server : Fin uiMaxServers) :
    (after.servers.slot server).channels.count = 0 := by
  have closed : ui.openServer = none := by rw [Ui.openServer, quiet.inactive]; rfl
  rcases (processNetworkPacket_changes processed).servers with same | changed
  · rw [same]
    exact quiet.empty server
  · generalize after.servers = servers at changed
    cases changed with
    | signedOut => exact quiet.empty server
    | listed =>
      have written : ∀ entry : UIServer, entry.channels.count = 0 →
          (listedServer packet).channels.count = 0 := fun _ _ => listedServer_channels packet
      have cleared : ∀ index, (ui.servers.clear.slot index).channels.count = 0 := quiet.empty
      rcases fileServer_cases packet ui.servers with is | is | is | is <;> rw [is]
      · exact quiet.empty server
      · exact cleared server
      · exact SlotArray.forall_slot_file quiet.empty written server
      · exact SlotArray.forall_slot_file cleared written server
    | channels _ opened => exact absurd (opened.symm.trans closed) (Option.some_ne_none _)
    | members _ opened => exact absurd (opened.symm.trans closed) (Option.some_ne_none _)
    | message _ _ opened =>
      rw [Ui.openChannel, closed] at opened
      cases opened

theorem Ui.Quiet.of_packet (quiet : ui.Quiet)
    (processed : processNetworkPacket now packet ui = .ok after) : after.Quiet := by
  have screen : after.currentScreen = after.place.screen := rfl
  have previous : after.previousScreen = after.place.previous := rfl
  have active : after.activeServer = after.place.server := rfl
  have same := ui.place.closeCommand_eq
  refine ⟨?_, ?_, quiet.empty_of_packet processed⟩
  · cases processNetworkPacket_moves processed with
    | stays place | selects _ _ _ _ place =>
      rw [place] at screen previous
      exact fun chats => quiet.quiet (chatting_of_same screen previous chats)
    | signsIn _ _ place | signsOut _ place | leaves _ place | deletes _ _ place =>
      rw [place] at screen
      exact not_chatting screen nofun nofun
    | closes place | resets _ _ place =>
      rw [place] at screen previous
      exact fun chats => quiet.quiet (chatting_of_closeCommand screen
        (previous.trans (congrArg Place.previous same)) chats)
  · cases processNetworkPacket_moves processed with
    | stays place | selects _ _ _ _ place | signsIn _ _ place =>
      rw [active, place]
      exact quiet.inactive
    | signsOut _ place | leaves _ place | deletes _ _ place =>
      rw [active, place]
    | closes place | resets _ _ place =>
      rw [active, place]
      exact (congrArg Place.server same).trans quiet.inactive

theorem Ui.Quiet.of_key {key : Key} (quiet : ui.Quiet)
    (handled : handleKey now key ui = .ok after)
    (enters : key = .enter → ui.currentScreen = .servers → ui.servers.count = 0) :
    after.Quiet := by
  have empty : ∀ server, (after.servers.slot server).channels.count = 0 := by
    intro server
    rcases handleKey_cases handled with same | submits
    · rw [same.servers]
      exact quiet.empty server
    · rw [submits.servers]
      exact quiet.empty server
  have screen : after.currentScreen = after.place.screen := rfl
  have previous : after.previousScreen = after.place.previous := rfl
  have active : after.activeServer = after.place.server := rfl
  cases handleKey_moves handled with
  | stays place | erases _ place | types _ place | changesFriend _ _ _ place =>
    rw [place] at screen previous active
    exact ⟨fun chats => quiet.quiet (chatting_of_same screen previous chats),
      active.trans quiet.inactive, empty⟩
  | switchesForm _ form place =>
    rw [place] at screen active
    rcases form with rfl | rfl <;>
      exact ⟨not_chatting screen nofun nofun, active.trans quiet.inactive, empty⟩
  | turns _ list place =>
    rw [place] at screen active
    rcases list with rfl | rfl | rfl <;>
      exact ⟨not_chatting screen nofun nofun, active.trans quiet.inactive, empty⟩
  | leavesChat shown | changesChannel shown => exact absurd (Or.inl shown) quiet.quiet
  | opensDms _ place =>
    rw [place] at screen active
    exact ⟨not_chatting screen nofun nofun, active.trans quiet.inactive, empty⟩
  | entersServer shown filled => exact absurd (enters rfl shown) (Nat.ne_of_gt filled)
  | opensCommand _ place =>
    rw [place] at screen previous active
    refine ⟨?_, active.trans quiet.inactive, empty⟩
    rintro (is | ⟨-, is⟩)
    · exact nomatch screen.symm.trans is
    · exact quiet.quiet (Or.inl (previous.symm.trans is))
  | cancels shown place | submits shown place =>
    rw [place] at screen previous active
    refine ⟨?_, active.trans quiet.inactive, empty⟩
    rintro (is | ⟨-, is⟩)
    · exact quiet.quiet (Or.inr ⟨shown, screen.symm.trans is⟩)
    · exact quiet.quiet (Or.inr ⟨shown, previous.symm.trans is⟩)

/-- A step that enters no server leaves the client quiet. -/
theorem UiStep.quiet (step : UiStep ui events after) (quiet : ui.Quiet)
    (enters : ui.EntersNone events) : after.Quiet := by
  cases step with
  | packet now packet processed => exact quiet.of_packet processed
  | key now key handled =>
    exact quiet.of_key handled fun same => enters (same ▸ List.mem_cons_self)
  | draw =>
    have kept := (redraw_same ui).servers
    rcases redraw_place ui with place | ⟨-, -, place⟩ <;>
    · refine ⟨fun chats => quiet.quiet (chatting_of_same (congrArg Place.screen place)
        (congrArg Place.previous place) chats), (congrArg Place.server place).trans quiet.inactive,
        fun server => ?_⟩
      rw [kept]
      exact quiet.empty server
  | disconnect => exact ⟨quiet.quiet, quiet.inactive, quiet.empty⟩

/-- A server that is entered has no channels yet. -/
theorem UiStep.entersNone (step : UiStep ui events after) (quiet : ui.Quiet)
    (acts : after.ChatActs) : ui.EntersNone events := by
  intro pressed shown
  by_contra filled
  cases step with
  | packet => exact nomatch List.mem_singleton.mp pressed
  | key now pressedKey handled =>
    cases List.mem_singleton.mp pressed
    obtain ⟨place, servers⟩ := handleKey_enterServer shown (Nat.pos_of_ne_zero filled) handled
    have chat : after.currentScreen = .chat := congrArg Place.screen place
    obtain ⟨next, handledTab, -⟩ := (acts chat).tab 0
    have divides : handleKey 0 .tab after = .error .divisionByZero :=
      tab_divides chat (congrArg Place.server place) (by rw [servers]; exact quiet.empty _)
    exact nomatch divides.symm.trans handledTab
  | draw | disconnect => exact nomatch pressed

end Quiet

/-! ### Runs -/

/-- From the start of the client on, the chat acts on channels of the list in all states of a run
exactly when no server is entered: one that is entered has no channels yet. From a state in which
the chat has a channel of the list on, it has one in all states exactly when all steps are allowed,
and then it acts on channels of the list. -/
theorem chat_acts_iff {past : List UiEvent} {first last : Ui} {visits : List (Visit Ui UiEvent)}
    (reached : Steps UiStep Ui.start past first) (steps : Steps (Recorded UiStep) first visits last) :
    (first = Ui.start → ((∀ visit ∈ visits, visit.after.ChatActs) ↔
      ∀ visit ∈ visits, visit.before.EntersNone visit.events)) ∧
    (first.ChatsInChannel → ((∀ visit ∈ visits, visit.after.ChatsInChannel) ↔
        ∀ visit ∈ visits, visit.before.AllowsChat visit.events) ∧
      ((∀ visit ∈ visits, visit.before.AllowsChat visit.events) →
        ∀ visit ∈ visits, visit.after.ChatActs)) := by
  constructor
  · rintro rfl
    have start : Ui.start.Quiet := ⟨nofun, rfl, fun _ => rfl⟩
    refine steps.good_iff_allowed Ui.Quiet ?_ ?_ start start.acts
    · intro first events last step quiet _
      exact ⟨step.entersNone quiet, fun enters => (step.quiet quiet enters).acts⟩
    · intro first events last step quiet _ acts
      exact step.quiet quiet (step.entersNone quiet acts)
  · intro chats
    have behind : first.previousScreen.IsBehind :=
      reached.invariant (fun ui => ui.previousScreen.IsBehind) UiStep.behind (Or.inl rfl)
    have same : (∀ visit ∈ visits, visit.after.ChatsInChannel) ↔
        ∀ visit ∈ visits, visit.before.AllowsChat visit.events := by
      refine steps.good_iff_allowed (fun ui => ui.previousScreen.IsBehind) ?_ ?_ behind chats
      · intro first events last step behind chats
        exact ⟨step.allowsChat chats, step.chatsInChannel behind chats⟩
      · intro first events last step behind _ _
        exact step.behind behind
    exact ⟨same, fun allowed visit visited shown =>
      (same.mpr allowed visit visited (Or.inl shown)).acts shown⟩

/-- In the only channel of the only server, TAB leads to a state in which the chat acts on channels
of the list. -/
theorem chat_acts_only : ∃ past first visits last, Steps UiStep Ui.start past first ∧
    first.currentScreen = .chat ∧ Steps (Recorded UiStep) first visits last ∧ visits ≠ [] ∧
    ∀ visit ∈ visits, visit.after.ChatActs := by
  obtain ⟨ui, ran, shown, opened⟩ : ∃ ui, runUi chatRounds Ui.start = .ok ui ∧
      ui.currentScreen = .chat ∧ ui.openChannel = some (0, 0) :=
    reached_of_any (by decide +kernel)
  obtain ⟨past, reached⟩ := runUi_steps ran
  have has : ui.HasChannel := by
    obtain ⟨server, isOpen, used⟩ := Option.bind_eq_some_iff.mp opened
    split at used
    · next inside =>
      exact ⟨server, (Option.filter_eq_some_iff.mp isOpen).1, SlotArray.inUse_iff.mp inside⟩
    · cases used
  obtain ⟨after, handled, -⟩ := (has.acts shown).tab 0
  have steps := Steps.single (Recorded.take (UiStep.key 0 .tab handled))
  refine ⟨past, ui, _, after, reached, shown, steps, List.cons_ne_nil _ _, ?_⟩
  refine ((chat_acts_iff reached steps).2 fun _ => has).2 fun visit member => ?_
  rw [List.mem_singleton.mp member]
  constructor
  · exact fun pressed => nomatch List.mem_singleton.mp pressed
  · exact fun packet taken => nomatch List.mem_singleton.mp taken
  · exact fun packet taken => nomatch List.mem_singleton.mp taken

/-- The user signs in, enters the only server, and is told that it has no channels. -/
def emptyServerRounds : List UiRound :=
  [.of (authAnswer .login .ok), .of (onlyItem .list 1), .press [.enter],
    .of (emptyList .listChannels)]

/-- In this run TAB divides by zero. -/
theorem chat_acts_nowhere : ∃ visits last, Steps (Recorded UiStep) Ui.start visits last ∧
    ∃ visit ∈ visits, ¬ visit.after.ChatActs ∧
      handleKey 0 .tab visit.after = .error .divisionByZero := by
  obtain ⟨ui, ran, shown, active, empty⟩ : ∃ ui, runUi emptyServerRounds Ui.start = .ok ui ∧
      ui.currentScreen = .chat ∧ ui.activeServer = some 0 ∧
      (ui.servers.slot 0).channels.count = 0 := reached_of_any (by decide +kernel)
  obtain ⟨events, steps⟩ := runUi_steps ran
  obtain ⟨visits, recorded⟩ := steps.record
  have divides : handleKey 0 .tab ui = .error .divisionByZero := tab_divides shown active empty
  refine ⟨visits, ui, recorded, ?_⟩
  rcases recorded.last_visited with same | ⟨visit, visited, rfl⟩
  · rw [same] at shown
    cases shown
  · refine ⟨visit, visited, fun acts => ?_, divides⟩
    obtain ⟨after, handled, -⟩ := (acts shown).tab 0
    exact nomatch divides.symm.trans handled

end Tizcord
