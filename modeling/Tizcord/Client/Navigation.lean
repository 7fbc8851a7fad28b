/-
This file is about where the user is: which screen is shown, what stands on the
command line, and which server, channel, friend and user are selected. Keys and
packets change this in a few ways only, and the lemmas here say so once.
-/

import Tizcord.Client.Steps

namespace Tizcord

open CModel

/-! ### Places -/

/-- The part of the state that says where the user is. -/
structure Place where
  screen : Screen
  previous : Screen
  line : InputLine
  server : Option (Fin uiMaxServers)
  channel : Fin uiMaxChannels
  friend : Option (Fin maxFriends)
  user : Option (Fin maxUsers)
  accounts : Nat

def Ui.place (ui : Ui) : Place where
  screen := ui.currentScreen
  previous := ui.previousScreen
  line := ui.cmdInput
  server := ui.activeServer
  channel := ui.activeChannel
  friend := ui.activeDmFriend
  user := ui.currentUser
  accounts := ui.users.count

/-- The good end of a command closes the command line, if it is open. -/
def Place.closeCommand (place : Place) : Place :=
  if place.screen = .command then
    { place with line := place.line.clear, screen := place.previous }
  else place

/-- Closing the command line changes nothing but the line and the screen. -/
theorem Place.closeCommand_eq (place : Place) : place.closeCommand =
    { place with screen := place.closeCommand.screen, line := place.closeCommand.line } := by
  unfold closeCommand
  split <;> rfl

/-- A list that the user looks at. -/
def Screen.IsList (screen : Screen) : Prop :=
  screen = .servers ∨ screen = .friends ∨ screen = .users

def Screen.IsForm (screen : Screen) : Prop :=
  screen = .login ∨ screen = .signup

@[simp] theorem safeSendPacket_place (packet : TizcordPacket) (ui : Ui) :
    (Client.safeSendPacket packet ui).place = ui.place := by
  unfold Client.safeSendPacket
  split <;> rfl

@[simp] theorem place_auth (ui : Ui) (auth : AuthState) :
    ({ ui with auth } : Ui).place = ui.place :=
  rfl

@[simp] theorem place_say (ui : Ui) (message : String) : (ui.say message).place = ui.place := rfl

@[simp] theorem place_closeCommandLine (ui : Ui) :
    ui.closeCommandLine.place = ui.place.closeCommand := by
  unfold Ui.closeCommandLine Place.closeCommand
  by_cases shown : ui.currentScreen = .command
  · have open' : ui.place.screen = .command := shown
    rw [if_pos shown, if_pos open']
    rfl
  · have open' : ¬ ui.place.screen = .command := shown
    rw [if_neg shown, if_neg open']
    rfl

/-! ### Packets -/

/-- How a packet changes where the user is. -/
inductive PacketMoves (packet : TizcordPacket) (ui after : Ui) : Prop where
  | stays (place : after.place = ui.place)
  | signsIn (room : ui.users.count < maxUsers)
      (asked : packet.request = some (.auth .login) ∨ packet.request = some (.auth .register))
      (place : after.place = { ui.place with
        screen := .servers, user := some ⟨ui.users.count, room⟩, accounts := ui.users.count + 1 })
  | signsOut (asked : packet.request = some (.auth .logout))
      (place : after.place = ⟨.login, .login, ui.cmdInput.clear, none, 0, none, none,
        ui.users.count⟩)
  | leaves (asked : packet.request = some (.server .leave))
      (place : after.place = { ui.place with screen := .servers, server := none, channel := 0 })
  | closes (place : after.place = ui.place.closeCommand)
  | deletes {server : Fin uiMaxServers} (asked : packet.request = some (.server .delete))
      (active : ui.activeServer = some server)
      (place : after.place = { ui.place.closeCommand with screen := .servers, server := none })
  | resets {server : Fin uiMaxServers} (asked : packet.request = some (.channel .delete))
      (active : ui.activeServer = some server)
      (place : after.place = { ui.place.closeCommand with channel := 0 })
  | selects {friend : Fin maxFriends} (asked : packet.request = some (.social .listFriends))
      (shown : ui.currentScreen = .dms) (found : ui.firstFriend = some friend)
      (friends : after.friends = ui.friends)
      (place : after.place = { ui.place with friend := some friend })

section Packets

variable {now : Int} {packet : TizcordPacket} {ui after : Ui}

theorem handleAuthResponse_moves {action : AuthAction}
    (asked : packet.request = some (.auth action))
    (processed : handleAuthResponse now packet ui (some action) = .ok after) :
    PacketMoves packet ui after := by
  have signsIn : ∀ {after : Ui}, signIn now ui = .ok after →
      ∃ room : ui.users.count < maxUsers, after.place = { ui.place with
        screen := .servers, user := some ⟨ui.users.count, room⟩, accounts := ui.users.count + 1 } := by
    intro after signed
    unfold signIn at signed
    split at signed
    · next room =>
      obtain rfl := Except.ok.inj signed
      refine ⟨room, (safeSendPacket_place _ _).trans ?_⟩
      simp only [Ui.place, SlotArray.count_file_of_room room]
    · cases signed
  cases action with
  | login =>
    unfold handleAuthResponse at processed
    dsimp only at processed
    split at processed
    · obtain ⟨room, place⟩ := signsIn processed
      exact .signsIn room (Or.inl asked) place
    · obtain rfl := Except.ok.inj processed
      exact .stays (place_auth _ _)
  | register =>
    unfold handleAuthResponse at processed
    dsimp only at processed
    split at processed
    · obtain ⟨room, place⟩ := signsIn processed
      exact .signsIn room (Or.inr asked) place
    · obtain rfl := Except.ok.inj processed
      exact .stays (place_auth _ _)
  | logout =>
    obtain rfl := Except.ok.inj processed
    exact .signsOut asked rfl

theorem serverDeleted_moves (asked : packet.request = some (.server .delete))
    (processed : serverDeleted now packet ui = .ok after) : PacketMoves packet ui after := by
  unfold serverDeleted at processed
  split at processed
  · dsimp only at processed
    have closed : (Client.listAllServersRequest now ui.closeCommandLine).place =
        ui.place.closeCommand := by simp
    have active : (Client.listAllServersRequest now ui.closeCommandLine).activeServer =
        ui.activeServer := by
      rw [Client.listAllServersRequest, safeSendPacket_activeServer]
      unfold Ui.closeCommandLine
      split <;> rfl
    rw [active] at processed
    cases is : ui.activeServer with
    | none =>
      rw [is] at processed
      obtain rfl := Except.ok.inj processed
      exact .closes closed
    | some server =>
      rw [is] at processed
      dsimp only at processed
      split at processed
      · obtain ⟨user, -, processed⟩ := bind_eq_ok processed
        obtain rfl := Except.ok.inj processed
        refine .deletes asked is ?_
        rw [← closed]
        rfl
      · obtain rfl := Except.ok.inj processed
        exact .closes closed
  · obtain rfl := Except.ok.inj processed
    exact .stays (place_say _ _)

theorem serverLeft_moves (asked : packet.request = some (.server .leave)) :
    PacketMoves packet ui (serverLeft now packet ui) := by
  unfold serverLeft
  split
  · refine .leaves asked ?_
    dsimp only
    rw [Client.listAllServersRequest, safeSendPacket_place]
    cases signed : ui.currentUser <;> simp [Ui.place, Ui.setUserServer, signed]
  · exact .stays rfl

theorem memberKicked_moves : PacketMoves packet ui (memberKicked now packet ui) := by
  unfold memberKicked
  split
  · dsimp only
    split
    · exact .closes (place_closeCommandLine ui)
    · exact .closes (by simp)
  · exact .stays (place_say _ _)

theorem channelListed_place (now : Int) (packet : TizcordPacket) (ui : Ui) :
    (channelListed now packet ui).place = ui.place := by
  unfold channelListed
  split
  · rfl
  · dsimp only
    split
    · exact safeSendPacket_place _ _
    · rfl

/-- Asking for something opens and closes no server. -/
theorem openServer_safeSendPacket (packet : TizcordPacket) (ui : Ui) :
    (Client.safeSendPacket packet ui).openServer = ui.openServer := by
  simp only [Ui.openServer, safeSendPacket_activeServer, safeSendPacket_servers]

/-- A row of a list of channels changes the channels of the open server only. -/
theorem channelListed_entry {server : Fin uiMaxServers} (opened : ui.openServer = some server) :
    (channelListed now packet ui).openServer = some server ∧
      ((channelListed now packet ui).servers.slot server).channels =
        fileChannel packet (ui.servers.slot server).channels := by
  rw [channelListed, opened]
  dsimp only
  split
  · rw [Client.requestChannelHistory, openServer_safeSendPacket, safeSendPacket_servers]
    exact ⟨opened, by simp [Ui.modifyServer]⟩
  · exact ⟨opened, by simp [Ui.modifyServer]⟩

theorem memberListed_moves (processed : memberListed packet ui = .ok after) :
    PacketMoves packet ui after := by
  unfold memberListed at processed
  split at processed
  · obtain rfl := Except.ok.inj processed
    exact .stays rfl
  · obtain ⟨entry, -, processed⟩ := bind_eq_ok processed
    obtain rfl := Except.ok.inj processed
    exact .stays rfl

theorem place_servers (ui : Ui) (servers : SlotArray UIServer uiMaxServers) :
    ({ ui with servers } : Ui).place = ui.place := rfl

theorem serverListed_place (packet : TizcordPacket) (ui : Ui) :
    (serverListed packet ui).place = ui.place := by
  unfold serverListed
  exact place_servers ui _

theorem updateServerState_moves {action : ServerAction}
    (asked : packet.request = some (.server action))
    (processed : updateServerState now packet ui (some action) = .ok after) :
    PacketMoves packet ui after := by
  cases action with
  | join =>
    obtain rfl := Except.ok.inj processed
    exact .stays rfl
  | create =>
    obtain rfl := Except.ok.inj processed
    refine .stays ?_
    split
    · exact safeSendPacket_place _ _
    · rfl
  | leave =>
    obtain rfl := Except.ok.inj processed
    exact serverLeft_moves asked
  | delete => exact serverDeleted_moves asked processed
  | kickMember =>
    obtain rfl := Except.ok.inj processed
    exact memberKicked_moves
  | list | listJoined =>
    obtain rfl := Except.ok.inj processed
    exact .stays (serverListed_place packet ui)
  | listChannels =>
    obtain rfl := Except.ok.inj processed
    exact .stays (channelListed_place now packet ui)
  | listMembers => exact memberListed_moves processed

theorem updateChannelState_moves {action : ChannelAction}
    (asked : packet.request = some (.channel action)) :
    PacketMoves packet ui (updateChannelState now packet ui (some action)) := by
  cases action with
  | historyRequest => exact .stays rfl
  | message =>
    refine .stays ?_
    unfold updateChannelState uiReceiveChannelMessage
    dsimp only
    split <;> rfl
  | create =>
    unfold updateChannelState channelCreated
    dsimp only
    split
    · split
      · exact .closes (place_closeCommandLine ui)
      · exact .closes (by simp)
    · exact .stays (place_say _ _)
  | delete =>
    have active : ui.closeCommandLine.activeServer = ui.activeServer := by
      unfold Ui.closeCommandLine
      split <;> rfl
    unfold updateChannelState channelDeleted
    dsimp only
    split
    · rw [active]
      cases is : ui.activeServer with
      | none => exact .closes (place_closeCommandLine ui)
      | some server =>
        refine .resets asked is ?_
        rw [← place_closeCommandLine]
        refine (safeSendPacket_place _ _).trans ?_
        simp only [Ui.place, active, is]
    · exact .stays (place_say _ _)

theorem friendListed_moves (asked : packet.request = some (.social .listFriends)) :
    PacketMoves packet ui (friendListed now packet ui) := by
  unfold friendListed
  split
  · exact .stays rfl
  · split
    · exact .stays rfl
    · split
      · unfold friendListEnded
        split
        · next shown =>
          cases found : ui.firstFriend with
          | none => exact .stays rfl
          | some friend =>
            exact .selects asked shown found (safeSendPacket_friends _ _) (safeSendPacket_place _ _)
        · exact .stays rfl
      · exact .stays rfl

theorem updateSocialState_moves {action : SocialAction}
    (asked : packet.request = some (.social action)) :
    PacketMoves packet ui (updateSocialState now packet ui (some action)) := by
  cases action with
  | friendRequest | friendAccept | friendReject | friendRemove => exact .stays rfl
  | listFriends => exact friendListed_moves asked
  | listUsers =>
    refine .stays ?_
    unfold updateSocialState userListed
    dsimp only
    split_ifs <;> rfl
  | updateStatus =>
    unfold updateSocialState statusUpdated
    dsimp only
    split
    · split
      · refine .closes ((place_closeCommandLine _).trans ?_)
        rw [Client.requestUserList, safeSendPacket_place]
        rfl
      · exact .stays rfl
    · exact .stays (place_say _ _)

/-- What a packet does to the place. -/
theorem processNetworkPacket_moves (processed : processNetworkPacket now packet ui = .ok after) :
    PacketMoves packet ui after := by
  rw [processNetworkPacket_eq] at processed
  cases asked : packet.request with
  | none =>
    rw [asked] at processed
    obtain rfl := Except.ok.inj processed
    exact .stays rfl
  | some request =>
    rw [asked] at processed
    cases request with
    | auth action => exact handleAuthResponse_moves asked processed
    | server action => exact updateServerState_moves asked processed
    | dm action =>
      obtain rfl := Except.ok.inj processed
      refine .stays ?_
      cases action with
      | historyRequest => rfl
      | message =>
        unfold updateDmState uiReceiveDmMessage
        dsimp only
        split <;> rfl
    | channel action =>
      obtain rfl := Except.ok.inj processed
      exact updateChannelState_moves asked
    | social action =>
      obtain rfl := Except.ok.inj processed
      exact updateSocialState_moves asked

end Packets

/-! ### Keys -/

/-- Whether F1 opens the command line. -/
def Ui.takesCommand (ui : Ui) : Prop :=
  ui.currentScreen.IsList ∨ ui.currentScreen = .chat ∧ ui.chatInput.length = 0

/-- How a key changes where the user is. -/
inductive KeyMoves (ui after : Ui) : Key → Prop where
  | stays {key : Key} (place : after.place = ui.place) : KeyMoves ui after key
  | switchesForm {key : Key} {screen : Screen} (shown : ui.currentScreen.IsForm)
      (form : screen.IsForm) (place : after.place = { ui.place with screen }) :
      KeyMoves ui after key
  | turns {key : Key} {screen : Screen}
      (shown : ui.currentScreen.IsList ∨ ui.currentScreen = .chat ∨ ui.currentScreen = .dms)
      (list : screen.IsList) (place : after.place = { ui.place with screen }) :
      KeyMoves ui after key
  | leavesChat (shown : ui.currentScreen = .chat) (closed : ui.openServer = none)
      (place : after.place = { ui.place with screen := .servers, server := none }) :
      KeyMoves ui after .f2
  | opensDms (shown : ui.currentScreen = .servers)
      (place : after.place = { ui.place with screen := .dms }) : KeyMoves ui after .f4
  | entersServer {user : Fin maxUsers} (shown : ui.currentScreen = .servers)
      (filled : 0 < ui.servers.count) (signed : ui.currentUser = some user)
      (place : after.place = { ui.place with
        screen := .chat, server := some ui.serverCursor, channel := 0 }) : KeyMoves ui after .enter
  | changesChannel {server : Fin uiMaxServers} {channel : Fin uiMaxChannels}
      (shown : ui.currentScreen = .chat) (active : ui.activeServer = some server)
      (below : channel.val < (ui.servers.slot server).channels.count)
      (place : after.place = { ui.place with channel }) : KeyMoves ui after .tab
  | opensCommand (takes : ui.takesCommand)
      (place : after.place = { ui.place with
        previous := ui.currentScreen, screen := .command, line := ui.cmdInput.openCommand }) :
      KeyMoves ui after .f1
  | cancels (shown : ui.currentScreen = .command)
      (place : after.place = { ui.place with screen := ui.previousScreen }) :
      KeyMoves ui after .escape
  | submits (shown : ui.currentScreen = .command)
      (place : after.place = { ui.place with
        screen := ui.previousScreen, line := ui.cmdInput.clear }) : KeyMoves ui after .enter
  | erases (shown : ui.currentScreen = .command)
      (place : after.place = { ui.place with line := ui.cmdInput.backspace }) :
      KeyMoves ui after .backspace
  | types {character : Printable} (shown : ui.currentScreen = .command)
      (place : after.place = { ui.place with line := ui.cmdInput.type character.val }) :
      KeyMoves ui after (.printable character)
  | changesFriend {friend : Fin maxFriends} (shown : ui.currentScreen = .dms)
      (below : friend.val < ui.friends.count)
      (accepted : (ui.friends.slot friend).type = acceptedType)
      (place : after.place = { ui.place with friend := some friend }) : KeyMoves ui after .tab

section Keys

variable {now : Int} {key : Key} {ui after : Ui}

theorem submitAuth_place (now : Int) (isSignup : Bool) (ui : Ui) :
    (submitAuth now isSignup ui).place = ui.place := by
  have requested : ∀ (packet : TizcordPacket) (auth : AuthState),
      ({ Client.safeSendPacket packet ui with auth } : Ui).place = ui.place :=
    fun packet _ => safeSendPacket_place packet ui
  unfold submitAuth
  dsimp only
  split
  · exact place_auth _ _
  · split
    · exact place_auth _ _
    · split
      · exact requested _ _
      · exact requested _ _

theorem handleAuthInput_moves {isSignup : Bool} (shown : ui.currentScreen.IsForm) :
    KeyMoves ui (handleAuthInput now isSignup key ui) key := by
  cases key with
  | enter => exact .stays (submitAuth_place _ _ _)
  | f2 =>
    cases isSignup with
    | true => exact .switchesForm shown (Or.inl rfl) rfl
    | false => exact .switchesForm shown (Or.inr rfl) rfl
  | printable character =>
    refine .stays ?_
    unfold handleAuthInput
    dsimp only
    split <;> rfl
  | tab | escape | backspace | up | down | f1 | f3 | f4 | other => exact .stays rfl

theorem enterServer_moves (shown : ui.currentScreen = .servers)
    (handled : enterServer now ui = .ok after) : KeyMoves ui after .enter := by
  unfold enterServer at handled
  split at handled
  · obtain rfl := Except.ok.inj handled
    exact .stays rfl
  · next filled =>
    obtain ⟨user, signed, handled⟩ := bind_eq_ok handled
    obtain rfl := Except.ok.inj handled
    refine .entersServer shown (Nat.pos_of_ne_zero filled) (anyUser_eq_ok.mp signed) ?_
    simp
    rfl

theorem handleServerInput_moves (shown : ui.currentScreen = .servers)
    (handled : handleServerInput now key ui = .ok after) : KeyMoves ui after key := by
  have list : ui.currentScreen.IsList := Or.inl shown
  cases key with
  | enter => exact enterServer_moves shown handled
  | f1 =>
    obtain rfl := Except.ok.inj handled
    exact .opensCommand (Or.inl list) rfl
  | f2 =>
    obtain rfl := Except.ok.inj handled
    exact .turns (Or.inl list) (Or.inr (Or.inl rfl)) (safeSendPacket_place _ _)
  | f3 =>
    obtain rfl := Except.ok.inj handled
    exact .turns (Or.inl list) (Or.inr (Or.inr rfl)) (safeSendPacket_place _ _)
  | f4 =>
    obtain rfl := Except.ok.inj handled
    exact .opensDms shown (safeSendPacket_place _ _)
  | escape =>
    obtain rfl := Except.ok.inj handled
    exact .stays (safeSendPacket_place _ _)
  | down =>
    obtain rfl := Except.ok.inj handled
    refine .stays ?_
    unfold Ui.cursorDown
    split <;> rfl
  | up | tab | backspace | printable | other =>
    obtain rfl := Except.ok.inj handled
    exact .stays rfl

theorem anyServer_eq_ok {server : Fin uiMaxServers} :
    ui.anyServer = .ok server ↔ ui.activeServer = some server := by
  rw [Ui.anyServer]
  cases ui.activeServer with
  | none => exact ⟨nofun, nofun⟩
  | some index => exact ⟨fun same => congrArg some (Except.ok.inj same), fun same =>
      congrArg Except.ok (Option.some.inj same)⟩

theorem nextChannel_moves (shown : ui.currentScreen = .chat)
    (handled : nextChannel now ui = .ok after) : KeyMoves ui after .tab := by
  obtain ⟨server, active, handled⟩ := bind_eq_ok handled
  dsimp only at handled
  split at handled
  · next positive =>
    obtain rfl := Except.ok.inj handled
    exact .changesChannel shown (anyServer_eq_ok.mp active) (Nat.mod_lt _ positive)
      (safeSendPacket_place _ _)
  · cases handled

theorem submitChat_place (handled : submitChat now ui = .ok after) : after.place = ui.place := by
  unfold submitChat at handled
  split at handled
  · obtain ⟨server, -, handled⟩ := bind_eq_ok handled
    obtain rfl := Except.ok.inj handled
    exact safeSendPacket_place _ _
  · obtain rfl := Except.ok.inj handled
    rfl

theorem leaveChat_moves (shown : ui.currentScreen = .chat)
    (handled : leaveChat ui = .ok after) : KeyMoves ui after .f2 := by
  unfold leaveChat at handled
  dsimp only at handled
  split at handled
  · obtain rfl := Except.ok.inj handled
    exact .turns (Or.inr (Or.inl shown)) (Or.inl rfl) rfl
  · next closed =>
    obtain ⟨user, -, handled⟩ := bind_eq_ok handled
    obtain rfl := Except.ok.inj handled
    exact .leavesChat shown (Option.not_isSome_iff_eq_none.mp closed) rfl

theorem handleChatInput_moves (shown : ui.currentScreen = .chat)
    (handled : handleChatInput now key ui = .ok after) : KeyMoves ui after key := by
  cases key with
  | tab => exact nextChannel_moves shown handled
  | enter => exact .stays (submitChat_place handled)
  | f2 => exact leaveChat_moves shown handled
  | f1 =>
    obtain rfl := Except.ok.inj handled
    by_cases empty : ui.chatInput.length = 0
    · rw [if_pos empty]
      exact .opensCommand (Or.inr ⟨shown, empty⟩) rfl
    · rw [if_neg empty]
      exact .stays rfl
  | backspace | printable | escape | up | down | f3 | f4 | other =>
    obtain rfl := Except.ok.inj handled
    exact .stays rfl

theorem friendCommand_place {request : Text → Ui → Ui} (name : Text)
    (keeps : ∀ name ui, (request name ui).place = ui.place) :
    (friendCommand now request name ui).2.place = ui.place := by
  unfold friendCommand
  dsimp only
  split
  · rfl
  · exact (safeSendPacket_place _ _).trans (keeps name ui)

theorem kickCommand_place {line : Text} {result : CommandResult}
    (ran : kickCommand now line ui = .ok result) : result.2.place = ui.place := by
  unfold kickCommand at ran
  split at ran
  · obtain rfl := Except.ok.inj ran
    exact place_say _ _
  · split at ran
    · obtain rfl := Except.ok.inj ran
      rfl
    · dsimp only at ran
      split at ran
      · obtain rfl := Except.ok.inj ran
        rfl
      · obtain ⟨targetId, -, ran⟩ := bind_eq_ok ran
        obtain rfl := Except.ok.inj ran
        dsimp only
        split
        · exact (place_say _ _).trans (safeSendPacket_place _ _)
        · exact place_say _ _

/-- No command by itself changes where the user is. -/
theorem runCommand_place {line : Text} {command : Command} {result : CommandResult}
    (ran : runCommand now line ui command = .ok result) : result.2.place = ui.place := by
  cases command with
  | kick => exact kickCommand_place ran
  | friend | accept | unfriend | reject =>
    obtain rfl := Except.ok.inj ran
    exact friendCommand_place _ fun _ _ => safeSendPacket_place _ _
  | help =>
    obtain rfl := Except.ok.inj ran
    rfl
  | unknown =>
    obtain rfl := Except.ok.inj ran
    exact place_say _ _
  | createServer =>
    obtain rfl := Except.ok.inj ran
    unfold createServerCommand
    dsimp only
    split
    · rfl
    · exact safeSendPacket_place _ _
  | leaveServer =>
    obtain rfl := Except.ok.inj ran
    unfold leaveServerCommand
    split
    · exact safeSendPacket_place _ _
    · exact place_say _ _
  | createChannel =>
    obtain rfl := Except.ok.inj ran
    unfold createChannelCommand
    dsimp only
    split
    · exact place_say _ _
    · split
      · rfl
      · split
        · exact place_say _ _
        · exact (place_say _ _).trans (safeSendPacket_place _ _)
  | deleteServer =>
    obtain rfl := Except.ok.inj ran
    unfold deleteServerCommand
    dsimp only
    split
    · exact (place_say _ _).trans (safeSendPacket_place _ _)
    · exact place_say _ _
  | deleteChannel =>
    obtain rfl := Except.ok.inj ran
    unfold deleteChannelCommand
    dsimp only
    split
    · exact place_say _ _
    · split
      · exact place_say _ _
      · split
        · exact (place_say _ _).trans (safeSendPacket_place _ _)
        · exact place_say _ _
  | setStatus =>
    obtain rfl := Except.ok.inj ran
    unfold setStatusCommand
    dsimp only
    split
    · exact place_say _ _
    · split
      · exact place_say _ _
      · exact (place_say _ _).trans (safeSendPacket_place _ _)

theorem handleCommandInput_types {character : Printable}
    (handled : handleCommandInput now (.printable character) ui = .ok after) :
    after.place = { ui.place with line := ui.cmdInput.type character.val } := by
  obtain rfl := Except.ok.inj handled
  by_cases room : ui.cmdInput.length < maxMsgLen - 1
  · rw [if_pos room]
    rfl
  · have full : ui.cmdInput.type character.val = ui.cmdInput := if_neg room
    rw [if_neg room, full]
    rfl

theorem handleCommandInput_erases (handled : handleCommandInput now .backspace ui = .ok after) :
    after.place = { ui.place with line := ui.cmdInput.backspace } := by
  obtain rfl := Except.ok.inj handled
  rfl

theorem handleCommandInput_moves (shown : ui.currentScreen = .command)
    (handled : handleCommandInput now key ui = .ok after) : KeyMoves ui after key := by
  cases key with
  | enter =>
    obtain ⟨result, found, handled⟩ := bind_eq_ok handled
    have same := runCommand_place found
    obtain rfl := Except.ok.inj handled
    cases result.1 with
    | true =>
      refine .submits shown ?_
      have previous : result.2.previousScreen = ui.previousScreen := congrArg Place.previous same
      have line : result.2.cmdInput = ui.cmdInput := congrArg Place.line same
      rw [← same, ← previous, ← line]
      rfl
    | false => exact .stays same
  | escape =>
    obtain rfl := Except.ok.inj handled
    exact .cancels shown rfl
  | backspace => exact .erases shown (handleCommandInput_erases handled)
  | printable character => exact .types shown (handleCommandInput_types handled)
  | tab | up | down | f1 | f2 | f3 | f4 | other =>
    obtain rfl := Except.ok.inj handled
    exact .stays rfl

theorem handleFriendsInput_moves (shown : ui.currentScreen = .friends) :
    KeyMoves ui (handleFriendsInput now key ui) key := by
  have list : ui.currentScreen.IsList := Or.inr (Or.inl shown)
  cases key with
  | f1 => exact .opensCommand (Or.inl list) rfl
  | f2 => exact .turns (Or.inl list) (Or.inl rfl) (safeSendPacket_place _ _)
  | f3 => exact .turns (Or.inl list) (Or.inr (Or.inr rfl)) (safeSendPacket_place _ _)
  | escape => exact .stays (safeSendPacket_place _ _)
  | down =>
    refine .stays ?_
    unfold handleFriendsInput
    dsimp only
    split <;> rfl
  | up | tab | enter | backspace | f4 | printable | other => exact .stays rfl

theorem handleUsersInput_moves (shown : ui.currentScreen = .users) :
    KeyMoves ui (handleUsersInput now key ui) key := by
  have list : ui.currentScreen.IsList := Or.inr (Or.inr shown)
  cases key with
  | f1 => exact .opensCommand (Or.inl list) rfl
  | f2 => exact .turns (Or.inl list) (Or.inl rfl) (safeSendPacket_place _ _)
  | escape => exact .stays (safeSendPacket_place _ _)
  | down =>
    refine .stays ?_
    unfold handleUsersInput
    dsimp only
    split <;> rfl
  | up | tab | enter | backspace | f3 | f4 | printable | other => exact .stays rfl

/-- The loop of TAB ends at an accepted friend. -/
theorem nextFriend_accepted {friends : SlotArray UIFriend maxFriends}
    {positive : 0 < friends.count} {rounds : Nat} {index next : Fin maxFriends}
    (found : nextFriend friends positive rounds index = .ok next) :
    next.val < friends.count ∧ (friends.slot next).type = acceptedType := by
  induction rounds generalizing index with
  | zero => cases found
  | succ rounds inductionHypothesis =>
    unfold nextFriend at found
    dsimp only at found
    split at found
    · next accepted =>
      obtain rfl := Except.ok.inj found
      exact ⟨Nat.mod_lt _ positive, accepted⟩
    · exact inductionHypothesis found

theorem cycleFriend_moves {active : Fin maxFriends} (shown : ui.currentScreen = .dms)
    (handled : cycleFriend now active ui = .ok after) : KeyMoves ui after .tab := by
  unfold cycleFriend at handled
  split at handled
  · obtain ⟨next, found, handled⟩ := bind_eq_ok handled
    obtain rfl := Except.ok.inj handled
    obtain ⟨below, accepted⟩ := nextFriend_accepted found
    exact .changesFriend shown below accepted (safeSendPacket_place _ _)
  · cases handled

theorem submitDm_place {active : Fin maxFriends} (handled : submitDm now active ui = .ok after) :
    after.place = ui.place := by
  unfold submitDm at handled
  split at handled
  · obtain ⟨middle, filed, handled⟩ := bind_eq_ok handled
    obtain rfl := Except.ok.inj handled
    unfold fileOwnMessage at filed
    split at filed
    · obtain ⟨user, -, filed⟩ := bind_eq_ok filed
      obtain rfl := Except.ok.inj filed
      exact safeSendPacket_place _ _
    · obtain rfl := Except.ok.inj filed
      exact safeSendPacket_place _ _
  · obtain rfl := Except.ok.inj handled
    rfl

theorem handleDmsInput_moves (shown : ui.currentScreen = .dms)
    (handled : handleDmsInput now key ui = .ok after) : KeyMoves ui after key := by
  unfold handleDmsInput at handled
  split at handled
  · obtain rfl := Except.ok.inj handled
    cases key with
    | f2 => exact .turns (Or.inr (Or.inr shown)) (Or.inl rfl) rfl
    | tab | enter | escape | backspace | up | down | f1 | f3 | f4 | printable | other =>
      exact .stays rfl
  · cases key with
    | tab => exact cycleFriend_moves shown handled
    | enter => exact .stays (submitDm_place handled)
    | f2 =>
      obtain rfl := Except.ok.inj handled
      exact .turns (Or.inr (Or.inr shown)) (Or.inl rfl) rfl
    | escape | backspace | up | down | f1 | f3 | f4 | printable | other =>
      obtain rfl := Except.ok.inj handled
      exact .stays rfl

/-- What a key does to the place. -/
theorem handleKey_moves (handled : handleKey now key ui = .ok after) : KeyMoves ui after key := by
  unfold handleKey at handled
  cases shown : ui.currentScreen with
  | login =>
    rw [shown] at handled
    obtain rfl := Except.ok.inj handled
    exact handleAuthInput_moves (Or.inl shown)
  | signup =>
    rw [shown] at handled
    obtain rfl := Except.ok.inj handled
    exact handleAuthInput_moves (Or.inr shown)
  | servers =>
    rw [shown] at handled
    exact handleServerInput_moves shown handled
  | friends =>
    rw [shown] at handled
    obtain rfl := Except.ok.inj handled
    exact handleFriendsInput_moves shown
  | chat =>
    rw [shown] at handled
    exact handleChatInput_moves shown handled
  | command =>
    rw [shown] at handled
    exact handleCommandInput_moves shown handled
  | dms =>
    rw [shown] at handled
    exact handleDmsInput_moves shown handled
  | users =>
    rw [shown] at handled
    obtain rfl := Except.ok.inj handled
    exact handleUsersInput_moves shown

end Keys

/-- Drawing selects a friend at most. -/
theorem redraw_place (ui : Ui) :
    (redraw ui).place = ui.place ∨
      ui.currentScreen = .dms ∧ ui.activeDmFriend = none ∧
        (redraw ui).place = { ui.place with friend := ui.firstFriend } := by
  unfold redraw
  split
  · next shown =>
    unfold drawDms
    split
    · next selected => exact Or.inr ⟨shown, selected, rfl⟩
    · exact Or.inl rfl
  all_goals exact Or.inl rfl

/-! ### The screen behind the command line -/

/-- A screen that can stand behind the command line. -/
def Screen.IsBehind (screen : Screen) : Prop :=
  screen = .login ∨ screen.IsList ∨ screen = .chat

theorem Screen.IsBehind.ne_command {screen : Screen} (behind : screen.IsBehind) :
    screen ≠ .command := by
  rcases behind with rfl | (rfl | rfl | rfl) | rfl <;> nofun

theorem Screen.IsBehind.ne_dms {screen : Screen} (behind : screen.IsBehind) : screen ≠ .dms := by
  rcases behind with rfl | (rfl | rfl | rfl) | rfl <;> nofun

theorem UiStep.behind {ui after : Ui} {events : List UiEvent} (step : UiStep ui events after)
    (behind : ui.previousScreen.IsBehind) : after.previousScreen.IsBehind := by
  have is : after.previousScreen = after.place.previous := rfl
  cases step with
  | packet now packet processed =>
    cases processNetworkPacket_moves processed with
    | stays place | signsIn _ _ place | leaves _ place | selects _ _ _ _ place =>
      rw [is, place]
      exact behind
    | signsOut _ place =>
      rw [is, place]
      exact Or.inl rfl
    | closes place | deletes _ _ place | resets _ _ place =>
      rw [is, place]
      have same : ui.place.closeCommand.previous = ui.previousScreen :=
        congrArg Place.previous ui.place.closeCommand_eq
      exact same ▸ behind
  | key now key handled =>
    cases handleKey_moves handled with
    | opensCommand takes place =>
      rw [is, place]
      exact Or.inr (takes.imp_right And.left)
    | stays place | switchesForm _ _ place | turns _ _ place | leavesChat _ _ place
    | opensDms _ place | entersServer _ _ _ place | changesChannel _ _ _ place | cancels _ place
    | submits _ place | erases _ place | types _ place | changesFriend _ _ _ place =>
      rw [is, place]
      exact behind
  | draw =>
    rcases redraw_place ui with place | ⟨-, -, place⟩ <;>
    · rw [is, place]
      exact behind
  | disconnect => exact behind

end Tizcord
