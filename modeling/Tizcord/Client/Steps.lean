/-
This file says what the client does as a relation: it takes steps, each of which
processes a packet, handles a key, draws the screen or loses the connection. The
rounds of the loop are such steps. Most handlers leave most of the state alone,
and the lemmas here say so once.
-/

import Tizcord.Client.Loop
import Tizcord.Library.Steps
import Tizcord.Shared.Requests

namespace Tizcord

open CModel

/-! ### Steps -/

/-- What a step of the client takes in. -/
inductive UiEvent where
  | packet (packet : TizcordPacket)
  | key (key : Key)

/-- One step of the client. -/
inductive UiStep : Ui → List UiEvent → Ui → Prop where
  | packet {ui after : Ui} (now : Int) (packet : TizcordPacket)
      (processed : processNetworkPacket now packet ui = .ok after) :
      UiStep ui [.packet packet] after
  | key {ui after : Ui} (now : Int) (key : Key) (handled : handleKey now key ui = .ok after) :
      UiStep ui [.key key] after
  | draw (ui : Ui) : UiStep ui [] (redraw ui)
  | disconnect (ui : Ui) : UiStep ui [] { ui with connected := false }

theorem handleKeys_steps {now : Int} {keys : List Key} {ui after : Ui}
    (handled : handleKeys now keys ui = .ok after) :
    Steps UiStep ui (keys.map .key) after := by
  induction keys generalizing ui with
  | nil =>
    obtain rfl := Except.ok.inj handled
    exact .none ui
  | cons key rest inductionHypothesis =>
    rw [handleKeys, List.foldlM_cons] at handled
    cases first : handleKey now key ui with
    | error fault =>
      rw [first] at handled
      cases handled
    | ok middle =>
      rw [first] at handled
      exact (Steps.single (.key now key first)).trans (inductionHypothesis handled)

/-- The packet of a round, if it has one that the client looks at. -/
def UiRound.packets (round : UiRound) (connected : Bool) : List UiEvent :=
  match round.network with
  | some (.received packet) => if connected then [.packet packet] else []
  | some .closed | some (.failed _) | none => []

theorem receive_steps {round : UiRound} {ui after : Ui}
    (received : ui.receive round.now round.network = .ok after) :
    Steps UiStep ui (round.packets ui.connected) after := by
  obtain ⟨network, keys, now⟩ := round
  cases network with
  | none =>
    obtain rfl := Except.ok.inj received
    exact .none ui
  | some result =>
    dsimp only [Ui.receive] at received
    split at received
    · next connected =>
      cases result with
      | received packet =>
        rw [UiRound.packets, connected]
        exact .single (.packet now packet received)
      | closed | failed =>
        obtain rfl := Except.ok.inj received
        exact .single (.disconnect ui)
    · next disconnected =>
      obtain rfl := Except.ok.inj received
      have none' : (UiRound.packets ⟨some result, keys, now⟩ ui.connected) = [] := by
        cases result <;> simp [UiRound.packets, disconnected]
      rw [none']
      exact .none ui

/-- A round of the loop is some steps. -/
theorem UiRound.run_steps {round : UiRound} {ui after : Ui} (ran : round.run ui = .ok after) :
    Steps UiStep ui (round.packets ui.connected ++ round.keys.map .key) after := by
  rw [run] at ran
  cases received : ui.receive round.now round.network with
  | error fault =>
    rw [received] at ran
    cases ran
  | ok middle =>
    rw [received] at ran
    cases handled : handleKeys round.now round.keys middle with
    | error fault =>
      simp only [bind, Except.bind, handled] at ran
      cases ran
    | ok last =>
      simp only [bind, Except.bind, handled] at ran
      have steps := (receive_steps received).trans (handleKeys_steps handled)
      obtain rfl := Except.ok.inj ran
      split
      · have drawn := steps.trans (.single (.draw last))
        rw [List.append_nil] at drawn
        exact drawn
      · exact steps

/-- All rounds of the client are some steps. -/
theorem runUi_steps {rounds : List UiRound} {ui after : Ui} (ran : runUi rounds ui = .ok after) :
    ∃ events, Steps UiStep ui events after := by
  induction rounds generalizing ui with
  | nil =>
    obtain rfl := Except.ok.inj ran
    exact ⟨[], .none ui⟩
  | cons round rest inductionHypothesis =>
    rw [runUi, List.foldlM_cons] at ran
    cases first : round.run ui with
    | error fault =>
      rw [first] at ran
      cases ran
    | ok middle =>
      rw [first] at ran
      obtain ⟨events, steps⟩ := inductionHypothesis ran
      exact ⟨_, (UiRound.run_steps first).trans steps⟩

/-! ### What requests leave alone -/

section Requests

variable (packet : TizcordPacket) (ui : Ui)

@[simp] theorem safeSendPacket_servers : (Client.safeSendPacket packet ui).servers = ui.servers := by
  unfold Client.safeSendPacket
  split <;> rfl

@[simp] theorem safeSendPacket_friends : (Client.safeSendPacket packet ui).friends = ui.friends := by
  unfold Client.safeSendPacket
  split <;> rfl

@[simp] theorem safeSendPacket_users : (Client.safeSendPacket packet ui).users = ui.users := by
  unfold Client.safeSendPacket
  split <;> rfl

@[simp] theorem safeSendPacket_allUsers :
    (Client.safeSendPacket packet ui).allUsers = ui.allUsers := by
  unfold Client.safeSendPacket
  split <;> rfl

@[simp] theorem safeSendPacket_currentUser :
    (Client.safeSendPacket packet ui).currentUser = ui.currentUser := by
  unfold Client.safeSendPacket
  split <;> rfl

@[simp] theorem safeSendPacket_dmInput : (Client.safeSendPacket packet ui).dmInput = ui.dmInput := by
  unfold Client.safeSendPacket
  split <;> rfl

@[simp] theorem safeSendPacket_activeServer :
    (Client.safeSendPacket packet ui).activeServer = ui.activeServer := by
  unfold Client.safeSendPacket
  split <;> rfl

@[simp] theorem safeSendPacket_currentScreen :
    (Client.safeSendPacket packet ui).currentScreen = ui.currentScreen := by
  unfold Client.safeSendPacket
  split <;> rfl

end Requests

attribute [simp] Client.sendRegister Client.sendLogin Client.sendLogout Client.createServer
  Client.serverIdRequest Client.leaveServer Client.deleteServer Client.joinServer
  Client.requestServerChannels Client.requestServerMembers Client.kickServerMember
  Client.listAllServersRequest Client.createChannel Client.deleteChannel
  Client.requestChannelHistory Client.sendChannelMessage Client.socialNameRequest
  Client.sendFriendRequest Client.acceptFriendRequest Client.unfriend Client.rejectFriendRequest
  Client.sendStatusUpdate Client.requestFriendList Client.requestUserList Client.sendDmMessage
  Client.requestDmHistory

/-! ### What keys leave alone -/

/-- A step that leaves all servers, all friends and the list of all users as they are. -/
structure SameHoldings (before after : Ui) : Prop where
  servers : after.servers = before.servers
  friends : after.friends = before.friends
  allUsers : after.allUsers = before.allUsers

theorem SameHoldings.refl (ui : Ui) : SameHoldings ui ui := ⟨rfl, rfl, rfl⟩

section Keys

variable {now : Int} {key : Key} {ui after : Ui}

theorem say_same (message : String) : SameHoldings ui (ui.say message) := ⟨rfl, rfl, rfl⟩

theorem SameHoldings.trans {middle : Ui} (first : SameHoldings ui middle)
    (second : SameHoldings middle after) : SameHoldings ui after :=
  ⟨second.servers.trans first.servers, second.friends.trans first.friends,
    second.allUsers.trans first.allUsers⟩

theorem safeSendPacket_same (packet : TizcordPacket) (ui : Ui) :
    SameHoldings ui (Client.safeSendPacket packet ui) :=
  ⟨safeSendPacket_servers packet ui, safeSendPacket_friends packet ui,
    safeSendPacket_allUsers packet ui⟩

theorem anyUser_eq_ok {user : Fin maxUsers} : ui.anyUser = .ok user ↔ ui.currentUser = some user := by
  rw [Ui.anyUser]
  cases ui.currentUser with
  | none => exact ⟨nofun, nofun⟩
  | some index => exact ⟨fun same => congrArg some (Except.ok.inj same), fun same =>
      congrArg Except.ok (Option.some.inj same)⟩

/-- What two computations in a row return, the second returns from the result of the first. -/
theorem bind_eq_ok {First Result : Type} {first : Except Fault First}
    {next : First → Except Fault Result} {result : Result} (ran : first >>= next = .ok result) :
    ∃ value, first = .ok value ∧ next value = .ok result := by
  cases first with
  | error fault => cases ran
  | ok value => exact ⟨value, rfl, ran⟩

theorem handleAuthInput_same (isSignup : Bool) :
    SameHoldings ui (handleAuthInput now isSignup key ui) := by
  cases key <;> simp only [handleAuthInput]
  case enter =>
    unfold submitAuth
    dsimp only
    split_ifs <;> constructor <;> simp
  case printable => split_ifs <;> exact ⟨rfl, rfl, rfl⟩
  all_goals exact ⟨rfl, rfl, rfl⟩

theorem handleServerInput_same (handled : handleServerInput now key ui = .ok after) :
    SameHoldings ui after := by
  cases key <;> simp only [handleServerInput, Except.ok.injEq] at handled
  case enter =>
    unfold enterServer at handled
    split at handled
    · obtain rfl := Except.ok.inj handled
      exact .refl _
    · obtain ⟨user, -, handled⟩ := bind_eq_ok handled
      obtain rfl := Except.ok.inj handled
      constructor <;> simp [Ui.setUserServer]
  all_goals subst handled
  case down =>
    unfold Ui.cursorDown
    split <;> exact ⟨rfl, rfl, rfl⟩
  all_goals constructor <;> simp [Ui.openCommandLine, Ui.cursorUp]

theorem handleChatInput_same (handled : handleChatInput now key ui = .ok after) :
    SameHoldings ui after := by
  cases key <;> simp only [handleChatInput, Except.ok.injEq] at handled
  case tab =>
    obtain ⟨server, -, handled⟩ := bind_eq_ok handled
    dsimp only at handled
    split at handled
    · obtain rfl := Except.ok.inj handled
      constructor <;> simp
    · cases handled
  case enter =>
    unfold submitChat at handled
    split at handled
    · obtain ⟨server, -, handled⟩ := bind_eq_ok handled
      obtain rfl := Except.ok.inj handled
      constructor <;> simp
    · obtain rfl := Except.ok.inj handled
      exact .refl _
  case f2 =>
    unfold leaveChat at handled
    dsimp only at handled
    split at handled
    · obtain rfl := Except.ok.inj handled
      exact ⟨rfl, rfl, rfl⟩
    · obtain ⟨user, -, handled⟩ := bind_eq_ok handled
      obtain rfl := Except.ok.inj handled
      exact ⟨rfl, rfl, rfl⟩
  all_goals subst handled
  case f1 => split <;> exact ⟨rfl, rfl, rfl⟩
  all_goals exact ⟨rfl, rfl, rfl⟩

theorem friendCommand_same (request : Text → Ui → Ui) (name : Text)
    (keeps : ∀ name ui, SameHoldings ui (request name ui)) :
    SameHoldings ui (friendCommand now request name ui).2 := by
  unfold friendCommand
  dsimp only
  split
  · exact .refl _
  · exact (keeps name ui).trans (safeSendPacket_same _ _)

theorem kickCommand_same {line : Text} {result : CommandResult}
    (ran : kickCommand now line ui = .ok result) : SameHoldings ui result.2 := by
  unfold kickCommand at ran
  split at ran
  · obtain rfl := Except.ok.inj ran
    exact say_same _
  · split at ran
    · obtain rfl := Except.ok.inj ran
      exact .refl _
    · dsimp only at ran
      split at ran
      · obtain rfl := Except.ok.inj ran
        exact .refl _
      · obtain ⟨targetId, -, ran⟩ := bind_eq_ok ran
        obtain rfl := Except.ok.inj ran
        dsimp only
        split
        · exact (safeSendPacket_same _ _).trans (say_same _)
        · exact say_same _

theorem runCommand_same {line : Text} {command : Command} {result : CommandResult}
    (ran : runCommand now line ui command = .ok result) : SameHoldings ui result.2 := by
  cases command with
  | kick => exact kickCommand_same ran
  | friend | accept | unfriend | reject =>
    obtain rfl := Except.ok.inj ran
    exact friendCommand_same _ _ fun _ _ => safeSendPacket_same _ _
  | help | unknown =>
    obtain rfl := Except.ok.inj ran
    exact ⟨rfl, rfl, rfl⟩
  | createServer =>
    obtain rfl := Except.ok.inj ran
    unfold createServerCommand
    dsimp only
    split
    · exact .refl _
    · exact safeSendPacket_same _ _
  | leaveServer =>
    obtain rfl := Except.ok.inj ran
    unfold leaveServerCommand
    split
    · exact safeSendPacket_same _ _
    · exact say_same _
  | createChannel =>
    obtain rfl := Except.ok.inj ran
    unfold createChannelCommand
    dsimp only
    split
    · exact say_same _
    · split
      · exact .refl _
      · split
        · exact say_same _
        · exact (safeSendPacket_same _ _).trans (say_same _)
  | deleteServer =>
    obtain rfl := Except.ok.inj ran
    unfold deleteServerCommand
    dsimp only
    split
    · exact (safeSendPacket_same _ _).trans (say_same _)
    · exact say_same _
  | deleteChannel =>
    obtain rfl := Except.ok.inj ran
    unfold deleteChannelCommand
    dsimp only
    split
    · exact say_same _
    · split
      · exact say_same _
      · split
        · exact (safeSendPacket_same _ _).trans (say_same _)
        · exact say_same _
  | setStatus =>
    obtain rfl := Except.ok.inj ran
    unfold setStatusCommand
    dsimp only
    split
    · exact say_same _
    · split
      · exact say_same _
      · exact (safeSendPacket_same _ _).trans (say_same _)

theorem handleCommandInput_same (handled : handleCommandInput now key ui = .ok after) :
    SameHoldings ui after := by
  cases key <;> simp only [handleCommandInput, Except.ok.injEq] at handled
  case enter =>
    obtain ⟨result, found, handled⟩ := bind_eq_ok handled
    have same := runCommand_same found
    obtain rfl := Except.ok.inj handled
    split
    · exact ⟨same.servers, same.friends, same.allUsers⟩
    · exact same
  all_goals subst handled
  case printable => split <;> exact ⟨rfl, rfl, rfl⟩
  all_goals exact ⟨rfl, rfl, rfl⟩

theorem handleFriendsInput_same : SameHoldings ui (handleFriendsInput now key ui) := by
  cases key <;> simp only [handleFriendsInput]
  case down => split <;> exact ⟨rfl, rfl, rfl⟩
  all_goals constructor <;> simp [Ui.openCommandLine]

theorem handleUsersInput_same : SameHoldings ui (handleUsersInput now key ui) := by
  cases key <;> simp only [handleUsersInput]
  case down => split <;> exact ⟨rfl, rfl, rfl⟩
  all_goals constructor <;> simp [Ui.openCommandLine]

theorem cycleFriend_same {active : Fin maxFriends} (handled : cycleFriend now active ui = .ok after) :
    SameHoldings ui after := by
  unfold cycleFriend at handled
  split at handled
  · obtain ⟨next, -, handled⟩ := bind_eq_ok handled
    obtain rfl := Except.ok.inj handled
    constructor <;> simp
  · cases handled

/-- A step that files a message of the user under the friend it goes to. -/
structure Submits (ui after : Ui) : Prop where
  servers : after.servers = ui.servers
  allUsers : after.allUsers = ui.allUsers
  currentUser : after.currentUser = ui.currentUser
  filed : ∃ (active : Fin maxFriends) (user : Fin maxUsers) (now : Int),
    ui.activeDmFriend = some active ∧ ui.currentUser = some user ∧
    after.friends = ui.friends.modify active fun friend =>
      { friend with messages := friend.messages.file fun _ => ownMessage now ui user }

theorem submitDm_cases {active : Fin maxFriends} (selected : ui.activeDmFriend = some active)
    (handled : submitDm now active ui = .ok after) : SameHoldings ui after ∨ Submits ui after := by
  unfold submitDm at handled
  split at handled
  · obtain ⟨middle, filed, handled⟩ := bind_eq_ok handled
    obtain rfl := Except.ok.inj handled
    unfold fileOwnMessage at filed
    split at filed
    · obtain ⟨user, signed, filed⟩ := bind_eq_ok filed
      obtain rfl := Except.ok.inj filed
      rw [anyUser_eq_ok] at signed
      simp only [Client.sendDmMessage, safeSendPacket_currentUser] at signed
      refine Or.inr ⟨?_, ?_, ?_, active, user, now, selected, signed, ?_⟩
      · simp [Ui.modifyFriend]
      · simp [Ui.modifyFriend]
      · simp [Ui.modifyFriend]
      · simp [Ui.modifyFriend, ownMessage]
    · obtain rfl := Except.ok.inj filed
      exact Or.inl ⟨by simp, by simp, by simp⟩
  · obtain rfl := Except.ok.inj handled
    exact Or.inl (.refl _)

theorem handleDmsInput_cases (handled : handleDmsInput now key ui = .ok after) :
    SameHoldings ui after ∨ Submits ui after := by
  unfold handleDmsInput at handled
  cases selected : ui.activeDmFriend with
  | none =>
    rw [selected] at handled
    obtain rfl := Except.ok.inj handled
    refine Or.inl ?_
    cases key <;> exact ⟨rfl, rfl, rfl⟩
  | some active =>
    rw [selected] at handled
    dsimp only at handled
    cases key
    case tab => exact Or.inl (cycleFriend_same handled)
    case enter => exact submitDm_cases selected handled
    all_goals
      obtain rfl := Except.ok.inj handled
      exact Or.inl ⟨rfl, rfl, rfl⟩

/-- Away from the direct messages a key leaves all servers and friends alone. -/
theorem handleKey_same (elsewhere : ui.currentScreen ≠ .dms)
    (handled : handleKey now key ui = .ok after) : SameHoldings ui after := by
  unfold handleKey at handled
  cases screen : ui.currentScreen with
  | login | signup =>
    rw [screen] at handled
    obtain rfl := Except.ok.inj handled
    exact handleAuthInput_same _
  | servers =>
    rw [screen] at handled
    exact handleServerInput_same handled
  | friends =>
    rw [screen] at handled
    obtain rfl := Except.ok.inj handled
    exact handleFriendsInput_same
  | chat =>
    rw [screen] at handled
    exact handleChatInput_same handled
  | command =>
    rw [screen] at handled
    exact handleCommandInput_same handled
  | dms => exact absurd screen elsewhere
  | users =>
    rw [screen] at handled
    obtain rfl := Except.ok.inj handled
    exact handleUsersInput_same

/-- A key leaves all servers and friends alone, unless it sends a direct message. -/
theorem handleKey_cases (handled : handleKey now key ui = .ok after) :
    SameHoldings ui after ∨ Submits ui after := by
  by_cases shown : ui.currentScreen = .dms
  · unfold handleKey at handled
    rw [shown] at handled
    exact handleDmsInput_cases handled
  · exact Or.inl (handleKey_same shown handled)

theorem redraw_same (ui : Ui) : SameHoldings ui (redraw ui) := by
  unfold redraw
  split
  · unfold drawDms
    split <;> exact ⟨rfl, rfl, rfl⟩
  all_goals exact .refl _

end Keys

/-! ### What packets do -/

section Packets

variable {now : Int} {packet : TizcordPacket} {ui after : Ui}

/-- What a packet with a certain request does. -/
def processRequest (now : Int) (packet : TizcordPacket) (ui : Ui) : Option Request → Except Fault Ui
  | some (.auth action) => handleAuthResponse now packet ui (some action)
  | some (.dm action) => .ok (updateDmState packet ui (some action))
  | some (.server action) => updateServerState now packet ui (some action)
  | some (.channel action) => .ok (updateChannelState now packet ui (some action))
  | some (.social action) => .ok (updateSocialState now packet ui (some action))
  | none => .ok ui

/-- The client looks at no more of a packet than its request before it takes it apart. -/
theorem processNetworkPacket_eq :
    processNetworkPacket now packet ui = processRequest now packet ui packet.request := by
  rw [processNetworkPacket, TizcordPacket.request]
  cases PacketType.ofCode packet.type with
  | none => rfl
  | some type =>
    rw [Option.bind_some]
    cases type with
    | auth =>
      rw [processPacketOfType, uiHandleAuthResponse, TizcordPacket.requestOfType]
      cases AuthAction.ofCode packet.authAction <;> rfl
    | dm =>
      rw [processPacketOfType, TizcordPacket.requestOfType]
      cases DMAction.ofCode packet.dmAction <;> rfl
    | server =>
      rw [processPacketOfType, uiUpdateServerState, TizcordPacket.requestOfType]
      cases ServerAction.ofCode packet.serverAction <;> rfl
    | channel =>
      rw [processPacketOfType, TizcordPacket.requestOfType]
      cases ChannelAction.ofCode packet.channelAction <;> rfl
    | social =>
      rw [processPacketOfType, TizcordPacket.requestOfType]
      cases SocialAction.ofCode packet.socialAction <;> rfl

/-- What a packet with a certain request makes of the list of all users. -/
def readUsersOf (users : SlotArray UIUser maxAllUsers) (packet : TizcordPacket) :
    Option Request → SlotArray UIUser maxAllUsers
  | some (.auth .logout) => users.clear
  | some (.social .listUsers) =>
    if ListFrameType.start.marks packet then users.clear
    else if ListFrameType.middle.marks packet then users.file fun _ => listedUser packet
    else if ListFrameType.end.marks packet then sortUsers users
    else users
  | some (.social .updateStatus) =>
    if packet.socialStatusCode = ResponseCode.ok.code then updateListedUser packet users else users
  | _ => users

/-- What a packet makes of the list of all users. -/
def readUsers (users : SlotArray UIUser maxAllUsers) (packet : TizcordPacket) :
    SlotArray UIUser maxAllUsers :=
  readUsersOf users packet packet.request

/-- How a packet changes the servers. -/
inductive ChangesServers (packet : TizcordPacket) (ui : Ui) :
    SlotArray UIServer uiMaxServers → Prop where
  | signedOut (asked : packet.request = some (.auth .logout)) :
      ChangesServers packet ui ui.servers.clear
  | listed (asked : packet.request = some (.server .list) ∨
        packet.request = some (.server .listJoined)) :
      ChangesServers packet ui (fileServer packet ui.servers)
  | channels (server : Fin uiMaxServers) (opened : ui.openServer = some server)
      (asked : packet.request = some (.server .listChannels)) :
      ChangesServers packet ui (ui.servers.modify server fun entry =>
        { entry with channels := fileChannel packet entry.channels })
  | members (server : Fin uiMaxServers) {entry : UIServer} (opened : ui.openServer = some server)
      (filed : fileMember packet (ui.servers.slot server) = .ok entry)
      (asked : packet.request = some (.server .listMembers)) :
      ChangesServers packet ui (ui.servers.modify server fun _ => entry)
  | message (server : Fin uiMaxServers) (channel : Fin uiMaxChannels)
      (opened : ui.openChannel = some (server, channel))
      (asked : packet.request = some (.channel .message)) :
      ChangesServers packet ui (uiReceiveChannelMessage packet ui).servers

/-- How a packet changes the friends. -/
inductive ChangesFriends (packet : TizcordPacket) (ui : Ui) :
    SlotArray UIFriend maxFriends → Prop where
  | signedOut (asked : packet.request = some (.auth .logout)) :
      ChangesFriends packet ui ui.friends.clear
  | opened (asked : packet.request = some (.social .listFriends)) :
      ChangesFriends packet ui ui.friends.clear
  | listed (asked : packet.request = some (.social .listFriends))
      (marked : ListFrameType.middle.marks packet || ListFrameType.single.marks packet) :
      ChangesFriends packet ui (ui.friends.file (listedFriend packet))
  | message (index : Fin maxFriends) (found : dmFriend packet ui = some index)
      (asked : packet.request = some (.dm .message)) :
      ChangesFriends packet ui (uiReceiveDmMessage packet ui).friends

theorem fileServer_cases (packet : TizcordPacket) (servers : SlotArray UIServer uiMaxServers) :
    fileServer packet servers = servers ∨ fileServer packet servers = servers.clear ∨
      fileServer packet servers = servers.file (fun _ => listedServer packet) ∨
      fileServer packet servers = servers.clear.file (fun _ => listedServer packet) := by
  rw [fileServer]
  split <;> split <;> simp

theorem fileChannel_cases (packet : TizcordPacket) (channels : SlotArray UIChannel uiMaxChannels) :
    fileChannel packet channels = channels ∨ fileChannel packet channels = channels.clear ∨
      fileChannel packet channels = channels.file (listedChannel packet) ∨
      fileChannel packet channels = channels.clear.file (listedChannel packet) := by
  rw [fileChannel]
  split <;> split <;> simp

/-- Filing a member leaves the channels of the server alone, whatever the row says. -/
theorem filed_channels {opened filed : UIServer} {listTotal : Int} {row : UIMember}
    (ran : (if listTotal > 0 ∧ opened.memberCount < maxUsers then do
        let index ← slotAt maxUsers opened.memberCount
        return { opened with
          memberCount := opened.memberCount + 1
          members := Function.update opened.members index row }
      else .ok opened) = Except.ok filed) : filed.channels = opened.channels := by
  split at ran
  · obtain ⟨index, -, ran⟩ := bind_eq_ok ran
    obtain rfl := Except.ok.inj ran
    rfl
  · obtain rfl := Except.ok.inj ran
    rfl

theorem fileMember_channels {entry filed : UIServer} (ran : fileMember packet entry = .ok filed) :
    filed.channels = entry.channels := by
  rw [fileMember] at ran
  have opened : (if opensList packet then { entry with memberCount := 0 } else entry).channels =
      entry.channels := by
    split <;> rfl
  exact (filed_channels ran).trans opened

/-- A step changes the servers, the friends and the list of all users only as its packet says. -/
structure Changes (packet : TizcordPacket) (before after : Ui) : Prop where
  servers : after.servers = before.servers ∨ ChangesServers packet before after.servers
  friends : after.friends = before.friends ∨ ChangesFriends packet before after.friends
  allUsers : after.allUsers = readUsers before.allUsers packet

/-- A packet with a request of another kind is not read. -/
theorem readUsers_of_request {request : Option Request} {users : SlotArray UIUser maxAllUsers}
    (asked : packet.request = request) (unread : readUsersOf users packet request = users) :
    readUsers users packet = users := by
  rw [readUsers, asked, unread]

theorem SameHoldings.changes (same : SameHoldings ui after)
    (unread : readUsers ui.allUsers packet = ui.allUsers) : Changes packet ui after :=
  ⟨Or.inl same.servers, Or.inl same.friends, same.allUsers.trans unread.symm⟩

theorem closeCommandLine_same (ui : Ui) : SameHoldings ui ui.closeCommandLine := by
  unfold Ui.closeCommandLine
  split <;> exact ⟨rfl, rfl, rfl⟩

theorem signIn_same (signed : signIn now ui = .ok after) : SameHoldings ui after := by
  unfold signIn at signed
  split at signed
  · obtain rfl := Except.ok.inj signed
    exact ⟨by simp, by simp, by simp⟩
  · cases signed

theorem handleAuthResponse_changes {action : AuthAction}
    (asked : packet.request = some (.auth action))
    (processed : handleAuthResponse now packet ui (some action) = .ok after) :
    Changes packet ui after := by
  cases action with
  | login | register =>
    have unread : readUsers ui.allUsers packet = ui.allUsers := readUsers_of_request asked rfl
    unfold handleAuthResponse at processed
    dsimp only at processed
    split at processed
    · exact (signIn_same processed).changes unread
    · obtain rfl := Except.ok.inj processed
      exact SameHoldings.changes ⟨rfl, rfl, rfl⟩ unread
  | logout =>
    obtain rfl := Except.ok.inj processed
    refine ⟨Or.inr (.signedOut asked), Or.inr (.signedOut asked), ?_⟩
    rw [readUsers, asked, readUsersOf, signOut]

theorem serverDeleted_same (processed : serverDeleted now packet ui = .ok after) :
    SameHoldings ui after := by
  have requested := (closeCommandLine_same ui).trans
    (safeSendPacket_same (Client.serverRequest now .list) ui.closeCommandLine)
  unfold serverDeleted at processed
  split at processed
  · dsimp only at processed
    split at processed
    · obtain rfl := Except.ok.inj processed
      exact ⟨requested.servers, requested.friends, requested.allUsers⟩
    · split at processed
      · obtain ⟨user, -, processed⟩ := bind_eq_ok processed
        obtain rfl := Except.ok.inj processed
        exact ⟨requested.servers, requested.friends, requested.allUsers⟩
      · obtain rfl := Except.ok.inj processed
        exact ⟨requested.servers, requested.friends, requested.allUsers⟩
  · obtain rfl := Except.ok.inj processed
    exact say_same _

theorem serverLeft_same : SameHoldings ui (serverLeft now packet ui) := by
  unfold serverLeft
  split
  · dsimp only
    split <;> constructor <;> simp [Ui.setUserServer]
  · exact .refl _

theorem memberKicked_same : SameHoldings ui (memberKicked now packet ui) := by
  unfold memberKicked
  split
  · dsimp only
    split
    · exact closeCommandLine_same _
    · exact (closeCommandLine_same _).trans (safeSendPacket_same _ _)
  · exact say_same _

theorem serverListed_changes (asked : packet.request = some (.server .list) ∨
      packet.request = some (.server .listJoined)) :
    Changes packet ui (serverListed packet ui) := by
  have changed : ChangesServers packet ui (fileServer packet ui.servers) := .listed asked
  have unread : readUsers ui.allUsers packet = ui.allUsers := by
    rcases asked with asked | asked <;> exact readUsers_of_request asked rfl
  unfold serverListed
  refine ⟨Or.inr ?_, Or.inl ?_, ?_⟩
  · dsimp only
    exact changed
  · dsimp only
  · dsimp only
    exact unread.symm

theorem channelListed_changes (asked : packet.request = some (.server .listChannels)) :
    Changes packet ui (channelListed now packet ui) := by
  have unread : readUsers ui.allUsers packet = ui.allUsers := readUsers_of_request asked rfl
  unfold channelListed
  cases opened : ui.openServer with
  | none => exact (SameHoldings.refl _).changes unread
  | some server =>
    have changed := ChangesServers.channels server opened asked
    dsimp only
    split
    · refine ⟨Or.inr ?_, Or.inl ?_, ?_⟩
      · rw [Client.requestChannelHistory, safeSendPacket_servers]
        exact changed
      · rw [Client.requestChannelHistory, safeSendPacket_friends]
        rfl
      · rw [Client.requestChannelHistory, safeSendPacket_allUsers]
        exact unread.symm
    · exact ⟨Or.inr changed, Or.inl rfl, unread.symm⟩

theorem memberListed_changes (asked : packet.request = some (.server .listMembers))
    (processed : memberListed packet ui = .ok after) : Changes packet ui after := by
  have unread : readUsers ui.allUsers packet = ui.allUsers := readUsers_of_request asked rfl
  unfold memberListed at processed
  cases opened : ui.openServer with
  | none =>
    rw [opened] at processed
    obtain rfl := Except.ok.inj processed
    exact (SameHoldings.refl _).changes unread
  | some server =>
    rw [opened] at processed
    obtain ⟨entry, filed, processed⟩ := bind_eq_ok processed
    obtain rfl := Except.ok.inj processed
    exact ⟨Or.inr (.members server opened filed asked), Or.inl rfl, unread.symm⟩

theorem updateServerState_changes {action : ServerAction}
    (asked : packet.request = some (.server action))
    (processed : updateServerState now packet ui (some action) = .ok after) :
    Changes packet ui after := by
  have unread : readUsers ui.allUsers packet = ui.allUsers := readUsers_of_request asked rfl
  cases action with
  | join =>
    obtain rfl := Except.ok.inj processed
    exact (SameHoldings.refl _).changes unread
  | leave =>
    obtain rfl := Except.ok.inj processed
    exact serverLeft_same.changes unread
  | create =>
    obtain rfl := Except.ok.inj processed
    split
    · exact (safeSendPacket_same _ _).changes unread
    · exact (SameHoldings.refl _).changes unread
  | delete => exact (serverDeleted_same processed).changes unread
  | kickMember =>
    obtain rfl := Except.ok.inj processed
    exact memberKicked_same.changes unread
  | list =>
    obtain rfl := Except.ok.inj processed
    exact serverListed_changes (Or.inl asked)
  | listJoined =>
    obtain rfl := Except.ok.inj processed
    exact serverListed_changes (Or.inr asked)
  | listChannels =>
    obtain rfl := Except.ok.inj processed
    exact channelListed_changes asked
  | listMembers => exact memberListed_changes asked processed

theorem updateChannelState_changes {action : ChannelAction}
    (asked : packet.request = some (.channel action)) :
    Changes packet ui (updateChannelState now packet ui (some action)) := by
  have unread : readUsers ui.allUsers packet = ui.allUsers := readUsers_of_request asked rfl
  have closed := closeCommandLine_same ui
  cases action with
  | historyRequest => exact (SameHoldings.refl _).changes unread
  | create =>
    refine SameHoldings.changes ?_ unread
    unfold updateChannelState channelCreated
    dsimp only
    split
    · split
      · exact closed
      · exact closed.trans (safeSendPacket_same _ _)
    · exact say_same _
  | delete =>
    refine SameHoldings.changes ?_ unread
    unfold updateChannelState channelDeleted
    dsimp only
    split
    · split
      · exact closed
      · exact ⟨(safeSendPacket_servers _ _).trans closed.servers,
          (safeSendPacket_friends _ _).trans closed.friends,
          (safeSendPacket_allUsers _ _).trans closed.allUsers⟩
    · exact say_same _
  | message =>
    cases opened : ui.openChannel with
    | none =>
      refine SameHoldings.changes ?_ unread
      rw [updateChannelState, uiReceiveChannelMessage, opened]
      exact .refl _
    | some place =>
      refine ⟨Or.inr (.message place.1 place.2 opened asked), Or.inl ?_, ?_⟩
      · rw [updateChannelState, uiReceiveChannelMessage, opened]
        rfl
      · rw [updateChannelState, uiReceiveChannelMessage, opened, unread]
        rfl

theorem statusUpdated_changes (asked : packet.request = some (.social .updateStatus)) :
    Changes packet ui (statusUpdated now packet ui) := by
  unfold statusUpdated
  dsimp only
  split
  · next ok =>
    have read : updateListedUser packet ui.allUsers = readUsers ui.allUsers packet := by
      rw [readUsers, asked, readUsersOf, if_pos ok]
    split
    · have closed := closeCommandLine_same (Client.requestUserList now
        { ui with allUsers := updateListedUser packet ui.allUsers })
      exact ⟨Or.inl (closed.servers.trans (safeSendPacket_servers _ _)),
        Or.inl (closed.friends.trans (safeSendPacket_friends _ _)),
        (closed.allUsers.trans (safeSendPacket_allUsers _ _)).trans read⟩
    · exact ⟨Or.inl rfl, Or.inl rfl, read⟩
  · next refused =>
    refine (say_same _).changes ?_
    rw [readUsers, asked, readUsersOf, if_neg refused]

theorem userListed_changes (asked : packet.request = some (.social .listUsers)) :
    Changes packet ui (userListed packet ui) := by
  have read : (userListed packet ui).allUsers = readUsers ui.allUsers packet := by
    rw [readUsers, asked, readUsersOf]
    unfold userListed
    split_ifs <;> rfl
  refine ⟨Or.inl ?_, Or.inl ?_, read⟩ <;>
  · unfold userListed
    split_ifs <;> rfl

theorem friendListEnded_same : SameHoldings ui (friendListEnded now ui) := by
  unfold friendListEnded
  split
  · split
    · exact .refl _
    · exact ⟨safeSendPacket_servers _ _, safeSendPacket_friends _ _, safeSendPacket_allUsers _ _⟩
  · exact .refl _

theorem friendListed_changes (asked : packet.request = some (.social .listFriends)) :
    Changes packet ui (friendListed now packet ui) := by
  have unread : readUsers ui.allUsers packet = ui.allUsers := readUsers_of_request asked rfl
  unfold friendListed
  split
  · exact ⟨Or.inl rfl, Or.inr (.opened asked), unread.symm⟩
  · split
    · next row =>
      rw [Bool.and_eq_true] at row
      exact ⟨Or.inl rfl, Or.inr (.listed asked row.1), unread.symm⟩
    · refine SameHoldings.changes ?_ unread
      split
      · exact friendListEnded_same
      · exact .refl _

theorem updateSocialState_changes {action : SocialAction}
    (asked : packet.request = some (.social action)) :
    Changes packet ui (updateSocialState now packet ui (some action)) := by
  cases action with
  | friendRequest | friendAccept | friendReject | friendRemove =>
    have unread : readUsers ui.allUsers packet = ui.allUsers := readUsers_of_request asked rfl
    exact (SameHoldings.refl _).changes unread
  | listUsers => exact userListed_changes asked
  | updateStatus => exact statusUpdated_changes asked
  | listFriends => exact friendListed_changes asked

theorem updateDmState_changes {action : DMAction} (asked : packet.request = some (.dm action)) :
    Changes packet ui (updateDmState packet ui (some action)) := by
  have unread : readUsers ui.allUsers packet = ui.allUsers := readUsers_of_request asked rfl
  cases action with
  | historyRequest => exact (SameHoldings.refl _).changes unread
  | message =>
    cases found : dmFriend packet ui with
    | none =>
      refine SameHoldings.changes ?_ unread
      rw [updateDmState, uiReceiveDmMessage, found]
      exact .refl _
    | some index =>
      refine ⟨Or.inl ?_, Or.inr (.message index found asked), ?_⟩
      · rw [updateDmState, uiReceiveDmMessage, found]
        rfl
      · rw [updateDmState, uiReceiveDmMessage, found, unread]
        rfl

/-- What a packet does to the servers, the friends and the list of all users. -/
theorem processNetworkPacket_changes (processed : processNetworkPacket now packet ui = .ok after) :
    Changes packet ui after := by
  rw [processNetworkPacket_eq] at processed
  cases asked : packet.request with
  | none =>
    rw [asked] at processed
    obtain rfl := Except.ok.inj processed
    exact (SameHoldings.refl _).changes (readUsers_of_request asked rfl)
  | some request =>
    rw [asked] at processed
    cases request with
    | auth action => exact handleAuthResponse_changes asked processed
    | server action => exact updateServerState_changes asked processed
    | dm action =>
      obtain rfl := Except.ok.inj processed
      exact updateDmState_changes asked
    | channel action =>
      obtain rfl := Except.ok.inj processed
      exact updateChannelState_changes asked
    | social action =>
      obtain rfl := Except.ok.inj processed
      exact updateSocialState_changes asked

end Packets

end Tizcord
