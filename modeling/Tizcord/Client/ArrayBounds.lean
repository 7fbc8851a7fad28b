/-
This file is about the indices with which the client reads and writes its arrays.
Most of them are checked or cannot be wrong; the counter of the accounts is not
checked at all, and the counter of the members of a server comes from a packet
and bounds a loop over arrays of fixed size.
-/

import Tizcord.Client.ChatScreen

namespace Tizcord

open CModel

/-! ### Events that leave an array -/

/-- The reply that signs a user in. -/
def signsUserIn : UiEvent → Bool
  | .packet packet =>
    (packet.request = some (.auth .login) ∨ packet.request = some (.auth .register)) &&
      packet.authStatusCode = ResponseCode.ok.code
  | .key _ => false

/-- What the client does about an event. -/
def takeAt (now : Int) (ui : Ui) : UiEvent → Except Fault Ui
  | .packet packet => processNetworkPacket now packet ui
  | .key key => handleKey now key ui

/-- The events with which the client leaves an array. In the first two cases it has signed in as
many users as it has room for, or the loop of `/kick` runs on behind the arrays of the members. The
others need a count of members that is negative, or a user who writes or enters a server while
nobody is signed in. -/
inductive Ui.Overruns (past : List UiEvent) (ui : Ui) : UiEvent → Prop where
  | signsIn {event : UiEvent} (accepted : signsUserIn event = true)
      (full : maxUsers ≤ past.countP signsUserIn) : Overruns past ui event
  | kicks {server : Fin uiMaxServers} (shown : ui.currentScreen = .command)
      (behind : ui.previousScreen = .chat) (opened : ui.openServer = some server)
      (asked : commandOf ui.cmdInput.text = .kick)
      (named : commandName 6 ui.cmdInput.text ≠ Text.empty)
      (many : (maxUsers : Int) < (ui.servers.slot server).memberCount)
      (missing : ∀ index, ((ui.servers.slot server).members index).name ≠
        commandName 6 ui.cmdInput.text) : Overruns past ui (.key .enter)
  | listsMember {packet : TizcordPacket} {server : Fin uiMaxServers}
      (asked : packet.request = some (.server .listMembers))
      (opened : ui.openServer = some server) (goesOn : opensList packet = false)
      (row : packet.listTotal > 0) (negative : (ui.servers.slot server).memberCount < 0) :
      Overruns past ui (.packet packet)
  | enters (out : ui.currentUser = none) (shown : ui.currentScreen = .servers)
      (filled : 0 < ui.servers.count) : Overruns past ui (.key .enter)
  | writes {friend : Fin maxFriends} (out : ui.currentUser = none)
      (shown : ui.currentScreen = .dms) (selected : ui.activeDmFriend = some friend)
      (typed : 0 < ui.dmInput.length)
      (room : (ui.friends.slot friend).messages.count < maxMessages) :
      Overruns past ui (.key .enter)

/-! ### What the code relies on -/

/-- A server is active only while someone is signed in, and the chat is shown only with an active
server. -/
structure Ui.Seated (ui : Ui) : Prop where
  user : ui.activeServer ≠ none → ui.currentUser ≠ none
  server : ui.Chatting → ui.activeServer ≠ none

section Seated

variable {now : Int} {ui after : Ui} {events : List UiEvent}

theorem Ui.Seated.of_same (seated : ui.Seated) (user : after.currentUser = ui.currentUser)
    (server : after.activeServer = ui.activeServer) (chatting : after.Chatting → ui.Chatting) :
    after.Seated where
  user active := by
    rw [user]
    exact seated.user (server ▸ active)
  server chats := by
    rw [server]
    exact seated.server (chatting chats)

theorem Ui.Seated.of_place (seated : ui.Seated) (place : after.place = ui.place) : after.Seated :=
  seated.of_same (congrArg Place.user place) (congrArg Place.server place)
    (chatting_of_place place)

/-- Away from the chat only the user matters. -/
theorem seated_of_away {screen : Screen} (shown : after.currentScreen = screen)
    (chat : screen ≠ .chat) (command : screen ≠ .command)
    (user : after.activeServer ≠ none → after.currentUser ≠ none) : after.Seated :=
  ⟨user, fun chats => absurd chats (not_chatting shown chat command)⟩

theorem Ui.Seated.of_packet {packet : TizcordPacket} (seated : ui.Seated)
    (processed : processNetworkPacket now packet ui = .ok after) : after.Seated := by
  have screen : after.currentScreen = after.place.screen := rfl
  have previous : after.previousScreen = after.place.previous := rfl
  have server : after.activeServer = after.place.server := rfl
  have user : after.currentUser = after.place.user := rfl
  cases processNetworkPacket_moves processed with
  | stays place => exact seated.of_place place
  | signsIn _ _ place =>
    rw [place] at screen user
    exact seated_of_away screen nofun nofun fun _ => by rw [user]; nofun
  | signsOut _ place | leaves _ place | deletes _ _ place =>
    rw [place] at screen server
    exact seated_of_away screen nofun nofun fun active => absurd server active
  | closes place | resets _ _ place =>
    have same := ui.place.closeCommand_eq
    rw [place] at screen previous server user
    exact seated.of_same (user.trans (congrArg Place.user same))
      (server.trans (congrArg Place.server same))
      (chatting_of_closeCommand screen (previous.trans (congrArg Place.previous same)))
  | selects _ _ _ _ place =>
    rw [place] at screen previous server user
    exact seated.of_same user server (chatting_of_same screen previous)

theorem Ui.Seated.of_key {key : Key} (seated : ui.Seated)
    (handled : handleKey now key ui = .ok after) : after.Seated := by
  have screen : after.currentScreen = after.place.screen := rfl
  have previous : after.previousScreen = after.place.previous := rfl
  have server : after.activeServer = after.place.server := rfl
  have user : after.currentUser = after.place.user := rfl
  cases handleKey_moves handled with
  | stays place => exact seated.of_place place
  | switchesForm _ form place =>
    rw [place] at screen server user
    rcases form with rfl | rfl <;>
    · exact seated_of_away screen nofun nofun (by rw [server, user]; exact seated.user)
  | turns _ list place =>
    rw [place] at screen server user
    rcases list with rfl | rfl | rfl <;>
    · exact seated_of_away screen nofun nofun (by rw [server, user]; exact seated.user)
  | leavesChat _ _ place =>
    rw [place] at screen server
    exact seated_of_away screen nofun nofun fun active => absurd server active
  | opensDms _ place =>
    rw [place] at screen server user
    exact seated_of_away screen nofun nofun (by rw [server, user]; exact seated.user)
  | entersServer _ _ signed place =>
    rw [place] at server user
    refine ⟨fun _ => ?_, fun _ => ?_⟩
    · rw [user.trans signed]
      exact Option.some_ne_none _
    · rw [server]
      exact Option.some_ne_none _
  | opensCommand takes place =>
    rw [place] at screen previous server user
    refine seated.of_same user server ?_
    rintro (is | ⟨-, is⟩)
    · exact Screen.noConfusion (screen.symm.trans is)
    · exact Or.inl (previous.symm.trans is)
  | cancels shown place | submits shown place =>
    rw [place] at screen previous server user
    refine seated.of_same user server ?_
    rintro (is | ⟨-, is⟩)
    · exact Or.inr ⟨shown, screen.symm.trans is⟩
    · exact Or.inr ⟨shown, previous.symm.trans is⟩
  | changesChannel _ _ _ place | erases _ place | types _ place | changesFriend _ _ _ place =>
    rw [place] at screen previous server user
    exact seated.of_same user server (chatting_of_same screen previous)

theorem UiStep.seated (step : UiStep ui events after) (seated : ui.Seated) : after.Seated := by
  cases step with
  | packet now packet processed => exact seated.of_packet processed
  | key now key handled => exact seated.of_key handled
  | draw =>
    rcases redraw_place ui with place | ⟨-, -, place⟩
    · exact seated.of_place place
    · exact seated.of_same (congrArg Place.user place) (congrArg Place.server place)
        (chatting_of_same (congrArg Place.screen place) (congrArg Place.previous place))
  | disconnect => exact seated.of_place rfl

end Seated

/-! ### The accounts -/

section Accounts

variable {now : Int} {packet : TizcordPacket} {ui after : Ui} {events past : List UiEvent}

theorem processNetworkPacket_signIn
    (asked : packet.request = some (.auth .login) ∨ packet.request = some (.auth .register)) :
    processNetworkPacket now packet ui =
      if packet.authStatusCode = ResponseCode.ok.code then signIn now ui
      else .ok { ui with
        auth := { ui.auth with
          error := Text.ofString "Invalid Username or Password."
          success := Text.empty } } := by
  rcases asked with asked | asked <;> rw [processNetworkPacket_eq, asked] <;> rfl

theorem signsUserIn_iff : signsUserIn (.packet packet) = true ↔
    (packet.request = some (.auth .login) ∨ packet.request = some (.auth .register)) ∧
      packet.authStatusCode = ResponseCode.ok.code := by
  rw [signsUserIn, Bool.and_eq_true, decide_eq_true_iff, decide_eq_true_iff]

theorem processNetworkPacket_accepted (accepted : signsUserIn (.packet packet) = true) :
    processNetworkPacket now packet ui = signIn now ui := by
  obtain ⟨asked, done⟩ := signsUserIn_iff.mp accepted
  rw [processNetworkPacket_signIn asked, if_pos done]

theorem signIn_eq_error {fault : Fault} :
    signIn now ui = .error fault ↔ fault = .outOfRange ∧ maxUsers ≤ ui.users.count := by
  unfold signIn
  split
  · next room =>
    exact ⟨nofun, fun both => absurd room (Nat.not_lt.mpr both.2)⟩
  · next full =>
    exact ⟨fun same => ⟨(Except.error.inj same).symm, Nat.not_lt.mp full⟩, fun both => by rw [both.1]⟩

theorem signIn_accounts (signed : signIn now ui = .ok after) :
    after.users.count = ui.users.count + 1 := by
  unfold signIn at signed
  split at signed
  · next room =>
    obtain rfl := Except.ok.inj signed
    rw [← SlotArray.count_file_of_room room, Client.listAllServersRequest]
    exact congrArg SlotArray.count (safeSendPacket_users _ _)
  · cases signed

/-- Every accepted sign-in takes an account, and nothing ever gives one back. -/
theorem UiStep.accounts (step : UiStep ui events after) :
    after.users.count = ui.users.count + events.countP signsUserIn := by
  have is : after.users.count = after.place.accounts := rfl
  cases step with
  | packet now packet processed =>
    rw [List.countP_singleton]
    by_cases accepted : signsUserIn (.packet packet) = true
    · rw [processNetworkPacket_accepted accepted] at processed
      rw [signIn_accounts processed, if_pos accepted]
    · rw [if_neg accepted, Nat.add_zero, is]
      cases processNetworkPacket_moves processed with
      | signsIn _ asked =>
        rw [processNetworkPacket_signIn asked,
          if_neg fun done => accepted (signsUserIn_iff.mpr ⟨asked, done⟩)] at processed
        obtain rfl := Except.ok.inj processed
        exact congrArg Place.accounts (place_auth ui _)
      | stays place | signsOut _ place | leaves _ place | selects _ _ _ _ place =>
        exact congrArg Place.accounts place
      | closes place | deletes _ _ place | resets _ _ place =>
        rw [place]
        exact congrArg Place.accounts ui.place.closeCommand_eq
  | key now key handled =>
    have none : [UiEvent.key key].countP signsUserIn = 0 := rfl
    rw [none, Nat.add_zero, is]
    cases handleKey_moves handled with
    | stays place | switchesForm _ _ place | turns _ _ place | leavesChat _ _ place
    | opensDms _ place | entersServer _ _ _ place | changesChannel _ _ _ place
    | opensCommand _ place | cancels _ place | submits _ place | erases _ place | types _ place
    | changesFriend _ _ _ place =>
      exact congrArg Place.accounts place
  | draw =>
    rcases redraw_place ui with place | ⟨-, -, place⟩ <;>
    · exact congrArg Place.accounts place
  | disconnect => rfl

/-- There are as many accounts as users have signed in. -/
theorem accounts_of_steps (reached : Steps UiStep Ui.start past ui) :
    ui.users.count = past.countP signsUserIn := by
  have start : Ui.start.users.count = ([] : List UiEvent).countP signsUserIn := rfl
  have counted := reached.invariant_log (fun ui past => ui.users.count = past.countP signsUserIn)
    (fun step counted => by rw [step.accounts, counted, List.countP_append]) start
  exact counted

end Accounts

/-! ### Where the handlers leave an array -/

section Faults

variable {now : Int} {packet : TizcordPacket} {key : Key} {ui : Ui} {past : List UiEvent}

theorem bind_eq_error {First Result : Type} {first : Except Fault First}
    {next : First → Except Fault Result} {fault : Fault} (ran : first >>= next = .error fault) :
    first = .error fault ∨ ∃ value, first = .ok value ∧ next value = .error fault := by
  cases first with
  | error other =>
    have same : (.error other : Except Fault Result) = .error fault := ran
    exact Or.inl (congrArg Except.error (Except.error.inj same))
  | ok value => exact Or.inr ⟨value, rfl, ran⟩

theorem anyUser_eq_error {fault : Fault} (failed : ui.anyUser = .error fault) :
    ui.currentUser = none := by
  cases signed : ui.currentUser with
  | none => rfl
  | some user =>
    rw [anyUser_eq_ok.mpr signed] at failed
    cases failed

theorem anyUser_of_out (out : ui.currentUser = none) : ui.anyUser = .error .outOfRange := by
  rw [Ui.anyUser, out]

theorem slotAt_eq_error {size : Nat} {index : Int} {fault : Fault} :
    slotAt size index = .error fault ↔
      fault = .outOfRange ∧ ¬ (0 ≤ index ∧ index.toNat < size) := by
  unfold slotAt
  split
  · next inside => exact ⟨nofun, fun both => absurd inside both.2⟩
  · next outside =>
    exact ⟨fun same => ⟨(Except.error.inj same).symm, outside⟩, fun both => by rw [both.1]⟩

/-- A row of a list of members leaves the arrays when the counter is negative and is not reset. -/
theorem fileMember_outOfRange {entry : UIServer} : fileMember packet entry = .error .outOfRange ↔
    opensList packet = false ∧ packet.listTotal > 0 ∧ entry.memberCount < 0 := by
  cases opens : opensList packet with
  | true =>
    refine ⟨fun failed => ?_, fun both => nomatch both.1⟩
    unfold fileMember at failed
    rw [opens, if_pos rfl] at failed
    dsimp only at failed
    split at failed
    · rcases bind_eq_error failed with failed | ⟨index, -, failed⟩
      · exact absurd ⟨Int.le_refl 0, (by decide : (0 : Int).toNat < maxUsers)⟩
          (slotAt_eq_error.mp failed).2
      · cases failed
    · cases failed
  | false =>
    unfold fileMember
    rw [opens, if_neg Bool.false_ne_true]
    dsimp only
    constructor
    · intro failed
      split at failed
      · next row =>
        rcases bind_eq_error failed with failed | ⟨index, -, failed⟩
        · have outside := (slotAt_eq_error.mp failed).2
          refine ⟨rfl, row.1, ?_⟩
          omega
        · cases failed
      · cases failed
    · rintro ⟨-, row, negative⟩
      have small : entry.memberCount < maxUsers := negative.trans (by decide)
      have outside : slotAt maxUsers entry.memberCount = .error .outOfRange :=
        slotAt_eq_error.mpr ⟨rfl, fun inside => absurd inside.1 (Int.not_le.mpr negative)⟩
      rw [if_pos ⟨row, small⟩, outside]
      rfl

theorem memberListed_outOfRange : memberListed packet ui = .error .outOfRange ↔
    ∃ server, ui.openServer = some server ∧ opensList packet = false ∧ packet.listTotal > 0 ∧
      (ui.servers.slot server).memberCount < 0 := by
  unfold memberListed
  cases opened : ui.openServer with
  | none => exact ⟨nofun, fun ⟨_, is, _⟩ => nomatch is⟩
  | some server =>
    constructor
    · intro failed
      rcases bind_eq_error failed with failed | ⟨entry, -, failed⟩
      · exact ⟨server, rfl, fileMember_outOfRange.mp failed⟩
      · cases failed
    · rintro ⟨other, is, failed⟩
      obtain rfl := Option.some.inj is
      dsimp only
      rw [fileMember_outOfRange.mpr failed]
      rfl

/-- The reply to a deletion finds the user of an active server. -/
theorem serverDeleted_inside (seated : ui.Seated) {fault : Fault} :
    serverDeleted now packet ui ≠ .error fault := by
  intro failed
  unfold serverDeleted at failed
  split at failed
  · dsimp only at failed
    split at failed
    · cases failed
    · next server active =>
      split at failed
      · rcases bind_eq_error failed with failed | ⟨user, -, failed⟩
        · have closed : (Client.listAllServersRequest now ui.closeCommandLine).place =
              ui.place.closeCommand := by simp
          have same := closed.trans ui.place.closeCommand_eq
          have was : ui.activeServer = some server :=
            (congrArg Place.server same).symm.trans active
          have out := anyUser_eq_error failed
          have wasOut : ui.currentUser = none := (congrArg Place.user same).symm.trans out
          exact seated.user (by rw [was]; exact Option.some_ne_none _) wasOut
        · cases failed
      · cases failed
  · cases failed

theorem overruns_of_packet (seated : ui.Seated) (counted : ui.users.count = past.countP signsUserIn)
    (failed : processNetworkPacket now packet ui = .error .outOfRange) :
    ui.Overruns past (.packet packet) := by
  by_cases accepted : signsUserIn (.packet packet) = true
  · rw [processNetworkPacket_accepted accepted] at failed
    exact .signsIn accepted (counted ▸ (signIn_eq_error.mp failed).2)
  · by_cases signs : packet.request = some (.auth .login) ∨ packet.request = some (.auth .register)
    · rw [processNetworkPacket_signIn signs,
        if_neg fun done => accepted (signsUserIn_iff.mpr ⟨signs, done⟩)] at failed
      cases failed
    · rw [processNetworkPacket_eq] at failed
      cases asked : packet.request with
      | none =>
        rw [asked] at failed
        cases failed
      | some request =>
        rw [asked] at failed
        cases request with
        | dm | channel | social => cases failed
        | auth action =>
          cases action with
          | login => exact absurd (Or.inl asked) signs
          | register => exact absurd (Or.inr asked) signs
          | logout => cases failed
        | server action =>
          cases action with
          | delete =>
            have deleted : serverDeleted now packet ui = .error .outOfRange := failed
            exact absurd deleted (serverDeleted_inside seated)
          | listMembers =>
            have listed : memberListed packet ui = .error .outOfRange := failed
            obtain ⟨server, opened, goesOn, row, negative⟩ := memberListed_outOfRange.mp listed
            exact .listsMember asked opened goesOn row negative
          | create | join | leave | kickMember | list | listJoined | listChannels => cases failed

/-- The loop of `/kick` leaves the arrays when it finds nobody and its bound is too large. -/
theorem memberIdOf_eq_error {name : Text} {entry : UIServer} {fault : Fault} :
    memberIdOf name entry = .error fault → (maxUsers : Int) < entry.memberCount ∧
      ∀ index, (entry.members index).name ≠ name := by
  intro failed
  unfold memberIdOf at failed
  dsimp only at failed
  split at failed
  · cases failed
  · next missing =>
    split at failed
    · next many =>
      refine ⟨many, fun index same => ?_⟩
      have all : ((List.finRange maxUsers).map entry.members).take entry.memberCount.toNat =
          (List.finRange maxUsers).map entry.members := by
        refine List.take_of_length_le ?_
        rw [List.length_map, List.length_finRange]
        omega
      rw [all, List.find?_eq_none] at missing
      have unlike := missing _ (List.mem_map_of_mem (List.mem_finRange index))
      rw [decide_eq_true_iff] at unlike
      exact unlike same
    · cases failed

theorem memberIdOf_outOfRange {name : Text} {entry : UIServer}
    (many : (maxUsers : Int) < entry.memberCount)
    (missing : ∀ index, (entry.members index).name ≠ name) :
    memberIdOf name entry = .error .outOfRange := by
  have nobody : (((List.finRange maxUsers).map entry.members).take entry.memberCount.toNat).find?
      (fun member => member.name = name) = none := by
    rw [List.find?_eq_none]
    intro member among
    obtain ⟨index, -, rfl⟩ := List.mem_map.mp (List.mem_of_mem_take among)
    rw [decide_eq_true_iff]
    exact missing index
  unfold memberIdOf
  dsimp only
  rw [nobody]
  exact if_pos many

theorem handleServerInput_error {fault : Fault} (failed : handleServerInput now key ui = .error fault) :
    key = .enter ∧ 0 < ui.servers.count ∧ ui.currentUser = none := by
  cases key with
  | enter =>
    have entered : enterServer now ui = .error fault := failed
    unfold enterServer at entered
    split at entered
    · cases entered
    · next filled =>
      rcases bind_eq_error entered with entered | ⟨user, -, entered⟩
      · exact ⟨rfl, Nat.pos_of_ne_zero filled, anyUser_eq_error entered⟩
      · cases entered
  | f1 | f2 | f3 | f4 | escape | up | down | tab | backspace | printable | other => cases failed

/-- In the chat the only fault is a division by zero. -/
theorem handleChatInput_inside (seated : ui.Seated) (shown : ui.currentScreen = .chat) :
    handleChatInput now key ui ≠ .error .outOfRange := by
  intro failed
  obtain ⟨server, active⟩ := Option.ne_none_iff_exists'.mp (seated.server (Or.inl shown))
  have chosen : ui.anyServer = .ok server := anyServer_eq_ok.mpr active
  cases key with
  | tab =>
    have turned : nextChannel now ui = .error .outOfRange := failed
    unfold nextChannel at turned
    rw [chosen] at turned
    rcases bind_eq_error turned with turned | ⟨other, -, turned⟩
    · cases turned
    · dsimp only at turned
      split at turned <;> cases turned
  | enter =>
    have sent : submitChat now ui = .error .outOfRange := failed
    unfold submitChat at sent
    split at sent
    · rw [chosen] at sent
      cases sent
    · cases sent
  | f2 =>
    have left : leaveChat ui = .error .outOfRange := failed
    unfold leaveChat at left
    dsimp only at left
    split at left
    · cases left
    · rcases bind_eq_error left with left | ⟨user, -, left⟩
      · have out : ui.currentUser = none := anyUser_eq_error left
        exact seated.user (by rw [active]; exact Option.some_ne_none _) out
      · cases left
  | f1 | backspace | printable | escape | up | down | f3 | f4 | other => cases failed

theorem kickCommand_error {line : Text} {fault : Fault}
    (failed : kickCommand now line ui = .error fault) : ui.previousScreen = .chat ∧
      commandName 6 line ≠ Text.empty ∧ ∃ server, ui.openServer = some server ∧
        memberIdOf (commandName 6 line) (ui.servers.slot server) = .error fault := by
  unfold kickCommand at failed
  split at failed
  · cases failed
  · next behind =>
    cases opened : ui.openServer with
    | none =>
      rw [opened] at failed
      cases failed
    | some server =>
      rw [opened] at failed
      dsimp only at failed
      split at failed
      · cases failed
      · next named =>
        rcases bind_eq_error failed with failed | ⟨targetId, -, failed⟩
        · exact ⟨not_not.mp behind, named, server, rfl, failed⟩
        · cases failed

theorem submitCommand_error {fault : Fault} (failed : submitCommand now ui = .error fault) :
    commandOf ui.cmdInput.text = .kick ∧
      kickCommand now ui.cmdInput.text ui = .error fault := by
  rcases bind_eq_error failed with failed | ⟨result, -, failed⟩
  · cases asked : commandOf ui.cmdInput.text with
    | kick =>
      rw [asked] at failed
      exact ⟨rfl, failed⟩
    | help | friend | accept | unfriend | reject | createServer | leaveServer | createChannel
    | deleteServer | deleteChannel | setStatus | unknown =>
      rw [asked] at failed
      cases failed
  · cases failed

theorem handleCommandInput_error {fault : Fault}
    (failed : handleCommandInput now key ui = .error fault) :
    key = .enter ∧ submitCommand now ui = .error fault := by
  cases key with
  | enter => exact ⟨rfl, failed⟩
  | tab | escape | backspace | up | down | f1 | f2 | f3 | f4 | printable | other => cases failed

/-- The search for a friend stays inside the array. -/
theorem nextFriend_inside {friends : SlotArray UIFriend maxFriends} {positive : 0 < friends.count}
    {rounds : Nat} {index : Fin maxFriends} :
    nextFriend friends positive rounds index ≠ .error .outOfRange := by
  intro failed
  induction rounds generalizing index with
  | zero => cases failed
  | succ rounds inductionHypothesis =>
    unfold nextFriend at failed
    dsimp only at failed
    split at failed
    · cases failed
    · exact inductionHypothesis failed

theorem submitDm_error {friend : Fin maxFriends} {fault : Fault}
    (failed : submitDm now friend ui = .error fault) :
    0 < ui.dmInput.length ∧ (ui.friends.slot friend).messages.count < maxMessages ∧
      ui.currentUser = none := by
  unfold submitDm at failed
  split at failed
  · next typed =>
    rcases bind_eq_error failed with failed | ⟨filed, -, failed⟩
    · unfold fileOwnMessage at failed
      split at failed
      · next room =>
        rw [Client.sendDmMessage, safeSendPacket_friends] at room
        rcases bind_eq_error failed with failed | ⟨user, -, failed⟩
        · have out := anyUser_eq_error failed
          rw [Client.sendDmMessage, safeSendPacket_currentUser] at out
          exact ⟨typed, room, out⟩
        · cases failed
      · cases failed
    · cases failed
  · cases failed

theorem handleDmsInput_outOfRange (failed : handleDmsInput now key ui = .error .outOfRange) :
    key = .enter ∧ ∃ friend, ui.activeDmFriend = some friend ∧
      submitDm now friend ui = .error .outOfRange := by
  cases selected : ui.activeDmFriend with
  | none =>
    simp only [handleDmsInput, selected] at failed
    cases failed
  | some friend =>
    simp only [handleDmsInput, selected] at failed
    cases key with
    | enter => exact ⟨rfl, friend, rfl, failed⟩
    | tab =>
      have turned : cycleFriend now friend ui = .error .outOfRange := failed
      unfold cycleFriend at turned
      split at turned
      · rcases bind_eq_error turned with turned | ⟨next, -, turned⟩
        · exact absurd turned nextFriend_inside
        · cases turned
      · cases turned
    | f2 | backspace | printable | escape | up | down | f1 | f3 | f4 | other => cases failed

theorem overruns_of_key (seated : ui.Seated) (failed : handleKey now key ui = .error .outOfRange) :
    ui.Overruns past (.key key) := by
  unfold handleKey at failed
  cases shown : ui.currentScreen with
  | login | signup | friends | users =>
    rw [shown] at failed
    cases failed
  | servers =>
    rw [shown] at failed
    obtain ⟨rfl, filled, out⟩ := handleServerInput_error failed
    exact .enters out shown filled
  | chat =>
    rw [shown] at failed
    exact absurd failed (handleChatInput_inside seated shown)
  | command =>
    rw [shown] at failed
    obtain ⟨rfl, failed⟩ := handleCommandInput_error failed
    obtain ⟨asked, failed⟩ := submitCommand_error failed
    obtain ⟨behind, named, server, opened, failed⟩ := kickCommand_error failed
    obtain ⟨many, missing⟩ := memberIdOf_eq_error failed
    exact .kicks shown behind opened asked named many missing
  | dms =>
    rw [shown] at failed
    obtain ⟨rfl, friend, selected, failed⟩ := handleDmsInput_outOfRange failed
    obtain ⟨typed, room, out⟩ := submitDm_error failed
    exact .writes out shown selected typed room

/-- Each of the events leaves an array. -/
theorem outOfRange_of_overruns (counted : ui.users.count = past.countP signsUserIn)
    {event : UiEvent} (overruns : ui.Overruns past event) :
    takeAt now ui event = .error .outOfRange := by
  cases overruns with
  | signsIn accepted full =>
    cases event with
    | packet packet =>
      rw [takeAt, processNetworkPacket_accepted accepted]
      exact signIn_eq_error.mpr ⟨rfl, counted ▸ full⟩
    | key key => cases accepted
  | kicks shown behind opened asked named many missing =>
    have kicked : kickCommand now ui.cmdInput.text ui = .error .outOfRange := by
      unfold kickCommand
      rw [if_neg (not_not.mpr behind), opened]
      dsimp only
      rw [if_neg named, memberIdOf_outOfRange many missing]
      rfl
    have ran : runCommand now ui.cmdInput.text ui (commandOf ui.cmdInput.text) =
        .error .outOfRange := by
      rw [asked]
      exact kicked
    have submitted : submitCommand now ui = .error .outOfRange := by
      unfold submitCommand
      dsimp only
      rw [ran]
      rfl
    rw [takeAt, handleKey, shown]
    exact submitted
  | listsMember asked opened goesOn row negative =>
    rw [takeAt, processNetworkPacket_eq, asked]
    exact memberListed_outOfRange.mpr ⟨_, opened, goesOn, row, negative⟩
  | enters out shown filled =>
    have entered : enterServer now ui = .error .outOfRange := by
      unfold enterServer
      rw [if_neg filled.ne', anyUser_of_out out]
      rfl
    rw [takeAt, handleKey, shown]
    exact entered
  | @writes friend out shown selected typed room =>
    have filed : fileOwnMessage now friend (Client.sendDmMessage now (ui.friends.slot friend).id
        ui.dmInput.text ui) = .error .outOfRange := by
      unfold fileOwnMessage
      rw [if_pos (by simpa using room), anyUser_of_out (by simpa using out)]
      rfl
    have submitted : submitDm now friend ui = .error .outOfRange := by
      unfold submitDm
      rw [if_pos typed]
      dsimp only
      rw [filed]
      rfl
    rw [takeAt, handleKey, shown]
    simp only [handleDmsInput, selected]
    exact submitted

end Faults

/-! ### Runs -/

/-- In every state the client can get into, the next packet or key leaves an array exactly when it
is one of these events. -/
theorem leaves_array_iff {past : List UiEvent} {ui : Ui} (reached : Steps UiStep Ui.start past ui)
    (now : Int) (event : UiEvent) :
    takeAt now ui event = .error .outOfRange ↔ ui.Overruns past event := by
  have counted := accounts_of_steps reached
  have seated : ui.Seated :=
    reached.invariant Ui.Seated (fun step => step.seated) ⟨nofun, fun chats => by
      exact absurd chats (@not_chatting Ui.start .login rfl nofun nofun)⟩
  refine ⟨fun failed => ?_, outOfRange_of_overruns counted⟩
  cases event with
  | packet packet => exact overruns_of_packet seated counted failed
  | key key => exact overruns_of_key seated failed

/-- Users sign in and out again. -/
def signInRounds (users : Nat) : List UiRound :=
  (List.replicate users
    [.of (authAnswer .login .ok),
      .of (authAnswer .logout .done)]).flatten

theorem signInRounds_full :
    ∃ ui, runUi (signInRounds maxUsers) Ui.start = .ok ui ∧ ui.users.count = maxUsers :=
  reached_of_any (by decide +kernel)

theorem signsUserIn_login :
    signsUserIn (.packet (authAnswer .login .ok)) = true := by
  decide +kernel

theorem leaves_array_iff_signIn : ∃ past ui, Steps UiStep Ui.start past ui ∧
    ui.Overruns past (.packet (authAnswer .login .ok)) := by
  obtain ⟨ui, ran, full⟩ := signInRounds_full
  obtain ⟨past, reached⟩ := runUi_steps ran
  refine ⟨past, ui, reached, (leaves_array_iff reached 0 _).mp ?_⟩
  rw [takeAt, processNetworkPacket_accepted signsUserIn_login]
  exact signIn_eq_error.mpr ⟨rfl, full.ge⟩

/-- The user after the sixteenth has no account. -/
theorem leaves_array_seventeenth : ∃ ui, runUi (signInRounds 16) Ui.start = .ok ui ∧
    takeAt 0 ui (.packet (authAnswer .login .ok)) = .error .outOfRange := by
  obtain ⟨ui, ran, full⟩ := signInRounds_full
  refine ⟨ui, ran, ?_⟩
  rw [takeAt, processNetworkPacket_accepted signsUserIn_login]
  exact signIn_eq_error.mpr ⟨rfl, full.ge⟩

/-- A user enters a server with many members, and types a command to kick one of them before the
list of the members has come in. -/
def kickRounds (members : Nat) : List UiRound :=
  [.of (authAnswer .login .ok), .of (serverRow .list 1 members),
    .press ([.enter, .f1] ++
      [⟨107, by decide⟩, ⟨105, by decide⟩, ⟨99, by decide⟩, ⟨107, by decide⟩, ⟨32, by decide⟩,
        ⟨97, by decide⟩].map .printable)]

/-- The loop of `/kick` runs on behind the arrays of the members. -/
theorem kick_leaves_array : ∃ ui, runUi (kickRounds 17) Ui.start = .ok ui ∧
    takeAt 0 ui (.key .enter) = .error .outOfRange := by
  have typed : ∃ ui, runUi (kickRounds 17) Ui.start = .ok ui ∧
      (ui.currentScreen = .command ∧ ui.previousScreen = .chat ∧ ui.openServer = some 0 ∧
        commandOf ui.cmdInput.text = .kick ∧ commandName 6 ui.cmdInput.text ≠ Text.empty ∧
        (maxUsers : Int) < (ui.servers.slot 0).memberCount ∧
        ∀ index, ((ui.servers.slot 0).members index).name ≠ commandName 6 ui.cmdInput.text) :=
    reached_of_any (by decide +kernel)
  obtain ⟨ui, ran, shown, behind, opened, asked, named, many, missing⟩ := typed
  obtain ⟨past, reached⟩ := runUi_steps ran
  exact ⟨ui, ran, outOfRange_of_overruns (accounts_of_steps reached)
    (.kicks shown behind opened asked named many missing)⟩

end Tizcord
