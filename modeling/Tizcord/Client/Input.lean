/-
This file models the key handlers of client/ui.c, one for each screen, and the
command line.
-/

import Tizcord.Client.Network

namespace Tizcord

open CModel

/-- A printable ASCII character. -/
def Printable : Type := { character : UInt8 // 32 ≤ character ∧ character < 127 }

/-- The keys that some handler tells apart. Both codes of ENTER are one key, and so are both of
BACKSPACE. -/
inductive Key where
  | tab | enter | escape | backspace | up | down
  | f1 | f2 | f3 | f4
  | printable (character : Printable)
  | other

/-! ### Login and signup -/

def AuthState.text (auth : AuthState) : Text :=
  match auth.field with
  | .username => auth.username
  | .password => auth.password

def AuthState.setText (auth : AuthState) (text : Text) : AuthState :=
  match auth.field with
  | .username => { auth with username := text }
  | .password => { auth with password := text }

/-- The longest text a field of the form takes. -/
def AuthField.maxLen : AuthField → Nat
  | .username => maxNameLen - 1
  | .password => maxPassLen - 1

def Printable.text (character : Printable) : Text where
  bytes := [character.val]
  clean := by
    intro member
    have zero := List.mem_singleton.mp member
    have low := character.property.1
    rw [← zero] at low
    exact absurd low (by decide)

/-- ENTER in the form: both texts go to the server when neither is empty. -/
def submitAuth (now : Int) (isSignup : Bool) (ui : Ui) : Ui :=
  let auth := ui.auth
  if auth.username = Text.empty then
    { ui with auth := { auth with error := Text.ofString "Username required." } }
  else if auth.password = Text.empty then
    { ui with auth := { auth with error := Text.ofString "Password required." } }
  else if isSignup then
    let ui := Client.sendRegister now auth.username auth.password ui
    { ui with auth := { auth with
        success := Text.ofString "Waiting for server...", error := Text.empty } }
  else
    let ui := Client.sendLogin now auth.username auth.password ui
    { ui with auth := { auth with
        success := Text.ofString "Authenticating...", error := Text.empty } }

def handleAuthInput (now : Int) (isSignup : Bool) (key : Key) (ui : Ui) : Ui :=
  let auth := { ui.auth with error := Text.empty, success := Text.empty }
  let ui := { ui with auth }
  match key with
  | .tab | .down | .up => { ui with auth := { auth with field := auth.field.other } }
  | .backspace =>
    { ui with auth := auth.setText (auth.text.take (auth.text.bytes.length - 1)) }
  | .enter => submitAuth now isSignup ui
  | .f2 =>
    { ui with
      auth := { auth with username := Text.empty, password := Text.empty, field := .username }
      currentScreen := if isSignup then .login else .signup }
  | .printable character =>
    if auth.text.bytes.length < auth.field.maxLen then
      { ui with auth := auth.setText (auth.text.append character.text) }
    else ui
  | .escape | .f1 | .f3 | .f4 | .other => ui

/-! ### The list of servers -/

/-- ENTER on the list: the server under the cursor becomes the active one. -/
def enterServer (now : Int) (ui : Ui) : Except Fault Ui :=
  if ui.servers.count = 0 then .ok ui
  else do
    let user ← ui.anyUser
    let ui := { ui with
      activeServer := some ui.serverCursor
      activeChannel := 0 }
    let ui := { ui.setUserServer user ui.serverCursor.val with currentScreen := .chat }
    let id := (ui.servers.slot ui.serverCursor).id
    let ui := Client.joinServer now id ui
    let ui := Client.requestServerChannels now id ui
    return Client.requestServerMembers now id ui

def Ui.cursorUp (ui : Ui) : Ui :=
  { ui with serverCursor := ⟨ui.serverCursor.val - 1, by omega⟩ }

/-- The cursor moves down as long as a server is listed below it. -/
def Ui.cursorDown (ui : Ui) : Ui :=
  if below : ui.serverCursor.val + 1 < ui.servers.count then
    { ui with serverCursor := ⟨ui.serverCursor.val + 1, below.trans_le ui.servers.fits⟩ }
  else ui

def handleServerInput (now : Int) (key : Key) (ui : Ui) : Except Fault Ui :=
  match key with
  | .f2 => .ok (Client.requestFriendList now { ui with currentScreen := .friends })
  | .f1 => .ok ui.openCommandLine
  | .up => .ok ui.cursorUp
  | .down => .ok ui.cursorDown
  | .enter => enterServer now ui
  | .escape => .ok (Client.sendLogout now ui)
  | .f4 => .ok (Client.requestFriendList now { ui with currentScreen := .dms })
  | .f3 => .ok (Client.requestUserList now { ui with currentScreen := .users })
  | .tab | .backspace | .printable _ | .other => .ok ui

/-! ### The chat -/

/-- TAB in the chat: the next channel of the active server, whatever that index is. -/
def nextChannel (now : Int) (ui : Ui) : Except Fault Ui := do
  let server ← ui.anyServer
  let channels := (ui.servers.slot server).channels
  if positive : 0 < channels.count then
    let channel : Fin uiMaxChannels :=
      ⟨(ui.activeChannel.val + 1) % channels.count,
        (Nat.mod_lt _ positive).trans_le channels.fits⟩
    return Client.requestChannelHistory now (channels.slot channel).id
      { ui with activeChannel := channel, chatInput := ui.chatInput.clear }
  else throw .divisionByZero

/-- ENTER in the chat sends the line to the channel with the active index. -/
def submitChat (now : Int) (ui : Ui) : Except Fault Ui :=
  if 0 < ui.chatInput.length then do
    let server ← ui.anyServer
    let channel := (ui.servers.slot server).channels.slot ui.activeChannel
    let ui := Client.sendChannelMessage now channel.id ui.chatInput.text ui
    return { ui with chatInput := ui.chatInput.clear }
  else .ok ui

/-- F2 in the chat goes back to the list of servers. -/
def leaveChat (ui : Ui) : Except Fault Ui :=
  let ui := { ui with chatInput := ui.chatInput.clear }
  if ui.openServer.isSome then .ok { ui with currentScreen := .servers }
  else do
    let user ← ui.anyUser
    return { { ui with activeServer := none }.setUserServer user (-1) with
      currentScreen := .servers }

def handleChatInput (now : Int) (key : Key) (ui : Ui) : Except Fault Ui :=
  match key with
  | .tab => nextChannel now ui
  | .enter => submitChat now ui
  | .backspace => .ok { ui with chatInput := ui.chatInput.backspace }
  | .f2 => leaveChat ui
  | .f1 => .ok (if ui.chatInput.length = 0 then ui.openCommandLine else ui)
  | .printable character => .ok { ui with chatInput := ui.chatInput.type character.val }
  | .escape | .up | .down | .f3 | .f4 | .other => .ok ui

/-! ### The command line -/

/-- Strip the trailing spaces of a text. -/
def stripTrailing (text : Text) : Text :=
  text.take (text.bytes.reverse.dropWhile (· = 32)).length

/-- The name that follows a command of a certain length. -/
def commandName (start : Nat) (line : Text) : Text :=
  stripTrailing (storedName (line.drop start))

/-- What a command leaves: whether the window closes, and the state. -/
abbrev CommandResult : Type := Bool × Ui

/-- A command about a user by name, followed by a refresh of the friend list. -/
def friendCommand (now : Int) (request : Text → Ui → Ui) (name : Text) (ui : Ui) : CommandResult :=
  (true, if name = Text.empty then ui else Client.requestFriendList now (request name ui))

def createServerCommand (now : Int) (line : Text) (ui : Ui) : CommandResult :=
  let name := commandName 14 line
  (true, if name = Text.empty then ui else Client.createServer now name ui)

def leaveServerCommand (now : Int) (ui : Ui) : CommandResult :=
  match ui.activeServer, ui.currentUser with
  | some server, some _ => (true, Client.leaveServer now (ui.servers.slot server).id ui)
  | _, _ => (false, ui.say "Error: You're not in a server.")

/-- The id of the first member with a certain name, or -1. The loop runs up to the counter of the
members, which may lie outside the arrays. -/
def memberIdOf (name : Text) (entry : UIServer) : Except Fault Int :=
  let members := (List.finRange maxUsers).map entry.members
  match (members.take entry.memberCount.toNat).find? fun member => member.name = name with
  | some member => .ok member.id
  | none => if (maxUsers : Int) < entry.memberCount then .error .outOfRange else .ok (-1)

def kickCommand (now : Int) (line : Text) (ui : Ui) : Except Fault CommandResult :=
  if ui.previousScreen ≠ .chat then
    .ok (false, ui.say "Error: You must enter the server to kick members.")
  else
    match ui.openServer with
    | none => .ok (false, ui)
    | some server =>
      let name := commandName 6 line
      if name = Text.empty then .ok (false, ui)
      else do
        let entry := ui.servers.slot server
        let targetId ← memberIdOf name entry
        return (false,
          if targetId ≠ -1 then
            (Client.kickServerMember now entry.id targetId ui).say "Sending kick request..."
          else ui.say "Error: User not found in server.")

def createChannelCommand (now : Int) (line : Text) (ui : Ui) : CommandResult :=
  (false,
    if ui.previousScreen ≠ .chat then
      ui.say "Error: You must enter the server to create channels."
    else
      match ui.openServer with
      | none => ui
      | some server =>
        let name := commandName 15 line
        if name = Text.empty then ui.say "Error: Channel name cannot be empty."
        else
          (Client.createChannel now (ui.servers.slot server).id name ui).say
            "Sending create request...")

def deleteServerCommand (now : Int) (line : Text) (ui : Ui) : CommandResult :=
  let name := line.drop 14
  let found := ui.servers.find? fun entry => entry.name = name
  let targetId := found.elim (-1) fun index => (ui.servers.slot index).id
  (false,
    if targetId ≠ -1 then (Client.deleteServer now targetId ui).say "Sending delete request..."
    else ui.say "Error: Server not found in your list.")

def deleteChannelCommand (now : Int) (line : Text) (ui : Ui) : CommandResult :=
  (false,
    if ui.previousScreen ≠ .chat then
      ui.say "Error: You must enter the server to delete channels."
    else
      match ui.openServer with
      | none => ui.say "Error: You must join a server to delete its channels."
      | some server =>
        let channels := (ui.servers.slot server).channels
        let found := channels.find? fun channel => channel.name = line.drop 15
        let targetId := found.elim (-1) fun index => (channels.slot index).id
        if targetId ≠ -1 then
          (Client.deleteChannel now targetId ui).say "Sending delete request..."
        else ui.say "Error: Channel not found in this server.")

/-- The status after `/setstatus`, without the spaces on both sides. -/
def statusArgument (line : Text) : Text :=
  let raw := line.drop 10
  stripTrailing (raw.drop (raw.bytes.takeWhile (· = 32)).length)

def setStatusCommand (now : Int) (line : Text) (ui : Ui) : CommandResult :=
  let status := statusArgument line
  (false,
    if status.bytes.length = 0 then
      ui.say "Error: Status cannot be empty. Use /setstatus <1-64 characters>."
    else if profileStatusLen < status.bytes.length then
      ui.say ("Error: Status is " ++ toString status.bytes.length ++
        " characters. Maximum is " ++ toString profileStatusLen ++ ".")
    else (Client.sendStatusUpdate now status ui).say "Updating status...")

/-- The commands of the command line. -/
inductive Command where
  | help | friend | accept | unfriend | reject | createServer | leaveServer | kick | createChannel
  | deleteServer | deleteChannel | setStatus | unknown
  deriving DecidableEq, Repr

/-- The command a line calls, in the order in which the source tries them. -/
def commandOf (line : Text) : Command :=
  if line = Text.ofString "/help" then .help
  else if line.startsWith (Text.ofString "/friend ") then .friend
  else if line.startsWith (Text.ofString "/accept ") then .accept
  else if line.startsWith (Text.ofString "/unfriend ") then .unfriend
  else if line.startsWith (Text.ofString "/reject ") then .reject
  else if line.startsWith (Text.ofString "/createserver ") then .createServer
  else if line = Text.ofString "/leaveserver" then .leaveServer
  else if line.startsWith (Text.ofString "/kick ") then .kick
  else if line.startsWith (Text.ofString "/createchannel ") then .createChannel
  else if line.startsWith (Text.ofString "/deleteserver ") then .deleteServer
  else if line.startsWith (Text.ofString "/deletechannel ") then .deleteChannel
  else if line = Text.ofString "/setstatus" then .setStatus
  else if line.startsWith (Text.ofString "/setstatus ") then .setStatus
  else .unknown

def runCommand (now : Int) (line : Text) (ui : Ui) : Command → Except Fault CommandResult
  | .help => .ok (false, { ui with showHelp := true, commandStatusMsg := Text.empty })
  | .friend => .ok (friendCommand now (Client.sendFriendRequest now) (commandName 8 line) ui)
  | .accept => .ok (friendCommand now (Client.acceptFriendRequest now) (commandName 8 line) ui)
  | .unfriend => .ok (friendCommand now (Client.unfriend now) (commandName 10 line) ui)
  | .reject => .ok (friendCommand now (Client.rejectFriendRequest now) (commandName 8 line) ui)
  | .createServer => .ok (createServerCommand now line ui)
  | .leaveServer => .ok (leaveServerCommand now ui)
  | .kick => kickCommand now line ui
  | .createChannel => .ok (createChannelCommand now line ui)
  | .deleteServer => .ok (deleteServerCommand now line ui)
  | .deleteChannel => .ok (deleteChannelCommand now line ui)
  | .setStatus => .ok (setStatusCommand now line ui)
  | .unknown => .ok (false, ui.say "Error: Unknown command.")

/-- ENTER on the command line. -/
def submitCommand (now : Int) (ui : Ui) : Except Fault Ui := do
  let line := ui.cmdInput.text
  let result ← runCommand now line ui (commandOf line)
  let ui := result.2
  return if result.1 then
    { ui with
      cmdInput := ui.cmdInput.clear
      currentScreen := ui.previousScreen
      commandStatusMsg := Text.empty
      showHelp := false }
  else ui

def handleCommandInput (now : Int) (key : Key) (ui : Ui) : Except Fault Ui :=
  match key with
  | .escape => .ok { ui with currentScreen := ui.previousScreen, showHelp := false }
  | .enter => submitCommand now ui
  | .backspace => .ok { ui with cmdInput := ui.cmdInput.backspace, showHelp := false }
  | .printable character =>
    .ok (if ui.cmdInput.length < maxMsgLen - 1 then
      { ui with
        cmdInput := ui.cmdInput.type character.val
        commandStatusMsg := Text.empty
        showHelp := false }
    else ui)
  | .tab | .up | .down | .f1 | .f2 | .f3 | .f4 | .other => .ok ui

/-! ### Friends and users -/

def handleFriendsInput (now : Int) (key : Key) (ui : Ui) : Ui :=
  match key with
  | .f2 => Client.listAllServersRequest now { ui with currentScreen := .servers }
  | .f1 => ui.openCommandLine
  | .up => { ui with friendCursor := ui.friendCursor - 1 }
  | .down =>
    if ui.friendCursor + 1 < ui.friends.count then
      { ui with friendCursor := ui.friendCursor + 1 }
    else ui
  | .escape => Client.sendLogout now ui
  | .f3 => Client.requestUserList now { ui with currentScreen := .users }
  | .tab | .enter | .backspace | .f4 | .printable _ | .other => ui

def handleUsersInput (now : Int) (key : Key) (ui : Ui) : Ui :=
  match key with
  | .f2 => Client.listAllServersRequest now { ui with currentScreen := .servers }
  | .f1 => ui.openCommandLine
  | .up => { ui with userListCursor := ui.userListCursor - 1 }
  | .down =>
    if ui.userListCursor + 1 < ui.allUsers.count then
      { ui with userListCursor := ui.userListCursor + 1 }
    else ui
  | .escape => Client.sendLogout now ui
  | .tab | .enter | .backspace | .f3 | .f4 | .printable _ | .other => ui

/-! ### Direct messages -/

/-- The loop of TAB: from an index on, the first one of an accepted friend. After as many rounds
as there are friends it sees the same ones again. -/
def nextFriend (friends : SlotArray UIFriend maxFriends) (positive : 0 < friends.count) :
    Nat → Fin maxFriends → Except Fault (Fin maxFriends)
  | 0, _ => .error .endless
  | rounds + 1, index =>
    let next : Fin maxFriends :=
      ⟨(index.val + 1) % friends.count, (Nat.mod_lt _ positive).trans_le friends.fits⟩
    if (friends.slot next).type = acceptedType then .ok next
    else nextFriend friends positive rounds next

/-- TAB among the direct messages. -/
def cycleFriend (now : Int) (active : Fin maxFriends) (ui : Ui) : Except Fault Ui :=
  if positive : 0 < ui.friends.count then do
    let next ← nextFriend ui.friends positive ui.friends.count active
    return Client.requestDmHistory now (ui.friends.slot next).id
      { ui with activeDmFriend := some next, dmInput := ui.dmInput.clear }
  else .error .divisionByZero

/-- The message that the client shows of what its user sends. -/
def ownMessage (now : Int) (ui : Ui) (user : Fin maxUsers) : Message where
  sender := storedName (ui.users.slot user).username
  body := storedBody ui.dmInput.text
  ts := now

/-- Show what the user sends, while the view has room for it. -/
def fileOwnMessage (now : Int) (active : Fin maxFriends) (ui : Ui) : Except Fault Ui :=
  if (ui.friends.slot active).messages.count < maxMessages then do
    let user ← ui.anyUser
    let message := ownMessage now ui user
    return ui.modifyFriend active fun friend =>
      { friend with messages := friend.messages.file fun _ => message }
  else .ok ui

/-- ENTER among the direct messages: the line goes to the server and into the view. -/
def submitDm (now : Int) (active : Fin maxFriends) (ui : Ui) : Except Fault Ui :=
  if 0 < ui.dmInput.length then do
    let ui := Client.sendDmMessage now (ui.friends.slot active).id ui.dmInput.text ui
    let ui ← fileOwnMessage now active ui
    return { ui with dmInput := ui.dmInput.clear }
  else .ok ui

def handleDmsInput (now : Int) (key : Key) (ui : Ui) : Except Fault Ui :=
  match ui.activeDmFriend with
  | none =>
    .ok (match key with
      | .f2 => { ui with currentScreen := .servers }
      | _ => ui)
  | some active =>
    match key with
    | .tab => cycleFriend now active ui
    | .f2 => .ok { ui with currentScreen := .servers }
    | .enter => submitDm now active ui
    | .backspace => .ok { ui with dmInput := ui.dmInput.backspace }
    | .printable character => .ok { ui with dmInput := ui.dmInput.type character.val }
    | .escape | .up | .down | .f1 | .f3 | .f4 | .other => .ok ui

/-! ### Dispatch -/

def handleKey (now : Int) (key : Key) (ui : Ui) : Except Fault Ui :=
  match ui.currentScreen with
  | .login => .ok (handleAuthInput now false key ui)
  | .signup => .ok (handleAuthInput now true key ui)
  | .servers => handleServerInput now key ui
  | .friends => .ok (handleFriendsInput now key ui)
  | .chat => handleChatInput now key ui
  | .command => handleCommandInput now key ui
  | .dms => handleDmsInput now key ui
  | .users => .ok (handleUsersInput now key ui)

end Tizcord
