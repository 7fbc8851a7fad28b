/-
This file models the state of the client: the global variables of client/ui.c and
client/client.c. An array of the source is a function on the indices below its
declared size, so an access with any other index has no meaning and is a fault.
What only the drawing functions read is left out.
-/

import Tizcord.Library.SlotArray
import Tizcord.Shared.Protocol

namespace Tizcord

open CModel

def maxUsers : Nat := 16
def uiMaxServers : Nat := 8
def uiMaxChannels : Nat := 5
def maxMessages : Nat := 64
def maxMsgLen : Nat := 240
def maxPassLen : Nat := 32
def maxFriends : Nat := 64
def maxAllUsers : Nat := 128

instance : NeZero uiMaxServers := ⟨by decide⟩
instance : NeZero uiMaxChannels := ⟨by decide⟩
instance : NeZero maxFriends := ⟨by decide⟩

inductive Screen where
  | login | signup | servers | friends | chat | command | dms | users
  deriving DecidableEq, Repr

/-- Where the code has no defined behaviour, or does not go on. -/
inductive Fault where
  | outOfRange | divisionByZero | endless
  deriving DecidableEq, Repr

/-- The slot of an array of `size` elements that a computed index selects. -/
def slotAt (size : Nat) (index : Int) : Except Fault (Fin size) :=
  if inside : 0 ≤ index ∧ index.toNat < size then .ok ⟨index.toNat, inside.2⟩
  else .error .outOfRange

/-! ### Data -/

structure User where
  username : Text
  password : Text
  serverId : Int
  deriving DecidableEq

structure Message where
  sender : Text
  body : Text
  ts : Int
  deriving DecidableEq

/-- Messages under a counter, as channels and friends have them. -/
abbrev Messages : Type := SlotArray Message maxMessages

structure UIChannel where
  name : Text
  messages : Messages
  id : Int

/-- One member of a server: the elements of its four member arrays at one index. -/
structure UIMember where
  name : Text
  isAdmin : Bool
  isOnline : Bool
  id : Int
  deriving DecidableEq

/-- A server. The counter of the members is a number of the server's choice, so it says nothing
about the arrays. -/
structure UIServer where
  id : Int
  name : Text
  memberCount : Int
  members : Fin maxUsers → UIMember
  channels : SlotArray UIChannel uiMaxChannels

structure UIFriend where
  id : Int
  username : Text
  type : Int
  messages : Messages

structure UIUser where
  id : Int
  username : Text
  status : Text
  isOnline : Int
  deriving DecidableEq

/-- The field of the login form that has the focus. -/
inductive AuthField where
  | username | password
  deriving DecidableEq, Repr

def AuthField.other : AuthField → AuthField
  | .username => .password
  | .password => .username

structure AuthState where
  username : Text
  password : Text
  field : AuthField
  error : Text
  success : Text

/-- An input line: its memory and the length the code keeps beside it. -/
structure InputLine where
  memory : Image maxMsgLen
  length : Nat

/-! ### Memory after start-up -/

def Message.zero : Message := ⟨Text.empty, Text.empty, 0⟩

def Messages.zero : Messages := SlotArray.empty Message.zero

def UIChannel.zero : UIChannel := ⟨Text.empty, Messages.zero, 0⟩

def UIMember.zero : UIMember := ⟨Text.empty, false, false, 0⟩

/-- A server after `memset(.., 0, ..)`. -/
def UIServer.zero : UIServer where
  id := 0
  name := Text.empty
  memberCount := 0
  members _ := UIMember.zero
  channels := SlotArray.empty UIChannel.zero

def UIFriend.zero : UIFriend := ⟨0, Text.empty, 0, Messages.zero⟩

def UIUser.zero : UIUser := ⟨0, Text.empty, Text.empty, 0⟩

namespace InputLine

def zero : InputLine := ⟨Image.zero, 0⟩

/-- The line up to its first zero byte. -/
def text (line : InputLine) : Text :=
  line.memory.text 0 []

/-- `line[0] = 0; length = 0;` -/
def clear (line : InputLine) : InputLine :=
  ⟨line.memory.store 0 [0], 0⟩

/-- The slash with which a command starts. Nothing is written behind it. -/
def openCommand (line : InputLine) : InputLine :=
  ⟨line.memory.store 0 [47], 1⟩

/-- Type a character, while there is room for it and a terminator. -/
def type (line : InputLine) (character : UInt8) : InputLine :=
  if line.length < maxMsgLen - 1 then
    ⟨line.memory.store line.length [character, 0], line.length + 1⟩
  else line

def backspace (line : InputLine) : InputLine :=
  if 0 < line.length then ⟨line.memory.store (line.length - 1) [0], line.length - 1⟩ else line

end InputLine

/-! ### The state -/

/-- The globals. An index that the code keeps in a variable is one of the array it belongs to,
with `none` for -1. `connected` is whether there is a socket, and `requests` are the packets
handed to it so far. -/
structure Ui where
  users : SlotArray User maxUsers
  currentUser : Option (Fin maxUsers)
  servers : SlotArray UIServer uiMaxServers
  currentScreen : Screen
  previousScreen : Screen
  activeServer : Option (Fin uiMaxServers)
  activeChannel : Fin uiMaxChannels
  friends : SlotArray UIFriend maxFriends
  friendCursor : Nat
  activeDmFriend : Option (Fin maxFriends)
  dmInput : InputLine
  cmdInput : InputLine
  commandStatusMsg : Text
  showHelp : Bool
  allUsers : SlotArray UIUser maxAllUsers
  userListCursor : Nat
  auth : AuthState
  serverCursor : Fin uiMaxServers
  chatInput : InputLine
  connected : Bool
  requests : List TizcordPacket

namespace Ui

/-- The client when it has connected and its interface starts. -/
def start : Ui where
  users := SlotArray.empty ⟨Text.empty, Text.empty, 0⟩
  currentUser := none
  servers := SlotArray.empty UIServer.zero
  currentScreen := .login
  previousScreen := .login
  activeServer := none
  activeChannel := 0
  friends := SlotArray.empty UIFriend.zero
  friendCursor := 0
  activeDmFriend := none
  dmInput := InputLine.zero
  cmdInput := InputLine.zero
  commandStatusMsg := Text.empty
  showHelp := false
  allUsers := SlotArray.empty UIUser.zero
  userListCursor := 0
  auth := ⟨Text.empty, Text.empty, .username, Text.empty, Text.empty⟩
  serverCursor := 0
  chatInput := InputLine.zero
  connected := true
  requests := []

/-- The active server, where the code checks that its index is below `server_count`. -/
def openServer (ui : Ui) : Option (Fin uiMaxServers) :=
  ui.activeServer.filter ui.servers.inUse

/-- `servers[active_server]` without a check. -/
def anyServer (ui : Ui) : Except Fault (Fin uiMaxServers) :=
  match ui.activeServer with
  | none => .error .outOfRange
  | some index => .ok index

/-- `users[current_user]` without a check. -/
def anyUser (ui : Ui) : Except Fault (Fin maxUsers) :=
  match ui.currentUser with
  | none => .error .outOfRange
  | some index => .ok index

def modifyServer (ui : Ui) (index : Fin uiMaxServers) (write : UIServer → UIServer) : Ui :=
  { ui with servers := ui.servers.modify index write }

def setUserServer (ui : Ui) (index : Fin maxUsers) (serverId : Int) : Ui :=
  { ui with users := ui.users.modify index fun user => { user with serverId } }

def openCommandLine (ui : Ui) : Ui :=
  { ui with
    previousScreen := ui.currentScreen
    currentScreen := .command
    cmdInput := ui.cmdInput.openCommand }

/-- What follows the good end of a command: no message, and no command line. -/
def closeCommandLine (ui : Ui) : Ui :=
  if ui.currentScreen = .command then
    { ui with
      commandStatusMsg := Text.empty
      cmdInput := ui.cmdInput.clear
      currentScreen := ui.previousScreen }
  else { ui with commandStatusMsg := Text.empty }

def say (ui : Ui) (message : String) : Ui :=
  { ui with commandStatusMsg := Text.ofString message }

end Ui

end Tizcord
