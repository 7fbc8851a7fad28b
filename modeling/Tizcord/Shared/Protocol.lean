/-
This file models shared/protocol.h: the enumerations of the protocol and the
structure `TizcordPacket`, as the 624 bytes it occupies on a little-endian
64-bit ABI. The payload is a union, so the fields of its variants overlap: a
field is an offset into the packet, and every variant starts at the same one.
-/

import Tizcord.Library.Memory

namespace Tizcord

open CModel

/-! ### Constants and enumerations -/

def maxNameLen : Nat := 32
def passwordLen : Nat := 64
def messageLen : Nat := 512
def systemMessageLen : Nat := 256
def profileStatusLen : Nat := 64

inductive PacketType where
  | auth | dm | server | channel | social
  deriving DecidableEq, Repr

def PacketType.code : PacketType → Int
  | .auth => 0
  | .dm => 1
  | .server => 2
  | .channel => 3
  | .social => 4

/-- The enumerator a stored value denotes, if it denotes one. -/
def PacketType.ofCode : Int → Option PacketType
  | 0 => some .auth
  | 1 => some .dm
  | 2 => some .server
  | 3 => some .channel
  | 4 => some .social
  | _ => none

inductive UserStatus where
  | online | offline
  deriving DecidableEq, Repr

def UserStatus.code : UserStatus → Int
  | .online => 0
  | .offline => 1

inductive ResponseCode where
  | ok | done | errInvalid | errUnauthorized | errNotFound | errConflict | errDb | errInternal
  deriving DecidableEq, Repr

def ResponseCode.code : ResponseCode → Int
  | .ok => 0
  | .done => 1
  | .errInvalid => -1
  | .errUnauthorized => -2
  | .errNotFound => -3
  | .errConflict => -4
  | .errDb => -5
  | .errInternal => -6

inductive ListFrameType where
  | single | start | middle | «end»
  deriving DecidableEq, Repr

def ListFrameType.code : ListFrameType → Int
  | .single => 0
  | .start => 1
  | .middle => 2
  | .end => 3

inductive AuthAction where
  | login | register | logout
  deriving DecidableEq, Repr

def AuthAction.code : AuthAction → Int
  | .login => 0
  | .register => 1
  | .logout => 2

def AuthAction.ofCode : Int → Option AuthAction
  | 0 => some .login
  | 1 => some .register
  | 2 => some .logout
  | _ => none

inductive DMAction where
  | message | historyRequest
  deriving DecidableEq, Repr

def DMAction.code : DMAction → Int
  | .message => 0
  | .historyRequest => 1

def DMAction.ofCode : Int → Option DMAction
  | 0 => some .message
  | 1 => some .historyRequest
  | _ => none

inductive ServerAction where
  | join | leave | create | delete | list | listChannels | listMembers | listJoined | kickMember
  deriving DecidableEq, Repr

def ServerAction.code : ServerAction → Int
  | .join => 0
  | .leave => 1
  | .create => 2
  | .delete => 3
  | .list => 4
  | .listChannels => 5
  | .listMembers => 6
  | .listJoined => 7
  | .kickMember => 8

def ServerAction.ofCode : Int → Option ServerAction
  | 0 => some .join
  | 1 => some .leave
  | 2 => some .create
  | 3 => some .delete
  | 4 => some .list
  | 5 => some .listChannels
  | 6 => some .listMembers
  | 7 => some .listJoined
  | 8 => some .kickMember
  | _ => none

inductive ChannelAction where
  | create | delete | message | historyRequest
  deriving DecidableEq, Repr

def ChannelAction.code : ChannelAction → Int
  | .create => 0
  | .delete => 1
  | .message => 2
  | .historyRequest => 3

def ChannelAction.ofCode : Int → Option ChannelAction
  | 0 => some .create
  | 1 => some .delete
  | 2 => some .message
  | 3 => some .historyRequest
  | _ => none

inductive SocialAction where
  | friendRequest | friendAccept | friendReject | friendRemove | listFriends | listUsers
  | updateStatus
  deriving DecidableEq, Repr

def SocialAction.code : SocialAction → Int
  | .friendRequest => 0
  | .friendAccept => 1
  | .friendReject => 2
  | .friendRemove => 3
  | .listFriends => 4
  | .listUsers => 5
  | .updateStatus => 6

def SocialAction.ofCode : Int → Option SocialAction
  | 0 => some .friendRequest
  | 1 => some .friendAccept
  | 2 => some .friendReject
  | 3 => some .friendRemove
  | 4 => some .listFriends
  | 5 => some .listUsers
  | 6 => some .updateStatus
  | _ => none

theorem PacketType.code_ofCode {code : Int} {type : PacketType}
    (decoded : PacketType.ofCode code = some type) : type.code = code := by
  unfold PacketType.ofCode at decoded
  split at decoded <;> cases decoded <;> rfl

@[simp] theorem PacketType.ofCode_code (type : PacketType) :
    PacketType.ofCode type.code = some type := by
  cases type <;> rfl

/-! ### The layout of a packet -/

section Layout

/-- Size and alignment of `int`, `int32_t` and the enumerations. -/
def intMember : Nat × Nat := (4, 4)

/-- Size and alignment of `int64_t`. -/
def int64Member : Nat × Nat := (8, 8)

/-- Size and alignment of a character array. -/
def charsMember (length : Nat) : Nat × Nat := (length, 1)

def systemPayload : List (Nat × Nat) :=
  [intMember, intMember, charsMember systemMessageLen]

def authPayload : List (Nat × Nat) :=
  [intMember, intMember, charsMember maxNameLen, charsMember passwordLen]

def dmPayload : List (Nat × Nat) :=
  [intMember, intMember, intMember, int64Member, charsMember messageLen]

def serverPayload : List (Nat × Nat) :=
  [intMember, int64Member, int64Member, intMember, intMember, charsMember maxNameLen]

def channelPayload : List (Nat × Nat) :=
  [intMember, int64Member, intMember, int64Member, charsMember maxNameLen, int64Member,
    charsMember messageLen]

def socialPayload : List (Nat × Nat) :=
  [intMember, intMember, intMember, int64Member, charsMember maxNameLen,
    charsMember (profileStatusLen + 1)]

/-- The size of the union: that of its largest variant. -/
def payloadSize : Nat :=
  ([systemPayload, authPayload, dmPayload, serverPayload, channelPayload, socialPayload].map
    structSize).foldl max 0

def packetMembers : List (Nat × Nat) :=
  [intMember, int64Member, intMember, intMember, intMember, intMember, (payloadSize, 8),
    int64Member]

/-- `sizeof(TizcordPacket)`. -/
def packetSize : Nat := 624

example : structSize packetMembers = packetSize := by decide
example : memberOffsets 0 packetMembers = [0, 8, 16, 20, 24, 28, 32, 616] := by decide
example : memberOffsets 32 authPayload = [32, 36, 40, 72] := by decide
example : memberOffsets 32 dmPayload = [32, 36, 40, 48, 56] := by decide
example : memberOffsets 32 serverPayload = [32, 40, 48, 56, 60, 64] := by decide
example : memberOffsets 32 channelPayload = [32, 40, 48, 56, 64, 96, 104] := by decide
example : memberOffsets 32 socialPayload = [32, 36, 40, 48, 56, 88] := by decide

end Layout

/-- A packet in memory, payload union and padding included. -/
abbrev TizcordPacket : Type := Image packetSize

namespace TizcordPacket

variable (packet : TizcordPacket)

/-! ### Fields outside the payload -/

def type : Int := packet.int32 0
def senderId : Int := packet.int64 8
def listTotal : Int := packet.int32 24
def listFrame : Int := packet.int32 28
def timestamp : Int := packet.int64 616

def setType (value : PacketType) : TizcordPacket := packet.putInt32 0 value.code
def setSenderId (value : Int) : TizcordPacket := packet.putInt64 8 value
def setListId (value : Int) : TizcordPacket := packet.putInt32 16 value
def setListIndex (value : Int) : TizcordPacket := packet.putInt32 20 value
def setListTotal (value : Int) : TizcordPacket := packet.putInt32 24 value
def setListFrame (value : ListFrameType) : TizcordPacket := packet.putInt32 28 value.code
def setTimestamp (value : Int) : TizcordPacket := packet.putInt64 616 value

/-! ### SystemPayload -/

/-! ### AuthPayload -/

def authAction : Int := packet.int32 32
def authStatusCode : Int := packet.int32 36
def authUsernameField : List UInt8 := packet.slice 40 maxNameLen
def authPasswordField : List UInt8 := packet.slice 72 passwordLen
def authUsername (beyond : List UInt8) : Text := packet.text 40 beyond
def authPassword (beyond : List UInt8) : Text := packet.text 72 beyond

def setAuthAction (value : Int) : TizcordPacket := packet.putInt32 32 value
def setAuthStatusCode (value : Int) : TizcordPacket := packet.putInt32 36 value
def strncpyAuthUsername (source : Text) : TizcordPacket :=
  packet.strncpy 40 (maxNameLen - 1) source
def strncpyAuthPassword (source : Text) : TizcordPacket :=
  packet.strncpy 72 (passwordLen - 1) source

/-! ### DMPayload -/

def dmAction : Int := packet.int32 32
def dmRecipientId : Int := packet.int32 40
def dmMessage (beyond : List UInt8) : Text := packet.text 56 beyond

def setDmAction (value : Int) : TizcordPacket := packet.putInt32 32 value
def setDmStatusCode (value : Int) : TizcordPacket := packet.putInt32 36 value
def setDmRecipientId (value : Int) : TizcordPacket := packet.putInt32 40 value
def setDmMessageId (value : Int) : TizcordPacket := packet.putInt64 48 value
def strncpyDmMessage (source : Text) : TizcordPacket :=
  packet.strncpy 56 (messageLen - 1) source

/-! ### ServerPayload -/

def serverAction : Int := packet.int32 32
def serverServerId : Int := packet.int64 40
def serverTargetUserId : Int := packet.int64 48
def serverStatusCode : Int := packet.int32 56
def serverMemberCount : Int := packet.int32 60
def serverServerName (beyond : List UInt8) : Text := packet.text 64 beyond

def setServerAction (value : Int) : TizcordPacket := packet.putInt32 32 value
def setServerServerId (value : Int) : TizcordPacket := packet.putInt64 40 value
def setServerTargetUserId (value : Int) : TizcordPacket := packet.putInt64 48 value
def setServerStatusCode (value : Int) : TizcordPacket := packet.putInt32 56 value
def setServerMemberCount (value : Int) : TizcordPacket := packet.putInt32 60 value
def strncpyServerServerName (source : Text) : TizcordPacket :=
  packet.strncpy 64 (maxNameLen - 1) source

/-! ### ChannelPayload -/

def channelAction : Int := packet.int32 32
def channelServerId : Int := packet.int64 40
def channelStatusCode : Int := packet.int32 48
def channelChannelId : Int := packet.int64 56
def channelChannelName (beyond : List UInt8) : Text := packet.text 64 beyond
def channelMessageField : List UInt8 := packet.slice 104 messageLen
def channelMessage (beyond : List UInt8) : Text := packet.text 104 beyond

def setChannelAction (value : Int) : TizcordPacket := packet.putInt32 32 value
def setChannelServerId (value : Int) : TizcordPacket := packet.putInt64 40 value
def setChannelStatusCode (value : Int) : TizcordPacket := packet.putInt32 48 value
def setChannelChannelId (value : Int) : TizcordPacket := packet.putInt64 56 value
def strncpyChannelChannelName (source : Text) : TizcordPacket :=
  packet.strncpy 64 (maxNameLen - 1) source
def setChannelMessageId (value : Int) : TizcordPacket := packet.putInt64 96 value
def strncpyChannelMessage (source : Text) : TizcordPacket :=
  packet.strncpy 104 (messageLen - 1) source

/-! ### SocialPayload -/

def socialStatus : Int := packet.int32 32
def socialAction : Int := packet.int32 36
def socialStatusCode : Int := packet.int32 40
def socialTargetUserId : Int := packet.int64 48
def socialTargetUsername (beyond : List UInt8) : Text := packet.text 56 beyond
def socialTargetStatusField : List UInt8 := packet.slice 88 (profileStatusLen + 1)
def socialTargetStatus (beyond : List UInt8) : Text := packet.text 88 beyond

def setSocialStatus (value : UserStatus) : TizcordPacket := packet.putInt32 32 value.code
def setSocialAction (value : Int) : TizcordPacket := packet.putInt32 36 value
def setSocialStatusCode (value : Int) : TizcordPacket := packet.putInt32 40 value
def setSocialTargetUserId (value : Int) : TizcordPacket := packet.putInt64 48 value
def strncpySocialTargetUsername (source : Text) : TizcordPacket :=
  packet.strncpy 56 (maxNameLen - 1) source
def strncpySocialTargetStatus (source : Text) : TizcordPacket :=
  packet.strncpy 88 profileStatusLen source

end TizcordPacket

end Tizcord
