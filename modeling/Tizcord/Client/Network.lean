/-
This file models the network callbacks of client/ui.c: what each kind of packet
does to the state of the client.
-/

import Tizcord.Client.Client
import Tizcord.Library.ExchangeSort

namespace Tizcord

open CModel

/-- A name as the client stores it. -/
def storedName (name : Text) : Text :=
  name.take (maxNameLen - 1)

theorem storedName_take (name : Text) :
    storedName (name.take (maxNameLen - 1)) = storedName name := by
  refine Text.ext ?_
  simp [storedName, Text.take, List.take_take]

def ListFrameType.marks (frame : ListFrameType) (packet : TizcordPacket) : Bool :=
  packet.listFrame = frame.code

/-- Whether a packet is the first one of a framed list. -/
def opensList (packet : TizcordPacket) : Bool :=
  ListFrameType.start.marks packet || ListFrameType.single.marks packet

/-! ### Authentication -/

/-- A new user signs in: the next slot of the users is theirs, without a check that there is
one. -/
def signIn (now : Int) (ui : Ui) : Except Fault Ui :=
  if room : ui.users.count < maxUsers then
    let user : User :=
      ⟨storedName ui.auth.username, ui.auth.password.take (maxPassLen - 1), -1⟩
    let ui := { ui with
      users := ui.users.file fun _ => user
      currentUser := some ⟨ui.users.count, room⟩
      currentScreen := .servers }
    let ui := Client.listAllServersRequest now ui
    .ok { ui with
      auth := ⟨Text.empty, Text.empty, .username, Text.empty,
        Text.ofString "Authentication Successful!"⟩ }
  else .error .outOfRange

def signOut (packet : TizcordPacket) (ui : Ui) : Ui :=
  let error := if packet.authStatusCode = ResponseCode.done.code then "Signed out."
    else "Signed out: logged in elsewhere"
  { ui with
    currentUser := none
    activeServer := none
    activeChannel := 0
    activeDmFriend := none
    previousScreen := .login
    currentScreen := .login
    servers := ui.servers.clear
    serverCursor := 0
    friends := ui.friends.clear
    friendCursor := 0
    allUsers := ui.allUsers.clear
    userListCursor := 0
    showHelp := false
    chatInput := ui.chatInput.clear
    dmInput := ui.dmInput.clear
    cmdInput := ui.cmdInput.clear
    commandStatusMsg := Text.empty
    auth := ⟨Text.empty, Text.empty, .username, Text.ofString error, Text.empty⟩ }

/-- What an authentication packet with a certain action does. -/
def handleAuthResponse (now : Int) (packet : TizcordPacket) (ui : Ui) :
    Option AuthAction → Except Fault Ui
  | some .register | some .login =>
    if packet.authStatusCode = ResponseCode.ok.code then signIn now ui
    else
      .ok { ui with
        auth := { ui.auth with
          error := Text.ofString "Invalid Username or Password."
          success := Text.empty } }
  | some .logout => .ok (signOut packet ui)
  | none => .ok ui

def uiHandleAuthResponse (now : Int) (packet : TizcordPacket) (ui : Ui) : Except Fault Ui :=
  handleAuthResponse now packet ui (AuthAction.ofCode packet.authAction)

/-! ### Messages -/

/-- The channel that is open: that of the active index of the active server. -/
def Ui.openChannel (ui : Ui) : Option (Fin uiMaxServers × Fin uiMaxChannels) :=
  ui.openServer.bind fun server =>
    if (ui.servers.slot server).channels.inUse ui.activeChannel then
      some (server, ui.activeChannel)
    else none

def Ui.modifyChannel (ui : Ui) (server : Fin uiMaxServers) (channel : Fin uiMaxChannels)
    (write : UIChannel → UIChannel) : Ui :=
  ui.modifyServer server fun entry =>
    { entry with channels := entry.channels.modify channel write }

def Ui.modifyFriend (ui : Ui) (index : Fin maxFriends) (write : UIFriend → UIFriend) : Ui :=
  { ui with friends := ui.friends.modify index write }

/-- What a packet of a message stream does to the messages of a view: the START frame empties the
view, the END frame does nothing, and every other packet files its message. -/
def receiveMessage (packet : TizcordPacket) (message : Message) (messages : Messages) : Messages :=
  if ListFrameType.start.marks packet then messages.clear
  else if ListFrameType.end.marks packet then messages
  else messages.file fun _ => message

/-- A message text as the client stores it. -/
def storedBody (body : Text) : Text :=
  body.take (maxMsgLen - 1)

/-- `snprintf` of a decimal number into a name. -/
def decimalName (value : Int) : Text :=
  storedName (Text.ofString (toString value))

/-- A channel message carries the name of its author in the field of the channel name. -/
def channelMessageOf (packet : TizcordPacket) : Message where
  sender :=
    let name := packet.channelChannelName []
    if name.bytes.length > 0 then storedName name else decimalName packet.senderId
  body := storedBody (packet.channelMessage [])
  ts := packet.timestamp

def uiReceiveChannelMessage (packet : TizcordPacket) (ui : Ui) : Ui :=
  match ui.openChannel with
  | none => ui
  | some (server, channel) =>
    ui.modifyChannel server channel fun view =>
      { view with messages := receiveMessage packet (channelMessageOf packet) view.messages }

/-- The friend a direct message belongs to: the first one who is its sender or its recipient. -/
def dmFriend (packet : TizcordPacket) (ui : Ui) : Option (Fin maxFriends) :=
  ui.friends.find? fun friend =>
    friend.id = packet.senderId || friend.id = packet.dmRecipientId

def Ui.ownName (ui : Ui) : Text :=
  match ui.currentUser with
  | none => Text.ofString "Me"
  | some index => storedName (ui.users.slot index).username

def dmMessageOf (packet : TizcordPacket) (ui : Ui) (friend : UIFriend) : Message where
  sender := if packet.senderId = friend.id then storedName friend.username else ui.ownName
  body := storedBody (packet.dmMessage [])
  ts := packet.timestamp

def uiReceiveDmMessage (packet : TizcordPacket) (ui : Ui) : Ui :=
  match dmFriend packet ui with
  | none => ui
  | some index =>
    ui.modifyFriend index fun friend =>
      { friend with
        messages := receiveMessage packet (dmMessageOf packet ui friend) friend.messages }

/-! ### Servers -/

def memberFlag (packet : TizcordPacket) (bit : Nat) : Bool :=
  (packet.serverMemberCount % 2 ^ 32).toNat.testBit bit

/-- The reply to a request to leave the active server. -/
def serverLeft (now : Int) (packet : TizcordPacket) (ui : Ui) : Ui :=
  if packet.serverStatusCode = ResponseCode.ok.code then
    let ui := { ui with
      commandStatusMsg := Text.empty
      activeServer := none
      activeChannel := 0 }
    let ui := match ui.currentUser with
      | none => ui
      | some index => ui.setUserServer index (-1)
    Client.listAllServersRequest now { ui with currentScreen := .servers }
  else ui

def permissionDenied (ui : Ui) : Ui :=
  ui.say "Permission Denied: You are not an admin of this server."

/-- The reply to a request to delete a server. -/
def serverDeleted (now : Int) (packet : TizcordPacket) (ui : Ui) : Except Fault Ui :=
  if packet.serverStatusCode = ResponseCode.ok.code then
    let ui := Client.listAllServersRequest now ui.closeCommandLine
    match ui.activeServer with
    | none => .ok ui
    | some server =>
      if (ui.servers.slot server).id = packet.serverServerId then do
        let ui := { ui with activeServer := none }
        let user ← ui.anyUser
        return { ui.setUserServer user (-1) with currentScreen := .servers }
      else .ok ui
  else .ok (permissionDenied ui)

/-- A row of a list of servers. The id is cut to 32 bits. -/
def listedServer (packet : TizcordPacket) : UIServer :=
  { UIServer.zero with
    id := signed 32 packet.serverServerId
    memberCount := packet.serverMemberCount
    name := storedName (packet.serverServerName []) }

def fileServer (packet : TizcordPacket) (servers : SlotArray UIServer uiMaxServers) :
    SlotArray UIServer uiMaxServers :=
  let servers := if opensList packet then servers.clear else servers
  if packet.listTotal > 0 then servers.file fun _ => listedServer packet else servers

def serverListed (packet : TizcordPacket) (ui : Ui) : Ui :=
  { ui with servers := fileServer packet ui.servers }

/-- A row of a list of channels, written over the channel that was there. -/
def listedChannel (packet : TizcordPacket) (channel : UIChannel) : UIChannel where
  name := storedName (packet.serverServerName [])
  messages := channel.messages.clear
  id := packet.serverServerId

/-- Whether a packet is the last one of a framed list. -/
def closesList (packet : TizcordPacket) : Bool :=
  ListFrameType.end.marks packet || ListFrameType.single.marks packet

def fileChannel (packet : TizcordPacket) (channels : SlotArray UIChannel uiMaxChannels) :
    SlotArray UIChannel uiMaxChannels :=
  let channels := if opensList packet then channels.clear else channels
  if packet.listTotal > 0 then channels.file (listedChannel packet) else channels

def channelListed (now : Int) (packet : TizcordPacket) (ui : Ui) : Ui :=
  match ui.openServer with
  | none => ui
  | some server =>
    let ui := ui.modifyServer server fun entry =>
      { entry with channels := fileChannel packet entry.channels }
    let channels := (ui.servers.slot server).channels
    if closesList packet && channels.inUse ui.activeChannel then
      Client.requestChannelHistory now (channels.slot ui.activeChannel).id ui
    else ui

def listedMember (packet : TizcordPacket) : UIMember where
  name := storedName (packet.serverServerName [])
  isAdmin := memberFlag packet 0
  isOnline := memberFlag packet 1
  id := packet.serverServerId

def fileMember (packet : TizcordPacket) (entry : UIServer) : Except Fault UIServer :=
  let entry := if opensList packet then { entry with memberCount := 0 } else entry
  if packet.listTotal > 0 ∧ entry.memberCount < maxUsers then do
    let index ← slotAt maxUsers entry.memberCount
    return { entry with
      memberCount := entry.memberCount + 1
      members := Function.update entry.members index (listedMember packet) }
  else .ok entry

def memberListed (packet : TizcordPacket) (ui : Ui) : Except Fault Ui :=
  match ui.openServer with
  | none => .ok ui
  | some server => do
    let entry ← fileMember packet (ui.servers.slot server)
    return ui.modifyServer server fun _ => entry

/-- The reply to a request to kick a member. -/
def memberKicked (now : Int) (packet : TizcordPacket) (ui : Ui) : Ui :=
  if packet.serverStatusCode = ResponseCode.ok.code then
    let ui := ui.closeCommandLine
    match ui.activeServer with
    | none => ui
    | some server => Client.requestServerMembers now (ui.servers.slot server).id ui
  else permissionDenied ui

/-- What a server packet with a certain action does. -/
def updateServerState (now : Int) (packet : TizcordPacket) (ui : Ui) :
    Option ServerAction → Except Fault Ui
  | some .create =>
    .ok (if packet.serverStatusCode = ResponseCode.ok.code then
      Client.listAllServersRequest now ui else ui)
  | some .leave => .ok (serverLeft now packet ui)
  | some .delete => serverDeleted now packet ui
  | some .listJoined | some .list => .ok (serverListed packet ui)
  | some .listChannels => .ok (channelListed now packet ui)
  | some .listMembers => memberListed packet ui
  | some .kickMember => .ok (memberKicked now packet ui)
  | some .join | none => .ok ui

def uiUpdateServerState (now : Int) (packet : TizcordPacket) (ui : Ui) : Except Fault Ui :=
  updateServerState now packet ui (ServerAction.ofCode packet.serverAction)

/-! ### Channels -/

/-- The reply to a request to create a channel. -/
def channelCreated (now : Int) (packet : TizcordPacket) (ui : Ui) : Ui :=
  if packet.channelStatusCode = ResponseCode.ok.code then
    let ui := ui.closeCommandLine
    match ui.activeServer with
    | none => ui
    | some server => Client.requestServerChannels now (ui.servers.slot server).id ui
  else permissionDenied ui

/-- The reply to a request to delete a channel. -/
def channelDeleted (now : Int) (packet : TizcordPacket) (ui : Ui) : Ui :=
  if packet.channelStatusCode = ResponseCode.ok.code then
    let ui := ui.closeCommandLine
    match ui.activeServer with
    | none => ui
    | some server =>
      Client.requestServerChannels now (ui.servers.slot server).id
        { ui with activeChannel := 0 }
  else permissionDenied ui

/-- What a channel packet with a certain action does. -/
def updateChannelState (now : Int) (packet : TizcordPacket) (ui : Ui) : Option ChannelAction → Ui
  | some .message => uiReceiveChannelMessage packet ui
  | some .create => channelCreated now packet ui
  | some .delete => channelDeleted now packet ui
  | some .historyRequest | none => ui

/-! ### Friends and users -/

/-- The type of an accepted friend. -/
def acceptedType : Int := 2

/-- A row of the friend list, written over the friend that was there. The messages stay. -/
def listedFriend (packet : TizcordPacket) (friend : UIFriend) : UIFriend :=
  { friend with
    id := packet.socialTargetUserId
    username := storedName (packet.socialTargetUsername [])
    type := packet.socialStatusCode }

/-- The first accepted friend. -/
def Ui.firstFriend (ui : Ui) : Option (Fin maxFriends) :=
  ui.friends.find? fun friend => friend.type = acceptedType

def friendListEnded (now : Int) (ui : Ui) : Ui :=
  if ui.currentScreen = .dms then
    match ui.firstFriend with
    | none => ui
    | some index =>
      Client.requestDmHistory now (ui.friends.slot index).id { ui with activeDmFriend := some index }
  else ui

def friendListed (now : Int) (packet : TizcordPacket) (ui : Ui) : Ui :=
  if ListFrameType.start.marks packet then
    { ui with friends := ui.friends.clear, friendCursor := 0 }
  else if (ListFrameType.middle.marks packet || ListFrameType.single.marks packet) &&
      ui.friends.count < maxFriends then
    { ui with friends := ui.friends.file (listedFriend packet) }
  else if closesList packet then friendListEnded now ui
  else ui

def listedUser (packet : TizcordPacket) : UIUser where
  id := packet.socialTargetUserId
  username := storedName (packet.socialTargetUsername [])
  status := (packet.socialTargetStatus []).take profileStatusLen
  isOnline := packet.socialStatusCode

/-- An ASCII letter in lower case; any other byte as it is. -/
def toLower (byte : UInt8) : UInt8 :=
  if 65 ≤ byte ∧ byte ≤ 90 then byte + 32 else byte

/-- `strcasecmp(first, second) < 0`. -/
def comesBefore (first second : Text) : Bool :=
  !Text.le.leBytes (second.bytes.map toLower) (first.bytes.map toLower)

/-- Whether a user belongs in front of another: online users first, then by name. -/
def UIUser.precedes (user other : UIUser) : Bool :=
  user.isOnline > other.isOnline ||
    (user.isOnline = other.isOnline && comesBefore user.username other.username)

/-- The two loops at the end of the list of users. -/
def sortUsers (users : SlotArray UIUser maxAllUsers) : SlotArray UIUser maxAllUsers :=
  users.exchangeSort UIUser.precedes

def userListed (packet : TizcordPacket) (ui : Ui) : Ui :=
  if ListFrameType.start.marks packet then
    { ui with allUsers := ui.allUsers.clear, userListCursor := 0 }
  else if ListFrameType.middle.marks packet then
    { ui with allUsers := ui.allUsers.file fun _ => listedUser packet }
  else if ListFrameType.end.marks packet then { ui with allUsers := sortUsers ui.allUsers }
  else ui

/-- Write a status update to the first row of its user. -/
def updateListedUser (packet : TizcordPacket) (users : SlotArray UIUser maxAllUsers) :
    SlotArray UIUser maxAllUsers :=
  match users.find? fun user => user.id = packet.socialTargetUserId with
  | none => users
  | some index => users.modify index fun user =>
    { user with
      status := (packet.socialTargetStatus []).take profileStatusLen
      isOnline := if packet.socialStatus = UserStatus.online.code then 1 else 0 }

/-- Whether a status update names the user of this client. -/
def isOwnStatusUpdate (packet : TizcordPacket) (ui : Ui) : Bool :=
  match ui.currentUser with
  | none => false
  | some index => packet.socialTargetUsername [] = (ui.users.slot index).username

def statusUpdated (now : Int) (packet : TizcordPacket) (ui : Ui) : Ui :=
  if packet.socialStatusCode = ResponseCode.ok.code then
    let own := isOwnStatusUpdate packet ui
    let ui := { ui with allUsers := updateListedUser packet ui.allUsers }
    if own then (Client.requestUserList now ui).closeCommandLine else ui
  else ui.say "Error updating status."

/-- What a social packet with a certain action does. -/
def updateSocialState (now : Int) (packet : TizcordPacket) (ui : Ui) : Option SocialAction → Ui
  | some .listFriends => friendListed now packet ui
  | some .listUsers => userListed packet ui
  | some .updateStatus => statusUpdated now packet ui
  | some .friendRequest | some .friendAccept | some .friendReject | some .friendRemove | none => ui

/-! ### Dispatch -/

/-- What a direct-message packet with a certain action does. -/
def updateDmState (packet : TizcordPacket) (ui : Ui) : Option DMAction → Ui
  | some .message => uiReceiveDmMessage packet ui
  | some .historyRequest | none => ui

/-- What a packet of a certain type does. -/
def processPacketOfType (now : Int) (packet : TizcordPacket) (ui : Ui) :
    Option PacketType → Except Fault Ui
  | some .channel => .ok (updateChannelState now packet ui (ChannelAction.ofCode packet.channelAction))
  | some .dm => .ok (updateDmState packet ui (DMAction.ofCode packet.dmAction))
  | some .server => uiUpdateServerState now packet ui
  | some .auth => uiHandleAuthResponse now packet ui
  | some .social => .ok (updateSocialState now packet ui (SocialAction.ofCode packet.socialAction))
  | none => .ok ui

def processNetworkPacket (now : Int) (packet : TizcordPacket) (ui : Ui) : Except Fault Ui :=
  processPacketOfType now packet ui (PacketType.ofCode packet.type)

/-- Process packets in order, each at a time of its own. -/
def processTimed (packets : List (Int × TizcordPacket)) (ui : Ui) : Except Fault Ui :=
  packets.foldlM (fun ui taken => processNetworkPacket taken.1 taken.2 ui) ui

theorem processTimed_cons {now : Int} {packet : TizcordPacket} {rest : List (Int × TizcordPacket)}
    {ui next : Ui} (processed : processNetworkPacket now packet ui = .ok next) :
    processTimed ((now, packet) :: rest) ui = processTimed rest next := by
  rw [processTimed, List.foldlM_cons, processed]
  rfl

theorem processTimed_append {first second : List (Int × TizcordPacket)} {ui next : Ui}
    (processed : processTimed first ui = .ok next) :
    processTimed (first ++ second) ui = processTimed second next := by
  rw [processTimed] at processed
  rw [processTimed, List.foldlM_append, processed]
  rfl

end Tizcord
