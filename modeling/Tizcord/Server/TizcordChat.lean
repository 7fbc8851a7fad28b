/-
This file models server/tizcord_chat.c: channel messages and direct messages,
their histories, and the creation and deletion of channels. These handlers find
the sender by its descriptor, and change the packet before they forward it.
-/

import Tizcord.Server.TizcordSocial

namespace Tizcord

open CModel

/-- The node of the sender. -/
def senderNode (ctx : ServerContext) (senderFd : Int) : Option ClientNode :=
  (ctx.findClient senderFd).map ctx.clientAt

/-! ### Channels -/

/-- The frame packet that opens or closes a channel history. -/
def channelFramePacket (env : Env) (process : Process) (listId : Int) (frame : ListFrameType) :
    TizcordPacket :=
  let packet := process.basePacket env .channel
  let packet := packet.setChannelAction ChannelAction.message.code
  let packet := packet.setListId listId
  packet.setListFrame frame

/-- The callback that sends one row of a channel history. The name of the author travels in the
field of the channel name. -/
def messageHistoryCb (env : Env) (fd channelId : Int) (process : Process)
    (item : MessageListRow × Nat) : Process :=
  let packet := process.basePacket env .channel
  let packet := packet.setChannelAction ChannelAction.message.code
  let packet := packet.setListId channelId
  let packet := packet.setListIndex item.2
  let packet := packet.setListFrame .middle
  let packet := packet.setChannelChannelId channelId
  let packet := packet.setChannelMessageId item.1.messageId
  let packet := packet.setTimestamp item.1.timestamp
  let packet := packet.strncpyChannelChannelName item.1.username
  let packet := packet.strncpyChannelMessage item.1.content
  process.send env fd packet

/-- Send a packet to every connection but that of `senderFd`. -/
def channelBroadcast (env : Env) (packet : TizcordPacket) (senderFd : Int) (process : Process) :
    Process :=
  process.forClients fun _ client process =>
    if 0 < client.socketFd ∧ client.socketFd ≠ senderFd then
      process.send env client.socketFd packet
    else process

/-- The packet of a channel message, stamped with its author. -/
def stampChannelMessage (sender : Option ClientNode) (packet : TizcordPacket) : TizcordPacket :=
  match sender with
  | none => packet
  | some node => (packet.setSenderId node.id).strncpyChannelChannelName node.username.text

/-- A channel message goes to all connections, the sender included, and is then stored. -/
def channelMessage (env : Env) (beyond : List UInt8) (packet : TizcordPacket) (senderFd : Int)
    (process : Process) : Process :=
  let sender := senderNode process.ctx senderFd
  let packet := stampChannelMessage sender packet
  let process := channelBroadcast env packet (-1) process
  match sender with
  | none => process
  | some node =>
    (process.change env
      (fun env db =>
        dbSaveMessage env db packet.channelChannelId node.id (packet.channelMessage beyond))
      (fun status =>
        .saveMessage packet.channelChannelId node.id (packet.channelMessage beyond) status)).1

/-- Whether the database knows the sender as an administrator of a server. -/
def senderIsAdmin (env : Env) (process : Process) (serverId : Int) (sender : ClientNode) : Bool :=
  process.read env (fun env db => dbUserIsServerAdmin env db serverId sender.id) = some true

def channelCreate (env : Env) (beyond : List UInt8) (packet : TizcordPacket) (senderFd : Int)
    (process : Process) : Process :=
  let serverId := packet.channelServerId
  let channelName := packet.channelChannelName beyond
  let reply := process.basePacket env .channel
  let reply := reply.setChannelAction ChannelAction.create.code
  let reply := reply.setChannelServerId serverId
  let unauthorized := reply.setChannelStatusCode ResponseCode.errUnauthorized.code
  match senderNode process.ctx senderFd with
  | none => process.send env senderFd unauthorized
  | some sender =>
    let isAdmin := senderIsAdmin env process serverId sender
    let process := process.tick
    if !isAdmin then process.send env senderFd unauthorized
    else
      let result := process.change env
        (fun env db => dbCreateChannel env db serverId channelName)
        (fun created => .createChannel serverId channelName created)
      let process := result.1
      match result.2 with
      | none => process.send env senderFd (reply.setChannelStatusCode ResponseCode.errDb.code)
      | some channelId =>
        let reply := reply.setChannelStatusCode ResponseCode.ok.code
        let reply := reply.setChannelChannelId channelId
        process.send env senderFd (reply.strncpyChannelChannelName channelName)

def channelDelete (env : Env) (packet : TizcordPacket) (senderFd : Int) (process : Process) :
    Process :=
  let channelId := packet.channelChannelId
  let reply := process.basePacket env .channel
  let reply := reply.setChannelAction ChannelAction.delete.code
  let reply := reply.setChannelChannelId channelId
  let answer (status : ResponseCode) (process : Process) : Process :=
    process.send env senderFd (reply.setChannelStatusCode status.code)
  match senderNode process.ctx senderFd with
  | none => answer .errInternal process
  | some sender =>
    let found := process.read env fun env db => dbGetChannelServerId env db channelId
    let process := process.tick
    match found with
    | none => answer .errNotFound process
    | some serverId =>
      let isAdmin := senderIsAdmin env process serverId sender
      let process := process.tick
      if !isAdmin then answer .errUnauthorized process
      else
        let result := process.change env (fun env db => dbDeleteChannel env db channelId)
          (fun status => .deleteChannel channelId status)
        let process := result.1
        if result.2 = 0 then answer .ok process else answer .errDb process

/-- The history of a channel, framed by a START and an END packet. -/
def channelHistory (env : Env) (packet : TizcordPacket) (senderFd : Int) (process : Process) :
    Process :=
  let channelId := packet.channelChannelId
  let process := process.send env senderFd (channelFramePacket env process channelId .start)
  let rows := process.read env fun env db => dbListChannelMessages env db channelId
  let process := rows.1.zipIdx.foldl (messageHistoryCb env senderFd channelId) process.tick
  process.send env senderFd (channelFramePacket env process channelId .end)

def handleChannelAction (env : Env) (beyond : List UInt8) (packet : TizcordPacket)
    (senderFd : Int) (process : Process) : Option ChannelAction → Process
  | some .message => channelMessage env beyond packet senderFd process
  | some .create => channelCreate env beyond packet senderFd process
  | some .delete => channelDelete env packet senderFd process
  | some .historyRequest => channelHistory env packet senderFd process
  | none => process

def handleChannelMessage (env : Env) (beyond : List UInt8) (packet : TizcordPacket)
    (senderFd : Int) (process : Process) : Process :=
  handleChannelAction env beyond packet senderFd process
    (ChannelAction.ofCode packet.channelAction)

/-! ### Direct messages -/

/-- The frame packet that opens or closes a direct-message history. -/
def dmFramePacket (env : Env) (process : Process) (friendId : Int) (frame : ListFrameType) :
    TizcordPacket :=
  let packet := process.basePacket env .dm
  let packet := packet.setDmAction DMAction.message.code
  let packet := packet.setDmRecipientId friendId
  let packet := packet.setListId friendId
  packet.setListFrame frame

/-- The callback that sends one row of a direct-message history. A row is the requester's own when
it has their name. -/
def directMessageHistoryCb (env : Env) (fd myUserId friendId : Int) (myUsername : Text)
    (process : Process) (item : DirectMessageListRow × Nat) : Process :=
  let packet := process.basePacket env .dm
  let packet := packet.setDmAction DMAction.message.code
  let packet := packet.setListId friendId
  let packet := packet.setListIndex item.2
  let packet := packet.setListFrame .middle
  let packet := packet.setSenderId (if item.1.senderUsername = myUsername then myUserId else friendId)
  let packet := packet.setDmRecipientId friendId
  let packet := packet.setDmMessageId item.1.messageId
  let packet := packet.setTimestamp item.1.timestamp
  let packet := packet.strncpyDmMessage item.1.content
  process.send env fd packet

/-- The packet of a direct message, stamped with its sender. -/
def stampDirectMessage (sender : Option ClientNode) (packet : TizcordPacket) : TizcordPacket :=
  match sender with
  | none => packet
  | some node => packet.setSenderId node.id

/-- The first connection with the id of the recipient. -/
def recipientNode (ctx : ServerContext) (recipientId : Int) : Option ClientNode :=
  ctx.clients.find? fun node => 0 < node.socketFd && node.id = recipientId

/-- A direct message is stored, and forwarded to the first connection of its recipient. -/
def directMessage (env : Env) (beyond : List UInt8) (packet : TizcordPacket)
    (sender : Option ClientNode) (process : Process) : Process :=
  let recipientId := packet.dmRecipientId
  let process := match sender with
    | none => process
    | some node =>
      (process.change env
        (fun env db => dbSaveDirectMessage env db node.id recipientId (packet.dmMessage beyond))
        (fun status =>
          .saveDirectMessage node.id recipientId (packet.dmMessage beyond) status)).1
  match recipientNode process.ctx recipientId with
  | none => process
  | some node => process.send env node.socketFd packet

def directMessageHistory (env : Env) (packet : TizcordPacket) (senderFd : Int)
    (sender : Option ClientNode) (process : Process) : Process :=
  match sender with
  | none => process
  | some node =>
    let friendId := packet.dmRecipientId
    let myUsername := node.username.text.take (maxNameLen - 1)
    let process := process.send env senderFd (dmFramePacket env process friendId .start)
    let rows := process.read env fun env db => dbListDirectMessages env db node.id friendId
    let process := rows.1.zipIdx.foldl
      (directMessageHistoryCb env senderFd node.id friendId myUsername) process.tick
    process.send env senderFd (dmFramePacket env process friendId .end)

def handleDmAction (env : Env) (beyond : List UInt8) (packet : TizcordPacket) (senderFd : Int)
    (sender : Option ClientNode) (process : Process) : Option DMAction → Process
  | some .message => directMessage env beyond packet sender process
  | some .historyRequest => directMessageHistory env packet senderFd sender process
  | none => process

def handlePrivateMessage (env : Env) (beyond : List UInt8) (packet : TizcordPacket)
    (senderFd : Int) (process : Process) : Process :=
  let sender := senderNode process.ctx senderFd
  let packet := stampDirectMessage sender packet
  handleDmAction env beyond packet senderFd sender process (DMAction.ofCode packet.dmAction)

/-- The handlers of the two types of chat packets. -/
def handleChatType (env : Env) (beyond : List UInt8) (packet : TizcordPacket) (senderFd : Int)
    (process : Process) : Option PacketType → Process
  | some .dm => handlePrivateMessage env beyond packet senderFd process
  | some .channel => handleChannelMessage env beyond packet senderFd process
  | _ => process

def handleChatPacket (env : Env) (beyond : List UInt8) (packet : TizcordPacket) (senderFd : Int)
    (process : Process) : Process :=
  handleChatType env beyond packet senderFd process (PacketType.ofCode packet.type)

end Tizcord
