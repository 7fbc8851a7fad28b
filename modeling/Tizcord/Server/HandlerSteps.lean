/-
This file says once what the handling of a packet can do: it is some steps in a
row, each of which sends a packet, hashes a password, calls the database, or
writes to a node of the table. Every step states what the handler checked before
it. What holds of all handlers is then derived from the steps alone.
-/

import Tizcord.Library.Steps
import Tizcord.Server.TizcordChat
import Tizcord.Shared.Requests

namespace Tizcord

open CModel

/-! ### What a packet shows -/

/-- A packet of the kind that shows a user in the list of all users. -/
def IsUserRow (packet : TizcordPacket) : Prop :=
  packet.request = some (.social .listUsers) ∧ packet.listFrame = ListFrameType.middle.code

/-- The packet shows a user of the tables, with the status as far as it fits. -/
def ShowsUser (database : Database) (packet : TizcordPacket) : Prop :=
  ∃ row ∈ database.users, packet.socialTargetUserId = row.id ∧
    ∀ beyond, packet.socialTargetStatus beyond = row.status.take profileStatusLen

/-! ### Those who ask -/

/-- The connection `fd` has the node of a session of user `userId`. -/
def SignedIn (ctx : ServerContext) (fd userId : Int) : Prop :=
  ∃ node ∈ ctx.clients, node.socketFd = fd ∧ node.isAuthenticated = true ∧ node.id = userId

theorem signedIn_of_any {ctx : ServerContext} {fd userId : Int}
    (found : ctx.clients.any (fun node => node.socketFd = fd && (node.isAuthenticated = true &&
      node.id = userId)) = true) : SignedIn ctx fd userId := by
  obtain ⟨node, member, is⟩ := List.any_eq_true.mp found
  simp only [Bool.and_eq_true, decide_eq_true_eq] at is
  exact ⟨node, member, is⟩

/-- The connection `fd` is authenticated, or the packet is about authentication. -/
def Authorized (ctx : ServerContext) (fd : Int) (packet : TizcordPacket) : Prop :=
  PacketType.ofCode packet.type = some .auth ∨ ∃ userId, SignedIn ctx fd userId

/-- The packet is about a session, or about being at a server or looking at it. -/
def MayLook (packet : TizcordPacket) : Prop :=
  PacketType.ofCode packet.type = some .auth ∨ packet.request = some (.server .join) ∨
    packet.request = some (.server .leave) ∨ packet.request = some (.server .listMembers)

/-- The connection `fd` has a node with the id of an administrator of a server. -/
def HasAdmin (ctx : ServerContext) (fd serverId : Int) : Prop :=
  ∃ node ∈ ctx.clients, node.socketFd = fd ∧ ⟨serverId, node.id, true⟩ ∈ ctx.db.serverMembers

/-- There is a message in the history that the packet from the connection `fd` asks for. -/
def HasHistory (ctx : ServerContext) (fd : Int) (packet : TizcordPacket) : Prop :=
  packet.request = some (.channel .historyRequest) ∧
      (∃ row ∈ ctx.db.messages, row.channelId = packet.channelChannelId) ∨
    packet.request = some (.dm .historyRequest) ∧
      ∃ node ∈ ctx.clients, node.socketFd = fd ∧
        ∃ row ∈ ctx.db.directMessages, row.senderId = node.id ∨ row.receiverId = node.id

/-! ### Calls of the database -/

/-- The call does with the tables what the function of db.c does. -/
def DbCall.Runs (env : DbEnv) (before after : Database) : DbCall → Prop
  | .createUser username passwordHash created =>
    dbCreateUser env before username passwordHash = (after, created)
  | .getPasswordHash _ => after = before
  | .getUserIdByName _ => after = before
  | .updateUserStatus userId statusText status =>
    dbUpdateUserStatus env before userId statusText = (after, status)
  | .saveMessage channelId userId content status =>
    dbSaveMessage env before channelId userId content = (after, status)
  | .saveDirectMessage senderId receiverId content status =>
    dbSaveDirectMessage env before senderId receiverId content = (after, status)
  | .createServer name userId created status =>
    dbCreateServer env before name userId = (after, created, status)
  | .joinServer serverId userId status =>
    dbJoinServer env before serverId userId false = (after, status)
  | .leaveServer serverId userId status => dbLeaveServer env before serverId userId = (after, status)
  | .deleteServer serverId userId status =>
    dbDeleteServer env before serverId userId = (after, status)
  | .kickServerMember serverId userId status =>
    dbKickServerMember env before serverId userId = (after, status)
  | .createChannel serverId name created =>
    dbCreateChannel env before serverId name = (after, created)
  | .deleteChannel channelId status => dbDeleteChannel env before channelId = (after, status)
  | .sendFriendRequest userId friendId status =>
    dbSendFriendRequest env before userId friendId = (after, status)
  | .acceptFriendRequest userId friendId status =>
    dbAcceptFriendRequest env before userId friendId = (after, status)
  | .removeFriendship userId friendId status =>
    dbRemoveFriendship env before userId friendId = (after, status)
  | .rejectFriendRequest userId senderId status =>
    dbRejectFriendRequest env before userId senderId = (after, status)

/-- The call is one the handler of the packet makes, on behalf of the connection `fd`, with the
texts of the packet. -/
def DbCall.Permitted (ctx : ServerContext) (fd : Int) (beyond : List UInt8)
    (packet : TizcordPacket) : DbCall → Prop
  | .createUser username _ _ =>
    packet.request = some (.auth .register) ∧ username = packet.authUsername beyond
  | .getPasswordHash username =>
    packet.request = some (.auth .login) ∧ username = packet.authUsername beyond
  | .getUserIdByName username =>
    (∃ userId, SignedIn ctx fd userId) ∧ username = packet.socialTargetUsername beyond ∧
      (packet.request = some (.social .friendRequest) ∨
        packet.request = some (.social .friendAccept) ∨
        packet.request = some (.social .friendReject) ∨
        packet.request = some (.social .friendRemove))
  | .updateUserStatus userId statusText _ =>
    SignedIn ctx fd userId ∧ statusText = packet.socialTargetStatus beyond ∧
      packet.request = some (.social .updateStatus)
  | .saveMessage channelId userId content _ =>
    (∃ node ∈ ctx.clients, node.socketFd = fd ∧ node.id = userId) ∧
      channelId = packet.channelChannelId ∧ content = packet.channelMessage beyond ∧
      packet.request = some (.channel .message)
  | .saveDirectMessage senderId receiverId content _ =>
    (∃ node ∈ ctx.clients, node.socketFd = fd ∧ node.id = senderId) ∧
      receiverId = packet.dmRecipientId ∧ content = packet.dmMessage beyond ∧
      packet.request = some (.dm .message)
  | .createServer name userId _ _ =>
    SignedIn ctx fd userId ∧ name = packet.serverServerName beyond ∧
      packet.request = some (.server .create)
  | .joinServer serverId userId _ =>
    SignedIn ctx fd userId ∧ serverId = packet.serverServerId ∧
      packet.request = some (.server .join)
  | .leaveServer serverId userId _ =>
    SignedIn ctx fd userId ∧ serverId = packet.serverServerId ∧
      packet.request = some (.server .leave)
  | .deleteServer serverId userId _ =>
    (SignedIn ctx fd userId ∧ ⟨serverId, userId, true⟩ ∈ ctx.db.serverMembers) ∧
      serverId = packet.serverServerId ∧ packet.request = some (.server .delete)
  | .kickServerMember serverId userId _ =>
    (∃ adminId, SignedIn ctx fd adminId ∧ ⟨serverId, adminId, true⟩ ∈ ctx.db.serverMembers) ∧
      serverId = packet.serverServerId ∧ userId = packet.serverTargetUserId ∧
      packet.request = some (.server .kickMember)
  | .createChannel serverId name _ =>
    HasAdmin ctx fd serverId ∧ serverId = packet.channelServerId ∧
      name = packet.channelChannelName beyond ∧ packet.request = some (.channel .create)
  | .deleteChannel channelId _ =>
    (∃ row ∈ ctx.db.channels, (row.id : Int) = channelId ∧ HasAdmin ctx fd row.serverId) ∧
      channelId = packet.channelChannelId ∧ packet.request = some (.channel .delete)
  | .sendFriendRequest userId friendId _ =>
    SignedIn ctx fd userId ∧ friendId ∈ ctx.db.userIds ∧ friendId ≠ userId ∧
      packet.request = some (.social .friendRequest)
  | .acceptFriendRequest userId friendId _ =>
    SignedIn ctx fd userId ∧ friendId ∈ ctx.db.userIds ∧
      packet.request = some (.social .friendAccept)
  | .removeFriendship userId friendId _ =>
    SignedIn ctx fd userId ∧ friendId ∈ ctx.db.userIds ∧
      packet.request = some (.social .friendRemove)
  | .rejectFriendRequest userId senderId _ =>
    SignedIn ctx fd userId ∧ senderId ∈ ctx.db.userIds ∧
      packet.request = some (.social .friendReject)

/-! ### Steps -/

/-- A node that is authenticated has the id of a user, and one that is not has the id 0 and no
name. -/
structure ClientNode.Valid (db : Database) (node : ClientNode) : Prop where
  user : node.isAuthenticated = true → node.id ∈ db.userIds
  stranger : node.isAuthenticated = false → node.id = 0 ∧ node.username.text = Text.empty

/-- One step of the handling of a packet that came from the connection `fd`. -/
inductive HandlerStep (env : Env) (fd : Int) (beyond : List UInt8) (packet : TizcordPacket) :
    ServerContext → List Effect → ServerContext → Prop where
  | reply {ctx : ServerContext} {target : Int} {answer : TizcordPacket} (status : Int)
      (quiet : ¬ IsMessage answer) (permitted : target = fd ∨ Authorized ctx fd packet)
      (listed : IsUserRow answer → ShowsUser ctx.db answer) :
      HandlerStep env fd beyond packet ctx [.sent target answer status (ctx.userOf target)] ctx
  | broadcast {ctx : ServerContext} {node : ClientNode} (status : Int)
      (asked : packet.request = some (.channel .message)) (member : node ∈ ctx.clients)
      (open' : 0 < node.socketFd) :
      HandlerStep env fd beyond packet ctx
        [.sent node.socketFd (stampChannelMessage (senderNode ctx fd) packet) status
          (ctx.userOf node.socketFd)] ctx
  | forward {ctx : ServerContext} {node : ClientNode} (status : Int)
      (asked : packet.request = some (.dm .message))
      (found : recipientNode ctx packet.dmRecipientId = some node) :
      HandlerStep env fd beyond packet ctx
        [.sent node.socketFd (stampDirectMessage (senderNode ctx fd) packet) status
          (ctx.userOf node.socketFd)] ctx
  | history {ctx : ServerContext} {answer : TizcordPacket} (status : Int)
      (asked : packet.request = some (.channel .historyRequest) ∨
        packet.request = some (.dm .historyRequest))
      (stored : answer.listFrame = ListFrameType.middle.code → HasHistory ctx fd packet)
      (unlisted : ¬ IsUserRow answer) :
      HandlerStep env fd beyond packet ctx [.sent fd answer status (ctx.userOf fd)] ctx
  | hash {ctx : ServerContext} (setting : Text)
      (asked : packet.request = some (.auth .register) ∨ packet.request = some (.auth .login)) :
      HandlerStep env fd beyond packet ctx [.hashed (packet.authPassword beyond) setting] ctx
  | call {ctx : ServerContext} {after : Database} (time : Nat) {call : DbCall}
      (permitted : call.Permitted ctx fd beyond packet)
      (runs : call.Runs (env.db time) ctx.db after) :
      HandlerStep env fd beyond packet ctx [.called call] { ctx with db := after }
  | look {ctx : ServerContext} (index : Nat) (serverIndex : Int)
      (permitted : Authorized ctx fd packet) (asked : MayLook packet) :
      HandlerStep env fd beyond packet ctx []
        { ctx with
          clients := ctx.clients.modify index fun node =>
            { node with currentServerIndex := serverIndex } }
  | session {ctx : ServerContext} (index : Nat) (update : ClientNode → ClientNode)
      (asked : ∃ action, packet.request = some (.auth action))
      (sameFd : ∀ node, (update node).socketFd = node.socketFd)
      (sameBuffer : ∀ node, (update node).receiveBuffer = node.receiveBuffer)
      (valid : ∀ node, (update node).Valid ctx.db) :
      HandlerStep env fd beyond packet ctx [] { ctx with clients := ctx.clients.modify index update }

/-- The process takes steps of the handling of a packet. -/
abbrev Acts (env : Env) (fd : Int) (beyond : List UInt8) (packet : TizcordPacket)
    (before after : Process) : Prop :=
  Takes Process.ctx Process.trace (HandlerStep env fd beyond packet) before after

end Tizcord
