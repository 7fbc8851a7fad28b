/-
This file models server/tizcord_social.c: the requests between users, and the
friend lists, user lists and status updates pushed to clients.
-/

import Tizcord.Server.TizcordServer

namespace Tizcord

open CModel

/-- A base packet, made at the present time of the process. -/
def Process.basePacket (env : Env) (process : Process) (type : PacketType) : TizcordPacket :=
  createBasePacket type (process.now env)

/-! ### Streams -/

/-- The first packet of a stream of social items. -/
def socialStartPacket (env : Env) (process : Process) (action : SocialAction) (listId : Int) :
    TizcordPacket :=
  let packet := process.basePacket env .social
  let packet := packet.setSocialAction action.code
  let packet := packet.setListId listId
  packet.setListFrame .start

/-- The header of the item at an index of a stream. -/
def socialItemPacket (env : Env) (process : Process) (action : SocialAction) (listId : Int)
    (index : Nat) : TizcordPacket :=
  let packet := process.basePacket env .social
  let packet := packet.setSocialAction action.code
  let packet := packet.setListId listId
  let packet := packet.setListIndex index
  let packet := packet.setListTotal (-1)
  packet.setListFrame .middle

/-- The last packet of a stream, with the number of its items. -/
def socialEndPacket (env : Env) (process : Process) (action : SocialAction) (listId : Int)
    (total : Nat) : TizcordPacket :=
  let packet := process.basePacket env .social
  let packet := packet.setSocialAction action.code
  let packet := packet.setListId listId
  let packet := packet.setListTotal total
  packet.setListFrame .end

/-- The callback that sends one row of a friend list. -/
def friendRequestCb (env : Env) (fd listId : Int) (process : Process) (item : FriendListRow × Nat) :
    Process :=
  let packet := socialItemPacket env process .listFriends listId item.2
  let packet := packet.setSocialTargetUserId item.1.targetUserId
  let packet := packet.strncpySocialTargetUsername item.1.username
  let packet := packet.setSocialStatusCode item.1.isIncoming
  process.send env fd packet

/-- The friend list of a user, as the two places that send one write it out. -/
def sendFriendList (env : Env) (fd userId : Int) (process : Process) : Process :=
  let process := process.send env fd (socialStartPacket env process .listFriends userId)
  let rows := process.read env fun env db => dbListFriendRequests env db userId
  let process := rows.1.zipIdx.foldl (friendRequestCb env fd userId) process.tick
  process.send env fd (socialEndPacket env process .listFriends userId rows.1.length)

def userStatusOf (isOnline : Bool) : UserStatus :=
  if isOnline then .online else .offline

/-- The callback that sends one row of the list of all users. The terminators it writes after the
copies rewrite bytes that are zero. -/
def userListCb (env : Env) (fd listId : Int) (process : Process) (item : UserListRow × Nat) :
    Process :=
  let isOnline := userIsOnline process.ctx item.1.userId
  let packet := socialItemPacket env process .listUsers listId item.2
  let packet := packet.setSocialStatus (userStatusOf isOnline)
  let packet := packet.setSocialTargetUserId item.1.userId
  let packet := packet.strncpySocialTargetUsername item.1.username
  let packet := packet.strncpySocialTargetStatus item.1.status
  let packet := packet.setSocialStatusCode (if isOnline then 1 else 0)
  process.send env fd packet

/-- The list of all users, as the two places that send one write it out. -/
def sendUserList (env : Env) (fd listId : Int) (process : Process) : Process :=
  let process := process.send env fd (socialStartPacket env process .listUsers listId)
  let rows := process.read env dbListAllUsers
  let process := rows.1.zipIdx.foldl (userListCb env fd listId) process.tick
  process.send env fd (socialEndPacket env process .listUsers listId rows.1.length)

/-! ### Notifications -/

/-- Send a refreshed friend list to the first connection of a user. -/
def notifyFriendListUpdate (env : Env) (targetUserId : Int) (process : Process) : Process :=
  match process.ctx.clients.find? fun node => 0 < node.socketFd && node.id = targetUserId with
  | none => process
  | some node => sendFriendList env node.socketFd targetUserId process

def notifyAllUserLists (env : Env) (process : Process) : Process :=
  process.forClients fun _ client process =>
    if client.socketFd ≤ 0 ∨ client.isAuthenticated = false then process
    else sendUserList env client.socketFd client.id process

def sendStatusUpdatePacket (env : Env) (fd : Int) (status : ResponseCode) (userId : Int)
    (username : Text) (statusText : Option Text) (isOnline : Bool) (process : Process) : Process :=
  let packet := process.basePacket env .social
  let packet := packet.setSocialAction SocialAction.updateStatus.code
  let packet := packet.setSocialStatusCode status.code
  let packet := packet.setSocialStatus (userStatusOf isOnline)
  let packet := packet.setSocialTargetUserId userId
  let packet := packet.strncpySocialTargetUsername username
  let packet := statusText.elim packet packet.strncpySocialTargetStatus
  process.send env fd packet

def notifyUserStatusUpdate (env : Env) (userId : Int) (username statusText : Text)
    (process : Process) : Process :=
  let isOnline := userIsOnline process.ctx userId
  process.forClients fun _ client process =>
    if 0 < client.socketFd ∧ client.isAuthenticated = true then
      sendStatusUpdatePacket env client.socketFd .ok userId username (some statusText) isOnline
        process
    else process

/-! ### Requests -/

def socialResponse (env : Env) (fd : Int) (action : SocialAction) (status : ResponseCode)
    (process : Process) : Process :=
  sendActionResponse env fd .social action.code status process

/-- Look up the user a request names. -/
def findTargetUser (env : Env) (name : Text) (process : Process) : Process × Option Int :=
  let found := process.read env fun env db => dbGetUserIdByName env db name
  ((process.log (.called (.getUserIdByName name))).tick, found)

def friendRequest (env : Env) (client : ClientNode) (name : Text) (process : Process) : Process :=
  let target := findTargetUser env name process
  let process := target.1
  match target.2 with
  | none => socialResponse env client.socketFd .friendRequest .errNotFound process
  | some friendId =>
    if friendId = client.id then
      socialResponse env client.socketFd .friendRequest .errInvalid process
    else
      let result := process.change env
        (fun env db => dbSendFriendRequest env db client.id friendId)
        (fun status => .sendFriendRequest client.id friendId status)
      let process := result.1
      if result.2 = -2 then
        socialResponse env client.socketFd .friendRequest .errConflict process
      else if result.2 < 0 then
        socialResponse env client.socketFd .friendRequest .errDb process
      else if result.2 = 1 then
        let process := socialResponse env client.socketFd .friendRequest .ok process
        let process := notifyFriendListUpdate env client.id process
        notifyFriendListUpdate env friendId process
      else
        let process := socialResponse env client.socketFd .friendRequest .ok process
        notifyFriendListUpdate env friendId process

def friendAccept (env : Env) (client : ClientNode) (name : Text) (process : Process) : Process :=
  let target := findTargetUser env name process
  let process := target.1
  match target.2 with
  | none => socialResponse env client.socketFd .friendAccept .errNotFound process
  | some friendId =>
    let result := process.change env
      (fun env db => dbAcceptFriendRequest env db client.id friendId)
      (fun status => .acceptFriendRequest client.id friendId status)
    let process := result.1
    if result.2 = -1 then
      socialResponse env client.socketFd .friendAccept .errNotFound process
    else if result.2 = -2 then
      socialResponse env client.socketFd .friendAccept .errConflict process
    else
      let process := socialResponse env client.socketFd .friendAccept .ok process
      notifyFriendListUpdate env friendId process

/-- The requests to remove a friend and to reject a request differ in the call they make. -/
def friendUnlink (env : Env) (client : ClientNode) (action : SocialAction)
    (operation : DbEnv → Database → Int → Int → Database × Int)
    (call : Int → Int → Int → DbCall) (name : Text) (process : Process) : Process :=
  let target := findTargetUser env name process
  let process := target.1
  match target.2 with
  | none => socialResponse env client.socketFd action .errNotFound process
  | some friendId =>
    let result := process.change env (fun env db => operation env db client.id friendId)
      (fun status => call client.id friendId status)
    let process := result.1
    if result.2 = -1 then socialResponse env client.socketFd action .errNotFound process
    else
      let process := socialResponse env client.socketFd action .ok process
      notifyFriendListUpdate env friendId process

def friendRemove (env : Env) (client : ClientNode) : Text → Process → Process :=
  friendUnlink env client .friendRemove dbRemoveFriendship .removeFriendship

def friendReject (env : Env) (client : ClientNode) : Text → Process → Process :=
  friendUnlink env client .friendReject dbRejectFriendRequest .rejectFriendRequest

/-- `strnlen` of the status field. -/
def statusLength (packet : TizcordPacket) : Nat :=
  (cString packet.socialTargetStatusField).bytes.length

def updateStatus (env : Env) (beyond : List UInt8) (client : ClientNode) (packet : TizcordPacket)
    (process : Process) : Process :=
  if statusLength packet = 0 ∨ profileStatusLen < statusLength packet then
    sendStatusUpdatePacket env client.socketFd .errInvalid client.id client.username.text none true
      process
  else
    let statusText := packet.socialTargetStatus beyond
    let result := process.change env
      (fun env db => dbUpdateUserStatus env db client.id statusText)
      (fun status => .updateUserStatus client.id statusText status)
    let process := result.1
    if result.2 ≠ 0 then
      sendStatusUpdatePacket env client.socketFd .errDb client.id client.username.text none true
        process
    else notifyUserStatusUpdate env client.id client.username.text statusText process

/-- The switch over the action of an authenticated client. -/
def handleSocialAction (env : Env) (beyond : List UInt8) (client : ClientNode)
    (packet : TizcordPacket) (process : Process) : Option SocialAction → Process
  | some .friendRequest => friendRequest env client (packet.socialTargetUsername beyond) process
  | some .friendAccept => friendAccept env client (packet.socialTargetUsername beyond) process
  | some .listFriends => sendFriendList env client.socketFd client.id process
  | some .friendRemove => friendRemove env client (packet.socialTargetUsername beyond) process
  | some .friendReject => friendReject env client (packet.socialTargetUsername beyond) process
  | some .listUsers => sendUserList env client.socketFd client.id process
  | some .updateStatus => updateStatus env beyond client packet process
  | none =>
    sendActionResponse env client.socketFd .social packet.socialAction .errInvalid process

def handleSocialPacket (env : Env) (beyond : List UInt8) (index : Nat) (packet : TizcordPacket)
    (process : Process) : Process :=
  let client := process.clientAt index
  if !client.isAuthenticated then
    sendActionResponse env client.socketFd .social packet.socialAction .errUnauthorized process
  else
    handleSocialAction env beyond client packet process
      (SocialAction.ofCode packet.socialAction)

end Tizcord
