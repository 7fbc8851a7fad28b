/-
This file models server/tizcord_server.c: the requests about servers and their
members, and the member lists pushed to those who look at a server.
-/

import Tizcord.Server.ClientHelper

namespace Tizcord

open CModel

/-! ### Accumulators -/

/-- Copy a name into an accumulator, which holds at most `MAX_NAME_LEN - 1` bytes of it. -/
def accumulatedName (name : Text) : Text :=
  name.take (maxNameLen - 1)

def collectServerListItem (items : List ListItem) (row : ServerListRow) : List ListItem :=
  if maxServers ≤ items.length then items
  else items ++ [⟨accumulatedName row.name, some row.serverId, some row.memberCount⟩]

def collectChannelListItem (items : List ListItem) (row : ChannelListRow) : List ListItem :=
  if maxChannels ≤ items.length then items
  else items ++ [⟨accumulatedName row.name, some row.channelId, none⟩]

def memberFlagAdmin : Int := 1
def memberFlagOnline : Int := 2

/-- Whether a connection of the table is authenticated as a user. -/
def userIsOnline (ctx : ServerContext) (userId : Int) : Bool :=
  ctx.clients.any fun node =>
    0 < node.socketFd && node.isAuthenticated && node.id = userId

/-- The flags of a member; the online flag is a bit of its own. -/
def memberFlags (ctx : ServerContext) (row : MemberListRow) : Int :=
  (if row.isAdmin then memberFlagAdmin else 0) +
    (if userIsOnline ctx row.userId then memberFlagOnline else 0)

def collectMemberListItem (ctx : ServerContext) (items : List ListItem) (row : MemberListRow) :
    List ListItem :=
  if maxServerMembers ≤ items.length then items
  else
    items ++ [⟨accumulatedName row.username, some row.userId, some (memberFlags ctx row)⟩]

/-! ### Replies -/

def serverResponse (env : Env) (fd : Int) (action : ServerAction) (status : ResponseCode)
    (process : Process) : Process :=
  sendActionResponse env fd .server action.code status process

/-- Send a list that was read with a status, or the error instead of it. -/
def serverListReply (env : Env) (fd : Int) (action : ServerAction) (status : Int)
    (items : List ListItem) (process : Process) : Process :=
  if status ≠ 0 then serverResponse env fd action .errDb process
  else
    let result := sendListResponse env fd .server action.code items process
    if result.2 ≠ 0 then serverResponse env fd action .errInternal result.1 else result.1

/-! ### Lists -/

def listTizcordServers (env : Env) (index : Nat) (process : Process) : Process :=
  let client := process.clientAt index
  if !client.isAuthenticated then
    serverResponse env client.socketFd .list .errUnauthorized process
  else
    let rows := process.read env dbListServers
    serverListReply env client.socketFd .list rows.2 (rows.1.foldl collectServerListItem [])
      process.tick

def listTizcordChannels (env : Env) (index : Nat) (serverId : Int) (process : Process) : Process :=
  let client := process.clientAt index
  if serverId ≤ 0 then serverResponse env client.socketFd .listChannels .errInvalid process
  else if !client.isAuthenticated then
    serverResponse env client.socketFd .listChannels .errUnauthorized process
  else
    let rows := process.read env fun env db => dbListServerChannels env db serverId
    serverListReply env client.socketFd .listChannels rows.2
      (rows.1.foldl collectChannelListItem []) process.tick

/-- List the members of a server, which becomes the one the client looks at. -/
def listMembers (env : Env) (index : Nat) (serverId : Int) (process : Process) : Process :=
  let client := process.clientAt index
  if serverId ≤ 0 then serverResponse env client.socketFd .listMembers .errInvalid process
  else if !client.isAuthenticated then
    serverResponse env client.socketFd .listMembers .errUnauthorized process
  else
    let process := process.modifyClient index fun node =>
      { node with currentServerIndex := signed 32 serverId }
    let rows := process.read env fun env db => dbListServerMembers env db serverId
    serverListReply env client.socketFd .listMembers rows.2
      (rows.1.foldl (collectMemberListItem process.ctx) []) process.tick

def listJoinedServers (env : Env) (index : Nat) (process : Process) : Process :=
  let client := process.clientAt index
  if !client.isAuthenticated then
    serverResponse env client.socketFd .listJoined .errUnauthorized process
  else
    let rows := process.read env fun env db => dbListJoinedServers env db client.id
    serverListReply env client.socketFd .listJoined rows.2 (rows.1.foldl collectServerListItem [])
      process.tick

/-! ### Notifications -/

/-- Send the members of a server to every authenticated client that looks at it. -/
def notifyServerMemberList (env : Env) (serverId : Int) (process : Process) : Process :=
  if serverId ≤ 0 then process
  else
    process.forClients fun index client process =>
      if client.socketFd ≤ 0 ∨ client.isAuthenticated = false then process
      else if client.currentServerIndex ≠ serverId then process
      else listMembers env index serverId process

def notifyServerMemberListsForUser (env : Env) (userId : Int) (process : Process) : Process :=
  if userId ≤ 0 then process
  else
    let rows := process.read env fun env db => dbListJoinedServers env db userId
    rows.1.foldl (fun process row => notifyServerMemberList env row.serverId process) process.tick

/-! ### Requests -/

def joinTizcordServer (env : Env) (index : Nat) (serverId : Int) (process : Process) : Process :=
  let client := process.clientAt index
  if serverId ≤ 0 then serverResponse env client.socketFd .join .errInvalid process
  else if !client.isAuthenticated then
    serverResponse env client.socketFd .join .errUnauthorized process
  else
    let result := process.change env
      (fun env db => dbJoinServer env db serverId client.id false)
      (fun status => .joinServer serverId client.id status)
    let process := result.1
    if result.2 = 0 then
      let process := serverResponse env client.socketFd .join .ok process
      notifyServerMemberList env serverId process
    else serverResponse env client.socketFd .join .errDb process

def leaveTizcordServer (env : Env) (index : Nat) (serverId : Int) (process : Process) : Process :=
  let client := process.clientAt index
  if serverId ≤ 0 then serverResponse env client.socketFd .leave .errInvalid process
  else if !client.isAuthenticated then
    serverResponse env client.socketFd .leave .errUnauthorized process
  else
    let result := process.change env
      (fun env db => dbLeaveServer env db serverId client.id)
      (fun status => .leaveServer serverId client.id status)
    let process := result.1
    if result.2 = 0 then
      let process :=
        if client.currentServerIndex = serverId then
          process.modifyClient index fun node => { node with currentServerIndex := -1 }
        else process
      let process := serverResponse env client.socketFd .leave .ok process
      notifyServerMemberList env serverId process
    else serverResponse env client.socketFd .leave .errDb process

def createTizcordServer (env : Env) (index : Nat) (serverName : Text) (process : Process) :
    Process :=
  let client := process.clientAt index
  if serverName = Text.empty then serverResponse env client.socketFd .create .errInvalid process
  else if !client.isAuthenticated then
    serverResponse env client.socketFd .create .errUnauthorized process
  else
    let result := process.change env
      (fun env db => dbCreateServer env db serverName client.id)
      (fun created => .createServer serverName client.id created.1 created.2)
    let process := result.1
    if result.2.2 = 0 then serverResponse env client.socketFd .create .ok process
    else serverResponse env client.socketFd .create .errDb process

def deleteTizcordServer (env : Env) (index : Nat) (serverId : Int) (process : Process) : Process :=
  let client := process.clientAt index
  if serverId ≤ 0 then serverResponse env client.socketFd .delete .errInvalid process
  else if !client.isAuthenticated then
    serverResponse env client.socketFd .delete .errUnauthorized process
  else
    let isAdmin := process.read env fun env db => dbUserIsServerAdmin env db serverId client.id
    let process := process.tick
    if isAdmin ≠ some true then
      serverResponse env client.socketFd .delete .errUnauthorized process
    else
      let result := process.change env
        (fun env db => dbDeleteServer env db serverId client.id)
        (fun status => .deleteServer serverId client.id status)
      let process := result.1
      if result.2 = 0 then serverResponse env client.socketFd .delete .ok process
      else serverResponse env client.socketFd .delete .errDb process

def kickServerMember (env : Env) (index : Nat) (serverId targetUserId : Int) (process : Process) :
    Process :=
  let client := process.clientAt index
  if serverId ≤ 0 ∨ targetUserId ≤ 0 then
    serverResponse env client.socketFd .kickMember .errInvalid process
  else if !client.isAuthenticated then
    serverResponse env client.socketFd .kickMember .errUnauthorized process
  else
    let isAdmin := process.read env fun env db => dbUserIsServerAdmin env db serverId client.id
    let process := process.tick
    if isAdmin ≠ some true then
      serverResponse env client.socketFd .kickMember .errUnauthorized process
    else
      let result := process.change env
        (fun env db => dbKickServerMember env db serverId targetUserId)
        (fun status => .kickServerMember serverId targetUserId status)
      let process := result.1
      if result.2 = 0 then serverResponse env client.socketFd .kickMember .ok process
      else serverResponse env client.socketFd .kickMember .errDb process

/-- The switch over the action; an action without a code is answered as invalid. -/
def handleServerAction (env : Env) (beyond : List UInt8) (index : Nat) (packet : TizcordPacket)
    (process : Process) : Option ServerAction → Process
  | some .join => joinTizcordServer env index packet.serverServerId process
  | some .leave => leaveTizcordServer env index packet.serverServerId process
  | some .create => createTizcordServer env index (packet.serverServerName beyond) process
  | some .delete => deleteTizcordServer env index packet.serverServerId process
  | some .list => listTizcordServers env index process
  | some .listChannels => listTizcordChannels env index packet.serverServerId process
  | some .listMembers => listMembers env index packet.serverServerId process
  | some .listJoined => listJoinedServers env index process
  | some .kickMember =>
    kickServerMember env index packet.serverServerId packet.serverTargetUserId process
  | none =>
    sendActionResponse env (process.clientAt index).socketFd .server packet.serverAction
      .errInvalid process

def handleServerPacket (env : Env) (beyond : List UInt8) (index : Nat) (packet : TizcordPacket)
    (process : Process) : Process :=
  handleServerAction env beyond index packet process (ServerAction.ofCode packet.serverAction)

end Tizcord
