/-
This file models server/auth.c: registration, login with the revocation of older
logins, and logout.
-/

import Tizcord.Server.TizcordSocial

namespace Tizcord

open CModel

/-! ### Sessions -/

def clearClientSession (node : ClientNode) : ClientNode :=
  { node with
    isAuthenticated := false
    id := 0
    username := node.username.clear
    currentServerIndex := -1 }

/-- The packet that announces or confirms an authentication action. -/
def authPacket (action : AuthAction) (statusCode : Int) : TizcordPacket :=
  let packet := TizcordPacket.setType Image.zero .auth
  let packet := packet.setAuthAction action.code
  packet.setAuthStatusCode statusCode

/-- End every session of a user but the one on the current connection. -/
def revokeExistingLogin (env : Env) (currentFd userId : Int) (username : Text)
    (process : Process) : Process :=
  process.forClients fun index other process =>
    if other.socketFd ≤ 0 ∨ other.socketFd = currentFd then process
    else if other.isAuthenticated = false ∨ other.id ≠ userId then process
    else
      let logoutPacket := (authPacket .logout ResponseCode.ok.code).strncpyAuthUsername username
      let process := process.send env other.socketFd logoutPacket
      process.modifyClient index clearClientSession

/-- Write an identity into the node of a connection. -/
def linkIdentity (fd userId : Int) (username : Text) (process : Process) : Process :=
  match process.ctx.findClient fd with
  | none => process
  | some index =>
    process.modifyClient index fun node =>
      { node with
        isAuthenticated := true
        id := userId
        username := node.username.strncpy username }

/-- `crypt`, with a record of what it was given. -/
def hashPassword (env : Env) (phrase setting : Text) (process : Process) : Process × Option Text :=
  (process.log (.hashed phrase setting), env.crypt phrase setting)

/-! ### Actions -/

def registerAccount (env : Env) (beyond : List UInt8) (fd : Int) (packet : TizcordPacket)
    (process : Process) : Process :=
  let username := packet.authUsername beyond
  let password := packet.authPassword beyond
  let setting := env.salt process.clock
  let process := process.tick
  match setting with
  | none => process.send env fd (authPacket .register 1)
  | some setting =>
    let hashed := hashPassword env password setting process
    let process := hashed.1
    match hashed.2 with
    | none => process.send env fd (authPacket .register 1)
    | some hash =>
      let result := process.change env (fun env db => dbCreateUser env db username hash)
        (fun created => .createUser username hash created)
      let process := result.1
      match result.2 with
      | none => process.send env fd (authPacket .register ResponseCode.errConflict.code)
      | some userId =>
        let process := linkIdentity fd userId username process
        let process := notifyAllUserLists env process
        process.send env fd (authPacket .register ResponseCode.ok.code)

def loginAccount (env : Env) (beyond : List UInt8) (fd : Int) (packet : TizcordPacket)
    (process : Process) : Process :=
  let username := packet.authUsername beyond
  let password := packet.authPassword beyond
  let found := process.read env fun env db => dbGetPasswordHash env db username
  let process := (process.log (.called (.getPasswordHash username))).tick
  match found with
  | none => process.send env fd (authPacket .login 1)
  | some (dbHash, dbUserId) =>
    let computed := hashPassword env password dbHash process
    let process := computed.1
    if computed.2 ≠ some dbHash then
      process.send env fd (authPacket .login ResponseCode.errInvalid.code)
    else
      let process := revokeExistingLogin env fd dbUserId username process
      let process := linkIdentity fd dbUserId username process
      let process := notifyServerMemberListsForUser env dbUserId process
      let process := notifyAllUserLists env process
      process.send env fd (authPacket .login ResponseCode.ok.code)

def logoutAccount (env : Env) (fd : Int) (process : Process) : Process :=
  match process.ctx.findClient fd with
  | none => process
  | some index =>
    let client := process.clientAt index
    if !client.isAuthenticated then
      process.send env fd (authPacket .logout ResponseCode.errUnauthorized.code)
    else
      let username := client.username.text.take (maxNameLen - 1)
      let process := process.modifyClient index clearClientSession
      let process := notifyServerMemberListsForUser env client.id process
      let process := notifyAllUserLists env process
      let reply := (authPacket .logout ResponseCode.done.code).strncpyAuthUsername username
      process.send env fd reply

def handleAuthAction (env : Env) (beyond : List UInt8) (fd : Int) (packet : TizcordPacket)
    (process : Process) : Option AuthAction → Process
  | some .register => registerAccount env beyond fd packet process
  | some .login => loginAccount env beyond fd packet process
  | some .logout => logoutAccount env fd process
  | none => process

def handleAuthPacket (env : Env) (beyond : List UInt8) (fd : Int) (packet : TizcordPacket)
    (process : Process) : Process :=
  handleAuthAction env beyond fd packet process (AuthAction.ofCode packet.authAction)

end Tizcord
