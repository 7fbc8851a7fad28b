/-
This file models server/server.c: the loop that waits for descriptors to become
ready, accepts connections, and services every ready connection of the table. A
run is a list of events: what one round of `select` finds, or a restart of the
server on the same database.
-/

import Mathlib.Data.Finset.Insert
import Mathlib.Data.Finset.Union
import Tizcord.Server.Auth
import Tizcord.Server.TizcordChat

namespace Tizcord

open CModel

/-! ### The state of the loop -/

/-- The locals of `run_server_loop`, and what the kernel holds for each descriptor. -/
structure Loop where
  process : Process
  masterSet : Finset Int
  maxFd : Int
  sockets : Int → Socket

/-- What the kernel answers to one `accept`. -/
inductive AcceptResult where
  | interrupted
  | failed
  | connected (fd : Int) (socket : Socket)

/-- What one round finds: the descriptors that are ready, and the answers to `accept`. -/
structure Round where
  ready : Finset Int
  accepts : List AcceptResult

inductive Event where
  | round (round : Round)
  | restart (serverFd : Int)

/-! ### New connections -/

/-- `accept_connection`. The kernel does not hand out a descriptor that is open, so an answer with
one counts as a failure. -/
def acceptConnection (ctx : ServerContext) : List AcceptResult → Option (Int × Socket)
  | [] => none
  | .interrupted :: rest => acceptConnection ctx rest
  | .failed :: _ => none
  | .connected fd socket :: _ =>
    if 0 ≤ fd ∧ fd ≠ ctx.serverFd ∧ fd ∉ ctx.clients.map ClientNode.socketFd then
      some (fd, socket)
    else none

def newClient (fd : Int) : ClientNode :=
  { ClientNode.zero with socketFd := fd, currentServerIndex := -1 }

/-- The descriptor of a new node of the table, if there is one. -/
def handleNewConnection (accepts : List AcceptResult) (loop : Loop) : Loop × Option Int :=
  match acceptConnection loop.process.ctx accepts with
  | none => (loop, none)
  | some (fd, socket) =>
    if maxClients ≤ loop.process.ctx.clients.length then
      ({ loop with process := loop.process.log (.rejected fd) }, none)
    else
      let process := loop.process.withClients (loop.process.ctx.clients ++ [newClient fd])
      ({ loop with
          process := process.log (.accepted fd socket)
          sockets := Function.update loop.sockets fd socket },
        some fd)

/-- The part of a round that accepts a connection and puts it into the sets. -/
def acceptRound (readSet : Finset Int) (accepts : List AcceptResult) (loop : Loop) : Loop :=
  if loop.process.ctx.serverFd ∈ readSet then
    let result := handleNewConnection accepts loop
    match result.2 with
    | none => result.1
    | some fd =>
      { result.1 with
        masterSet := insert fd result.1.masterSet
        maxFd := if result.1.maxFd < fd then fd else result.1.maxFd }
  else loop

/-! ### Servicing one connection -/

/-- The handlers of the types of packets. -/
def handlePacket (env : Env) (beyond : List UInt8) (index : Nat) (fd : Int)
    (packet : TizcordPacket) (process : Process) : Option PacketType → Process
  | some .auth => handleAuthPacket env beyond fd packet process
  | some .dm => handleChatPacket env beyond packet fd process
  | some .server => handleServerPacket env beyond index packet process
  | some .channel => handleChatPacket env beyond packet fd process
  | some .social => handleSocialPacket env beyond index packet process
  | none => process

def processClientPacket (env : Env) (index : Nat) (packet : TizcordPacket) (process : Process) :
    Process :=
  let beyond := env.beyond process.clock
  let fd := (process.clientAt index).socketFd
  let process := process.log (.handling fd packet (process.ctx.userOf fd))
  handlePacket env beyond index fd packet process (PacketType.ofCode packet.type)

/-- The loop that copies the nodes behind `index` down by one; the last place is then cut off. -/
def removeClient (index : Nat) (clients : List ClientNode) : List ClientNode :=
  ((List.range' index (clients.length - 1 - index)).foldl
    (fun clients j => clients.set j (clients.getD (j + 1) default)) clients).dropLast

/-- Tell those who saw the user of a closed connection. -/
def notifyDisconnected (env : Env) (client : ClientNode) (process : Process) : Process :=
  let disconnectedUserId := if client.isAuthenticated then client.id else 0
  if client.isAuthenticated = true ∧ 0 < disconnectedUserId then
    notifyAllUserLists env (notifyServerMemberListsForUser env disconnectedUserId process)
  else process

/-- Close a connection and take it out of the sets and the table. -/
def disconnectClient (env : Env) (index : Nat) (loop : Loop) : Loop :=
  let client := loop.process.clientAt index
  let process := loop.process.log (.closed client.socketFd)
  let process := process.withClients (removeClient index process.ctx.clients)
  { loop with
    process := notifyDisconnected env client process
    masterSet := loop.masterSet.erase client.socketFd }

/-- `packet_receive_partial` on the node at an index. -/
def receiveClient (index : Nat) (loop : Loop) : Loop × PartialResult :=
  let client := loop.process.clientAt index
  let received := packetReceivePartial (loop.sockets client.socketFd) client.receiveBuffer
  let process := loop.process.modifyClient index fun node =>
    { node with receiveBuffer := received.2.2 }
  ({ loop with
      process := process.log (.received client.socketFd received.1)
      sockets := Function.update loop.sockets client.socketFd received.2.1 },
    received.1)

/-- One pass of the loop over the table: the state, and the index the loop goes on with. -/
def serviceClient (env : Env) (readSet : Finset Int) (index : Nat) (loop : Loop) : Loop × Nat :=
  let client := loop.process.clientAt index
  if 0 < client.socketFd ∧ client.socketFd ∈ readSet then
    let received := receiveClient index loop
    let loop := received.1
    match received.2 with
    | .failed _ => (disconnectClient env index loop, index)
    | .again => (loop, index + 1)
    | .received packet =>
      ({ loop with process := processClientPacket env index packet loop.process }, index + 1)
  else (loop, index + 1)

/-- The loop over the table from `index` on, in at most `fuel` passes. Every pass leaves one node
less to look at, so as many passes as nodes are enough. -/
def serviceClients (env : Env) (readSet : Finset Int) : Nat → Nat → Loop → Loop
  | 0, _, loop => loop
  | fuel + 1, index, loop =>
    if index < loop.process.ctx.clients.length then
      let result := serviceClient env readSet index loop
      serviceClients env readSet fuel result.2 result.1
    else loop

/-! ### Runs -/

/-- The ready descriptors `select` reports: of the master set, and not above `max_fd`. -/
def selectReady (loop : Loop) (ready : Finset Int) : Finset Int :=
  loop.masterSet.filter fun fd => fd ∈ ready ∧ fd ≤ loop.maxFd

def runRound (env : Env) (round : Round) (loop : Loop) : Loop :=
  let readSet := selectReady loop round.ready
  let loop := acceptRound readSet round.accepts loop
  serviceClients env readSet loop.process.ctx.clients.length 0 loop

/-- The loop of a server that starts on a database. -/
def startLoop (serverFd : Int) (db : Database) (clock : Nat) (trace : List Effect) : Loop where
  process :=
    { ctx := ⟨serverFd, [], db⟩, nextListId := 1, clock, trace := trace ++ [.started] }
  masterSet := {serverFd}
  maxFd := serverFd
  sockets := fun _ => ⟨[], []⟩

def stepLoop (env : Env) (loop : Loop) : Event → Loop
  | .round round => runRound env round loop
  | .restart serverFd =>
    startLoop serverFd loop.process.ctx.db loop.process.clock loop.process.trace

/-- The state after some events of a server whose database was empty at first. -/
def runServer (env : Env) (serverFd : Int) (events : List Event) : Loop :=
  events.foldl (stepLoop env) (startLoop serverFd Database.empty 0 [])

end Tizcord
