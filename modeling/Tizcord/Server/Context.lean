/-
This file models the state of the server process: the table of connections, the
database and the list counter, and the record of what the process did. The
outside decides how system calls end; each decision is read at the present time
of the process, which every system call moves on.

A pointer to a node of the table is its index.
-/

import Tizcord.Server.Db
import Tizcord.Shared.PacketHelper

namespace Tizcord

open CModel

def maxClients : Nat := 64
def maxChannels : Nat := 16
def maxServers : Nat := 16
def maxServerMembers : Nat := 64

/-! ### The state -/

/-- A node of the connection table. The cached memberships, which no function reads, are left
out. -/
structure ClientNode where
  id : Int
  socketFd : Int
  isAuthenticated : Bool
  username : TextBuffer (maxNameLen - 1)
  currentServerIndex : Int
  receiveBuffer : ReceiveBuffer

namespace ClientNode

/-- A node after `memset(.., 0, ..)`. -/
def zero : ClientNode where
  id := 0
  socketFd := 0
  isAuthenticated := false
  username := TextBuffer.zero
  currentServerIndex := 0
  receiveBuffer := ReceiveBuffer.fresh

instance : Inhabited ClientNode := ⟨zero⟩

end ClientNode

/-- The context of the server: `clients` is the part of the array in use, so its length is
`client_count`. The database is never missing, as `main` ends without one. -/
structure ServerContext where
  serverFd : Int
  clients : List ClientNode
  db : Database

namespace ServerContext

/-- The node at an index of the table. -/
def clientAt (ctx : ServerContext) (index : Nat) : ClientNode :=
  ctx.clients.getD index default

/-- The first index at which the search for a descriptor stops. -/
def findClient (ctx : ServerContext) (fd : Int) : Option Nat :=
  ctx.clients.findIdx? fun node => node.socketFd = fd

/-- The user a connection is authenticated as. -/
def userOf (ctx : ServerContext) (fd : Int) : Option Int :=
  (ctx.clients.find? fun node => node.socketFd = fd && node.isAuthenticated).map ClientNode.id

end ServerContext

/-- The calls of db.c that change a table or take a text from a packet, with their results. -/
inductive DbCall where
  | createUser (username passwordHash : Text) (created : Option RowId)
  | getPasswordHash (username : Text)
  | getUserIdByName (username : Text)
  | updateUserStatus (userId : Int) (statusText : Text) (status : Int)
  | saveMessage (channelId userId : Int) (content : Text) (status : Int)
  | saveDirectMessage (senderId receiverId : Int) (content : Text) (status : Int)
  | createServer (name : Text) (userId : Int) (created : Option RowId) (status : Int)
  | joinServer (serverId userId : Int) (status : Int)
  | leaveServer (serverId userId : Int) (status : Int)
  | deleteServer (serverId userId : Int) (status : Int)
  | kickServerMember (serverId userId : Int) (status : Int)
  | createChannel (serverId : Int) (name : Text) (created : Option RowId)
  | deleteChannel (channelId : Int) (status : Int)
  | sendFriendRequest (userId friendId : Int) (status : Int)
  | acceptFriendRequest (userId friendId : Int) (status : Int)
  | removeFriendship (userId friendId : Int) (status : Int)
  | rejectFriendRequest (userId senderId : Int) (status : Int)

/-- What the process does that can be seen from outside its memory. With a packet goes the user
its connection is authenticated as at that moment. -/
inductive Effect where
  | started
  | accepted (fd : Int) (socket : Socket)
  | rejected (fd : Int)
  | received (fd : Int) (result : PartialResult)
  | handling (fd : Int) (packet : TizcordPacket) (user : Option Int)
  | closed (fd : Int)
  | sent (fd : Int) (packet : TizcordPacket) (status : Int) (user : Option Int)
  | hashed (phrase setting : Text)
  | called (call : DbCall)

structure Process where
  ctx : ServerContext
  nextListId : Int
  clock : Nat
  trace : List Effect

/-! ### The outside -/

/-- What is decided outside the process. `crypt` is a function of its arguments; all else depends
on the time. `beyond` are the bytes that stand behind the packet in memory. -/
structure Env where
  db : Nat → DbEnv
  send : Nat → List SendResult
  time : Nat → Int
  salt : Nat → Option Text
  crypt : Text → Text → Option Text
  beyond : Nat → List UInt8

/-- No database statement fails except by violating a constraint. -/
def Env.Reliable (env : Env) : Prop :=
  ∀ time, (env.db time).Reliable

/-- An outside in which nothing fails, and in which a hash is the password itself. -/
def Env.ideal : Env where
  db _ := ⟨fun _ _ => false, none, 0, fun _ => 0, fun _ => .refl _⟩
  send _ := []
  time _ := 0
  salt _ := some Text.empty
  crypt phrase _ := some phrase
  beyond _ := []

theorem Env.ideal_reliable : Env.ideal.Reliable := fun _ _ _ => rfl

namespace Process

def tick (process : Process) : Process :=
  { process with clock := process.clock + 1 }

def log (process : Process) (effect : Effect) : Process :=
  { process with trace := process.trace ++ [effect] }

def now (env : Env) (process : Process) : Int :=
  env.time process.clock

/-- The result of a query. -/
def read {Result : Type} (env : Env) (process : Process)
    (query : DbEnv → Database → Result) : Result :=
  query (env.db process.clock) process.ctx.db

def withDb (process : Process) (db : Database) : Process :=
  { process with ctx := { process.ctx with db } }

/-- Call a function of db.c that changes the tables. -/
def change {Result : Type} (env : Env) (process : Process)
    (operation : DbEnv → Database → Database × Result) (call : Result → DbCall) :
    Process × Result :=
  let result := operation (env.db process.clock) process.ctx.db
  (((process.withDb result.1).log (.called (call result.2))).tick, result.2)

/-- `packet_send`, with its status. -/
def packetSend (env : Env) (process : Process) (fd : Int) (packet : TizcordPacket) :
    Process × Int :=
  let status := (Tizcord.packetSend (env.send process.clock) packet).1
  ((process.log (.sent fd packet status (process.ctx.userOf fd))).tick, status)

/-- `packet_send`, where the code does not look at the status. -/
def send (env : Env) (process : Process) (fd : Int) (packet : TizcordPacket) : Process :=
  (process.packetSend env fd packet).1

/-! ### The table of connections -/

def clientAt (process : Process) (index : Nat) : ClientNode :=
  process.ctx.clientAt index

def withClients (process : Process) (clients : List ClientNode) : Process :=
  { process with ctx := { process.ctx with clients } }

/-- Write to the node at an index. -/
def modifyClient (process : Process) (index : Nat) (update : ClientNode → ClientNode) :
    Process :=
  process.withClients (process.ctx.clients.modify index update)

/-- Run through the table by index, reading each node when its turn comes. -/
def forClients (process : Process) (body : Nat → ClientNode → Process → Process) : Process :=
  (List.range process.ctx.clients.length).foldl
    (fun process index => body index (process.clientAt index) process) process

end Process

end Tizcord
