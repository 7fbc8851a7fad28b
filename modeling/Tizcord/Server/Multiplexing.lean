/-
This file proves that the multiplexed loop is equivalent to independent decoders.
A registry reads the record of the process and keeps, for every connection ever
accepted, what the receiver returned for it and which packets were handled. The
loop, with its array that shifts, simulates one decoder for each connection.
-/

import Mathlib.Logic.Function.Basic
import Tizcord.Server.Reachable
import Tizcord.Shared.Framing

namespace Tizcord

open CModel

/-! ### One decoder -/

/-- What one connection has been through since it was accepted: the results of the receiver, and
the packets passed to `process_client_packet`. -/
structure ConnectionLog where
  socket : Socket
  results : List PartialResult
  handled : List TizcordPacket

namespace ConnectionLog

/-- The calls of a receiver that reads the socket of the connection and nothing else. -/
def decoder (log : ConnectionLog) : List PartialResult × Socket × ReceiveBuffer :=
  receivePartialCalls log.results.length log.socket ReceiveBuffer.fresh

/-- The results are those of the decoder, and the packets handled are the ones it yields. -/
structure Faithful (log : ConnectionLog) : Prop where
  results : log.decoder.1 = log.results
  handled : log.handled = receivedPackets log.decoder.1

/-- The log of a connection that is still open, with the state its decoder is in. -/
structure Open (log : ConnectionLog) (socket : Socket) (buffer : ReceiveBuffer) : Prop where
  working : failureOf log.results = none
  state : log.decoder.2 = (socket, buffer)

end ConnectionLog

theorem failureOf_append (results : List PartialResult) (result : PartialResult) :
    failureOf (results ++ [result]) = (failureOf results).or result.errno? := by
  unfold failureOf
  rw [List.findSome?_append, List.findSome?_cons, List.findSome?_nil]
  cases result.errno? <;> rfl

theorem receivedPackets_append (results : List PartialResult) (result : PartialResult) :
    receivedPackets (results ++ [result]) = receivedPackets results ++ result.packet?.toList := by
  unfold receivedPackets
  rw [List.filterMap_append, List.filterMap_cons, List.filterMap_nil]
  cases result.packet? <;> rfl

/-- One more call continues where the calls before it, if none failed, have stopped. -/
theorem receivePartialCalls_succ (calls : Nat) (socket : Socket) (buffer : ReceiveBuffer)
    (working : failureOf (receivePartialCalls calls socket buffer).1 = none) :
    receivePartialCalls (calls + 1) socket buffer =
      let earlier := receivePartialCalls calls socket buffer
      let next := packetReceivePartial earlier.2.1 earlier.2.2
      (earlier.1 ++ [next.1], next.2) := by
  induction calls generalizing socket buffer with
  | zero =>
    rw [show receivePartialCalls 0 socket buffer = ([], socket, buffer) from rfl, receivePartialCalls]
    dsimp only
    generalize packetReceivePartial socket buffer = outcome
    rcases outcome with ⟨_ | _ | _, _, _⟩ <;> rfl
  | succ calls inductionHypothesis =>
    rw [receivePartialCalls] at working ⊢
    rw [receivePartialCalls]
    generalize packetReceivePartial socket buffer = outcome at working ⊢
    rcases outcome with ⟨errno | _ | packet, socket', buffer'⟩
    · cases working
    · dsimp only at working ⊢
      rw [inductionHypothesis socket' buffer' working]
      rfl
    · dsimp only at working ⊢
      rw [inductionHypothesis socket' buffer' working]
      rfl

namespace ConnectionLog

/-- The log after one more call of the receiver, whose packet, if any, was handled. -/
def receive (log : ConnectionLog) (result : PartialResult) : ConnectionLog :=
  { log with
    results := log.results ++ [result]
    handled := log.handled ++ result.packet?.toList }

variable {log : ConnectionLog} {socket : Socket} {buffer : ReceiveBuffer}

theorem receive_decoder (faithful : log.Faithful) (open' : log.Open socket buffer) :
    (log.receive (packetReceivePartial socket buffer).1).decoder =
      (log.results ++ [(packetReceivePartial socket buffer).1],
        (packetReceivePartial socket buffer).2) := by
  have state : log.decoder = (log.results, socket, buffer) :=
    Prod.ext faithful.results open'.state
  have next := receivePartialCalls_succ log.results.length log.socket ReceiveBuffer.fresh
    (by rw [show (receivePartialCalls _ _ _).1 = _ from faithful.results]; exact open'.working)
  rw [show receivePartialCalls log.results.length _ _ = _ from state] at next
  rw [decoder, receive, List.length_append]
  exact next

theorem receive_faithful (faithful : log.Faithful) (open' : log.Open socket buffer) :
    (log.receive (packetReceivePartial socket buffer).1).Faithful := by
  have decoder := receive_decoder faithful open'
  constructor
  · rw [decoder]
    rfl
  · rw [decoder, receivedPackets_append, ← faithful.results, ← faithful.handled]
    rfl

theorem receive_open (faithful : log.Faithful) (open' : log.Open socket buffer)
    (working : (packetReceivePartial socket buffer).1.errno? = none) :
    (log.receive (packetReceivePartial socket buffer).1).Open
      (packetReceivePartial socket buffer).2.1 (packetReceivePartial socket buffer).2.2 where
  working := by
    rw [receive, failureOf_append, open'.working, working]
    rfl
  state := by rw [receive_decoder faithful open']

end ConnectionLog

/-! ### The registry -/

/-- The connections of a run in the order in which they were accepted, and for every descriptor
the open connection that has it. -/
structure Registry where
  count : Nat
  owner : Int → Option Nat
  log : Nat → ConnectionLog

namespace Registry

def empty : Registry where
  count := 0
  owner := fun _ => none
  log := fun _ => ⟨⟨[], []⟩, [], []⟩

/-- Write to the log of the connection that has a descriptor. -/
def note (registry : Registry) (fd : Int) (update : ConnectionLog → ConnectionLog) : Registry :=
  match registry.owner fd with
  | none => registry
  | some number =>
    { registry with log := Function.update registry.log number (update (registry.log number)) }

def accept (registry : Registry) (fd : Int) (socket : Socket) : Registry where
  count := registry.count + 1
  owner := Function.update registry.owner fd (some registry.count)
  log := Function.update registry.log registry.count ⟨socket, [], []⟩

def close (registry : Registry) (fd : Int) : Registry :=
  { registry with owner := Function.update registry.owner fd none }

def step (registry : Registry) : Effect → Registry
  | .started => { registry with owner := fun _ => none }
  | .accepted fd socket => registry.accept fd socket
  | .closed fd => registry.close fd
  | .received fd result => registry.note fd fun log => { log with results := log.results ++ [result] }
  | .handling fd packet _ => registry.note fd fun log => { log with handled := log.handled ++ [packet] }
  | _ => registry

/-- What a record of effects says about the connections. -/
def of (trace : List Effect) : Registry :=
  trace.foldl step empty

theorem of_append (trace effects : List Effect) :
    of (trace ++ effects) = effects.foldl step (of trace) :=
  List.foldl_append

/-- What handlers do is not about connections. -/
theorem foldl_of_handler (effects : List Effect) (ofHandler : ∀ effect ∈ effects, effect.OfHandler)
    (registry : Registry) : effects.foldl step registry = registry := by
  induction effects with
  | nil => rfl
  | cons effect rest inductionHypothesis =>
    have head : registry.step effect = registry := by
      have handler := ofHandler effect List.mem_cons_self
      cases effect <;> first | rfl | exact handler.elim
    rw [List.foldl_cons, head]
    exact inductionHypothesis fun other member => ofHandler other (List.mem_cons_of_mem _ member)

theorem note_owner (registry : Registry) (fd : Int) (update : ConnectionLog → ConnectionLog) :
    (registry.note fd update).owner = registry.owner := by
  unfold note
  split <;> rfl

theorem note_count (registry : Registry) (fd : Int) (update : ConnectionLog → ConnectionLog) :
    (registry.note fd update).count = registry.count := by
  unfold note
  split <;> rfl

theorem note_log {registry : Registry} {fd : Int} {number : Nat}
    (owned : registry.owner fd = some number) (update : ConnectionLog → ConnectionLog) :
    (registry.note fd update).log =
      Function.update registry.log number (update (registry.log number)) := by
  rw [note, owned]

theorem accept_owner_self (registry : Registry) (fd : Int) (socket : Socket) :
    (registry.accept fd socket).owner fd = some registry.count :=
  Function.update_self ..

theorem accept_owner_of_ne (registry : Registry) {fd other : Int} (socket : Socket)
    (different : other ≠ fd) : (registry.accept fd socket).owner other = registry.owner other :=
  Function.update_of_ne different ..

theorem accept_log_self (registry : Registry) (fd : Int) (socket : Socket) :
    (registry.accept fd socket).log registry.count = ⟨socket, [], []⟩ :=
  Function.update_self ..

theorem accept_log_of_lt (registry : Registry) (fd : Int) (socket : Socket) {number : Nat}
    (older : number < registry.count) :
    (registry.accept fd socket).log number = registry.log number :=
  Function.update_of_ne older.ne ..

theorem close_owner_self (registry : Registry) (fd : Int) : (registry.close fd).owner fd = none :=
  Function.update_self ..

theorem close_owner_of_ne (registry : Registry) {fd other : Int} (different : other ≠ fd) :
    (registry.close fd).owner other = registry.owner other :=
  Function.update_of_ne different ..

/-- Two notes about one connection are one note. -/
theorem note_note (registry : Registry) (fd : Int) (first second : ConnectionLog → ConnectionLog) :
    (registry.note fd first).note fd second = registry.note fd fun log => second (first log) := by
  cases owned : registry.owner fd with
  | none =>
    have same : ∀ update, registry.note fd update = registry := fun update => by
      rw [note, owned]
    rw [same, same, same]
  | some number =>
    rw [note, note_owner, owned]
    dsimp only
    rw [note_log owned, Function.update_self, Function.update_idem, note, note, owned]

/-- The effects of a call of the receiver: its result, and the packet that is handed on. -/
def receiving (fd : Int) (result : PartialResult) (user : Option Int) : List Effect :=
  .received fd result :: result.packet?.toList.map fun packet => .handling fd packet user

theorem foldl_receiving (registry : Registry) (fd : Int) (result : PartialResult)
    (user : Option Int) :
    (receiving fd result user).foldl step registry =
      registry.note fd fun log => log.receive result := by
  have nothing : ∀ log : ConnectionLog, result.packet? = none →
      ({ log with results := log.results ++ [result] } : ConnectionLog) = log.receive result := by
    intro log none'
    rw [ConnectionLog.receive, none', Option.toList_none, List.append_nil]
  cases result with
  | failed errno => exact congrArg (registry.note fd) (funext fun log => nothing log rfl)
  | again => exact congrArg (registry.note fd) (funext fun log => nothing log rfl)
  | received packet =>
    exact note_note registry fd (fun log => { log with results := log.results ++ [_] })
      fun log => { log with handled := log.handled ++ [packet] }

end Registry

/-! ### The simulation -/

/-- The table, with the sockets of its connections, holds the state of one decoder for each open
connection of the registry. -/
structure Simulates (connections : List (Int × ReceiveBuffer)) (sockets : Int → Socket)
    (registry : Registry) : Prop where
  faithful : ∀ number < registry.count, (registry.log number).Faithful
  counted : ∀ {fd number}, registry.owner fd = some number → number < registry.count
  apart : ∀ {fd other number}, registry.owner fd = some number →
    registry.owner other = some number → fd = other
  closed : ∀ fd, fd ∉ connections.map Prod.fst → registry.owner fd = none
  decoding : ∀ connection ∈ connections, ∃ number, registry.owner connection.1 = some number ∧
    (registry.log number).Open (sockets connection.1) connection.2

namespace Simulates

variable {connections : List (Int × ReceiveBuffer)} {sockets : Int → Socket} {registry : Registry}

theorem start (registry : Registry) (faithful : ∀ number < registry.count,
    (registry.log number).Faithful) (sockets : Int → Socket) :
    Simulates [] sockets (registry.step .started) where
  faithful := faithful
  counted := nofun
  apart := nofun
  closed _ _ := rfl
  decoding _ member := absurd member List.not_mem_nil

theorem of_registry (simulates : Simulates connections sockets registry) {same : Registry}
    (equal : same = registry) : Simulates connections sockets same :=
  equal ▸ simulates

theorem accept (simulates : Simulates connections sockets registry) {fd : Int}
    (fresh : fd ∉ connections.map Prod.fst) (socket : Socket) :
    Simulates (connections ++ [(fd, ReceiveBuffer.fresh)]) (Function.update sockets fd socket)
      (registry.accept fd socket) := by
  have owners : ∀ {other number}, (registry.accept fd socket).owner other = some number →
      other = fd ∧ number = registry.count ∨
        registry.owner other = some number ∧ number < registry.count := by
    intro other number owned
    by_cases same : other = fd
    · rw [same, registry.accept_owner_self] at owned
      exact Or.inl ⟨same, (Option.some.inj owned).symm⟩
    · rw [registry.accept_owner_of_ne socket same] at owned
      exact Or.inr ⟨owned, simulates.counted owned⟩
  refine ⟨?_, ?_, ?_, ?_, ?_⟩
  · intro number bound
    rcases Nat.lt_succ_iff_lt_or_eq.mp bound with old | rfl
    · rw [registry.accept_log_of_lt fd socket old]
      exact simulates.faithful number old
    · rw [registry.accept_log_self]
      exact ⟨rfl, rfl⟩
  · intro other number owned
    rcases owners owned with ⟨-, rfl⟩ | ⟨-, older⟩
    · exact Nat.lt_succ_self _
    · exact Nat.lt_succ_of_lt older
  · intro other another number owned ownedToo
    rcases owners owned with ⟨same, newest⟩ | ⟨old, older⟩
    · rcases owners ownedToo with ⟨sameToo, -⟩ | ⟨-, older⟩
      · rw [same, sameToo]
      · exact absurd newest older.ne
    · rcases owners ownedToo with ⟨-, newest⟩ | ⟨oldToo, -⟩
      · exact absurd newest older.ne
      · exact simulates.apart old oldToo
  · intro other absent
    rw [List.map_append, List.mem_append, not_or] at absent
    have different : other ≠ fd := fun same => absent.2 (List.mem_singleton.mpr same)
    rw [registry.accept_owner_of_ne socket different]
    exact simulates.closed other absent.1
  · intro connection member
    rcases List.mem_append.mp member with old | new
    · have different : connection.1 ≠ fd := fun same =>
        fresh (same ▸ List.mem_map_of_mem old)
      obtain ⟨number, owned, open'⟩ := simulates.decoding connection old
      refine ⟨number, ?_, ?_⟩
      · rw [registry.accept_owner_of_ne socket different]
        exact owned
      · rw [registry.accept_log_of_lt fd socket (simulates.counted owned),
          Function.update_of_ne different]
        exact open'
    · rw [List.mem_singleton.mp new]
      refine ⟨registry.count, registry.accept_owner_self fd socket, ?_⟩
      rw [registry.accept_log_self, Function.update_self]
      exact ⟨rfl, rfl⟩

/-- The receiver is called for one connection: its decoder makes a call, and all others stay as
they are. -/
theorem receive (simulates : Simulates connections sockets registry)
    (distinct : (connections.map Prod.fst).Nodup) {connection : Int × ReceiveBuffer}
    (member : connection ∈ connections) :
    let received := packetReceivePartial (sockets connection.1) connection.2
    let after := registry.note connection.1 fun log => log.receive received.1
    (∀ number < after.count, (after.log number).Faithful) ∧
    (∀ other ∈ connections, other ≠ connection → ∃ number, after.owner other.1 = some number ∧
      (after.log number).Open (Function.update sockets connection.1 received.2.1 other.1) other.2) ∧
    (received.1.errno? = none → ∃ number, after.owner connection.1 = some number ∧
      (after.log number).Open (Function.update sockets connection.1 received.2.1 connection.1)
        received.2.2) := by
  intro received after
  obtain ⟨number, owned, open'⟩ := simulates.decoding connection member
  have faithful := simulates.faithful number (simulates.counted owned)
  have log : after.log = Function.update registry.log number
      ((registry.log number).receive received.1) := Registry.note_log owned _
  have owner : after.owner = registry.owner := registry.note_owner _ _
  refine ⟨?_, ?_, ?_⟩
  · intro other bound
    rw [log]
    by_cases same : other = number
    · rw [same, Function.update_self]
      exact ConnectionLog.receive_faithful faithful open'
    · rw [Function.update_of_ne same]
      exact simulates.faithful other (registry.note_count _ _ ▸ bound)
  · intro other otherMember different
    obtain ⟨otherNumber, otherOwned, otherOpen⟩ := simulates.decoding other otherMember
    have otherFd : other.1 ≠ connection.1 := fun same =>
      different (List.inj_on_of_nodup_map distinct otherMember member same)
    have apart : otherNumber ≠ number := fun same =>
      otherFd (simulates.apart (same ▸ otherOwned) owned)
    refine ⟨otherNumber, owner ▸ otherOwned, ?_⟩
    rw [log, Function.update_of_ne apart, Function.update_of_ne otherFd]
    exact otherOpen
  · intro working
    refine ⟨number, owner ▸ owned, ?_⟩
    rw [log, Function.update_self, Function.update_self]
    exact ConnectionLog.receive_open faithful open' working

/-- Nodes at other places are other connections. -/
theorem ne_of_place (distinct : (connections.map Prod.fst).Nodup) {place index : Nat}
    (insidePlace : place < connections.length) (inside : index < connections.length)
    (different : place ≠ index) : connections[place] ≠ connections[index] :=
  fun same => different ((distinct.of_map _).getElem_inj_iff.mp same)

/-- A call that does not fail leaves the connection at its place with the new state. -/
theorem receive_working (simulates : Simulates connections sockets registry)
    (distinct : (connections.map Prod.fst).Nodup) {index : Nat}
    (inside : index < connections.length) {fd : Int} {buffer : ReceiveBuffer}
    (found : connections[index] = (fd, buffer))
    (working : (packetReceivePartial (sockets fd) buffer).1.errno? = none) :
    Simulates
      (connections.modify index fun connection =>
        (connection.1, (packetReceivePartial (sockets fd) buffer).2.2))
      (Function.update sockets fd (packetReceivePartial (sockets fd) buffer).2.1)
      (registry.note fd fun log => log.receive (packetReceivePartial (sockets fd) buffer).1) := by
  have member : (fd, buffer) ∈ connections := found ▸ List.getElem_mem inside
  obtain ⟨faithful, others, own⟩ := simulates.receive distinct member
  have fds : (connections.modify index fun connection =>
      (connection.1, (packetReceivePartial (sockets fd) buffer).2.2)).map Prod.fst =
        connections.map Prod.fst :=
    map_modify_of_same Prod.fst (fun connection : Int × ReceiveBuffer =>
      (connection.1, (packetReceivePartial (sockets fd) buffer).2.2)) (fun _ => rfl) _ _
  refine ⟨faithful, ?_, ?_, ?_, ?_⟩
  · intro other number owned
    rw [registry.note_owner] at owned
    exact registry.note_count _ _ ▸ simulates.counted owned
  · intro other another number owned ownedToo
    rw [registry.note_owner] at owned ownedToo
    exact simulates.apart owned ownedToo
  · intro other absent
    rw [fds] at absent
    rw [registry.note_owner]
    exact simulates.closed other absent
  · intro connection changed
    obtain ⟨place, bound, rfl⟩ := List.getElem_of_mem changed
    rw [List.length_modify] at bound
    rw [List.getElem_modify]
    split
    · rename_i same
      subst same
      rw [found]
      exact own working
    · rename_i different
      exact others _ (List.getElem_mem bound)
        (found ▸ ne_of_place distinct bound inside (Ne.symm different))

/-- A call that fails is followed by the removal of the connection. -/
theorem receive_failing (simulates : Simulates connections sockets registry)
    (distinct : (connections.map Prod.fst).Nodup) {index : Nat}
    (inside : index < connections.length) {fd : Int} {buffer : ReceiveBuffer}
    (found : connections[index] = (fd, buffer)) :
    Simulates (connections.eraseIdx index)
      (Function.update sockets fd (packetReceivePartial (sockets fd) buffer).2.1)
      ((registry.note fd fun log =>
        log.receive (packetReceivePartial (sockets fd) buffer).1).close fd) := by
  have member : (fd, buffer) ∈ connections := found ▸ List.getElem_mem inside
  obtain ⟨faithful, others, -⟩ := simulates.receive distinct member
  have owners : ∀ {other number}, ((registry.note fd fun log =>
      log.receive (packetReceivePartial (sockets fd) buffer).1).close fd).owner other = some number →
        registry.owner other = some number := by
    intro other number owned
    by_cases same : other = fd
    · rw [same, Registry.close_owner_self] at owned
      cases owned
    · rwa [Registry.close_owner_of_ne _ same, registry.note_owner] at owned
  refine ⟨faithful, ?_, ?_, ?_, ?_⟩
  · exact fun owned => registry.note_count _ _ ▸ simulates.counted (owners owned)
  · exact fun owned ownedToo => simulates.apart (owners owned) (owners ownedToo)
  · intro other absent
    by_cases same : other = fd
    · rw [same]
      exact Registry.close_owner_self _ _
    · rw [Registry.close_owner_of_ne _ same, registry.note_owner]
      refine simulates.closed other fun present => absent ?_
      obtain ⟨connection, connectionMember, rfl⟩ := List.mem_map.mp present
      obtain ⟨place, bound, rfl⟩ := List.getElem_of_mem connectionMember
      refine List.mem_map_of_mem (List.mem_eraseIdx_iff_getElem.mpr ⟨place, bound, ?_, rfl⟩)
      rintro rfl
      exact same (congrArg Prod.fst found)
  · intro connection remains
    obtain ⟨place, bound, different, rfl⟩ := List.mem_eraseIdx_iff_getElem.mp remains
    have other := ne_of_place distinct bound inside different
    rw [found] at other
    obtain ⟨number, owned, open'⟩ := others _ (List.getElem_mem bound) other
    refine ⟨number, ?_, open'⟩
    have otherFd : connections[place].1 ≠ fd := fun same =>
      other (List.inj_on_of_nodup_map distinct (List.getElem_mem bound) member same)
    rw [Registry.close_owner_of_ne _ otherFd]
    exact owned

end Simulates

/-! ### The loop simulates the decoders -/

/-- The loop simulates one decoder for each open connection. -/
def Loop.Simulated (loop : Loop) : Prop :=
  Simulates loop.process.ctx.connections loop.sockets (Registry.of loop.process.trace)

/-- Handlers and notices do not touch the simulation. -/
theorem Acts.simulates {env : Env} {fd : Int} {beyond : List UInt8} {packet : TizcordPacket}
    {start finish : Process} {sockets : Int → Socket}
    (acts : Acts env fd beyond packet start finish)
    (simulates : Simulates start.ctx.connections sockets (Registry.of start.trace)) :
    Simulates finish.ctx.connections sockets (Registry.of finish.trace) := by
  obtain ⟨effects, logged, ofHandler⟩ := acts.trace
  rw [logged, Registry.of_append, Registry.foldl_of_handler effects ofHandler,
    acts.keeps.connections]
  exact simulates

theorem connections_receiveClient (index : Nat) (loop : Loop) :
    (receiveClient index loop).1.process.ctx.connections =
      loop.process.ctx.connections.modify index fun connection =>
        (connection.1, (packetReceivePartial
          (loop.sockets (loop.process.clientAt index).socketFd)
          (loop.process.clientAt index).receiveBuffer).2.2) := by
  refine List.ext_getElem (by simp [receiveClient, ServerContext.connections,
    Process.modifyClient, Process.withClients, Process.log]) fun place _ _ => ?_
  simp only [receiveClient, ServerContext.connections, Process.modifyClient, Process.withClients,
    Process.log, List.getElem_map, List.getElem_modify]
  split <;> rfl

theorem connections_getElem {ctx : ServerContext} {index : Nat}
    (inside : index < ctx.clients.length) :
    ctx.connections.get
        ⟨index, by rw [ServerContext.connections, List.length_map]; exact inside⟩ =
      ((ctx.clientAt index).socketFd, (ctx.clientAt index).receiveBuffer) := by
  rw [clientAt_eq_getElem inside]
  exact List.getElem_map ..

/-- The record after a call of the receiver and the effects that follow it. -/
theorem registry_receiving (trace : List Effect) (fd : Int) (result : PartialResult)
    (user : Option Int) (effects : List Effect) :
    Registry.of (trace ++ (Registry.receiving fd result user ++ effects)) =
      effects.foldl Registry.step
        ((Registry.of trace).note fd fun log => log.receive result) := by
  rw [Registry.of_append, List.foldl_append, Registry.foldl_receiving]

theorem receiveClient_simulates {index : Nat} {loop : Loop} (consistent : loop.Consistent)
    (simulated : loop.Simulated) (inside : index < loop.process.ctx.clients.length)
    (working : (receiveClient index loop).2.errno? = none) (user : Option Int) :
    Simulates (receiveClient index loop).1.process.ctx.connections
      (receiveClient index loop).1.sockets
      (Registry.of (loop.process.trace ++ Registry.receiving
        (loop.process.clientAt index).socketFd (receiveClient index loop).2 user)) := by
  have distinct : (loop.process.ctx.connections.map Prod.fst).Nodup :=
    loop.process.ctx.fds_eq ▸ consistent.distinct
  have registry := registry_receiving loop.process.trace (loop.process.clientAt index).socketFd
    (receiveClient index loop).2 user []
  rw [List.append_nil] at registry
  rw [connections_receiveClient, registry]
  exact simulated.receive_working distinct _ (connections_getElem inside) working

theorem receiveClient_removes {index : Nat} {loop : Loop} (consistent : loop.Consistent)
    (simulated : loop.Simulated) (inside : index < loop.process.ctx.clients.length) :
    Simulates ((receiveClient index loop).1.process.ctx.without index).connections
      (receiveClient index loop).1.sockets
      (Registry.of (loop.process.trace ++ (Registry.receiving
        (loop.process.clientAt index).socketFd (receiveClient index loop).2 none ++
          [.closed (loop.process.clientAt index).socketFd]))) := by
  have distinct : (loop.process.ctx.connections.map Prod.fst).Nodup :=
    loop.process.ctx.fds_eq ▸ consistent.distinct
  have connections : ((receiveClient index loop).1.process.ctx.without index).connections =
      loop.process.ctx.connections.eraseIdx index := by
    have removed : ((receiveClient index loop).1.process.ctx.without index).connections =
        (receiveClient index loop).1.process.ctx.connections.eraseIdx index :=
      (List.eraseIdx_map _ _ _).symm
    rw [removed, connections_receiveClient, List.eraseIdx_modify_of_eq]
  rw [connections, registry_receiving]
  exact simulated.receive_failing distinct _ (connections_getElem inside)

theorem disconnectClient_simulated (env : Env) {index : Nat} {loop : Loop}
    (consistent : loop.Consistent) (simulated : loop.Simulated)
    (inside : index < loop.process.ctx.clients.length) {errno : Errno}
    (failure : (receiveClient index loop).2 = .failed errno) :
    (disconnectClient env index (receiveClient index loop).1).Simulated := by
  have fd := receiveClient_clientAt_fd inside
  have trace := receiveClient_trace index loop
  have removed := receiveClient_removes consistent simulated inside
  have insideAfter : index < (receiveClient index loop).1.process.ctx.clients.length := by
    rw [receiveClient_length]
    exact inside
  refine Acts.simulates (disconnectClient_notifies env insideAfter) ?_
  rw [failure] at removed trace
  rw [fd, trace, List.append_assoc]
  exact removed

theorem serviceClient_simulated (env : Env) (readSet : Finset Int) {index : Nat} {loop : Loop}
    (consistent : loop.Consistent) (simulated : loop.Simulated)
    (inside : index < loop.process.ctx.clients.length) :
    (serviceClient env readSet index loop).1.Simulated := by
  have fd := receiveClient_clientAt_fd inside
  have trace := receiveClient_trace index loop
  rcases serviceClient_cases env readSet index loop with
    ⟨-, skipped⟩ | ⟨-, ⟨errno, failure, failed⟩ | ⟨waits, again⟩ | ⟨packet, arrived, handled⟩⟩
  · rw [skipped]
    exact simulated
  · rw [failed]
    exact disconnectClient_simulated env consistent simulated inside failure
  · have received := receiveClient_simulates consistent simulated inside
      (by rw [waits]; rfl) none
    rw [waits] at received trace
    rw [again, Loop.Simulated, trace]
    exact received
  · have received := receiveClient_simulates consistent simulated inside
      (by rw [arrived]; rfl)
      ((receiveClient index loop).1.process.ctx.userOf (loop.process.clientAt index).socketFd)
    have acts := processClientPacket_acts env index packet (receiveClient index loop).1.process
    rw [handled, Loop.Simulated]
    refine acts.simulates ?_
    rw [arrived] at received trace
    rw [fd, Process.log, trace, List.append_assoc]
    exact received

theorem acceptRound_simulated {readSet : Finset Int} {accepts : List AcceptResult} {loop : Loop}
    (simulated : loop.Simulated) : (acceptRound readSet accepts loop).Simulated := by
  rcases acceptRound_cases readSet accepts loop with
    same | ⟨fd, rejected⟩ | ⟨fd, socket, connected, -, accepted⟩
  · rw [same]
    exact simulated
  · rw [rejected, Loop.Simulated, Process.log, Registry.of_append]
    exact simulated
  · obtain ⟨-, -, -, fresh⟩ := acceptConnection_fresh connected
    have connections : (loop.accepted fd socket).process.ctx.connections =
        loop.process.ctx.connections ++ [(fd, ReceiveBuffer.fresh)] := List.map_append
    rw [accepted, Loop.Simulated, connections]
    rw [ServerContext.fds_eq] at fresh
    refine (simulated.accept fresh socket).of_registry ?_
    exact Registry.of_append _ _

theorem ReachableWhen.simulated {env : Env} {allowed : ServerContext → Int → TizcordPacket → Prop}
    {serverFd : Int} {machine : Machine}
    (reachable : ReachableWhen env allowed serverFd machine) : machine.loop.Simulated := by
  induction reachable with
  | start => exact .start Registry.empty nofun _
  | select _ _ inductionHypothesis => exact acceptRound_simulated inductionHypothesis
  | service reachable inside _ inductionHypothesis =>
    exact serviceClient_simulated _ _ reachable.consistent inductionHypothesis inside
  | finish _ _ inductionHypothesis => exact inductionHypothesis
  | @restart machine _ newFd inductionHypothesis =>
    have restarted := Simulates.start (Registry.of machine.loop.process.trace)
      inductionHypothesis.faithful (fun _ => ⟨[], []⟩)
    exact restarted.of_registry (Registry.of_append _ _)

/-- What a connection without pending bytes has been sent as one packet, is what is handed on. -/
theorem Loop.HandsOn.packet_eq {loop : Loop} {readSet : Finset Int} {index : Nat}
    {received packet : TizcordPacket} {type : PacketType} {rest : List UInt8}
    (handed : loop.HandsOn readSet index received)
    (orderly : ∀ result ∈ (loop.sockets (loop.process.clientAt index).socketFd).script,
      result.Orderly)
    (empty : (loop.process.clientAt index).receiveBuffer.offset = 0)
    (valid : PacketType.ofCode packet.type = some type)
    (sent : (loop.sockets (loop.process.clientAt index).socketFd).stream =
      (swapPacket packet packet.type).toBytes ++ rest) : received = packet := by
  have step := packetReceivePartialLoop_step _
    (loop.sockets (loop.process.clientAt index).socketFd).stream
    (loop.process.clientAt index).receiveBuffer orderly (empty ▸ Nat.zero_le _)
  have returned : (packetReceivePartialLoop
      (loop.sockets (loop.process.clientAt index).socketFd).script
      (loop.sockets (loop.process.clientAt index).socketFd).stream
      (loop.process.clientAt index).receiveBuffer).1 = .received received := handed.received
  have nothing : (loop.process.clientAt index).receiveBuffer.bytes.slice 0 0 = [] := by
    simp [Image.slice]
  rw [returned, empty, nothing, List.nil_append] at step
  exact step.packet_eq valid sent

/-! ### Who is serviced -/

/-- The descriptors whose receiver was called, in order. -/
def servicedFds (effects : List Effect) : List Int :=
  effects.filterMap fun
    | .received fd _ => some fd
    | _ => none

theorem servicedFds_append (first second : List Effect) :
    servicedFds (first ++ second) = servicedFds first ++ servicedFds second :=
  List.filterMap_append

theorem servicedFds_of_handler {effects : List Effect}
    (ofHandler : ∀ effect ∈ effects, effect.OfHandler) : servicedFds effects = [] := by
  refine List.filterMap_eq_nil_iff.mpr fun effect member => ?_
  have handler := ofHandler effect member
  cases effect <;> first | rfl | exact handler.elim

/-- One pass services the connection at the index if it is ready, and goes on with the ones
behind it. -/
theorem serviceClient_serviced (env : Env) (readSet : Finset Int) {index : Nat} {loop : Loop}
    (inside : index < loop.process.ctx.clients.length)
    (positive : 0 < (loop.process.clientAt index).socketFd) :
    ∃ gain, (serviceClient env readSet index loop).1.process.trace = loop.process.trace ++ gain ∧
      servicedFds gain = [(loop.process.clientAt index).socketFd].filter (· ∈ readSet) ∧
      (serviceClient env readSet index loop).1.process.ctx.fds.drop
        (serviceClient env readSet index loop).2 = loop.process.ctx.fds.drop (index + 1) := by
  have fds := receiveClient_fds index loop
  have trace := receiveClient_trace index loop
  rcases serviceClient_cases env readSet index loop with
    ⟨unready, skipped⟩ | ⟨ready, ⟨errno, failure, failed⟩ | ⟨waits, again⟩ | ⟨packet, arrived, handled⟩⟩
  · have out : (loop.process.clientAt index).socketFd ∉ readSet := fun member =>
      unready ⟨positive, member⟩
    rw [skipped]
    exact ⟨[], (List.append_nil _).symm, by simp [servicedFds, out], rfl⟩
  · have insideAfter : index < (receiveClient index loop).1.process.ctx.clients.length := by
      rw [receiveClient_length]
      exact inside
    have notifies := disconnectClient_notifies env insideAfter
    obtain ⟨effects, logged, ofHandler⟩ := Acts.trace notifies
    have kept := (disconnectClient_keeps env insideAfter).fds
    rw [failed]
    refine ⟨.received (loop.process.clientAt index).socketFd (receiveClient index loop).2 ::
      (.closed ((receiveClient index loop).1.process.clientAt index).socketFd :: effects), ?_, ?_, ?_⟩
    · rw [logged, trace, List.append_assoc, List.append_assoc]
      rfl
    · have none' := servicedFds_of_handler ofHandler
      simp only [servicedFds] at none' ⊢
      simp [ready.2, none']
    · have bound : index ≤ loop.process.ctx.fds.length := by
        rw [ServerContext.fds, List.length_map]
        exact inside.le
      rw [kept, ServerContext.fds_without, fds, List.eraseIdx_eq_take_drop_succ,
        List.drop_left' (List.length_take_of_le bound)]
  · rw [again]
    refine ⟨[.received (loop.process.clientAt index).socketFd (receiveClient index loop).2], trace,
      ?_, ?_⟩
    · simp [servicedFds, ready.2]
    · rw [fds]
  · obtain ⟨effects, logged, ofHandler⟩ :=
      (processClientPacket_acts env index packet (receiveClient index loop).1.process).trace
    have kept := (processClientPacket_keeps env index packet
      (receiveClient index loop).1.process).fds
    rw [handled]
    refine ⟨.received (loop.process.clientAt index).socketFd (receiveClient index loop).2 ::
      (.handling ((receiveClient index loop).1.process.clientAt index).socketFd packet
        ((receiveClient index loop).1.process.ctx.userOf
          ((receiveClient index loop).1.process.clientAt index).socketFd) :: effects), ?_, ?_, ?_⟩
    · rw [logged, Process.log, trace, List.append_assoc, List.append_assoc]
      rfl
    · have none' := servicedFds_of_handler ofHandler
      simp only [servicedFds] at none' ⊢
      simp [ready.2, none']
    · rw [kept, fds]

theorem fds_drop {ctx : ServerContext} {index : Nat} (inside : index < ctx.clients.length) :
    ctx.fds.drop index = (ctx.clientAt index).socketFd :: ctx.fds.drop (index + 1) := by
  have bound : index < ctx.fds.length := by
    rw [ServerContext.fds, List.length_map]
    exact inside
  rw [List.drop_eq_getElem_cons bound, clientAt_eq_getElem inside]
  exact congrArg (· :: _) (List.getElem_map ..)

/-- The passes from an index on service the ready connections from there on, each once. -/
theorem serviceClients_serviced (env : Env) (readSet : Finset Int) (fuel : Nat) {index : Nat}
    {loop : Loop} (enough : loop.process.ctx.clients.length ≤ index + fuel)
    (positive : ∀ fd ∈ loop.process.ctx.fds.drop index, 0 < fd) :
    ∃ gain, (serviceClients env readSet fuel index loop).process.trace =
        loop.process.trace ++ gain ∧
      servicedFds gain = (loop.process.ctx.fds.drop index).filter (· ∈ readSet) := by
  have nothing : ∀ {ctx : ServerContext} {index : Nat}, ctx.clients.length ≤ index →
      servicedFds [] = (ctx.fds.drop index).filter (· ∈ readSet) := by
    intro ctx index outside
    rw [List.drop_eq_nil_of_le (by rw [ServerContext.fds, List.length_map]; exact outside)]
    rfl
  induction fuel generalizing index loop with
  | zero => exact ⟨[], (List.append_nil _).symm, nothing enough⟩
  | succ fuel inductionHypothesis =>
    unfold serviceClients
    split
    · rename_i inside
      have split := fds_drop inside
      rw [split] at positive
      obtain ⟨gain, logged, served, behind⟩ := serviceClient_serviced env readSet inside
        (positive _ List.mem_cons_self)
      have progress := serviceClient_progress env readSet inside
      have enoughLater : (serviceClient env readSet index loop).1.process.ctx.clients.length ≤
          (serviceClient env readSet index loop).2 + fuel := by omega
      obtain ⟨later, loggedLater, servedLater⟩ := inductionHypothesis enoughLater
        (by rw [behind]; exact fun fd member => positive fd (List.mem_cons_of_mem _ member))
      refine ⟨gain ++ later, ?_, ?_⟩
      · rw [loggedLater, logged, List.append_assoc]
      · rw [servicedFds_append, served, servedLater, behind, split, ← List.filter_append]
        rfl
    · rename_i outside
      exact ⟨[], (List.append_nil _).symm, nothing (Nat.le_of_not_lt outside)⟩

/-- No connection of the table that is ready is out of the reach of `select`. -/
theorem filter_selectReady {loop : Loop} (consistent : loop.Consistent) (ready : Finset Int) :
    loop.process.ctx.fds.filter (· ∈ selectReady loop ready) =
      loop.process.ctx.fds.filter (· ∈ ready) := by
  refine List.filter_congr fun fd present => decide_eq_decide.mpr ?_
  have waiting : fd ∈ loop.masterSet := (consistent.masterSet fd).mpr (Or.inr present)
  rw [selectReady, Finset.mem_filter]
  exact ⟨fun selected => selected.2.1, fun is => ⟨waiting, is, consistent.reached fd waiting⟩⟩

/-- A round services the ready connections of the table, each once, in the order of the table. -/
theorem runRound_serviced (env : Env) (round : Round) {loop : Loop} (consistent : loop.Consistent)
    (positive : ∀ fd ∈ loop.process.ctx.fds, 0 < fd)
    (accepts : ∀ fd socket, .connected fd socket ∈ round.accepts → 0 < fd) :
    ∃ gain, (runRound env round loop).process.trace = loop.process.trace ++ gain ∧
      servicedFds gain = loop.process.ctx.fds.filter (· ∈ round.ready) := by
  rw [← filter_selectReady consistent]
  have services : ∀ after : Loop, (∀ fd ∈ after.process.ctx.fds, 0 < fd) →
      ∃ gain, (serviceClients env (selectReady loop round.ready) after.process.ctx.clients.length 0
        after).process.trace = after.process.trace ++ gain ∧
        servicedFds gain =
          after.process.ctx.fds.filter (· ∈ selectReady loop round.ready) := by
    intro after positive
    exact serviceClients_serviced env _ _ (Nat.le_add_left _ _) positive
  unfold runRound
  dsimp only
  rcases acceptRound_cases (selectReady loop round.ready) round.accepts loop with
    same | ⟨fd, rejected⟩ | ⟨fd, socket, connected, -, accepted⟩
  · rw [same]
    exact services loop positive
  · obtain ⟨gain, logged, served⟩ :=
      services { loop with process := loop.process.log (.rejected fd) } positive
    rw [rejected]
    refine ⟨.rejected fd :: gain, ?_, served⟩
    rw [logged, Process.log, List.append_assoc]
    rfl
  · obtain ⟨member, -, other, fresh⟩ := acceptConnection_fresh connected
    have fds : (loop.accepted fd socket).process.ctx.fds = loop.process.ctx.fds ++ [fd] :=
      List.map_append
    have unready : fd ∉ selectReady loop round.ready := by
      intro ready
      have waiting := (Finset.mem_filter.mp ready).1
      exact ((consistent.masterSet fd).mp waiting).elim other fresh
    obtain ⟨gain, logged, served⟩ := services (loop.accepted fd socket) (by
      intro another present
      rw [fds, List.mem_append, List.mem_singleton] at present
      rcases present with old | rfl
      · exact positive another old
      · exact accepts another socket member)
    rw [accepted]
    refine ⟨.accepted fd socket :: gain, ?_, ?_⟩
    · rw [logged, Loop.accepted, Process.log, List.append_assoc]
      rfl
    · have unreadyFilter : [fd].filter (· ∈ selectReady loop round.ready) = [] := by
        simp [unready]
      rw [fds, List.filter_append, unreadyFilter, List.append_nil] at served
      exact served

/-! ### The loop as a whole -/

/-- In every reachable state the table is consistent with the descriptors the loop waits for, which
are all within the bound of `select`, a round services every ready connection exactly once, and what
was handled for each connection is what a decoder of its bytes alone yields. -/
theorem multiplexed_loop (env : Env) (serverFd : Int) (machine : Machine)
    (reachable : Reachable env serverFd machine)
    (positive : ∀ fd socket, .accepted fd socket ∈ machine.loop.process.trace → 0 < fd) :
    (machine.loop.process.ctx.clients.length ≤ maxClients ∧
      machine.loop.process.ctx.fds.Nodup ∧
      machine.loop.masterSet =
        insert machine.loop.process.ctx.serverFd machine.loop.process.ctx.fds.toFinset ∧
      ∀ fd ∈ machine.loop.masterSet, fd ≤ machine.loop.maxFd) ∧
    (machine.phase = .selecting → ∀ round : Round,
      (∀ fd socket, .connected fd socket ∈ round.accepts → 0 < fd) →
      ∃ gain, (runRound env round machine.loop).process.trace =
          machine.loop.process.trace ++ gain ∧
        servicedFds gain = machine.loop.process.ctx.fds.filter (· ∈ round.ready)) ∧
    (∀ number < (Registry.of machine.loop.process.trace).count,
      let log := (Registry.of machine.loop.process.trace).log number
      log.results = (receivePartialCalls log.results.length log.socket ReceiveBuffer.fresh).1 ∧
      log.handled = receivedPackets
        (receivePartialCalls log.results.length log.socket ReceiveBuffer.fresh).1) ∧
    (∀ node ∈ machine.loop.process.ctx.clients, ∃ number,
      (Registry.of machine.loop.process.trace).owner node.socketFd = some number ∧
      let log := (Registry.of machine.loop.process.trace).log number
      (receivePartialCalls log.results.length log.socket ReceiveBuffer.fresh).2 =
        (machine.loop.sockets node.socketFd, node.receiveBuffer)) := by
  have consistent := reachable.consistent
  have simulated := reachable.simulated
  refine ⟨⟨consistent.bounded, consistent.distinct, ?_, consistent.reached⟩, ?_, ?_, ?_⟩
  · ext fd
    rw [consistent.masterSet, Finset.mem_insert, List.mem_toFinset]
  · intro _ round accepts
    refine runRound_serviced env round consistent (fun fd present => ?_) accepts
    obtain ⟨socket, accepted⟩ := reachable.accepted fd present
    exact positive fd socket accepted
  · intro number counted
    have faithful := simulated.faithful number counted
    exact ⟨faithful.results.symm, faithful.handled⟩
  · intro node member
    obtain ⟨number, owned, open'⟩ :=
      simulated.decoding node.connection (List.mem_map_of_mem member)
    exact ⟨number, owned, open'.state⟩

/-- A server with three connections. The first and the third are about to be closed by the other
side, and on the second part of a packet will arrive. -/
def threeConnections : Loop :=
  runServer Env.ideal 3
    [.round ⟨{3}, [.interrupted, .connected 4 ⟨[], [.count 0]⟩]⟩,
      .round ⟨{3}, [.connected 5 ⟨[1, 2], [.count 0]⟩]⟩,
      .round ⟨{3}, [.connected 6 ⟨[], [.count 0]⟩]⟩]

/-- All three are serviced in one round, though the first leaves the table before the others. -/
theorem multiplexed_loop_threeConnections :
    threeConnections.process.ctx.fds.Nodup ∧
      ∃ gain, (runRound Env.ideal ⟨{4, 5, 6}, []⟩ threeConnections).process.trace =
          threeConnections.process.trace ++ gain ∧
        servicedFds gain = [4, 5, 6] ∧
        (runRound Env.ideal ⟨{4, 5, 6}, []⟩ threeConnections).process.ctx.fds = [5] := by
  have accepted : ∀ fd socket, .accepted fd socket ∈ threeConnections.process.trace → 0 < fd := by
    intro fd socket member
    have only : Effect.accepted fd socket ∈ [Effect.started, .accepted 4 ⟨[], [.count 0]⟩,
        .accepted 5 ⟨[1, 2], [.count 0]⟩, .accepted 6 ⟨[], [.count 0]⟩] := member
    simp only [List.mem_cons, reduceCtorEq, Effect.accepted.injEq, List.not_mem_nil, or_false,
      false_or] at only
    rcases only with ⟨rfl, -⟩ | ⟨rfl, -⟩ | ⟨rfl, -⟩ <;> decide
  obtain ⟨⟨-, distinct, -⟩, serviced, -⟩ :=
    multiplexed_loop Env.ideal 3 ⟨threeConnections, .selecting⟩ (reachable_runServer ..) accepted
  obtain ⟨gain, logged, all⟩ := serviced rfl ⟨{4, 5, 6}, []⟩ fun _ _ member =>
    absurd member List.not_mem_nil
  have left : (runRound Env.ideal ⟨{4, 5, 6}, []⟩ threeConnections).process.ctx.fds = [5] := by
    decide +kernel
  exact ⟨distinct, gain, logged, all, left⟩

end Tizcord
