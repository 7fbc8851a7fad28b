/-
This file gives the server loop as a machine of small steps, so that the states
within a round count as reachable, and proves what holds in every reachable state
of the table: the descriptors are distinct, they are the ones the loop waits for,
and every node is valid.
-/

import Tizcord.Server.HandlerInvariants
import Tizcord.Server.Handlers

namespace Tizcord

open CModel

/-! ### The machine -/

/-- Where the loop is: about to wait in `select`, or at an index of the table. -/
inductive Phase where
  | selecting
  | servicing (readSet : Finset Int) (index : Nat)

structure Machine where
  loop : Loop
  phase : Phase

/-- The pass at an index receives a packet and hands it on. -/
structure Loop.HandsOn (loop : Loop) (readSet : Finset Int) (index : Nat)
    (packet : TizcordPacket) : Prop where
  ready : 0 < (loop.process.clientAt index).socketFd ∧
    (loop.process.clientAt index).socketFd ∈ readSet
  received : (receiveClient index loop).2 = .received packet

/-- The states of a server that starts on an empty database and hands on only packets that meet
a condition on the table, the descriptor and the packet. -/
inductive ReachableWhen (env : Env) (allowed : ServerContext → Int → TizcordPacket → Prop)
    (serverFd : Int) : Machine → Prop where
  | start :
      ReachableWhen env allowed serverFd ⟨startLoop serverFd Database.empty 0 [], .selecting⟩
  | select {loop : Loop} (reachable : ReachableWhen env allowed serverFd ⟨loop, .selecting⟩)
      (round : Round) :
      ReachableWhen env allowed serverFd
        ⟨acceptRound (selectReady loop round.ready) round.accepts loop,
          .servicing (selectReady loop round.ready) 0⟩
  | service {loop : Loop} {readSet : Finset Int} {index : Nat}
      (reachable : ReachableWhen env allowed serverFd ⟨loop, .servicing readSet index⟩)
      (inside : index < loop.process.ctx.clients.length)
      (meets : ∀ packet, loop.HandsOn readSet index packet →
        allowed (receiveClient index loop).1.process.ctx (loop.process.clientAt index).socketFd
          packet) :
      ReachableWhen env allowed serverFd
        ⟨(serviceClient env readSet index loop).1,
          .servicing readSet (serviceClient env readSet index loop).2⟩
  | finish {loop : Loop} {readSet : Finset Int} {index : Nat}
      (reachable : ReachableWhen env allowed serverFd ⟨loop, .servicing readSet index⟩)
      (outside : loop.process.ctx.clients.length ≤ index) :
      ReachableWhen env allowed serverFd ⟨loop, .selecting⟩
  | restart {machine : Machine} (reachable : ReachableWhen env allowed serverFd machine)
      (newFd : Int) :
      ReachableWhen env allowed serverFd
        ⟨startLoop newFd machine.loop.process.ctx.db machine.loop.process.clock
          machine.loop.process.trace, .selecting⟩

/-- The states of a server that starts on an empty database. -/
abbrev Reachable (env : Env) (serverFd : Int) : Machine → Prop :=
  ReachableWhen env (fun _ _ _ => True) serverFd

/-- One step of the machine. -/
inductive Machine.Step (env : Env) : Machine → Machine → Prop where
  | select (loop : Loop) (round : Round) :
      Step env ⟨loop, .selecting⟩
        ⟨acceptRound (selectReady loop round.ready) round.accepts loop,
          .servicing (selectReady loop round.ready) 0⟩
  | service {loop : Loop} {readSet : Finset Int} {index : Nat}
      (inside : index < loop.process.ctx.clients.length) :
      Step env ⟨loop, .servicing readSet index⟩
        ⟨(serviceClient env readSet index loop).1,
          .servicing readSet (serviceClient env readSet index loop).2⟩
  | finish {loop : Loop} {readSet : Finset Int} {index : Nat}
      (outside : loop.process.ctx.clients.length ≤ index) :
      Step env ⟨loop, .servicing readSet index⟩ ⟨loop, .selecting⟩
  | restart (machine : Machine) (newFd : Int) :
      Step env machine
        ⟨startLoop newFd machine.loop.process.ctx.db machine.loop.process.clock
          machine.loop.process.trace, .selecting⟩

theorem Machine.Step.reachable {env : Env} {serverFd : Int} {machine next : Machine}
    (step : machine.Step env next) (reachable : Reachable env serverFd machine) :
    Reachable env serverFd next := by
  cases step with
  | select loop round => exact reachable.select round
  | service inside => exact reachable.service inside fun _ _ => trivial
  | finish outside => exact reachable.finish outside
  | restart machine newFd => exact reachable.restart newFd

/-- The node a step of the machine services, if it services one. -/
def Machine.requester (machine : Machine) : Option ClientNode :=
  match machine.phase with
  | .selecting => none
  | .servicing _ index => machine.loop.process.ctx.clients[index]?

/-! ### Removing a node -/

theorem shift_foldl (before : List ClientNode) (node : ClientNode) (rest : List ClientNode) :
    (List.range' before.length rest.length).foldl
        (fun clients j => clients.set j (clients.getD (j + 1) default)) (before ++ node :: rest) =
      before ++ rest ++ [(node :: rest).getLast (List.cons_ne_nil _ _)] := by
  induction rest generalizing before node with
  | nil => simp
  | cons next rest inductionHypothesis =>
    have copied : (before ++ node :: next :: rest).set before.length
        ((before ++ node :: next :: rest).getD (before.length + 1) default) =
          (before ++ [next]) ++ next :: rest := by
      simp
    have step := inductionHypothesis (before ++ [next]) next
    rw [List.length_append, List.length_singleton] at step
    rw [List.length_cons, List.range'_succ, List.foldl_cons, copied, step,
      List.getLast_cons_cons, List.append_assoc before [next] rest, List.singleton_append]

/-- Copying down the nodes behind an index takes out the node at the index. -/
theorem removeClient_eq_eraseIdx {clients : List ClientNode} {index : Nat}
    (inside : index < clients.length) : removeClient index clients = clients.eraseIdx index := by
  have split : clients = clients.take index ++ clients[index] :: clients.drop (index + 1) := by
    rw [← List.drop_eq_getElem_cons inside, List.take_append_drop]
  have front : (clients.take index).length = index := List.length_take_of_le inside.le
  have behind : (clients.drop (index + 1)).length = clients.length - 1 - index := by
    rw [List.length_drop]
    omega
  have shifted := shift_foldl (clients.take index) clients[index] (clients.drop (index + 1))
  rw [front, behind, ← split] at shifted
  rw [removeClient, shifted, List.dropLast_concat, List.eraseIdx_eq_take_drop_succ]

/-! ### One pass over the table -/

theorem clientAt_eq_getElem {ctx : ServerContext} {index : Nat}
    (inside : index < ctx.clients.length) : ctx.clientAt index = ctx.clients[index] := by
  rw [ServerContext.clientAt, List.getD_eq_getElem?_getD, List.getElem?_eq_getElem inside]
  rfl

theorem clientAt_mem_of_lt {ctx : ServerContext} {index : Nat}
    (inside : index < ctx.clients.length) : ctx.clientAt index ∈ ctx.clients := by
  rw [clientAt_eq_getElem inside]
  exact List.getElem_mem inside

/-- The descriptors of the table. -/
def ServerContext.fds (ctx : ServerContext) : List Int :=
  ctx.clients.map ClientNode.socketFd

theorem ServerContext.fds_eq (ctx : ServerContext) : ctx.fds = ctx.connections.map Prod.fst := by
  rw [fds, connections, List.map_map]
  rfl

theorem Keeps.fds {before after : ServerContext} (keeps : Keeps before after) :
    after.fds = before.fds := by
  rw [ServerContext.fds_eq, ServerContext.fds_eq, keeps.connections]

theorem Keeps.length {before after : ServerContext} (keeps : Keeps before after) :
    after.clients.length = before.clients.length := by
  have same := congrArg List.length keeps.connections
  rwa [ServerContext.connections, ServerContext.connections, List.length_map,
    List.length_map] at same

theorem receiveClient_fds (index : Nat) (loop : Loop) :
    (receiveClient index loop).1.process.ctx.fds = loop.process.ctx.fds :=
  map_modify_of_same ClientNode.socketFd
    (fun node => { node with receiveBuffer := (packetReceivePartial
      (loop.sockets (loop.process.clientAt index).socketFd)
      (loop.process.clientAt index).receiveBuffer).2.2 }) (fun _ => rfl) _ _

theorem receiveClient_valid {index : Nat} {loop : Loop} (valid : loop.process.ctx.Valid) :
    (receiveClient index loop).1.process.ctx.Valid := by
  intro node member
  rcases mem_modify member with old | ⟨old, oldMember, rfl⟩
  · exact valid node old
  · exact ⟨(valid old oldMember).user, (valid old oldMember).stranger⟩

theorem processClientPacket_keeps (env : Env) (index : Nat) (packet : TizcordPacket)
    (process : Process) : Keeps process.ctx (processClientPacket env index packet process).ctx :=
  (processClientPacket_acts env index packet process).keeps

/-- The table without the node at an index. -/
def ServerContext.without (ctx : ServerContext) (index : Nat) : ServerContext :=
  { ctx with clients := ctx.clients.eraseIdx index }

theorem ServerContext.fds_without (ctx : ServerContext) (index : Nat) :
    (ctx.without index).fds = ctx.fds.eraseIdx index :=
  (List.eraseIdx_map _ _ _).symm

theorem notifyDisconnected_notifies (env : Env) (client : ClientNode) (process : Process) :
    Notifies env process (notifyDisconnected env client process) := by
  have authorized : ∀ ctx : ServerContext, Authorized ctx 0 noRequest :=
    fun _ => Or.inl noRequest_type
  unfold notifyDisconnected
  extract_lets userId
  split
  · exact (notifyServerMemberListsForUser_acts userId (authorized _) (Or.inl noRequest_type)).trans
      (notifyAllUserLists_acts (authorized _))
  · exact .refl process

/-- Closing a connection is its removal from the table, and then notices. -/
theorem disconnectClient_notifies (env : Env) {index : Nat} {loop : Loop}
    (inside : index < loop.process.ctx.clients.length) :
    Notifies env
      { loop.process with
        ctx := loop.process.ctx.without index
        trace := loop.process.trace ++ [.closed (loop.process.clientAt index).socketFd] }
      (disconnectClient env index loop).process := by
  rw [ServerContext.without, ← removeClient_eq_eraseIdx inside]
  exact notifyDisconnected_notifies env _ _

theorem disconnectClient_keeps (env : Env) {index : Nat} {loop : Loop}
    (inside : index < loop.process.ctx.clients.length) :
    Keeps (loop.process.ctx.without index) (disconnectClient env index loop).process.ctx :=
  Acts.keeps (disconnectClient_notifies env inside)

/-! ### The table of a reachable state -/

/-- The table and the sets of the loop agree. -/
structure Loop.Consistent (loop : Loop) : Prop where
  bounded : loop.process.ctx.clients.length ≤ maxClients
  distinct : loop.process.ctx.fds.Nodup
  apart : loop.process.ctx.serverFd ∉ loop.process.ctx.fds
  masterSet : ∀ fd, fd ∈ loop.masterSet ↔
    fd = loop.process.ctx.serverFd ∨ fd ∈ loop.process.ctx.fds
  reached : ∀ fd ∈ loop.masterSet, fd ≤ loop.maxFd
  valid : loop.process.ctx.Valid

theorem startLoop_consistent (serverFd : Int) (db : Database) (clock : Nat)
    (trace : List Effect) : (startLoop serverFd db clock trace).Consistent where
  bounded := Nat.zero_le _
  distinct := List.nodup_nil
  apart := List.not_mem_nil
  masterSet fd := by simp [startLoop, ServerContext.fds]
  reached fd member := (Finset.mem_singleton.mp member).le
  valid node member := absurd member List.not_mem_nil

/-- What keeps the table keeps its agreement with the sets. -/
theorem Loop.Consistent.of_keeps {loop after : Loop} (consistent : loop.Consistent)
    (keeps : Keeps loop.process.ctx after.process.ctx) (sameSet : after.masterSet = loop.masterSet)
    (sameMax : after.maxFd = loop.maxFd) : after.Consistent where
  bounded := keeps.length ▸ consistent.bounded
  distinct := keeps.fds ▸ consistent.distinct
  apart := by
    rw [keeps.fds, keeps.serverFd]
    exact consistent.apart
  masterSet fd := by
    rw [keeps.fds, keeps.serverFd, sameSet]
    exact consistent.masterSet fd
  reached := by
    rw [sameSet, sameMax]
    exact consistent.reached
  valid := keeps.valid consistent.valid

/-- What `accept_connection` returns is open nowhere. -/
theorem acceptConnection_fresh {ctx : ServerContext} {accepts : List AcceptResult} {fd : Int}
    {socket : Socket} (accepted : acceptConnection ctx accepts = some (fd, socket)) :
    .connected fd socket ∈ accepts ∧ 0 ≤ fd ∧ fd ≠ ctx.serverFd ∧ fd ∉ ctx.fds := by
  induction accepts with
  | nil => cases accepted
  | cons answer rest inductionHypothesis =>
    cases answer with
    | interrupted =>
      obtain ⟨member, fresh⟩ := inductionHypothesis accepted
      exact ⟨List.mem_cons_of_mem _ member, fresh⟩
    | failed => cases accepted
    | connected answeredFd answeredSocket =>
      unfold acceptConnection at accepted
      split at accepted
      · rename_i fresh
        obtain ⟨rfl, rfl⟩ := Prod.mk.inj (Option.some.inj accepted)
        exact ⟨List.mem_cons_self, fresh⟩
      · cases accepted

theorem newClient_valid (fd : Int) (db : Database) : (newClient fd).Valid db where
  user := nofun
  stranger _ := ⟨rfl, TextBuffer.text_zero⟩

/-- The state after a connection was accepted and put into the table and the sets. -/
def Loop.accepted (loop : Loop) (fd : Int) (socket : Socket) : Loop where
  process := (loop.process.withClients (loop.process.ctx.clients ++ [newClient fd])).log
    (.accepted fd socket)
  masterSet := insert fd loop.masterSet
  maxFd := if loop.maxFd < fd then fd else loop.maxFd
  sockets := Function.update loop.sockets fd socket

theorem acceptRound_cases (readSet : Finset Int) (accepts : List AcceptResult) (loop : Loop) :
    acceptRound readSet accepts loop = loop ∨
    (∃ fd, acceptRound readSet accepts loop =
      { loop with process := loop.process.log (.rejected fd) }) ∨
    ∃ fd socket, acceptConnection loop.process.ctx accepts = some (fd, socket) ∧
      loop.process.ctx.clients.length < maxClients ∧
      acceptRound readSet accepts loop = loop.accepted fd socket := by
  unfold acceptRound handleNewConnection
  split
  · cases connected : acceptConnection loop.process.ctx accepts with
    | none => exact Or.inl rfl
    | some connection =>
      obtain ⟨fd, socket⟩ := connection
      dsimp only
      by_cases full : maxClients ≤ loop.process.ctx.clients.length
      · rw [if_pos full]
        exact Or.inr (Or.inl ⟨fd, rfl⟩)
      · rw [if_neg full]
        exact Or.inr (Or.inr ⟨fd, socket, rfl, Nat.lt_of_not_le full, rfl⟩)
  · exact Or.inl rfl

theorem Loop.Consistent.accepted {loop : Loop} {fd : Int} {socket : Socket}
    (consistent : loop.Consistent) (room : loop.process.ctx.clients.length < maxClients)
    (other : fd ≠ loop.process.ctx.serverFd) (fresh : fd ∉ loop.process.ctx.fds) :
    (loop.accepted fd socket).Consistent := by
  have fds : (loop.accepted fd socket).process.ctx.fds = loop.process.ctx.fds ++ [fd] :=
    List.map_append
  refine ⟨?_, ?_, ?_, ?_, ?_, ?_⟩
  · exact (List.length_append ..).trans_le room
  · rw [fds]
    exact List.concat_eq_append ▸ consistent.distinct.concat fresh
  · rw [fds, List.mem_append, List.mem_singleton]
    exact not_or.mpr ⟨consistent.apart, Ne.symm other⟩
  · intro another
    rw [fds, Loop.accepted, Finset.mem_insert, consistent.masterSet, List.mem_append,
      List.mem_singleton]
    tauto
  · intro another member
    have bound : loop.maxFd ≤ (loop.accepted fd socket).maxFd ∧
        fd ≤ (loop.accepted fd socket).maxFd := by
      dsimp only [Loop.accepted]
      split <;> omega
    rcases Finset.mem_insert.mp member with rfl | old
    · exact bound.2
    · exact (consistent.reached another old).trans bound.1
  · intro node member
    rcases List.mem_append.mp member with old | new
    · exact consistent.valid node old
    · rw [List.mem_singleton.mp new]
      exact newClient_valid fd _

theorem acceptRound_consistent {readSet : Finset Int} {accepts : List AcceptResult} {loop : Loop}
    (consistent : loop.Consistent) : (acceptRound readSet accepts loop).Consistent := by
  rcases acceptRound_cases readSet accepts loop with
    same | ⟨fd, rejected⟩ | ⟨fd, socket, connected, room, accepted⟩
  · rw [same]
    exact consistent
  · rw [rejected]
    exact consistent.of_keeps (.refl _) rfl rfl
  · obtain ⟨-, -, other, fresh⟩ := acceptConnection_fresh connected
    rw [accepted]
    exact consistent.accepted room other fresh

theorem receiveClient_consistent {index : Nat} {loop : Loop} (consistent : loop.Consistent) :
    (receiveClient index loop).1.Consistent where
  bounded := (List.length_modify ..).trans_le consistent.bounded
  distinct := receiveClient_fds index loop ▸ consistent.distinct
  apart := by
    rw [receiveClient_fds]
    exact consistent.apart
  masterSet fd := by
    rw [receiveClient_fds]
    exact consistent.masterSet fd
  reached := consistent.reached
  valid := receiveClient_valid consistent.valid

/-- The node at an index is gone, and no other, as the descriptors are distinct. -/
theorem mem_fds_without {ctx : ServerContext} (distinct : ctx.fds.Nodup) {index : Nat}
    (inside : index < ctx.clients.length) (fd : Int) :
    fd ∈ (ctx.without index).fds ↔ fd ≠ (ctx.clientAt index).socketFd ∧ fd ∈ ctx.fds := by
  have insideFds : index < ctx.fds.length := by
    rw [ServerContext.fds, List.length_map]
    exact inside
  have removed : ctx.fds[index] = (ctx.clientAt index).socketFd := by
    rw [clientAt_eq_getElem inside]
    exact List.getElem_map ..
  rw [ServerContext.fds_without, ← distinct.erase_getElem index insideFds, distinct.mem_erase_iff,
    removed]

theorem clientAt_fd_mem {ctx : ServerContext} {index : Nat}
    (inside : index < ctx.clients.length) : (ctx.clientAt index).socketFd ∈ ctx.fds := by
  rw [clientAt_eq_getElem inside]
  exact List.mem_map_of_mem (List.getElem_mem inside)

theorem disconnectClient_consistent (env : Env) {index : Nat} {loop : Loop}
    (consistent : loop.Consistent) (inside : index < loop.process.ctx.clients.length) :
    (disconnectClient env index loop).Consistent := by
  have keeps := disconnectClient_keeps env inside
  have members := mem_fds_without consistent.distinct inside
  have closed := clientAt_fd_mem inside
  refine ⟨?_, ?_, ?_, ?_, ?_, ?_⟩
  · rw [keeps.length]
    exact (List.length_eraseIdx_le ..).trans consistent.bounded
  · rw [keeps.fds, ServerContext.fds_without]
    exact consistent.distinct.eraseIdx index
  · rw [keeps.fds, keeps.serverFd, members]
    exact fun member => consistent.apart member.2
  · intro fd
    have listener : loop.process.ctx.serverFd ≠ (loop.process.clientAt index).socketFd :=
      fun same => consistent.apart (same ▸ closed)
    rw [keeps.fds, keeps.serverFd, members, disconnectClient, Finset.mem_erase,
      consistent.masterSet]
    constructor
    · rintro ⟨other, rfl | member⟩
      · exact Or.inl rfl
      · exact Or.inr ⟨other, member⟩
    · rintro (rfl | ⟨other, member⟩)
      · exact ⟨listener, Or.inl rfl⟩
      · exact ⟨other, Or.inr member⟩
  · exact fun fd member => consistent.reached fd (Finset.mem_of_mem_erase member)
  · exact keeps.valid fun node member => consistent.valid node (List.mem_of_mem_eraseIdx member)

/-- One pass goes past a node, closes its connection, or hands on a packet that it received. -/
theorem serviceClient_cases (env : Env) (readSet : Finset Int) (index : Nat) (loop : Loop) :
    (¬ (0 < (loop.process.clientAt index).socketFd ∧
        (loop.process.clientAt index).socketFd ∈ readSet) ∧
      serviceClient env readSet index loop = (loop, index + 1)) ∨
    ((0 < (loop.process.clientAt index).socketFd ∧
        (loop.process.clientAt index).socketFd ∈ readSet) ∧
      ((∃ errno, (receiveClient index loop).2 = .failed errno ∧
        serviceClient env readSet index loop =
          (disconnectClient env index (receiveClient index loop).1, index)) ∨
      ((receiveClient index loop).2 = .again ∧
        serviceClient env readSet index loop = ((receiveClient index loop).1, index + 1)) ∨
      ∃ packet, (receiveClient index loop).2 = .received packet ∧
        serviceClient env readSet index loop =
          ({ (receiveClient index loop).1 with
              process := processClientPacket env index packet
                (receiveClient index loop).1.process }, index + 1))) := by
  unfold serviceClient
  dsimp only
  split
  · rename_i ready
    refine Or.inr ⟨ready, ?_⟩
    cases (receiveClient index loop).2 with
    | failed errno => exact Or.inl ⟨errno, rfl, rfl⟩
    | again => exact Or.inr (Or.inl ⟨rfl, rfl⟩)
    | received packet => exact Or.inr (Or.inr ⟨packet, rfl, rfl⟩)
  · rename_i unready
    exact Or.inl ⟨unready, rfl⟩

/-- The pass that hands on a packet ends with the state after its handling. -/
theorem serviceClient_of_handsOn (env : Env) {readSet : Finset Int} {index : Nat} {loop : Loop}
    {packet : TizcordPacket} (handed : loop.HandsOn readSet index packet) :
    serviceClient env readSet index loop =
      ({ (receiveClient index loop).1 with
          process := processClientPacket env index packet
            (receiveClient index loop).1.process }, index + 1) := by
  unfold serviceClient
  dsimp only
  rw [if_pos handed.ready, handed.received]

theorem receiveClient_length (index : Nat) (loop : Loop) :
    (receiveClient index loop).1.process.ctx.clients.length = loop.process.ctx.clients.length :=
  List.length_modify ..

theorem receiveClient_clientAt_fd {index : Nat} {loop : Loop}
    (inside : index < loop.process.ctx.clients.length) :
    ((receiveClient index loop).1.process.clientAt index).socketFd =
      (loop.process.clientAt index).socketFd := by
  have insideAfter : index < (receiveClient index loop).1.process.ctx.clients.length := by
    rw [receiveClient_length]
    exact inside
  have fds := receiveClient_fds index loop
  rw [Process.clientAt, Process.clientAt, clientAt_eq_getElem inside,
    clientAt_eq_getElem insideAfter]
  have same : (receiveClient index loop).1.process.ctx.fds[index]? =
      loop.process.ctx.fds[index]? := by rw [fds]
  rw [ServerContext.fds, ServerContext.fds, List.getElem?_map, List.getElem?_map,
    List.getElem?_eq_getElem inside, List.getElem?_eq_getElem insideAfter] at same
  exact Option.some.inj same

theorem receiveClient_trace (index : Nat) (loop : Loop) :
    (receiveClient index loop).1.process.trace =
      loop.process.trace ++ [.received (loop.process.clientAt index).socketFd
        (receiveClient index loop).2] := rfl

theorem serviceClient_consistent (env : Env) (readSet : Finset Int) {index : Nat} {loop : Loop}
    (consistent : loop.Consistent) (inside : index < loop.process.ctx.clients.length) :
    (serviceClient env readSet index loop).1.Consistent := by
  have received : (receiveClient index loop).1.Consistent := receiveClient_consistent consistent
  rcases serviceClient_cases env readSet index loop with
    ⟨-, skipped⟩ | ⟨-, ⟨errno, -, failed⟩ | ⟨-, again⟩ | ⟨packet, -, handled⟩⟩
  · rw [skipped]
    exact consistent
  · rw [failed]
    exact disconnectClient_consistent env received (by rw [receiveClient_length]; exact inside)
  · rw [again]
    exact received
  · rw [handled]
    exact received.of_keeps (processClientPacket_keeps env index packet _) rfl rfl

section Reached

variable {env : Env} {allowed : ServerContext → Int → TizcordPacket → Prop} {serverFd : Int}
  {machine : Machine}

theorem ReachableWhen.consistent (reachable : ReachableWhen env allowed serverFd machine) :
    machine.loop.Consistent := by
  induction reachable with
  | start => exact startLoop_consistent ..
  | select _ _ inductionHypothesis => exact acceptRound_consistent inductionHypothesis
  | service _ inside _ inductionHypothesis =>
    exact serviceClient_consistent _ _ inductionHypothesis inside
  | finish _ _ inductionHypothesis => exact inductionHypothesis
  | restart => exact startLoop_consistent ..

/-! ### The record of a reachable state -/

theorem Acts.trace_grows {env : Env} {fd : Int} {beyond : List UInt8} {packet : TizcordPacket}
    {start finish : Process} (acts : Acts env fd beyond packet start finish) :
    start.trace <+: finish.trace := by
  obtain ⟨effects, logged, -⟩ := acts.trace
  exact ⟨effects, logged.symm⟩

/-- A pass adds to the record, and to the descriptors nothing. -/
theorem serviceClient_grows (env : Env) (readSet : Finset Int) {index : Nat} {loop : Loop}
    (inside : index < loop.process.ctx.clients.length) :
    loop.process.trace <+: (serviceClient env readSet index loop).1.process.trace ∧
      (serviceClient env readSet index loop).1.process.ctx.fds ⊆ loop.process.ctx.fds := by
  have fds := receiveClient_fds index loop
  have received : loop.process.trace <+: (receiveClient index loop).1.process.trace :=
    ⟨_, rfl⟩
  rcases serviceClient_cases env readSet index loop with
    ⟨-, skipped⟩ | ⟨-, ⟨errno, -, failed⟩ | ⟨-, again⟩ | ⟨packet, -, handled⟩⟩
  · rw [skipped]
    exact ⟨List.prefix_rfl, fun _ member => member⟩
  · have insideAfter : index < (receiveClient index loop).1.process.ctx.clients.length := by
      rw [receiveClient_length]
      exact inside
    have notifies := disconnectClient_notifies env insideAfter
    rw [failed]
    refine ⟨received.trans (List.IsPrefix.trans ⟨_, rfl⟩ (Acts.trace_grows notifies)), ?_⟩
    rw [(disconnectClient_keeps env insideAfter).fds, ServerContext.fds_without, fds]
    exact (List.eraseIdx_sublist ..).subset
  · rw [again]
    exact ⟨received, fds ▸ fun _ member => member⟩
  · have acts := processClientPacket_acts env index packet (receiveClient index loop).1.process
    rw [handled]
    refine ⟨received.trans (List.IsPrefix.trans ⟨_, rfl⟩ acts.trace_grows), ?_⟩
    rw [(processClientPacket_keeps env index packet _).fds, fds]
    exact fun _ member => member

/-- Every descriptor of the table was accepted. -/
theorem ReachableWhen.accepted (reachable : ReachableWhen env allowed serverFd machine) :
    ∀ fd ∈ machine.loop.process.ctx.fds,
      ∃ socket, Effect.accepted fd socket ∈ machine.loop.process.trace := by
  induction reachable with
  | start => exact fun _ member => absurd member List.not_mem_nil
  | @select loop _ round inductionHypothesis =>
    rcases acceptRound_cases (selectReady loop round.ready) round.accepts loop with
      same | ⟨fd, rejected⟩ | ⟨fd, socket, -, -, accepted⟩
    · rw [same]
      exact inductionHypothesis
    · rw [rejected]
      intro other member
      obtain ⟨socket, present⟩ := inductionHypothesis other member
      exact ⟨socket, List.mem_append_left _ present⟩
    · rw [accepted]
      intro other member
      have fds : (loop.accepted fd socket).process.ctx.fds = loop.process.ctx.fds ++ [fd] :=
        List.map_append
      rw [fds, List.mem_append, List.mem_singleton] at member
      rcases member with old | rfl
      · obtain ⟨socket, present⟩ := inductionHypothesis other old
        exact ⟨socket, List.mem_append_left _ present⟩
      · exact ⟨socket, List.mem_append_right _ List.mem_cons_self⟩
  | @service loop readSet index _ inside _ inductionHypothesis =>
    obtain ⟨grown, fds⟩ := serviceClient_grows env readSet inside
    intro fd member
    obtain ⟨socket, present⟩ := inductionHypothesis fd (fds member)
    exact ⟨socket, grown.subset present⟩
  | finish _ _ inductionHypothesis => exact inductionHypothesis
  | restart => exact fun _ member => absurd member List.not_mem_nil

/-! ### Invariants of the database -/

/-- A step calls the database, or leaves it as it is. -/
theorem HandlerStep.database_cases {fd : Int} {beyond : List UInt8} {packet : TizcordPacket}
    {before after : ServerContext} {effects : List Effect}
    (step : HandlerStep env fd beyond packet before effects after) :
    (∃ time call, call.Permitted before fd beyond packet ∧
      call.Runs (env.db time) before.db after.db ∧ effects = [.called call]) ∨
    after.db = before.db ∧
      (effects = [] ∨ ∃ effect, effects = [effect] ∧ ∀ call, effect ≠ .called call) := by
  cases step with
  | call time permitted runs => exact Or.inl ⟨time, _, permitted, runs, rfl⟩
  | look | session => exact Or.inr ⟨rfl, Or.inl rfl⟩
  | reply | broadcast | forward | history | hash =>
    exact Or.inr ⟨rfl, Or.inr ⟨_, rfl, fun _ => Effect.noConfusion⟩⟩

/-- What holds of the database and the record at first, and is kept by every permitted call and
by all other effects, holds in every reachable state. -/
theorem ReachableWhen.database_invariant (holds : Database → List Effect → Prop)
    (initial : holds Database.empty [])
    (idle : ∀ db past effect, (∀ call, effect ≠ .called call) → holds db past →
      holds db (past ++ [effect]))
    (called : ∀ (ctx : ServerContext) fd beyond packet time (call : DbCall) after past, ctx.Valid →
      call.Permitted ctx fd beyond packet → call.Runs (env.db time) ctx.db after →
      holds ctx.db past → holds after (past ++ [.called call]))
    (reachable : ReachableWhen env allowed serverFd machine) :
    holds machine.loop.process.ctx.db machine.loop.process.trace := by
  have acts : ∀ {fd beyond packet start finish}, Acts env fd beyond packet start finish →
      start.ctx.Valid → holds start.ctx.db start.trace → holds finish.ctx.db finish.trace := by
    intro fd beyond packet start finish acts valid held
    refine (Takes.invariant_log (fun ctx past => ctx.Valid ∧ holds ctx.db past) ?_ acts
      ⟨valid, held⟩).2
    rintro before effects after past step ⟨valid, held⟩
    refine ⟨step.valid valid, ?_⟩
    rcases step.database_cases with ⟨time, call, permitted, runs, rfl⟩ | ⟨same, rfl | ⟨_, rfl, other⟩⟩
    · exact called before fd beyond packet time call after.db past valid permitted runs held
    · rw [same, List.append_nil]
      exact held
    · rw [same]
      exact idle _ _ _ other held
  induction reachable with
  | start => exact idle _ _ _ (fun _ => Effect.noConfusion) initial
  | @select loop _ round inductionHypothesis =>
    rcases acceptRound_cases (selectReady loop round.ready) round.accepts loop with
      same | ⟨fd, rejected⟩ | ⟨fd, socket, -, -, accepted⟩
    · rw [same]
      exact inductionHypothesis
    · rw [rejected]
      exact idle _ _ _ (fun _ => Effect.noConfusion) inductionHypothesis
    · rw [accepted]
      exact idle _ _ _ (fun _ => Effect.noConfusion) inductionHypothesis
  | @service loop readSet index reachable inside _ inductionHypothesis =>
    have received : holds (receiveClient index loop).1.process.ctx.db
        (receiveClient index loop).1.process.trace :=
      idle _ _ _ (fun _ => Effect.noConfusion) inductionHypothesis
    have valid : (receiveClient index loop).1.process.ctx.Valid :=
      receiveClient_valid reachable.consistent.valid
    rcases serviceClient_cases env readSet index loop with
      ⟨-, skipped⟩ | ⟨-, ⟨errno, -, failed⟩ | ⟨-, again⟩ | ⟨packet, -, handled⟩⟩
    · rw [skipped]
      exact inductionHypothesis
    · rw [failed]
      have notices := disconnectClient_notifies env
        (show index < (receiveClient index loop).1.process.ctx.clients.length by
          rw [receiveClient_length]
          exact inside)
      exact acts notices (fun node member => valid node (List.mem_of_mem_eraseIdx member))
        (idle _ _ _ (fun _ => Effect.noConfusion) received)
    · rw [again]
      exact received
    · rw [handled]
      have logged := idle _ _ (.handling
        ((receiveClient index loop).1.process.clientAt index).socketFd packet
        ((receiveClient index loop).1.process.ctx.userOf
          ((receiveClient index loop).1.process.clientAt index).socketFd))
        (fun _ => Effect.noConfusion) received
      have handles := processClientPacket_acts env index packet
        (receiveClient index loop).1.process
      dsimp only
      exact acts handles valid logged
  | finish _ _ inductionHypothesis => exact inductionHypothesis
  | restart _ _ inductionHypothesis =>
    exact idle _ _ _ (fun _ => Effect.noConfusion) inductionHypothesis

end Reached

/-! ### Runs -/

/-- Every pass leaves one node less to look at. -/
theorem serviceClient_progress (env : Env) (readSet : Finset Int) {index : Nat} {loop : Loop}
    (inside : index < loop.process.ctx.clients.length) :
    (serviceClient env readSet index loop).1.process.ctx.clients.length + index + 1 =
      loop.process.ctx.clients.length + (serviceClient env readSet index loop).2 := by
  have length := receiveClient_length index loop
  rcases serviceClient_cases env readSet index loop with
    ⟨-, skipped⟩ | ⟨-, ⟨errno, -, failed⟩ | ⟨-, again⟩ | ⟨packet, -, handled⟩⟩
  · rw [skipped, Nat.add_assoc]
  · have kept := (disconnectClient_keeps env
      (show index < (receiveClient index loop).1.process.ctx.clients.length by omega)).length
    rw [ServerContext.without, List.length_eraseIdx_of_lt (by omega)] at kept
    rw [failed]
    dsimp only
    omega
  · rw [again]
    dsimp only
    omega
  · have kept := (processClientPacket_keeps env index packet
      (receiveClient index loop).1.process).length
    rw [handled]
    dsimp only
    omega

/-- The pass at an index hands on no packet that fails a test. -/
def passMeets (test : ServerContext → Int → TizcordPacket → Bool) (readSet : Finset Int)
    (index : Nat) (loop : Loop) : Bool :=
  if 0 < (loop.process.clientAt index).socketFd ∧
      (loop.process.clientAt index).socketFd ∈ readSet then
    match (receiveClient index loop).2 with
    | .received packet =>
      test (receiveClient index loop).1.process.ctx (loop.process.clientAt index).socketFd packet
    | _ => true
  else true

def serviceMeets (env : Env) (test : ServerContext → Int → TizcordPacket → Bool)
    (readSet : Finset Int) : Nat → Nat → Loop → Bool
  | 0, _, _ => true
  | fuel + 1, index, loop =>
    if index < loop.process.ctx.clients.length then
      passMeets test readSet index loop &&
        serviceMeets env test readSet fuel (serviceClient env readSet index loop).2
          (serviceClient env readSet index loop).1
    else true

def eventMeets (env : Env) (test : ServerContext → Int → TizcordPacket → Bool) (loop : Loop) :
    Event → Bool
  | .round round =>
    let accepted := acceptRound (selectReady loop round.ready) round.accepts loop
    serviceMeets env test (selectReady loop round.ready) accepted.process.ctx.clients.length 0
      accepted
  | .restart _ => true

/-- No packet that is handed on in a run fails a test. -/
def runMeets (env : Env) (test : ServerContext → Int → TizcordPacket → Bool) :
    List Event → Loop → Bool
  | [], _ => true
  | event :: rest, loop => eventMeets env test loop event &&
      runMeets env test rest (stepLoop env loop event)

section Tested

variable {env : Env} {allowed : ServerContext → Int → TizcordPacket → Prop}
  {test : ServerContext → Int → TizcordPacket → Bool} {serverFd : Int} {readSet : Finset Int}
  {fuel index : Nat} {loop : Loop}

theorem passMeets_iff : passMeets test readSet index loop = true ↔
    ∀ packet, loop.HandsOn readSet index packet →
      test (receiveClient index loop).1.process.ctx (loop.process.clientAt index).socketFd
        packet = true := by
  unfold passMeets
  constructor
  · intro meets packet handed
    rw [if_pos handed.ready, handed.received] at meets
    exact meets
  · intro meets
    split
    · rename_i ready
      split
      · rename_i packet received
        exact meets packet ⟨ready, received⟩
      · rfl
    · rfl

theorem reachable_serviceClients (sound : ∀ ctx fd packet, test ctx fd packet = true →
      allowed ctx fd packet)
    (reachable : ReachableWhen env allowed serverFd ⟨loop, .servicing readSet index⟩)
    (meets : serviceMeets env test readSet fuel index loop = true)
    (enough : loop.process.ctx.clients.length ≤ index + fuel) :
    ReachableWhen env allowed serverFd
      ⟨serviceClients env readSet fuel index loop, .selecting⟩ := by
  induction fuel generalizing index loop with
  | zero => exact reachable.finish enough
  | succ fuel inductionHypothesis =>
    unfold serviceMeets at meets
    unfold serviceClients
    split
    · rename_i inside
      rw [if_pos inside, Bool.and_eq_true] at meets
      have progress := serviceClient_progress env readSet inside
      exact inductionHypothesis (reachable.service inside fun packet handed =>
        sound _ _ _ (passMeets_iff.mp meets.1 packet handed)) meets.2 (by omega)
    · rename_i outside
      exact reachable.finish (Nat.le_of_not_lt outside)

/-- A state between two events of a run whose packets all meet a condition is reachable with such
packets. -/
theorem reachableWhen_runServer (sound : ∀ ctx fd packet, test ctx fd packet = true →
      allowed ctx fd packet) (serverFd : Int) (events : List Event)
    (meets : runMeets env test events (startLoop serverFd Database.empty 0 []) = true) :
    ReachableWhen env allowed serverFd ⟨runServer env serverFd events, .selecting⟩ := by
  have run : ∀ loop, ReachableWhen env allowed serverFd ⟨loop, .selecting⟩ →
      runMeets env test events loop = true →
      ReachableWhen env allowed serverFd ⟨events.foldl (stepLoop env) loop, .selecting⟩ := by
    clear meets
    induction events with
    | nil => exact fun _ reachable _ => reachable
    | cons event rest inductionHypothesis =>
      intro loop reachable meets
      rw [runMeets, Bool.and_eq_true] at meets
      refine inductionHypothesis _ ?_ meets.2
      cases event with
      | round round =>
        exact reachable_serviceClients sound (reachable.select round) meets.1 (by omega)
      | restart newFd => exact reachable.restart newFd
  exact run _ .start meets

theorem serviceMeets_true : serviceMeets env (fun _ _ _ => true) readSet fuel index loop = true := by
  induction fuel generalizing index loop with
  | zero => rfl
  | succ fuel inductionHypothesis =>
    unfold serviceMeets
    split
    · rw [inductionHypothesis, passMeets_iff.mpr fun _ _ => rfl, Bool.and_self]
    · rfl

end Tested

/-- A state between two events of a run is reachable. -/
theorem reachable_runServer (env : Env) (serverFd : Int) (events : List Event) :
    Reachable env serverFd ⟨runServer env serverFd events, .selecting⟩ := by
  have all : ∀ loop, runMeets env (fun _ _ _ => true) events loop = true := by
    induction events with
    | nil => exact fun _ => rfl
    | cons event rest inductionHypothesis =>
      intro loop
      rw [runMeets, inductionHypothesis, Bool.and_true]
      cases event with
      | round round => exact serviceMeets_true
      | restart newFd => rfl
  exact reachableWhen_runServer (fun _ _ _ _ => trivial) serverFd events (all _)

/-- A round that accepts nothing goes on to the table. -/
theorem acceptRound_nil (readSet : Finset Int) (loop : Loop) : acceptRound readSet [] loop = loop := by
  unfold acceptRound
  split <;> rfl

/-! ### Runs with two users -/

/-- The bytes with which a client sends a packet. -/
def clientBytes (packet : TizcordPacket) : List UInt8 :=
  (swapPacket packet packet.type).toBytes

/-- The registration of a user with the name `a` and no password. -/
def registerPacket : TizcordPacket :=
  let packet := TizcordPacket.setType Image.zero .auth
  let packet := packet.setAuthAction AuthAction.register.code
  packet.strncpyAuthUsername Text.letterA

/-- The registration of a user with the name `b` and no password. -/
def registerSecondPacket : TizcordPacket :=
  let packet := TizcordPacket.setType Image.zero .auth
  let packet := packet.setAuthAction AuthAction.register.code
  packet.strncpyAuthUsername Text.letterB

/-- Two users register, with the names `a` and `b`, and send some packets. Their connections are
serviced in turns. -/
def pairEvents (first second : List TizcordPacket) (turns : List Int) : List Event :=
  [.round ⟨{3}, [.connected 4 ⟨(registerPacket :: first).flatMap clientBytes,
      (registerPacket :: first).map fun _ => .count 1000⟩]⟩,
    .round ⟨{3}, [.connected 5 ⟨(registerSecondPacket :: second).flatMap clientBytes,
      (registerSecondPacket :: second).map fun _ => .count 1000⟩]⟩] ++
    turns.map fun fd => .round ⟨{fd}, []⟩

end Tizcord
