/-
This file traces the record of a run back to the packets that were handled: what
only a request can bring about, some connection has asked for, and it was done
while the request was handled.
-/

import Mathlib.Logic.Relation
import Tizcord.Server.Copies

namespace Tizcord

open CModel

/-! ### Requests in a run -/

/-- The effect is none of a notice: it shows a message, hashes a password, or calls the
database. -/
def Effect.Requested : Effect → Prop
  | .sent _ packet _ _ => IsMessage packet
  | .hashed .. | .called _ => True
  | _ => False

/-- In a run, the pass at an index hands on a packet. -/
structure Handled (env : Env) (allowed : ServerContext → Int → TizcordPacket → Prop)
    (serverFd : Int) (loop : Loop) (readSet : Finset Int) (index : Nat)
    (packet : TizcordPacket) : Prop where
  reachable : ReachableWhen env allowed serverFd ⟨loop, .servicing readSet index⟩
  inside : index < loop.process.ctx.clients.length
  meets : ∀ packet, loop.HandsOn readSet index packet →
    allowed (receiveClient index loop).1.process.ctx (loop.process.clientAt index).socketFd packet
  handed : loop.HandsOn readSet index packet

/-- What handling a packet adds to the record. -/
def handlingGain (env : Env) (index : Nat) (packet : TizcordPacket) (process : Process) :
    List Effect :=
  (processClientPacket env index packet process).trace.drop process.trace.length

section Origin

variable {env : Env} {allowed : ServerContext → Int → TizcordPacket → Prop} {serverFd : Int}
  {machine : Machine} {effect : Effect} {index : Nat} {packet : TizcordPacket} {process : Process}

/-- The record of a process that has handled a packet. -/
theorem processClientPacket_trace (env : Env) (index : Nat) (packet : TizcordPacket)
    (process : Process) :
    (processClientPacket env index packet process).trace =
      process.trace ++ handlingGain env index packet process := by
  obtain ⟨effects, logged, -⟩ := (processClientPacket_acts env index packet process).trace
  have extended := logged.trans (List.append_assoc ..)
  rw [handlingGain, extended, List.drop_left]

/-- What is gained is the record of the packet, and then what the steps of its handling leave. -/
theorem handlingGain_steps (env : Env) (index : Nat) (packet : TizcordPacket)
    (process : Process) :
    ∃ effects, handlingGain env index packet process =
        .handling (process.clientAt index).socketFd packet
          (process.ctx.userOf (process.clientAt index).socketFd) :: effects ∧
      Steps (HandlerStep env (process.clientAt index).socketFd (env.beyond process.clock) packet)
        process.ctx effects (processClientPacket env index packet process).ctx := by
  obtain ⟨effects, logged, steps⟩ := processClientPacket_acts env index packet process
  have extended := logged.trans (List.append_assoc ..)
  refine ⟨effects, ?_, steps⟩
  rw [handlingGain, extended, List.drop_left]
  rfl

theorem sends_iff {fd : Int} {copy : TizcordPacket} :
    Sends env index packet process fd copy ↔
      ∃ status user, .sent fd copy status user ∈ handlingGain env index packet process := Iff.rfl

/-- What every step of the handling of a packet allows, the handling allows. -/
theorem allowed_of_gain (good : Effect → Prop)
    (allows : ∀ {before effects after}, HandlerStep env (process.clientAt index).socketFd
      (env.beyond process.clock) packet before effects after → ∀ effect ∈ effects, good effect)
    (gained : effect ∈ handlingGain env index packet process)
    (other : ∀ fd packet user, effect ≠ .handling fd packet user) : good effect := by
  obtain ⟨effects, gain, steps⟩ := handlingGain_steps env index packet process
  rw [gain] at gained
  rcases List.mem_cons.mp gained with handling | late
  · exact absurd handling (other _ _ _)
  · exact steps.events_of_invariant (fun _ => True) (fun _ _ => trivial)
      (fun step _ => allows step) trivial effect late

/-- A call that the handling of a packet makes is one it permits. -/
theorem permitted_of_gain {call : DbCall}
    (gained : .called call ∈ handlingGain env index packet process) :
    ∃ ctx, call.Permitted ctx (process.clientAt index).socketFd (env.beyond process.clock)
      packet := by
  refine allowed_of_gain (fun effect => ∀ call, effect = .called call → ∃ ctx,
    call.Permitted ctx (process.clientAt index).socketFd (env.beyond process.clock) packet)
    (fun step effect member call is => ?_) gained (fun _ _ _ => nofun) call rfl
  subst is
  rcases step.database_cases with ⟨time, other, permitted, -, rfl⟩ | ⟨-, rfl | ⟨other, rfl, no⟩⟩
  · cases List.mem_singleton.mp member
    exact ⟨_, permitted⟩
  · cases member
  · exact absurd (List.mem_singleton.mp member).symm (no call)

/-- Messages are shown by what is forwarded, and by histories. -/
theorem request_of_message {fd : Int} {copy : TizcordPacket}
    (sent : Sends env index packet process fd copy) (message : IsMessage copy) :
    IsMessage packet ∨ packet.request = some (.channel .historyRequest) ∨
      packet.request = some (.dm .historyRequest) := by
  obtain ⟨status, user, gained⟩ := sent
  refine allowed_of_gain (fun effect => ∀ fd copy status user,
    effect = .sent fd copy status user → IsMessage copy → IsMessage packet ∨
      packet.request = some (.channel .historyRequest) ∨
      packet.request = some (.dm .historyRequest))
    (fun step effect member fd copy status user is message => ?_) gained (fun _ _ _ => nofun)
    fd copy status user rfl message
  subst is
  cases step with
  | reply _ quiet =>
    rw [(Effect.sent.inj (List.mem_singleton.mp member)).2.1] at message
    exact absurd message quiet
  | broadcast _ asked => exact Or.inl (Or.inl asked)
  | forward _ asked => exact Or.inl (Or.inr asked)
  | history _ asked => exact Or.inr asked
  | hash | call => cases List.mem_singleton.mp member
  | look | session => cases member

/-- Notices do nothing that needs a request. -/
theorem Notifies.unrequested {before after : Process} (notifies : Notifies env before after) :
    ∃ effects, after.trace = before.trace ++ effects ∧
      ∀ effect ∈ effects, ¬ effect.Requested := by
  obtain ⟨effects, logged, steps⟩ := notifies
  refine ⟨effects, logged, steps.events_of_invariant (fun _ => True) (fun _ _ => trivial)
    (fun step _ effect member requested => ?_) trivial⟩
  rcases step.notice with ⟨target, answer, status, user, rfl, quiet, -⟩ | ⟨_, _, rfl, -⟩
  · rw [List.mem_singleton.mp member] at requested
    exact quiet requested
  · cases member

/-- What a pass does that needs a request, it does while it hands on a packet. -/
theorem serviceClient_origin {readSet : Finset Int} {loop : Loop}
    (inside : index < loop.process.ctx.clients.length) (requested : effect.Requested)
    (member : effect ∈ (serviceClient env readSet index loop).1.process.trace) :
    effect ∈ loop.process.trace ∨ ∃ packet, loop.HandsOn readSet index packet ∧
      effect ∈ handlingGain env index packet (receiveClient index loop).1.process := by
  have early : effect ∈ (receiveClient index loop).1.process.trace → effect ∈ loop.process.trace := by
    intro received
    rw [receiveClient_trace] at received
    rcases List.mem_append.mp received with old | new
    · exact old
    · rw [List.mem_singleton.mp new] at requested
      exact requested.elim
  rcases serviceClient_cases env readSet index loop with
    ⟨-, skipped⟩ | ⟨ready, ⟨errno, -, failed⟩ | ⟨-, again⟩ | ⟨packet, arrived, handled⟩⟩
  · rw [skipped] at member
    exact Or.inl member
  · rw [failed] at member
    obtain ⟨effects, logged, unrequested⟩ := (disconnectClient_notifies env
      ((receiveClient_length index loop).symm ▸ inside)).unrequested
    rw [logged] at member
    rcases List.mem_append.mp member with old | new
    · rcases List.mem_append.mp old with older | closed
      · exact Or.inl (early older)
      · rw [List.mem_singleton.mp closed] at requested
        exact requested.elim
    · exact absurd requested (unrequested effect new)
  · rw [again] at member
    exact Or.inl (early member)
  · rw [handled] at member
    dsimp only at member
    rw [processClientPacket_trace] at member
    rcases List.mem_append.mp member with old | new
    · exact Or.inl (early old)
    · exact Or.inr ⟨packet, ⟨ready, arrived⟩, new⟩

/-- The record of what was done so far is kept. -/
theorem serviceClient_trace_grows {readSet : Finset Int} {loop : Loop}
    (inside : index < loop.process.ctx.clients.length) :
    loop.process.trace <+: (serviceClient env readSet index loop).1.process.trace :=
  (serviceClient_grows env readSet inside).1

theorem acceptRound_origin {readSet : Finset Int} {accepts : List AcceptResult} {loop : Loop}
    (requested : effect.Requested)
    (member : effect ∈ (acceptRound readSet accepts loop).process.trace) :
    effect ∈ loop.process.trace := by
  rcases acceptRound_cases readSet accepts loop with
    same | ⟨fd, rejected⟩ | ⟨fd, socket, -, -, accepted⟩
  · rw [same] at member
    exact member
  · rw [rejected] at member
    rcases List.mem_append.mp member with old | new
    · exact old
    · rw [List.mem_singleton.mp new] at requested
      exact requested.elim
  · rw [accepted] at member
    rcases List.mem_append.mp member with old | new
    · exact old
    · rw [List.mem_singleton.mp new] at requested
      exact requested.elim

theorem acceptRound_trace_grows (readSet : Finset Int) (accepts : List AcceptResult)
    (loop : Loop) : loop.process.trace <+: (acceptRound readSet accepts loop).process.trace := by
  rcases acceptRound_cases readSet accepts loop with
    same | ⟨fd, rejected⟩ | ⟨fd, socket, -, -, accepted⟩
  · rw [same]
  · rw [rejected]
    exact ⟨_, rfl⟩
  · rw [accepted]
    exact ⟨_, rfl⟩

/-- Whatever the record of a run has that needs a request, was done while a packet was handled
that some connection had sent. -/
theorem ReachableWhen.origin (reachable : ReachableWhen env allowed serverFd machine)
    (requested : effect.Requested) (member : effect ∈ machine.loop.process.trace) :
    ∃ loop readSet index packet, Handled env allowed serverFd loop readSet index packet ∧
      effect ∈ handlingGain env index packet (receiveClient index loop).1.process ∧
      (serviceClient env readSet index loop).1.process.trace <+: machine.loop.process.trace := by
  induction reachable with
  | start =>
    rw [List.mem_singleton.mp member] at requested
    exact requested.elim
  | select _ round inductionHypothesis =>
    obtain ⟨loop, readSet, index, packet, handled, gained, grown⟩ :=
      inductionHypothesis (acceptRound_origin requested member)
    exact ⟨loop, readSet, index, packet, handled, gained,
      grown.trans (acceptRound_trace_grows ..)⟩
  | @service loop readSet index reachable inside meets inductionHypothesis =>
    rcases serviceClient_origin inside requested member with old | ⟨packet, handed, gained⟩
    · obtain ⟨early, earlySet, earlyIndex, packet, handled, gained, grown⟩ :=
        inductionHypothesis old
      exact ⟨early, earlySet, earlyIndex, packet, handled, gained,
        grown.trans (serviceClient_trace_grows inside)⟩
    · exact ⟨loop, readSet, index, packet, ⟨reachable, inside, meets, handed⟩, gained,
        List.prefix_rfl⟩
  | finish _ _ inductionHypothesis => exact inductionHypothesis member
  | restart _ newFd inductionHypothesis =>
    rcases List.mem_append.mp member with old | new
    · obtain ⟨loop, readSet, index, packet, handled, gained, grown⟩ := inductionHypothesis old
      exact ⟨loop, readSet, index, packet, handled, gained, grown.trans ⟨_, rfl⟩⟩
    · rw [List.mem_singleton.mp new] at requested
      exact requested.elim

end Origin

/-! ### Invariants of a run -/

/-- What every step of the loop makes of a property. A pass first receives, which keeps it, and then
closes the connection or hands on a packet. -/
structure StepEnsures (env : Env) (allowed : ServerContext → Int → TizcordPacket → Prop)
    (serverFd : Int) (holds good : Process → Prop) : Prop where
  weaken : ∀ process, holds process → good process
  restarted : ∀ process newFd, holds process →
    good (startLoop newFd process.ctx.db process.clock process.trace).process
  rejected : ∀ process fd, holds process → good (process.log (.rejected fd))
  accepted : ∀ (loop : Loop) fd socket, loop.Consistent → 0 ≤ fd → fd ∉ loop.process.ctx.fds →
    holds loop.process → good (loop.accepted fd socket).process
  received : ∀ (loop : Loop) index, index < loop.process.ctx.clients.length →
    holds loop.process → holds (receiveClient index loop).1.process
  closed : ∀ (loop : Loop) index, loop.Consistent → index < loop.process.ctx.clients.length →
    0 < (loop.process.clientAt index).socketFd → holds loop.process →
    good (disconnectClient env index loop).process
  handled : ∀ loop readSet index packet, Handled env allowed serverFd loop readSet index packet →
    holds (receiveClient index loop).1.process →
    good (processClientPacket env index packet (receiveClient index loop).1.process)

/-- What every step of the loop keeps. -/
structure StepInvariant (env : Env) (allowed : ServerContext → Int → TizcordPacket → Prop)
    (serverFd : Int) (holds : Process → Prop) : Prop extends
    StepEnsures env allowed serverFd holds holds where
  weaken := fun _ => id

/-- What holds of a server that starts, and what every step of the loop keeps. -/
structure RunInvariant (env : Env) (allowed : ServerContext → Int → TizcordPacket → Prop)
    (serverFd : Int) (holds : Process → Prop) : Prop extends
    StepInvariant env allowed serverFd holds where
  started : holds (startLoop serverFd Database.empty 0 []).process

section Invariant

variable {env : Env} {allowed : ServerContext → Int → TizcordPacket → Prop} {serverFd : Int}
  {machine : Machine} {holds good : Process → Prop}

theorem StepEnsures.service (ensures : StepEnsures env allowed serverFd holds good) {loop : Loop}
    {readSet : Finset Int} {index : Nat}
    (reachable : ReachableWhen env allowed serverFd ⟨loop, .servicing readSet index⟩)
    (inside : index < loop.process.ctx.clients.length)
    (meets : ∀ packet, loop.HandsOn readSet index packet →
      allowed (receiveClient index loop).1.process.ctx (loop.process.clientAt index).socketFd packet)
    (held : holds loop.process) : good (serviceClient env readSet index loop).1.process := by
  have received := ensures.received loop index inside held
  rcases serviceClient_cases env readSet index loop with
    ⟨-, skipped⟩ | ⟨ready, ⟨errno, -, failed⟩ | ⟨-, again⟩ | ⟨packet, arrived, handled⟩⟩
  · rw [skipped]
    exact ensures.weaken _ held
  · rw [failed]
    refine ensures.closed _ index (receiveClient_consistent reachable.consistent) ?_ ?_ received
    · rw [receiveClient_length]
      exact inside
    · rw [receiveClient_clientAt_fd inside]
      exact ready.1
  · rw [again]
    exact ensures.weaken _ received
  · rw [handled]
    dsimp only
    exact ensures.handled loop readSet index packet
      ⟨reachable, inside, meets, ready, arrived⟩ received

theorem StepEnsures.select (ensures : StepEnsures env allowed serverFd holds good) {loop : Loop}
    (reachable : ReachableWhen env allowed serverFd ⟨loop, .selecting⟩) (round : Round)
    (held : holds loop.process) :
    good (acceptRound (selectReady loop round.ready) round.accepts loop).process := by
  rcases acceptRound_cases (selectReady loop round.ready) round.accepts loop with
    same | ⟨fd, rejected⟩ | ⟨fd, socket, connected, -, accepted⟩
  · rw [same]
    exact ensures.weaken _ held
  · rw [rejected]
    exact ensures.rejected _ fd held
  · obtain ⟨-, nonneg, -, fresh⟩ := acceptConnection_fresh connected
    rw [accepted]
    exact ensures.accepted loop fd socket reachable.consistent nonneg fresh held

/-- What one step of the machine makes of a property. -/
theorem StepEnsures.step (ensures : StepEnsures env (fun _ _ _ => True) serverFd holds good)
    {next : Machine} (reachable : Reachable env serverFd machine) (step : machine.Step env next)
    (held : holds machine.loop.process) : good next.loop.process := by
  cases step with
  | select loop round => exact ensures.select reachable round held
  | service inside => exact ensures.service reachable inside (fun _ _ => trivial) held
  | finish => exact ensures.weaken _ held
  | restart _ newFd => exact ensures.restarted _ newFd held

/-- The invariant of a run holds in every reachable state. -/
theorem RunInvariant.reachable (invariant : RunInvariant env allowed serverFd holds)
    (reachable : ReachableWhen env allowed serverFd machine) : holds machine.loop.process := by
  induction reachable with
  | start => exact invariant.started
  | select reachable round inductionHypothesis =>
    exact invariant.select reachable round inductionHypothesis
  | service reachable inside meets inductionHypothesis =>
    exact invariant.service reachable inside meets inductionHypothesis
  | finish _ _ inductionHypothesis => exact inductionHypothesis
  | restart _ newFd inductionHypothesis => exact invariant.restarted _ newFd inductionHypothesis

/-- What every step keeps holds in every state after one in which it holds. -/
theorem StepInvariant.run {first last : Machine}
    (invariant : StepInvariant env (fun _ _ _ => True) serverFd holds)
    (reachable : Reachable env serverFd first)
    (steps : Relation.ReflTransGen (Machine.Step env) first last)
    (held : holds first.loop.process) :
    Reachable env serverFd last ∧ holds last.loop.process := by
  induction steps with
  | refl => exact ⟨reachable, held⟩
  | tail _ step inductionHypothesis =>
    obtain ⟨reached, kept⟩ := inductionHypothesis
    exact ⟨step.reachable reached, invariant.step reached step kept⟩

/-- The server gets into a reachable state from its start. -/
theorem ReachableWhen.run (reachable : ReachableWhen env allowed serverFd machine) :
    Relation.ReflTransGen (Machine.Step env)
      ⟨startLoop serverFd Database.empty 0 [], .selecting⟩ machine := by
  induction reachable with
  | start => exact .refl
  | select _ round inductionHypothesis => exact inductionHypothesis.tail (.select _ round)
  | service _ inside _ inductionHypothesis => exact inductionHypothesis.tail (.service inside)
  | finish _ outside inductionHypothesis => exact inductionHypothesis.tail (.finish outside)
  | restart _ newFd inductionHypothesis => exact inductionHypothesis.tail (.restart _ newFd)

/-- What effects that no request is behind keep, and what the handling of a packet keeps, holds
of the record of every run. -/
theorem ReachableWhen.trace_invariant {holds : List Effect → Prop}
    (reachable : ReachableWhen env allowed serverFd machine) (initial : holds [])
    (idle : ∀ past effect, ¬ effect.Requested → holds past → holds (past ++ [effect]))
    (handles : ∀ loop readSet index packet,
      Handled env allowed serverFd loop readSet index packet →
      holds (receiveClient index loop).1.process.trace →
      holds ((receiveClient index loop).1.process.trace ++
        handlingGain env index packet (receiveClient index loop).1.process)) :
    holds machine.loop.process.trace := by
  have idleAll : ∀ past effects, (∀ effect ∈ effects, ¬ effect.Requested) → holds past →
      holds (past ++ effects) := by
    intro past effects unrequested held
    induction effects using List.reverseRecOn with
    | nil =>
      rw [List.append_nil]
      exact held
    | append_singleton effects effect inductionHypothesis =>
      rw [← List.append_assoc]
      exact idle _ _ (unrequested effect (List.mem_append_right _ List.mem_cons_self))
        (inductionHypothesis fun other member => unrequested other (List.mem_append_left _ member))
  have invariant : RunInvariant env allowed serverFd fun process => holds process.trace :=
    { started := idle _ _ id initial
      restarted := fun process newFd held => idle _ _ id held
      rejected := fun process fd held => idle _ _ id held
      accepted := fun loop fd socket _ _ _ held => idle _ _ id held
      received := fun loop index _ held => idle _ _ id held
      closed := fun loop index _ inside _ held => by
        obtain ⟨effects, logged, unrequested⟩ := (disconnectClient_notifies env inside).unrequested
        rw [logged]
        exact idleAll _ _ unrequested (idle _ _ id held)
      handled := fun loop readSet index packet handled held => by
        rw [processClientPacket_trace]
        exact handles loop readSet index packet handled held }
  exact invariant.reachable reachable

end Invariant

/-- The record of a handled packet stands in the record of the run. -/
theorem Handled.handling {env : Env} {allowed : ServerContext → Int → TizcordPacket → Prop}
    {serverFd : Int} {loop : Loop} {readSet : Finset Int} {index : Nat} {packet : TizcordPacket}
    (handled : Handled env allowed serverFd loop readSet index packet) :
    ∃ user, .handling (loop.process.clientAt index).socketFd packet user ∈
      (serviceClient env readSet index loop).1.process.trace := by
  rw [serviceClient_of_handsOn env handled.handed]
  dsimp only
  obtain ⟨effects, gained, -⟩ := handlingGain_steps env index packet
    (receiveClient index loop).1.process
  rw [processClientPacket_trace, gained, receiveClient_clientAt_fd handled.inside]
  exact ⟨_, List.mem_append_right _ List.mem_cons_self⟩

/-- After some events the first connection has a packet that is handed on, where all packets pass a
test. -/
theorem runServer_handled {allowed : ServerContext → Int → TizcordPacket → Prop}
    (test : ServerContext → Int → TizcordPacket → Bool)
    (sound : ∀ ctx fd packet, test ctx fd packet = true → allowed ctx fd packet)
    (events : List Event) {readSet : Finset Int} (waits : 4 ∈ readSet)
    (meets : runMeets Env.ideal test events (startLoop 3 Database.empty 0 []) = true)
    (ready : selectReady (runServer Env.ideal 3 events) readSet = readSet)
    (open' : 0 < (runServer Env.ideal 3 events).process.ctx.clients.length ∧
      ((runServer Env.ideal 3 events).process.clientAt 0).socketFd = 4) (holds : TizcordPacket → Bool)
    (received : (receiveClient 0 (runServer Env.ideal 3 events)).2.packet?.any (fun packet =>
      test (receiveClient 0 (runServer Env.ideal 3 events)).1.process.ctx 4 packet &&
        holds packet) = true) :
    ∃ packet, Handled Env.ideal allowed 3 (runServer Env.ideal 3 events) readSet 0 packet ∧
      holds packet = true := by
  have reachable := (reachableWhen_runServer sound 3 events meets).select ⟨readSet, []⟩
  rw [acceptRound_nil, ready] at reachable
  obtain ⟨packet, arrived, tested⟩ := (Option.any_eq_true _ _).mp received
  rw [Bool.and_eq_true] at tested
  have handed : (receiveClient 0 (runServer Env.ideal 3 events)).2 = .received packet := by
    cases result : (receiveClient 0 (runServer Env.ideal 3 events)).2 with
    | received other =>
      rw [result] at arrived
      exact congrArg _ (Option.some.inj arrived)
    | again | failed =>
      rw [result] at arrived
      cases arrived
  refine ⟨packet, ⟨reachable, open'.1, fun other otherHanded => ?_, ?_, handed⟩, tested.2⟩
  · obtain rfl := PartialResult.received.inj (handed.symm.trans otherHanded.received)
    rw [open'.2]
    exact sound _ _ _ tested.1
  · rw [open'.2]
    exact ⟨by decide, waits⟩

end Tizcord
