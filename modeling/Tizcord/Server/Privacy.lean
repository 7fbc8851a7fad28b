/-
This file is about messages that are shown to connections that are not
authenticated. The record of a run tells for every packet sent which handling it
belongs to and which user its receiver was at that moment.
-/

import Tizcord.Server.Strangers

namespace Tizcord

open CModel

/-! ### Deliveries -/

/-- A packet that is handled, with the connection it came from and the user of this connection. -/
structure Handling where
  fd : Int
  packet : TizcordPacket
  user : Option Int

/-- A packet that is sent, with the handling that sends it and the user of its receiver. -/
structure Delivery where
  cause : Handling
  target : Int
  answer : TizcordPacket
  receiver : Option Int

/-- The packets a record says were sent, when `cause` was the last packet handled before it. -/
def deliveries : Option Handling → List Effect → List Delivery
  | _, [] => []
  | _, .handling fd packet user :: rest => deliveries (some ⟨fd, packet, user⟩) rest
  | some cause, .sent target answer _ receiver :: rest =>
    ⟨cause, target, answer, receiver⟩ :: deliveries (some cause) rest
  | cause, _ :: rest => deliveries cause rest

/-- The last packet that was handled. -/
def lastHandling : Option Handling → List Effect → Option Handling
  | cause, [] => cause
  | _, .handling fd packet user :: rest => lastHandling (some ⟨fd, packet, user⟩) rest
  | cause, _ :: rest => lastHandling cause rest

theorem deliveries_append (cause : Option Handling) (first second : List Effect) :
    deliveries cause (first ++ second) =
      deliveries cause first ++ deliveries (lastHandling cause first) second := by
  induction first generalizing cause with
  | nil => rfl
  | cons effect rest inductionHypothesis =>
    cases effect with
    | handling => exact inductionHypothesis _
    | sent target answer status receiver =>
      cases cause with
      | none => exact inductionHypothesis _
      | some cause => exact congrArg (_ :: ·) (inductionHypothesis _)
    | _ => cases cause <;> exact inductionHypothesis _

theorem sent_of_mem_deliveries {cause : Option Handling} {effects : List Effect}
    {delivery : Delivery} (member : delivery ∈ deliveries cause effects) :
    ∃ status, .sent delivery.target delivery.answer status delivery.receiver ∈ effects := by
  induction effects generalizing cause with
  | nil => cases member
  | cons effect rest inductionHypothesis =>
    have later : ∀ {cause}, delivery ∈ deliveries cause rest →
        ∃ status, .sent delivery.target delivery.answer status delivery.receiver ∈
          effect :: rest := fun member =>
      (inductionHypothesis member).imp fun _ present => List.mem_cons_of_mem _ present
    cases effect with
    | handling => exact later member
    | sent target answer status receiver =>
      cases cause with
      | none => exact later member
      | some cause =>
        rcases List.mem_cons.mp member with rfl | inRest
        · exact ⟨status, List.mem_cons_self⟩
        · exact later inRest
    | _ => cases cause <;> exact later member

/-- What a handler sends belongs to the packet it handles. -/
theorem cause_of_mem_deliveries {cause : Handling} {effects : List Effect}
    (ofHandler : ∀ effect ∈ effects, effect.OfHandler) {delivery : Delivery}
    (member : delivery ∈ deliveries (some cause) effects) : delivery.cause = cause := by
  induction effects with
  | nil => cases member
  | cons effect rest inductionHypothesis =>
    have later := inductionHypothesis fun other inRest =>
      ofHandler other (List.mem_cons_of_mem _ inRest)
    cases effect with
    | handling => exact (ofHandler _ List.mem_cons_self).elim
    | sent target answer status receiver =>
      rcases List.mem_cons.mp member with rfl | inRest
      · rfl
      · exact later inRest
    | _ => exact later member

/-! ### Messages of others -/

/-- The packet shows a message of a user to a connection that is no user's: a message that another
connection's user has just sent, or a row of a history. -/
def Delivery.Exposes (delivery : Delivery) : Prop :=
  delivery.receiver = none ∧ IsMessage delivery.answer ∧
    ((delivery.cause.packet.request = some (.channel .message) ∨
        delivery.cause.packet.request = some (.dm .message)) ∧
      delivery.cause.user.isSome ∧ delivery.target ≠ delivery.cause.fd ∨
    (delivery.cause.packet.request = some (.channel .historyRequest) ∨
        delivery.cause.packet.request = some (.dm .historyRequest)) ∧
      delivery.answer.listFrame = ListFrameType.middle.code)

instance (delivery : Delivery) : Decidable delivery.Exposes :=
  inferInstanceAs (Decidable (_ ∧ _ ∧ _))

/-- An open connection that is no user's. -/
def OpenStranger (ctx : ServerContext) : Prop :=
  ∃ node ∈ ctx.clients, 0 < node.socketFd ∧ ctx.userOf node.socketFd = none

/-- The packet is a user's channel message, or a user's direct message to the id 0, while an open
connection is no user's; or it asks for the history of a channel with messages, and comes from a
connection that is no user's. -/
def Exposing (ctx : ServerContext) (fd : Int) (packet : TizcordPacket) : Prop :=
  packet.request = some (.channel .message) ∧ (ctx.userOf fd).isSome ∧ OpenStranger ctx ∨
  packet.request = some (.dm .message) ∧ (ctx.userOf fd).isSome ∧ packet.dmRecipientId = 0 ∧
    OpenStranger ctx ∨
  packet.request = some (.channel .historyRequest) ∧ ctx.userOf fd = none ∧
    ∃ row ∈ ctx.db.messages, row.channelId = packet.channelChannelId

section Step

variable {env : Env} {fd : Int} {beyond : List UInt8} {packet : TizcordPacket}
  {before after : ServerContext} {effects : List Effect}

theorem OpenStranger.congr (same : after.identities = before.identities) :
    OpenStranger after → OpenStranger before := by
  rintro ⟨node, member, open', stranger⟩
  have identity : node.identity ∈ before.identities := same ▸ List.mem_map_of_mem member
  obtain ⟨old, oldMember, equal⟩ := List.mem_map.mp identity
  have fd : old.socketFd = node.socketFd := congrArg Identity.socketFd equal
  refine ⟨old, oldMember, fd ▸ open', ?_⟩
  rw [fd, ← userOf_congr same]
  exact stranger

/-- A call for a request for a history is not made. -/
theorem DbCall.not_permitted_history {call : DbCall}
    (asked : packet.request = some (.channel .historyRequest)) :
    ¬ call.Permitted before fd beyond packet := by
  intro permitted
  cases call <;> simp [DbCall.Permitted, asked] at permitted

/-- A packet that does not expose messages does not come to do so while it is handled. -/
theorem HandlerStep.exposing (step : HandlerStep env fd beyond packet before effects after)
    (exposing : Exposing after fd packet) : Exposing before fd packet := by
  have notAuth : ∀ action, packet.request ≠ some (.auth action) := by
    intro action asked
    rcases exposing with ⟨other, -⟩ | ⟨other, -⟩ | ⟨other, -⟩ <;>
      exact Request.noConfusion (Option.some.inj (asked.symm.trans other))
  have same := step.identities notAuth
  have user : after.userOf fd = before.userOf fd := userOf_congr same
  rcases exposing with ⟨asked, signed, open'⟩ | ⟨asked, signed, zero, open'⟩ | ⟨asked, stranger, row⟩
  · exact Or.inl ⟨asked, user ▸ signed, open'.congr same⟩
  · exact Or.inr (Or.inl ⟨asked, user ▸ signed, zero, open'.congr same⟩)
  · refine Or.inr (Or.inr ⟨asked, user ▸ stranger, ?_⟩)
    cases step with
    | call _ permitted => exact absurd permitted (DbCall.not_permitted_history asked)
    | reply | broadcast | forward | history | hash | look | session => exact row

/-- A node that is not authenticated has the id 0. -/
theorem ServerContext.Valid.id_of_userOf (valid : before.Valid) {node : ClientNode}
    (member : node ∈ before.clients) (stranger : before.userOf node.socketFd = none) :
    node.id = 0 :=
  ((valid node member).stranger (not_authenticated_of_userOf stranger member rfl)).1

/-- A stranger has no direct messages. -/
theorem no_directMessages_of_stranger (valid : before.Valid) (stranger : before.userOf fd = none)
    {node : ClientNode} (member : node ∈ before.clients) (own : node.socketFd = fd)
    {row : DirectMessageRow} (stored : row ∈ before.db.directMessages) :
    ¬ (row.senderId = node.id ∨ row.receiverId = node.id) := by
  rw [valid.id_of_userOf member (own ▸ stranger)]
  rintro (sender | receiver)
  · exact zero_not_mem_userIds _ (sender ▸ before.db.integrity.direct_sender row stored)
  · exact zero_not_mem_userIds _ (receiver ▸ before.db.integrity.direct_receiver row stored)

/-- A step of the handling of a packet that exposes no message sends none to a stranger. -/
theorem HandlerStep.unexposed (step : HandlerStep env fd beyond packet before effects after)
    (valid : before.Valid) (private' : ¬ Exposing before fd packet) {target status : Int}
    {answer : TizcordPacket} {receiver : Option Int}
    (sent : .sent target answer status receiver ∈ effects) :
    ¬ Delivery.Exposes ⟨⟨fd, packet, before.userOf fd⟩, target, answer, receiver⟩ := by
  rintro ⟨stranger, message, shown⟩
  dsimp only at stranger message shown
  have noRow : packet.request = some (.channel .message) ∨ packet.request = some (.dm .message) →
      ¬ (packet.request = some (.channel .historyRequest) ∨
        packet.request = some (.dm .historyRequest)) := by
    rintro (asked | asked) (other | other) <;>
      cases Option.some.inj (asked.symm.trans other)
  cases step with
  | reply _ quiet =>
    obtain ⟨-, rfl, -⟩ := Effect.sent.inj (List.mem_singleton.mp sent)
    exact quiet message
  | @broadcast node _ asked present open' =>
    obtain ⟨rfl, -, -, rfl⟩ := Effect.sent.inj (List.mem_singleton.mp sent)
    rcases shown with ⟨-, signed, -⟩ | ⟨history, -⟩
    · exact private' (Or.inl ⟨asked, signed, node, present, open', stranger⟩)
    · exact noRow (Or.inl asked) history
  | @forward node _ asked found =>
    obtain ⟨rfl, -, -, rfl⟩ := Effect.sent.inj (List.mem_singleton.mp sent)
    have present := List.mem_of_find?_eq_some found
    have selected : 0 < node.socketFd ∧ node.id = packet.dmRecipientId := by
      simpa using List.find?_some found
    rcases shown with ⟨-, signed, -⟩ | ⟨history, -⟩
    · have zero := valid.id_of_userOf present stranger
      exact private' (Or.inr (Or.inl ⟨asked, signed, selected.2.symm.trans zero, node, present,
        selected.1, stranger⟩))
    · exact noRow (Or.inr asked) history
  | history _ asked stored =>
    obtain ⟨rfl, rfl, -, rfl⟩ := Effect.sent.inj (List.mem_singleton.mp sent)
    rcases shown with ⟨live, -⟩ | ⟨-, middle⟩
    · exact noRow live asked
    · rcases stored middle with ⟨channel, row⟩ | ⟨-, node, member, own, row, present, between⟩
      · exact private' (Or.inr (Or.inr ⟨channel, stranger, row⟩))
      · exact no_directMessages_of_stranger valid stranger member own present between
  | hash | call => cases List.mem_singleton.mp sent
  | look | session => cases sent

end Step

/-! ### Runs -/

section Runs

variable {env : Env} {serverFd : Int}

/-- Nothing in a record exposes a message. -/
def Unexposed (cause : Option Handling) (effects : List Effect) : Prop :=
  ∀ delivery ∈ deliveries cause effects, ¬ delivery.Exposes

theorem Unexposed.append {cause : Option Handling} {first second : List Effect}
    (unexposed : Unexposed cause first) (later : Unexposed (lastHandling cause first) second) :
    Unexposed cause (first ++ second) := by
  intro delivery member
  rw [deliveries_append] at member
  exact (List.mem_append.mp member).elim (unexposed delivery) (later delivery)

theorem unexposed_of_silent {cause : Option Handling} {effects : List Effect}
    (silent : ∀ target answer status receiver,
      .sent target answer status receiver ∈ effects → ¬ IsMessage answer) :
    Unexposed cause effects := by
  intro delivery member exposes
  obtain ⟨status, sent⟩ := sent_of_mem_deliveries member
  exact silent _ _ _ _ sent exposes.2.1

/-- Notices show no messages. -/
theorem Notifies.unexposed {before after : Process} (notifies : Notifies env before after)
    (cause : Option Handling) :
    ∃ effects, after.trace = before.trace ++ effects ∧ Unexposed cause effects := by
  obtain ⟨effects, logged, steps⟩ := notifies
  refine ⟨effects, logged, unexposed_of_silent fun target answer status receiver sent => ?_⟩
  have quiet : ∀ effect ∈ effects, ∀ target answer status receiver,
      effect = .sent target answer status receiver → ¬ IsMessage answer :=
    steps.events_of_invariant (fun _ => True) (fun _ _ => trivial)
      (fun step _ effect member target answer status receiver is => by
        rcases step.notice with ⟨_, other, _, _, rfl, quiet, -⟩ | ⟨_, _, rfl, -⟩
        · obtain ⟨-, rfl, -⟩ := Effect.sent.inj (is.symm.trans (List.mem_singleton.mp member))
          exact quiet
        · cases member) trivial
  exact quiet _ sent target answer status receiver rfl

/-- What is exposed is exposed by a packet that is not about authentication. -/
theorem Delivery.Exposes.not_auth {delivery : Delivery} (exposes : delivery.Exposes)
    (action : AuthAction) : delivery.cause.packet.request ≠ some (.auth action) := by
  intro asked
  obtain ⟨-, -, ⟨live | live, -⟩ | ⟨history | history, -⟩⟩ := exposes
  · exact Request.noConfusion (Option.some.inj (asked.symm.trans live))
  · exact Request.noConfusion (Option.some.inj (asked.symm.trans live))
  · exact Request.noConfusion (Option.some.inj (asked.symm.trans history))
  · exact Request.noConfusion (Option.some.inj (asked.symm.trans history))

/-- The handling of a packet that exposes no message sends none to a stranger. -/
theorem processClientPacket_unexposed (index : Nat) (packet : TizcordPacket) (process : Process)
    (valid : process.ctx.Valid)
    (private' : ¬ Exposing process.ctx (process.clientAt index).socketFd packet)
    (cause : Option Handling) :
    ∃ effects, (processClientPacket env index packet process).trace = process.trace ++ effects ∧
      Unexposed cause effects := by
  have acts := processClientPacket_acts env index packet process
  obtain ⟨effects, logged, ofHandler⟩ := acts.trace
  refine ⟨_ :: effects, logged.trans (List.append_assoc ..), ?_⟩
  intro delivery member exposes
  have same := cause_of_mem_deliveries ofHandler member
  rw [deliveries] at member
  obtain ⟨status, sent⟩ := sent_of_mem_deliveries member
  have notAuth : ∀ action, packet.request ≠ some (.auth action) := by
    intro action asked
    exact exposes.not_auth action (same ▸ asked)
  obtain ⟨steps, loggedSteps, taken⟩ := acts
  have events : effects = steps := List.append_cancel_left (logged.symm.trans loggedSteps)
  have unexposed : ∀ effect ∈ steps, ∀ target answer status receiver,
      effect = .sent target answer status receiver →
      ¬ Delivery.Exposes ⟨⟨(process.clientAt index).socketFd, packet,
        process.ctx.userOf (process.clientAt index).socketFd⟩, target, answer, receiver⟩ :=
    taken.events_of_invariant
      (fun ctx => ctx.Valid ∧ ¬ Exposing ctx (process.clientAt index).socketFd packet ∧
        ctx.identities = process.ctx.identities)
      (fun step ⟨valid, private', equal⟩ => ⟨step.valid valid,
        fun exposing => private' (step.exposing exposing), (step.identities notAuth).trans equal⟩)
      (fun step ⟨valid, private', equal⟩ effect member target answer status receiver is =>
        userOf_congr equal ▸ step.unexposed valid private' (is ▸ member))
      ⟨valid, private', rfl⟩
  refine unexposed _ (events ▸ sent) _ _ _ _ rfl ?_
  rw [← same]
  exact exposes

theorem unexposed_of_no_sent {cause : Option Handling} {effects : List Effect}
    (none' : ∀ target answer status receiver,
      .sent target answer status receiver ∉ effects) : Unexposed cause effects :=
  unexposed_of_silent fun target answer status receiver sent =>
    absurd sent (none' target answer status receiver)

theorem serviceClient_unexposed {readSet : Finset Int} {index : Nat} {loop : Loop}
    (consistent : loop.Consistent) (inside : index < loop.process.ctx.clients.length)
    (meets : ∀ packet, loop.HandsOn readSet index packet →
      ¬ Exposing (receiveClient index loop).1.process.ctx (loop.process.clientAt index).socketFd
        packet) (cause : Option Handling) :
    ∃ effects, (serviceClient env readSet index loop).1.process.trace =
        loop.process.trace ++ effects ∧ Unexposed cause effects := by
  have trace := receiveClient_trace index loop
  have received : ∀ cause fd result, Unexposed cause [.received fd result] :=
    fun cause fd result => unexposed_of_no_sent fun _ _ _ _ sent =>
      nomatch List.mem_singleton.mp sent
  have closed : ∀ cause fd, Unexposed cause [.closed fd] :=
    fun cause fd => unexposed_of_no_sent fun _ _ _ _ sent => nomatch List.mem_singleton.mp sent
  rcases serviceClient_cases env readSet index loop with
    ⟨-, skipped⟩ | ⟨ready, ⟨errno, -, failed⟩ | ⟨-, again⟩ | ⟨packet, arrived, handled⟩⟩
  · rw [skipped]
    exact ⟨[], (List.append_nil _).symm, fun _ member => nomatch member⟩
  · have insideAfter : index < (receiveClient index loop).1.process.ctx.clients.length := by
      rw [receiveClient_length]
      exact inside
    have notifies := disconnectClient_notifies env insideAfter
    obtain ⟨effects, logged, unexposed⟩ := notifies.unexposed (lastHandling (lastHandling cause
      [.received (loop.process.clientAt index).socketFd (receiveClient index loop).2])
        [.closed ((receiveClient index loop).1.process.clientAt index).socketFd])
    rw [failed]
    refine ⟨_, ?_, (received cause _ _).append ((closed _ _).append unexposed)⟩
    rw [logged, trace, List.append_assoc, List.append_assoc]
  · rw [again]
    exact ⟨_, trace, received cause _ _⟩
  · rw [handled]
    have own := receiveClient_clientAt_fd inside
    obtain ⟨effects, logged, unexposed⟩ := processClientPacket_unexposed index packet
      (receiveClient index loop).1.process (receiveClient_valid consistent.valid)
      (own ▸ meets packet ⟨ready, arrived⟩) (lastHandling cause
        [.received (loop.process.clientAt index).socketFd (receiveClient index loop).2])
    refine ⟨_, ?_, (received cause _ _).append unexposed⟩
    rw [logged, trace, List.append_assoc]

theorem acceptRound_unexposed {readSet : Finset Int} {accepts : List AcceptResult} {loop : Loop}
    (cause : Option Handling) :
    ∃ effects, (acceptRound readSet accepts loop).process.trace = loop.process.trace ++ effects ∧
      Unexposed cause effects := by
  rcases acceptRound_cases readSet accepts loop with
    same | ⟨fd, rejected⟩ | ⟨fd, socket, -, -, accepted⟩
  · rw [same]
    exact ⟨[], (List.append_nil _).symm, fun _ member => nomatch member⟩
  · rw [rejected]
    exact ⟨_, rfl, unexposed_of_no_sent fun _ _ _ _ sent => nomatch List.mem_singleton.mp sent⟩
  · rw [accepted]
    exact ⟨_, rfl, unexposed_of_no_sent fun _ _ _ _ sent => nomatch List.mem_singleton.mp sent⟩

/-- In a run that handles no packet that exposes messages, no message of a user is shown to a
connection that is no user's at that moment. -/
theorem messages_unexposed (env : Env) (serverFd : Int) (machine : Machine)
    (reachable : ReachableWhen env (fun ctx fd packet => ¬ Exposing ctx fd packet) serverFd
      machine) :
    ∀ delivery ∈ deliveries none machine.loop.process.trace, ¬ delivery.Exposes := by
  have started : ∀ cause, Unexposed cause [.started] := fun cause =>
    unexposed_of_no_sent fun _ _ _ _ sent => nomatch List.mem_singleton.mp sent
  change Unexposed none machine.loop.process.trace
  induction reachable with
  | start => exact started none
  | select _ round inductionHypothesis =>
    obtain ⟨effects, logged, unexposed⟩ := acceptRound_unexposed _
    rw [logged]
    exact inductionHypothesis.append unexposed
  | service reachable inside meets inductionHypothesis =>
    obtain ⟨effects, logged, unexposed⟩ :=
      serviceClient_unexposed reachable.consistent inside meets _
    rw [logged]
    exact inductionHypothesis.append unexposed
  | finish _ _ inductionHypothesis => exact inductionHypothesis
  | restart _ _ inductionHypothesis => exact inductionHypothesis.append (started _)

end Runs

/-! ### An example -/

/-- The channel message `b`. -/
def userMessage : TizcordPacket :=
  let packet := TizcordPacket.setType Image.zero .channel
  let packet := packet.setChannelAction ChannelAction.message.code
  packet.strncpyChannelMessage Text.letterB

/-- On the first of two connections a user registers, and a message of this user arrives. -/
def registeredEvents : List Event :=
  [.round ⟨{3}, [.connected 4 ⟨clientBytes registerPacket ++ clientBytes userMessage,
      [.count 1000, .count 1000]⟩]⟩,
    .round ⟨{3}, [.connected 5 ⟨[], []⟩]⟩, .round ⟨{4}, []⟩, .round ⟨{4}, []⟩]

/-- The message of a user is shown to a connection on which nobody has logged in. -/
theorem message_exposed :
    ¬ ∀ (env : Env) (serverFd : Int) (machine : Machine), Reachable env serverFd machine →
      ∀ delivery ∈ deliveries none machine.loop.process.trace, ¬ delivery.Exposes := by
  intro claim
  have unexposed := claim Env.ideal 3 ⟨runServer Env.ideal 3 registeredEvents, .selecting⟩
    (reachable_runServer Env.ideal 3 registeredEvents)
  have exposed : (deliveries none (runServer Env.ideal 3 registeredEvents).process.trace).any
      (fun delivery => delivery.Exposes) = true := by decide +kernel
  obtain ⟨delivery, member, exposes⟩ := List.any_eq_true.mp exposed
  dsimp only at unexposed
  exact unexposed delivery member (of_decide_eq_true exposes)

instance (ctx : ServerContext) : Decidable (OpenStranger ctx) :=
  inferInstanceAs (Decidable (∃ node ∈ ctx.clients, _))

instance (ctx : ServerContext) (fd : Int) (packet : TizcordPacket) :
    Decidable (Exposing ctx fd packet) :=
  inferInstanceAs (Decidable (_ ∨ _ ∨ _))

/-- The message of a user is delivered to another user, while nobody else is connected. -/
theorem messages_unexposed_pair :
    (∃ delivery ∈ deliveries none
        (runServer Env.ideal 3 (pairEvents [userMessage] [] [4, 5, 4])).process.trace,
      delivery.target = 5 ∧ delivery.answer.channelMessage [] = Text.letterB) ∧
    ∀ delivery ∈ deliveries none
        (runServer Env.ideal 3 (pairEvents [userMessage] [] [4, 5, 4])).process.trace,
      ¬ delivery.Exposes := by
  have delivered : (deliveries none
      (runServer Env.ideal 3 (pairEvents [userMessage] [] [4, 5, 4])).process.trace).any
        (fun delivery => delivery.target = 5 &&
          delivery.answer.channelMessage [] = Text.letterB) = true := by decide +kernel
  have meets : runMeets Env.ideal (fun ctx fd packet => ¬ Exposing ctx fd packet)
      (pairEvents [userMessage] [] [4, 5, 4]) (startLoop 3 Database.empty 0 []) = true := by
    decide +kernel
  have reachable := reachableWhen_runServer (fun _ _ _ => of_decide_eq_true) 3 _ meets
  have unexposed := messages_unexposed Env.ideal 3 _ reachable
  dsimp only at unexposed
  refine ⟨?_, unexposed⟩
  obtain ⟨delivery, member, is⟩ := List.any_eq_true.mp delivered
  rw [Bool.and_eq_true, decide_eq_true_eq, decide_eq_true_eq] at is
  exact ⟨delivery, member, is⟩

end Tizcord
