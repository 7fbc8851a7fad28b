/-
This file is about the direct messages that reach a user who is signed in. Each of
them is forwarded to the connection of the user once, while it is handled, so what
is forwarded from some moment on is what is written to the user from then on.
-/

import Tizcord.Server.DirectHistories

namespace Tizcord

open CModel

/-! ### Messages that are written and forwarded -/

/-- What the reader of a direct message sees: the id of its author and its text. -/
abbrev Line : Type := Int × Text

/-- The line that an effect writes to a user. -/
def Effect.writes (userId : Int) : Effect → Option Line
  | .called (.saveDirectMessage senderId receiverId content _) =>
    if receiverId = userId then some (senderId, content.take (messageLen - 1)) else none
  | _ => none

/-- The lines that are written to a user, whether they can be saved or not. -/
def writtenTo (userId : Int) (trace : List Effect) : List Line :=
  trace.filterMap (Effect.writes userId)

/-- What was forwarded so far, and whether a direct message is being handled. -/
structure Forwards where
  handling : Bool
  lines : List Line

def Forwards.next (fd : Int) (forwards : Forwards) : Effect → Forwards
  | .handling _ packet _ => { forwards with handling := packet.request = some (.dm .message) }
  | .sent target copy _ _ =>
    if forwards.handling ∧ target = fd then
      { forwards with
        lines := forwards.lines ++ [(copy.senderId, (copy.dmMessage []).take (messageLen - 1))] }
    else forwards
  | .called _ | .hashed .. => forwards
  | .started | .accepted .. | .rejected _ | .received .. | .closed _ =>
    { forwards with handling := false }

/-- The lines of the packets that are sent to a connection while direct messages are handled. -/
def forwardedTo (fd : Int) (trace : List Effect) : List Line :=
  (trace.foldl (Forwards.next fd) ⟨false, []⟩).lines

/-- What is forwarded to the connection is what is written to the user, whatever came before. -/
def Matches (fd userId : Int) (effects : List Effect) : Prop :=
  ∀ forwards : Forwards,
    (effects.foldl (Forwards.next fd) forwards).lines = forwards.lines ++ writtenTo userId effects

/-- The effect neither begins the handling of a direct message nor writes one. -/
def Effect.Apart : Effect → Prop
  | .handling _ packet _ => packet.request ≠ some (.dm .message)
  | .called (.saveDirectMessage ..) => False
  | _ => True

section Effects

variable {fd userId : Int} {effects later : List Effect} {effect : Effect}

theorem Matches.append (first : Matches fd userId effects) (second : Matches fd userId later) :
    Matches fd userId (effects ++ later) := by
  intro forwards
  rw [List.foldl_append, second, first, writtenTo, writtenTo, writtenTo, List.filterMap_append,
    List.append_assoc]

theorem writes_of_apart (apart : effect.Apart) : effect.writes userId = none := by
  cases effect with
  | called call => cases call <;> first | rfl | exact apart.elim
  | _ => rfl

/-- Effects apart, after which no direct message is being handled, forward nothing. -/
theorem foldl_of_apart (apart : ∀ effect ∈ effects, effect.Apart) {forwards : Forwards}
    (idle : forwards.handling = false) : effects.foldl (Forwards.next fd) forwards = forwards := by
  induction effects generalizing forwards with
  | nil => rfl
  | cons effect rest inductionHypothesis =>
    have same : forwards.next fd effect = forwards := by
      obtain ⟨handling, lines⟩ := forwards
      cases idle
      cases effect with
      | handling own packet user =>
        have other : packet.request ≠ some (.dm .message) := apart _ List.mem_cons_self
        rw [Forwards.next, decide_eq_false other]
      | _ => rfl
    rw [List.foldl_cons, same]
    exact inductionHypothesis (fun other member => apart other (List.mem_cons_of_mem _ member)) idle

theorem writtenTo_of_apart (apart : ∀ effect ∈ effects, effect.Apart) :
    writtenTo userId effects = [] :=
  List.filterMap_eq_nil_iff.mpr fun effect member => writes_of_apart (apart effect member)

/-- Effects apart match, if the first of them ends the handling before it. -/
theorem Matches.of_apart (ends : ∀ forwards : Forwards, (forwards.next fd effect).handling = false ∧
      (forwards.next fd effect).lines = forwards.lines)
    (apart : ∀ other ∈ effect :: effects, other.Apart) : Matches fd userId (effect :: effects) := by
  intro forwards
  rw [List.foldl_cons, foldl_of_apart (fun other member => apart other (List.mem_cons_of_mem _
    member)) (ends forwards).1, (ends forwards).2, writtenTo_of_apart apart, List.append_nil]

end Effects

/-! ### One step -/

section Steps

variable {env : Env} {index : Nat} {packet : TizcordPacket} {process : Process} {fd userId : Int}
  {machine next : Machine}

/-- The effects forward a packet to the node of its recipient, if there is one. -/
def ForwardsTo (recipient : Option ClientNode) (copy : TizcordPacket) (effects : List Effect) :
    Prop :=
  recipient = none ∧ effects = [] ∨
    ∃ node status user, recipient = some node ∧ effects = [.sent node.socketFd copy status user]

/-- A direct message is handed to the database, and then forwarded. -/
theorem directMessage_exact (env : Env) (beyond : List UInt8) (packet : TizcordPacket)
    (process : Process) (node : ClientNode) :
    ∃ status forwards,
      (directMessage env beyond (stampDirectMessage (some node) packet) (some node) process).trace =
        process.trace ++ .called (.saveDirectMessage node.id packet.dmRecipientId
          (packet.dmMessage beyond) status) :: forwards ∧
      ForwardsTo (recipientNode process.ctx packet.dmRecipientId)
        (stampDirectMessage (some node) packet) forwards ∧
      dbSaveDirectMessage (env.db process.clock) process.ctx.db node.id packet.dmRecipientId
          (packet.dmMessage beyond) =
        ((directMessage env beyond (stampDirectMessage (some node) packet) (some node)
          process).ctx.db, status) := by
  obtain ⟨-, recipient, content⟩ := stampDirectMessage_same packet beyond (some node)
  rw [directMessage, recipient, content]
  generalize stampDirectMessage (some node) packet = copy
  generalize packet.dmMessage beyond = text
  generalize packet.dmRecipientId = recipientId
  generalize saved : process.change env
    (fun env db => dbSaveDirectMessage env db node.id recipientId text)
    (fun status => .saveDirectMessage node.id recipientId text status) = result
  have logged : result.1.trace = process.trace ++
      [.called (.saveDirectMessage node.id recipientId text result.2)] := by
    rw [← saved]
    rfl
  have clients : recipientNode result.1.ctx recipientId = recipientNode process.ctx recipientId := by
    rw [← saved]
    rfl
  have stored : dbSaveDirectMessage (env.db process.clock) process.ctx.db node.id recipientId text =
      (result.1.ctx.db, result.2) := by
    rw [← saved]
    rfl
  rw [clients]
  cases recipientNode process.ctx recipientId with
  | none => exact ⟨result.2, [], logged, Or.inl ⟨rfl, rfl⟩, stored⟩
  | some target =>
    have sent : (result.1.send env target.socketFd copy).trace = process.trace ++
        .called (.saveDirectMessage node.id recipientId text result.2) ::
          [.sent target.socketFd copy (packetSend (env.send result.1.clock) copy).1
            (result.1.ctx.userOf target.socketFd)] := by
      rw [List.append_cons, ← logged]
      rfl
    exact ⟨result.2, _, sent, Or.inr ⟨target, _, _, rfl, rfl⟩, stored⟩

/-- What the handling of a direct message leaves in the record. -/
theorem handlingGain_directMessage (asked : packet.request = some (.dm .message))
    (distinct : process.ctx.fds.Nodup) (inside : index < process.ctx.clients.length) :
    ∃ status forwards, handlingGain env index packet process =
        .handling (process.clientAt index).socketFd packet
          (process.ctx.userOf (process.clientAt index).socketFd) ::
        .called (.saveDirectMessage (process.clientAt index).id packet.dmRecipientId
          (packet.dmMessage (env.beyond process.clock)) status) :: forwards ∧
      ForwardsTo (recipientNode process.ctx packet.dmRecipientId)
        (stampDirectMessage (some (process.clientAt index)) packet) forwards ∧
      dbSaveDirectMessage (env.db process.clock) process.ctx.db (process.clientAt index).id
          packet.dmRecipientId (packet.dmMessage (env.beyond process.clock)) =
        ((processClientPacket env index packet process).ctx.db, status) := by
  have sender : senderNode process.ctx (process.clientAt index).socketFd =
      some (process.clientAt index) := senderNode_own distinct inside
  obtain ⟨status, forwards, logged, forwarded, stored⟩ := directMessage_exact env
    (env.beyond process.clock) packet (process.log (.handling (process.clientAt index).socketFd
      packet (process.ctx.userOf (process.clientAt index).socketFd))) (process.clientAt index)
  have whole := processClientPacket_trace env index packet process
  rw [processClientPacket_directMessage asked, sender, logged, Process.log,
    List.append_assoc] at whole
  refine ⟨status, forwards, (List.append_cancel_left whole).symm, forwarded, ?_⟩
  rw [processClientPacket_directMessage asked, sender]
  exact stored

/-- A user who is signed in is the recipient on this connection, and nobody else is. -/
theorem recipientNode_fd {ctx : ServerContext} (distinct : ctx.fds.Nodup) (valid : ctx.Valid)
    (sole : SoleSessions ctx.identities) (signedIn : SignedIn ctx fd userId) (recipientId : Int) :
    (∃ node, recipientNode ctx recipientId = some node ∧ node.socketFd = fd) ↔
      recipientId = userId := by
  obtain ⟨own, member, rfl, authenticated, rfl⟩ := signedIn
  have listed : own.identity ∈ ctx.identities := mem_identities.mpr ⟨own, member, rfl⟩
  constructor
  · rintro ⟨node, found, same⟩
    have present := List.mem_of_find?_eq_some found
    have unique : UniqueOn ClientNode.socketFd ctx.clients := distinct
    have receives := List.find?_some found
    rw [Bool.and_eq_true, decide_eq_true_eq, decide_eq_true_eq] at receives
    rw [← receives.2, unique.eq_of_key present member same]
  · rintro rfl
    have open' := sole.positive _ listed authenticated
    cases found : recipientNode ctx own.id with
    | none =>
      refine absurd (List.find?_eq_none.mp found own member) (not_not.mpr ?_)
      exact (Bool.and_eq_true _ _).mpr ⟨decide_eq_true open', decide_eq_true rfl⟩
    | some node =>
      refine ⟨node, rfl, ?_⟩
      have present := List.mem_of_find?_eq_some found
      have receives := List.find?_some found
      rw [Bool.and_eq_true, decide_eq_true_eq, decide_eq_true_eq] at receives
      cases is : node.isAuthenticated with
      | true =>
        exact sole.alone _ (mem_identities.mpr ⟨node, present, rfl⟩) _ listed is authenticated
          receives.2
      | false =>
        -- A stranger has the id 0, which is that of no user.
        have known := (valid own member).user authenticated
        rw [← receives.2, ((valid node present).stranger is).1] at known
        exact absurd known (zero_not_mem_userIds _)

/-- The line that a client reads in the copy of a direct message. -/
theorem line_of_stamped (node : ClientNode) (packet : TizcordPacket) (beyond : List UInt8) :
    ((stampDirectMessage (some node) packet).senderId,
        ((stampDirectMessage (some node) packet).dmMessage []).take (messageLen - 1)) =
      (signed 64 node.id, (packet.dmMessage beyond).take (messageLen - 1)) := by
  have content := (stampDirectMessage_same packet [] (some node)).2.2
  have text : (packet.dmMessage []).take (messageLen - 1) =
      (packet.dmMessage beyond).take (messageLen - 1) :=
    (Image.take_text packet [] (by decide)).trans (Image.take_text packet beyond (by decide)).symm
  rw [content, text, stampDirectMessage_senderId]

/-- A message that is written, and forwarded to the connection exactly when it is to the user. -/
theorem matches_written {own senderId recipientId status : Int} {user : Option Int} {text : Text}
    {copy : TizcordPacket} {recipient : Option ClientNode} {effects : List Effect}
    (asked : packet.request = some (.dm .message))
    (line : (copy.senderId, (copy.dmMessage []).take (messageLen - 1)) =
      (senderId, text.take (messageLen - 1)))
    (here : (∃ node, recipient = some node ∧ node.socketFd = fd) ↔ recipientId = userId)
    (forwarded : ForwardsTo recipient copy effects) :
    Matches fd userId (.handling own packet user ::
      .called (.saveDirectMessage senderId recipientId text status) :: effects) := by
  intro forwards
  have begun : Forwards.next fd forwards (.handling own packet user) =
      { forwards with handling := true } := by
    rw [Forwards.next, asked]
    rfl
  have called : ∀ begun : Forwards, begun.next fd
      (.called (.saveDirectMessage senderId recipientId text status)) = begun := fun _ => rfl
  rw [List.foldl_cons, begun, List.foldl_cons, called, writtenTo, List.filterMap_cons_none rfl,
    List.filterMap_cons, Effect.writes]
  by_cases mine : recipientId = userId
  · obtain ⟨target, found, rfl⟩ := here.mpr mine
    rw [if_pos mine]
    rcases forwarded with ⟨none', -⟩ | ⟨node, sent, holder, found', rfl⟩
    · rw [none'] at found
      cases found
    · obtain rfl := Option.some.inj (found'.symm.trans found)
      rw [List.foldl_cons, Forwards.next, if_pos ⟨rfl, rfl⟩, line]
      rfl
  · rw [if_neg mine]
    rcases forwarded with ⟨-, rfl⟩ | ⟨node, sent, holder, found, rfl⟩
    · exact (List.append_nil _).symm
    · have elsewhere : node.socketFd ≠ fd := fun same => mine (here.mp ⟨node, found, same⟩)
      rw [List.foldl_cons, Forwards.next, if_neg fun both => elsewhere both.2]
      exact (List.append_nil _).symm

/-- While a direct message is handled, it is forwarded to the connection of a user exactly when it
is written to this user. -/
theorem matches_directMessage (asked : packet.request = some (.dm .message))
    (distinct : process.ctx.fds.Nodup) (valid : process.ctx.Valid)
    (sole : SoleSessions process.ctx.identities) (inside : index < process.ctx.clients.length)
    (signedIn : SignedIn process.ctx fd userId) :
    Matches fd userId (handlingGain env index packet process) := by
  obtain ⟨status, effects, gain, forwarded, -⟩ :=
    @handlingGain_directMessage env index packet process asked distinct inside
  have line := line_of_stamped (process.clientAt index) packet (env.beyond process.clock)
  have own : signed 64 (process.clientAt index).id = (process.clientAt index).id := by
    have member := clientAt_mem_of_lt inside
    cases authenticated : (process.clientAt index).isAuthenticated with
    | true => exact signed_userId ((valid _ member).user authenticated)
    | false =>
      have nobody := ((valid _ member).stranger authenticated).1
      rw [Process.clientAt, nobody]
      rfl
  rw [own] at line
  rw [gain]
  exact matches_written asked line (recipientNode_fd distinct valid sole signedIn _) forwarded

theorem HandlerStep.apart {beyond : List UInt8} {before after : ServerContext}
    {effects : List Effect} {own : Int}
    (step : HandlerStep env own beyond packet before effects after)
    (other : packet.request ≠ some (.dm .message)) : ∀ effect ∈ effects, effect.Apart := by
  intro effect member
  cases step with
  | reply | broadcast | forward | history | hash =>
    rw [List.mem_singleton.mp member]
    trivial
  | @call _ _ call permitted _ =>
    rw [List.mem_singleton.mp member]
    cases call with
    | saveDirectMessage => exact absurd permitted.2.2.2 other
    | _ => trivial
  | look | session => cases member

/-- Whatever else is handled is apart from direct messages. -/
theorem handlingGain_apart (other : packet.request ≠ some (.dm .message)) :
    ∀ effect ∈ handlingGain env index packet process, effect.Apart := by
  obtain ⟨effects, gain, steps⟩ := handlingGain_steps env index packet process
  rw [gain]
  refine List.forall_mem_cons.mpr ⟨other, ?_⟩
  exact steps.events_of_invariant (fun _ => True) (fun _ _ => trivial)
    (fun step _ => step.apart other) trivial

/-- Whatever else is handled forwards no direct message. -/
theorem matches_other (other : packet.request ≠ some (.dm .message)) :
    Matches fd userId (handlingGain env index packet process) := by
  have apart := @handlingGain_apart env index packet process other
  obtain ⟨effects, gain, -⟩ := handlingGain_steps env index packet process
  rw [gain] at apart ⊢
  refine Matches.of_apart (fun forwards => ?_) apart
  rw [Forwards.next, decide_eq_false other]
  exact ⟨rfl, rfl⟩

/-- What does not depend on a packet ends the handling of one. -/
theorem matches_idle {effect : Effect} {effects : List Effect}
    (ends : ∀ forwards : Forwards, forwards.next fd effect = { forwards with handling := false })
    (apart : ∀ other ∈ effect :: effects, other.Apart) : Matches fd userId (effect :: effects) := by
  refine Matches.of_apart (fun forwards => ?_) apart
  rw [ends]
  exact ⟨rfl, rfl⟩

/-- Notices are apart from direct messages. -/
theorem Notifies.apart {before after : Process} (notifies : Notifies env before after) :
    ∃ effects, after.trace = before.trace ++ effects ∧ ∀ effect ∈ effects, effect.Apart := by
  obtain ⟨effects, logged, steps⟩ := notifies
  have other : noRequest.request ≠ some (.dm .message) := by
    rw [noRequest_request]
    exact Option.some_ne_none _ ∘ Eq.symm
  exact ⟨effects, logged, steps.events_of_invariant (fun _ => True) (fun _ _ => trivial)
    (fun step _ => step.apart other) trivial⟩

theorem SignedIn.received {loop : Loop} (signedIn : SignedIn loop.process.ctx fd userId) :
    SignedIn (receiveClient index loop).1.process.ctx fd userId :=
  (signedIn_congr (receiveClient_identities index loop)).mpr signedIn

theorem matches_nil : Matches fd userId [] := fun forwards => (List.append_nil forwards.lines).symm

theorem serviceClient_matches {serverFd : Int} {loop : Loop} {readSet : Finset Int}
    (reachable : Reachable env serverFd ⟨loop, .servicing readSet index⟩)
    (inside : index < loop.process.ctx.clients.length)
    (signedIn : SignedIn loop.process.ctx fd userId) :
    ∃ gain, (serviceClient env readSet index loop).1.process.trace = loop.process.trace ++ gain ∧
      Matches fd userId gain := by
  have consistent : (receiveClient index loop).1.Consistent :=
    receiveClient_consistent reachable.consistent
  have sole := reachable.soleSessions
  rw [← receiveClient_identities index loop] at sole
  have within : index < (receiveClient index loop).1.process.ctx.clients.length := by
    rw [receiveClient_length]
    exact inside
  have arrives : Matches fd userId [.received (loop.process.clientAt index).socketFd
      (receiveClient index loop).2] :=
    matches_idle (fun _ => rfl) fun other member => by rw [List.mem_singleton.mp member]; trivial
  rcases serviceClient_cases env readSet index loop with
    ⟨-, skipped⟩ | ⟨-, ⟨errno, -, failed⟩ | ⟨-, again⟩ | ⟨packet, -, handled⟩⟩
  · rw [skipped]
    exact ⟨[], (List.append_nil _).symm, matches_nil⟩
  · rw [failed]
    obtain ⟨effects, logged, apart⟩ := (disconnectClient_notifies env within).apart
    have closes : Matches fd userId
        (.closed ((receiveClient index loop).1.process.clientAt index).socketFd :: effects) :=
      matches_idle (fun _ => rfl) fun effect member => by
        rcases List.mem_cons.mp member with rfl | late
        · trivial
        · exact apart effect late
    refine ⟨_, ?_, arrives.append closes⟩
    rw [logged, receiveClient_trace, List.append_assoc, List.append_assoc]
    rfl
  · rw [again]
    exact ⟨_, receiveClient_trace index loop, arrives⟩
  · rw [handled]
    have handles : Matches fd userId
        (handlingGain env index packet (receiveClient index loop).1.process) := by
      by_cases asked : packet.request = some (.dm .message)
      · exact matches_directMessage asked consistent.distinct consistent.valid sole within
          signedIn.received
      · exact matches_other asked
    refine ⟨_, ?_, arrives.append handles⟩
    dsimp only
    rw [processClientPacket_trace, receiveClient_trace, List.append_assoc]

/-- One step of the machine, from a state in which the user is signed in to such a state. -/
theorem Machine.Step.matches {serverFd : Int} (step : machine.Step env next)
    (reachable : Reachable env serverFd machine)
    (signedIn : SignedIn machine.loop.process.ctx fd userId)
    (still : SignedIn next.loop.process.ctx fd userId) :
    ∃ gain, next.loop.process.trace = machine.loop.process.trace ++ gain ∧
      Matches fd userId gain := by
  cases step with
  | select loop round =>
    rcases acceptRound_cases (selectReady loop round.ready) round.accepts loop with
      same | ⟨own, rejected⟩ | ⟨own, socket, -, -, accepted⟩
    · rw [same]
      exact ⟨[], (List.append_nil _).symm, matches_nil⟩
    · rw [rejected]
      exact ⟨[.rejected own], rfl, matches_idle (fun _ => rfl) fun other member => by
        rw [List.mem_singleton.mp member]; trivial⟩
    · rw [accepted]
      exact ⟨[.accepted own socket], rfl, matches_idle (fun _ => rfl) fun other member => by
        rw [List.mem_singleton.mp member]; trivial⟩
  | service inside => exact serviceClient_matches reachable inside signedIn
  | finish outside => exact ⟨[], (List.append_nil _).symm, matches_nil⟩
  | restart _ newFd =>
    obtain ⟨node, member, -⟩ := still
    cases member

end Steps

/-! ### Runs -/

/-- A part of a run in which a connection stays that of a user. -/
def StaysSignedIn (env : Env) (fd userId : Int) : Machine → Machine → Prop :=
  Relation.ReflTransGen fun before after =>
    before.Step env after ∧ SignedIn after.loop.process.ctx fd userId

/-- The messages from a friend that are saved, as lines. -/
def savedLines (userId friendId : Int) (trace : List Effect) : List Line :=
  ((conversation userId friendId trace).filter fun message =>
    message.senderId = friendId && message.receiverId = userId).map
      fun message => (message.senderId, message.content.take (messageLen - 1))

section Runs

variable {env : Env} {serverFd fd userId friendId : Int} {first last : Machine}

theorem StaysSignedIn.matches (reachable : Reachable env serverFd first)
    (signedIn : SignedIn first.loop.process.ctx fd userId)
    (stays : StaysSignedIn env fd userId first last) :
    Reachable env serverFd last ∧ SignedIn last.loop.process.ctx fd userId ∧
      ∃ later, last.loop.process.trace = first.loop.process.trace ++ later ∧
        Matches fd userId later := by
  induction stays with
  | refl => exact ⟨reachable, signedIn, [], (List.append_nil _).symm, matches_nil⟩
  | tail _ step inductionHypothesis =>
    obtain ⟨reached, before, later, logged, exact'⟩ := inductionHypothesis
    obtain ⟨gain, grown, more⟩ := step.1.matches reached before step.2
    refine ⟨step.1.reachable reached, step.2, later ++ gain, ?_, exact'.append more⟩
    rw [grown, logged, List.append_assoc]

theorem savedLines_append (trace later : List Effect) :
    savedLines userId friendId (trace ++ later) =
      savedLines userId friendId trace ++ savedLines userId friendId later := by
  simp only [savedLines, conversation, savedDirectMessages, List.filterMap_append,
    List.filter_append, List.map_append]

/-- Where all messages from a friend could be saved, the saved ones are the written ones. -/
theorem savedLines_eq {later : List Effect}
    (saved : ∀ content status,
      .called (.saveDirectMessage friendId userId content status) ∈ later → status = 0) :
    savedLines userId friendId later =
      (writtenTo userId later).filter fun line => line.1 = friendId := by
  induction later with
  | nil => rfl
  | cons effect rest inductionHypothesis =>
    have tail := inductionHypothesis fun content status member =>
      saved content status (List.mem_cons_of_mem _ member)
    rw [← List.singleton_append, savedLines_append, tail, writtenTo, writtenTo,
      List.filterMap_append, List.filter_append]
    congr 1
    have none' : effect.savesDirect = none → effect.writes userId = none →
        savedLines userId friendId [effect] =
          ([effect].filterMap (Effect.writes userId)).filter fun line => line.1 = friendId := by
      intro unsaved unwritten
      rw [List.filterMap_cons_none unwritten, savedLines, conversation, savedDirectMessages,
        List.filterMap_cons_none unsaved]
      rfl
    cases effect with
    | called call =>
      cases call with
      | saveDirectMessage senderId receiverId content status =>
        rw [savedLines, conversation, savedDirectMessages]
        by_cases ours : senderId = friendId ∧ receiverId = userId
        · obtain ⟨rfl, rfl⟩ := ours
          obtain rfl := saved content status List.mem_cons_self
          simp [Effect.savesDirect, Effect.writes, DirectMessage.between]
        · by_cases done : status = 0 <;> by_cases received : receiverId = userId <;>
            simp_all [Effect.savesDirect, Effect.writes, DirectMessage.between]
      | _ => exact none' rfl rfl
    | _ => exact none' rfl rfl

end Runs

/-! ### Main theorem -/

/-- As long as a user stays signed in on a connection, what is forwarded to the connection is what
is written to the user: each message once and in the order of handling. What a friend has written
is thus the saved messages at first and those forwarded since, if all of these could be saved. -/
theorem live_messages_exact (env : Env) (serverFd : Int) {fd userId : Int} {first last : Machine}
    (reachable : Reachable env serverFd first)
    (signedIn : SignedIn first.loop.process.ctx fd userId)
    (stays : StaysSignedIn env fd userId first last) :
    ∃ later, last.loop.process.trace = first.loop.process.trace ++ later ∧
      forwardedTo fd later = writtenTo userId later ∧
      ∀ friendId,
        (∀ content status,
          .called (.saveDirectMessage friendId userId content status) ∈ later → status = 0) →
        savedLines userId friendId last.loop.process.trace =
          savedLines userId friendId first.loop.process.trace ++
            (forwardedTo fd later).filter fun line => line.1 = friendId := by
  obtain ⟨-, -, later, logged, exact'⟩ := stays.matches reachable signedIn
  have forwarded : forwardedTo fd later = writtenTo userId later := exact' ⟨false, []⟩
  refine ⟨later, logged, forwarded, fun friendId saved => ?_⟩
  rw [logged, savedLines_append, savedLines_eq saved, forwarded]

/-- The loop of the server after two users have registered, when the first one writes to the
second. -/
def writingLoop : Loop :=
  runServer Env.ideal 3 (pairEvents [directPacket .message 2] [] [4, 5])

/-- The second user gets what the first one writes. -/
theorem live_messages_exact_pair :
    forwardedTo 5 ((serviceClient Env.ideal {4} 0 writingLoop).1.process.trace.drop
        writingLoop.process.trace.length) = [(1, Text.letterB)] ∧
      savedLines 2 1 (serviceClient Env.ideal {4} 0 writingLoop).1.process.trace =
        [(1, Text.letterB)] := by
  obtain ⟨packet, handled, -⟩ := runServer_handled (fun _ _ _ => true) (fun _ _ _ _ => trivial)
    (pairEvents [directPacket .message 2] [] [4, 5])
    (Finset.mem_singleton_self 4) (by decide +kernel) (by decide +kernel)
    (by decide +kernel) (fun _ => true) (by decide +kernel)
  rw [← writingLoop] at handled
  have signedIn : SignedIn writingLoop.process.ctx 5 2 := signedIn_of_any (by decide +kernel)
  have still : SignedIn (serviceClient Env.ideal {4} 0 writingLoop).1.process.ctx 5 2 :=
    signedIn_of_any (by decide +kernel)
  have written : writtenTo 2 ((serviceClient Env.ideal {4} 0 writingLoop).1.process.trace.drop
        writingLoop.process.trace.length) = [(1, Text.letterB)] ∧
      savedLines 2 1 (serviceClient Env.ideal {4} 0 writingLoop).1.process.trace =
        [(1, Text.letterB)] := by decide +kernel
  generalize writingLoop = loop at handled signedIn still written ⊢
  obtain ⟨later, logged, forwarded, -⟩ := live_messages_exact Env.ideal 3 handled.reachable
    signedIn (.single ⟨.service handled.inside, still⟩)
  dsimp only at logged
  rw [logged, List.drop_left] at written ⊢
  rw [forwarded]
  exact written

end Tizcord
