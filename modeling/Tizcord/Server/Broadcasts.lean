/-
This file compares the two things the server does with a channel message: it sends
the message to every connection, and it saves the message in the database. The
second can fail while the first is done.
-/

import Tizcord.Server.Messages
import Tizcord.Server.Privacy
import Tizcord.Server.Streams

namespace Tizcord

open CModel

/-! ### Broadcasts in the record -/

/-- The packet is the copy of a channel message that its own sender is sent. -/
def IsOwnCopy (channelId : Int) (cause : Option Handling) (target : Int) (copy : TizcordPacket) :
    Prop :=
  (∃ handling, cause = some handling ∧ handling.fd = target ∧
    handling.packet.request = some (.channel .message)) ∧
    copy.request = some (.channel .message) ∧ copy.channelChannelId = channelId

instance (channelId : Int) (cause : Option Handling) (target : Int) (copy : TizcordPacket) :
    Decidable (IsOwnCopy channelId cause target copy) :=
  decidable_of_iff ((cause.any fun handling => handling.fd = target ∧
      handling.packet.request = some (.channel .message)) = true ∧
      copy.request = some (.channel .message) ∧ copy.channelChannelId = channelId) <| by
    rw [IsOwnCopy, Option.any_eq_true]
    simp only [decide_eq_true_eq]

/-- What an effect adds to the broadcasts in a channel, with the last packet that was handled: a
new channel has none, and each message is counted once, as it is sent to its own sender. -/
def Effect.broadcasts (channelId : Int) (state : Option Handling × List Authored) :
    Effect → Option Handling × List Authored
  | .handling fd packet user => (some ⟨fd, packet, user⟩, state.2)
  | .called (.createChannel _ _ (some created)) =>
    (state.1, if (created : Int) = channelId then [] else state.2)
  | .sent target copy _ _ =>
    (state.1, if IsOwnCopy channelId state.1 target copy then
      state.2 ++ [(copy.senderId, copy.channelMessage [])] else state.2)
  | _ => state

/-- The last packet that was handled, and the messages broadcast in a channel since it was
created. -/
def broadcastState (channelId : Int) (trace : List Effect) : Option Handling × List Authored :=
  trace.foldl (Effect.broadcasts channelId) (none, [])

/-- The messages broadcast in a channel since it was created: the ids of the authors in the copies,
and the texts. -/
def broadcastMessages (channelId : Int) (trace : List Effect) : List Authored :=
  (broadcastState channelId trace).2

/-- What was broadcast in a channel was saved in it. -/
def Agrees (channelId : Int) (trace : List Effect) : Prop :=
  broadcastMessages channelId trace = savedMessages channelId trace

section Agreement

variable {env : Env} {channelId : Int} {trace : List Effect} {effect : Effect} {fd : Int}
  {beyond : List UInt8} {packet : TizcordPacket} {before after : ServerContext}
  {effects : List Effect}

theorem broadcastState_append_singleton (channelId : Int) (trace : List Effect) (effect : Effect) :
    broadcastState channelId (trace ++ [effect]) =
      effect.broadcasts channelId (broadcastState channelId trace) := by
  rw [broadcastState, List.foldl_append]
  rfl

/-- An effect that is neither a message to a client nor a call of the database is silent. -/
theorem Agrees.append_unrequested (agrees : Agrees channelId trace)
    (unrequested : ¬ effect.Requested) : Agrees channelId (trace ++ [effect]) := by
  rw [Agrees, broadcastMessages, broadcastState_append_singleton, savedMessages_append_singleton]
  cases effect with
  | called | hashed => exact absurd trivial unrequested
  | sent target copy status user =>
    have other : ¬ IsOwnCopy channelId (broadcastState channelId trace).1 target copy :=
      fun own => unrequested (Or.inl own.2.1)
    rw [Effect.broadcasts, if_neg other]
    exact agrees
  | started | accepted | rejected | received | handling | closed => exact agrees

/-- A step of the handling of another packet than a channel message. -/
theorem HandlerStep.agrees (step : HandlerStep env fd beyond packet before effects after)
    (other : packet.request ≠ some (.channel .message))
    (cause : ∀ handling, (broadcastState channelId trace).1 = some handling →
      handling.packet = packet) (agrees : Agrees channelId trace) :
    Agrees channelId (trace ++ effects) ∧
      (broadcastState channelId (trace ++ effects)).1 = (broadcastState channelId trace).1 := by
  have sent : ∀ target copy status user, effects = [.sent target copy status user] →
      Agrees channelId (trace ++ effects) ∧
        (broadcastState channelId (trace ++ effects)).1 = (broadcastState channelId trace).1 := by
    rintro target copy status user rfl
    have notOwn : ¬ IsOwnCopy channelId (broadcastState channelId trace).1 target copy := by
      rintro ⟨⟨handling, is, -, asked⟩, -⟩
      rw [cause handling is] at asked
      exact other asked
    rw [Agrees, broadcastMessages, broadcastState_append_singleton, savedMessages_append_singleton,
      Effect.broadcasts, if_neg notOwn]
    exact ⟨agrees, rfl⟩
  cases step with
  | reply | forward | history => exact sent _ _ _ _ rfl
  | broadcast _ asked => exact absurd asked other
  | hash =>
    rw [Agrees, broadcastMessages, broadcastState_append_singleton, savedMessages_append_singleton]
    exact ⟨agrees, rfl⟩
  | look | session =>
    rw [List.append_nil]
    exact ⟨agrees, rfl⟩
  | @call _ time call permitted runs =>
    rw [Agrees, broadcastMessages, broadcastState_append_singleton, savedMessages_append_singleton]
    cases call with
    | saveMessage => exact absurd permitted.2.2.2 other
    | createChannel serverId name created =>
      cases created with
      | none => exact ⟨agrees, rfl⟩
      | some created =>
        rw [Effect.broadcasts, Effect.saves]
        split
        · exact ⟨rfl, rfl⟩
        · exact ⟨agrees, rfl⟩
    | _ => exact ⟨agrees, rfl⟩

/-- Handling another packet than a channel message keeps the agreement. -/
theorem Agrees.handlingGain {index : Nat} {process : Process} (agrees : Agrees channelId trace)
    (other : packet.request ≠ some (.channel .message)) :
    Agrees channelId (trace ++ handlingGain env index packet process) := by
  obtain ⟨effects, gain, steps⟩ := handlingGain_steps env index packet process
  have handling : Agrees channelId (trace ++ [.handling (process.clientAt index).socketFd packet
      (process.ctx.userOf (process.clientAt index).socketFd)]) :=
    agrees.append_unrequested id
  have caused : ∀ handling, (broadcastState channelId (trace ++ [.handling
      (process.clientAt index).socketFd packet
      (process.ctx.userOf (process.clientAt index).socketFd)])).1 = some handling →
      handling.packet = packet := by
    intro handling is
    rw [broadcastState_append_singleton] at is
    rw [← Option.some.inj is]
  rw [gain, List.append_cons]
  exact (steps.invariant_log (fun _ past => Agrees channelId past ∧
      ∀ handling, (broadcastState channelId past).1 = some handling → handling.packet = packet)
    (fun step held => by
      obtain ⟨kept, same⟩ := step.agrees other held.2 held.1
      exact ⟨kept, same ▸ held.2⟩) ⟨handling, caused⟩).1

end Agreement

/-! ### One channel message -/

section Message

variable {env : Env} {channelId : Int} {trace : List Effect} {packet : TizcordPacket}
  {process : Process} {index : Nat}

/-- A broadcast is one packet to every open connection, in the order of the table. -/
theorem channelBroadcast_exact (env : Env) (answer : TizcordPacket) (process : Process) :
    ∃ gain, (channelBroadcast env answer (-1) process).trace = process.trace ++ gain ∧
      List.Forall₂ (fun node effect => ∃ status user,
          effect = .sent node.socketFd answer status user)
        (process.ctx.clients.filter fun node => 0 < node.socketFd) gain := by
  obtain ⟨-, gain, logged, sent⟩ := @forClients_sends env (fun node => 0 < node.socketFd)
    (fun copy => copy = answer) (fun _ client process =>
      if 0 < client.socketFd ∧ client.socketFd ≠ -1 then process.send env client.socketFd answer
      else process) process
    (fun _ node other _ open' => ⟨answer, rfl, if_pos ⟨of_decide_eq_true open', by
      have positive := of_decide_eq_true open'
      omega⟩⟩)
    (fun _ node other closed => if_neg fun both => of_decide_eq_false closed both.1)
  refine ⟨gain, logged, sent.imp ?_⟩
  rintro node effect ⟨_, status, user, rfl, is⟩
  exact ⟨status, user, is⟩

/-- Of the copies of a message, those to its own sender count. -/
theorem broadcastState_copies (channelId : Int) {answer : TizcordPacket} {handling : Handling}
    {nodes : List ClientNode} {gain : List Effect}
    (sent : List.Forall₂ (fun (node : ClientNode) effect => ∃ status user,
      effect = .sent node.socketFd answer status user) nodes gain)
    (asked : handling.packet.request = some (.channel .message))
    (copied : answer.request = some (.channel .message)) (messages : List Authored) :
    gain.foldl (Effect.broadcasts channelId) (some handling, messages) =
      (some handling, messages ++
        if answer.channelChannelId = channelId then
          (nodes.filter fun node => node.socketFd = handling.fd).map
            fun _ => (answer.senderId, answer.channelMessage [])
        else []) := by
  induction sent generalizing messages with
  | nil => simp
  | @cons node effect rest later is _ inductionHypothesis =>
    obtain ⟨status, user, rfl⟩ := is
    have own : IsOwnCopy channelId (some handling) node.socketFd answer ↔
        node.socketFd = handling.fd ∧ answer.channelChannelId = channelId := by
      constructor
      · rintro ⟨⟨_, same, target, -⟩, -, channel⟩
        obtain rfl := Option.some.inj same
        exact ⟨target.symm, channel⟩
      · rintro ⟨target, channel⟩
        exact ⟨⟨handling, rfl, target.symm, asked⟩, copied, channel⟩
    rw [List.foldl_cons, Effect.broadcasts]
    dsimp only
    rw [inductionHypothesis]
    by_cases channel : answer.channelChannelId = channelId
    · by_cases target : node.socketFd = handling.fd
      · rw [if_pos (own.mpr ⟨target, channel⟩), if_pos channel, if_pos channel,
          List.filter_cons, if_pos (by simpa using target), List.map_cons, List.append_assoc]
        rfl
      · rw [if_neg fun both => target (own.mp both).1, if_pos channel, if_pos channel,
          List.filter_cons, if_neg (by simpa using target)]
    · rw [if_neg fun both => channel (own.mp both).2, if_neg channel, if_neg channel]

/-- The copies go to the sender once. -/
theorem own_copies {ctx : ServerContext} (distinct : ctx.fds.Nodup)
    (inside : index < ctx.clients.length) (open' : 0 < (ctx.clientAt index).socketFd) :
    ((ctx.clients.filter fun node => 0 < node.socketFd).filter
      fun node => node.socketFd = (ctx.clientAt index).socketFd) = [ctx.clientAt index] := by
  have unique : UniqueOn ClientNode.socketFd ctx.clients := distinct
  rw [List.filter_comm, unique.filter_eq_singleton (clientAt_mem_of_lt inside),
    List.filter_cons, if_pos (by simpa using open'), List.filter_nil]

/-- A channel message goes to the open connections, and is then handed to the database. -/
theorem channelMessage_exact (env : Env) (beyond : List UInt8) (packet : TizcordPacket)
    (process : Process) {fd : Int} {node : ClientNode}
    (found : senderNode process.ctx fd = some node) :
    ∃ copies time status, (channelMessage env beyond packet fd process).trace =
        process.trace ++ (copies ++ [.called (.saveMessage packet.channelChannelId node.id
          (packet.channelMessage beyond) status)]) ∧
      dbSaveMessage (env.db time) process.ctx.db packet.channelChannelId node.id
          (packet.channelMessage beyond) =
        ((channelMessage env beyond packet fd process).ctx.db, status) ∧
      List.Forall₂ (fun other effect => ∃ status user, effect =
          .sent other.socketFd (stampChannelMessage (some node) packet) status user)
        (process.ctx.clients.filter fun other => 0 < other.socketFd) copies := by
  obtain ⟨channel, content⟩ := stampChannelMessage_same packet beyond (some node)
  obtain ⟨copies, logged, sent⟩ :=
    channelBroadcast_exact env (stampChannelMessage (some node) packet) process
  have same := @channelBroadcast_ctx env (stampChannelMessage (some node) packet) (-1) process
  rw [channelMessage, found]
  generalize channelBroadcast env (stampChannelMessage (some node) packet) (-1) process = after
    at logged same
  dsimp only
  rw [channel, content]
  generalize packet.channelChannelId = channelId
  generalize packet.channelMessage beyond = text
  refine ⟨copies, after.clock,
    (dbSaveMessage (env.db after.clock) after.ctx.db channelId node.id text).2, ?_, ?_, sent⟩
  · rw [Process.change_trace, logged, List.append_assoc]
    rfl
  · rw [← same]
    rfl

/-- With a database that does not fail, a message of a user is saved exactly when its channel
exists. -/
theorem dbSaveMessage_of_reliable {dbEnv : DbEnv} (reliable : dbEnv.Reliable) (database : Database)
    (channelId : Int) {userId : Int} (user : userId ∈ database.userIds)
    (room : maxRowid database.messageIds + 1 < 2 ^ 63) (content : Text) :
    (dbSaveMessage dbEnv database channelId userId content).2 = 0 ↔
      channelId ∈ database.channelIds := by
  obtain ⟨id, fresh, ran⟩ := runInsert_of_reliable reliable 0 database room fun id =>
    database.insertMessage ⟨id, channelId, userId, content, dbEnv.now⟩
  rw [dbSaveMessage, ran]
  constructor
  · intro saved
    cases inserted : database.insertMessage ⟨id, channelId, userId, content, dbEnv.now⟩ with
    | none =>
      rw [inserted] at saved
      exact absurd saved (show (-1 : Int) ≠ 0 by decide)
    | some after =>
      have tables := Database.commit_eq_some.mp inserted
      have references := after.integrity.messages_channel
      rw [tables] at references
      exact references ⟨id, channelId, userId, content, dbEnv.now⟩
        (List.mem_append_right _ List.mem_cons_self)
  · intro present
    have integrity : Tables.Integrity { database.toTables with
        messages := database.messages ++ [⟨id, channelId, userId, content, dbEnv.now⟩] } :=
      { database.integrity with
        messages_id := (uniqueOn_append_singleton _ _ _).mpr
          ⟨database.integrity.messages_id, fresh⟩
        messages_channel := (references_append_singleton _ _ _ _).mpr
          ⟨database.integrity.messages_channel, present⟩
        messages_user := (references_append_singleton _ _ _ _).mpr
          ⟨database.integrity.messages_user, user⟩ }
    rw [Database.insertMessage, Database.commit_of_integrity integrity]
    rfl

theorem saves_copies (channelId : Int) {answer : TizcordPacket} {nodes : List ClientNode}
    {gain : List Effect} (sent : List.Forall₂ (fun (node : ClientNode) effect => ∃ status user,
      effect = .sent node.socketFd answer status user) nodes gain) (messages : List Authored) :
    gain.foldl (Effect.saves channelId) messages = messages := by
  induction sent with
  | nil => rfl
  | cons is _ inductionHypothesis =>
    obtain ⟨status, user, rfl⟩ := is
    exact inductionHypothesis

/-- The record of a packet that was broadcast, and whose message was handed to the database. -/
theorem record_of_message (channelId : Int) {answer : TizcordPacket} (handling : Handling)
    {nodes : List ClientNode} {copies : List Effect} {own : ClientNode} {sentTo author : Int}
    {text : Text} (status : Int)
    (sent : List.Forall₂ (fun (node : ClientNode) effect => ∃ status user,
      effect = .sent node.socketFd answer status user) nodes copies)
    (asked : handling.packet.request = some (.channel .message))
    (copied : answer.request = some (.channel .message))
    (once : (nodes.filter fun node => node.socketFd = handling.fd) = [own])
    (place : answer.channelChannelId = sentTo) (sender : answer.senderId = author)
    (content : answer.channelMessage [] = text) (trace : List Effect) :
    let gain := Effect.handling handling.fd handling.packet handling.user ::
      (copies ++ [.called (.saveMessage sentTo author text status)])
    broadcastMessages channelId (trace ++ gain) =
        (if sentTo = channelId then broadcastMessages channelId trace ++ [(author, text)]
        else broadcastMessages channelId trace) ∧
      savedMessages channelId (trace ++ gain) =
        if sentTo = channelId ∧ status = 0 then savedMessages channelId trace ++ [(author, text)]
        else savedMessages channelId trace := by
  intro gain
  have broadcast := broadcastState_copies channelId sent asked copied
    (broadcastMessages channelId trace)
  have saved := saves_copies channelId sent (savedMessages channelId trace)
  rw [once, place, sender, content] at broadcast
  have opened : broadcastState channelId (trace ++ [Effect.handling handling.fd handling.packet
      handling.user]) = (some handling, broadcastMessages channelId trace) := by
    rw [broadcastState_append_singleton]
    rfl
  have state : broadcastState channelId (trace ++ gain) = (some handling,
      broadcastMessages channelId trace ++ if sentTo = channelId then [(author, text)] else []) := by
    rw [List.append_cons, ← List.append_assoc, broadcastState_append_singleton, broadcastState,
      List.foldl_append, ← broadcastState, opened, broadcast]
    rfl
  have same : savedMessages channelId (trace ++ [Effect.handling handling.fd handling.packet
      handling.user] ++ copies) = savedMessages channelId trace := by
    rw [savedMessages, List.foldl_append, ← savedMessages, savedMessages_append_singleton]
    exact saved
  constructor
  · rw [broadcastMessages, state]
    split
    · rfl
    · exact List.append_nil _
  · rw [List.append_cons, ← List.append_assoc, savedMessages_append_singleton, same]
    rfl

/-- A channel message of a user, with a text that ends in its field, and with an id left for its
row. -/
structure PlainMessage (ctx : ServerContext) (fd : Int) (packet : TizcordPacket) : Prop where
  user : (ctx.userOf fd).isSome
  terminated : (0 : UInt8) ∈ packet.channelMessageField
  room : maxRowid ctx.db.messageIds + 1 < 2 ^ 63

instance (ctx : ServerContext) (fd : Int) (packet : TizcordPacket) :
    Decidable (PlainMessage ctx fd packet) :=
  decidable_of_iff ((ctx.userOf fd).isSome ∧ (0 : UInt8) ∈ packet.channelMessageField ∧
      maxRowid ctx.db.messageIds + 1 < 2 ^ 63)
    ⟨fun ⟨user, terminated, room⟩ => ⟨user, terminated, room⟩,
      fun plain => ⟨plain.user, plain.terminated, plain.room⟩⟩

/-- The node that a plain message comes from is that of a user. -/
theorem PlainMessage.mem_userIds {ctx : ServerContext} (valid : ctx.Valid)
    (distinct : ctx.fds.Nodup) (inside : index < ctx.clients.length)
    (plain : PlainMessage ctx (ctx.clientAt index).socketFd packet) :
    (ctx.clientAt index).id ∈ ctx.db.userIds := by
  have user := plain.user
  rw [userOf_own distinct inside] at user
  split at user
  · next authenticated => exact (valid _ (clientAt_mem_of_lt inside)).user authenticated
  · cases user

/-- A channel message is broadcast once to its sender, and its channel gains it exactly when it is
saved. -/
theorem handlingGain_channelMessage (valid : process.ctx.Valid) (distinct : process.ctx.fds.Nodup)
    (inside : index < process.ctx.clients.length) (open' : 0 < (process.clientAt index).socketFd)
    (asked : packet.request = some (.channel .message))
    (plain : PlainMessage process.ctx (process.clientAt index).socketFd packet) :
    ∃ time status, dbSaveMessage (env.db time) process.ctx.db packet.channelChannelId
        (process.clientAt index).id (packet.channelMessage []) =
          ((processClientPacket env index packet process).ctx.db, status) ∧
      broadcastMessages channelId (trace ++ handlingGain env index packet process) =
        (if packet.channelChannelId = channelId then broadcastMessages channelId trace ++
          [((process.clientAt index).id, packet.channelMessage [])]
        else broadcastMessages channelId trace) ∧
      savedMessages channelId (trace ++ handlingGain env index packet process) =
        if packet.channelChannelId = channelId ∧ status = 0 then savedMessages channelId trace ++
          [((process.clientAt index).id, packet.channelMessage [])]
        else savedMessages channelId trace := by
  have known : (process.clientAt index).id ∈ process.ctx.db.userIds :=
    plain.mem_userIds valid distinct inside
  have content : packet.channelMessage (env.beyond process.clock) = packet.channelMessage [] := by
    rw [TizcordPacket.channelMessage, TizcordPacket.channelMessage,
      Image.text_of_terminated _ _ _ _ (by decide) plain.terminated,
      Image.text_of_terminated _ _ _ _ (by decide) plain.terminated]
  have sender : senderNode (process.log (.handling (process.clientAt index).socketFd packet
      (process.ctx.userOf (process.clientAt index).socketFd))).ctx
        (process.clientAt index).socketFd = some (process.clientAt index) :=
    senderNode_own distinct inside
  obtain ⟨copies, time, status, logged, saved, sent⟩ := channelMessage_exact env
    (env.beyond process.clock) packet _ sender
  rw [content] at logged saved
  have gain : handlingGain env index packet process =
      .handling (process.clientAt index).socketFd packet
        (process.ctx.userOf (process.clientAt index).socketFd) :: (copies ++
          [.called (.saveMessage packet.channelChannelId (process.clientAt index).id
            (packet.channelMessage []) status)]) := by
    have whole := processClientPacket_trace env index packet process
    rw [processClientPacket_channelMessage asked, logged, Process.log, List.append_assoc] at whole
    exact (List.append_cancel_left whole).symm
  obtain ⟨channel, text⟩ := stampChannelMessage_same packet [] (some (process.clientAt index))
  have author := stampChannelMessage_senderId packet (process.clientAt index)
  rw [signed_userId known] at author
  have copied := stampChannelMessage_request packet (some (process.clientAt index)) asked
  generalize stampChannelMessage (some (process.clientAt index)) packet = answer
    at channel text author copied sent
  refine ⟨time, status, ?_, ?_⟩
  · rw [processClientPacket_channelMessage asked]
    exact saved
  · rw [gain]
    exact record_of_message channelId ⟨(process.clientAt index).socketFd, packet,
      process.ctx.userOf (process.clientAt index).socketFd⟩ status sent asked copied
      (own_copies distinct inside open') channel author text trace

end Message

/-! ### Runs whose messages are all for channels that exist -/

/-- The packet is no channel message, or a plain one to a channel that exists. -/
def KeepsHistory (ctx : ServerContext) (fd : Int) (packet : TizcordPacket) : Prop :=
  packet.request = some (.channel .message) →
    PlainMessage ctx fd packet ∧ packet.channelChannelId ∈ ctx.db.channelIds

instance (ctx : ServerContext) (fd : Int) (packet : TizcordPacket) :
    Decidable (KeepsHistory ctx fd packet) :=
  inferInstanceAs (Decidable (_ → _))

section Run

variable {env : Env} {serverFd : Int} {machine : Machine} {loop : Loop} {readSet : Finset Int}
  {index : Nat} {packet : TizcordPacket}

/-- A channel message in a run, with the state before its handling. -/
theorem Handled.channelMessage {allowed : ServerContext → Int → TizcordPacket → Prop}
    (handled : Handled env allowed serverFd loop readSet index packet)
    (asked : packet.request = some (.channel .message))
    (plain : PlainMessage (receiveClient index loop).1.process.ctx
      (loop.process.clientAt index).socketFd packet) (channelId : Int) (trace : List Effect) :
    ∃ time status, dbSaveMessage (env.db time) (receiveClient index loop).1.process.ctx.db
        packet.channelChannelId ((receiveClient index loop).1.process.clientAt index).id
        (packet.channelMessage []) =
          ((processClientPacket env index packet (receiveClient index loop).1.process).ctx.db,
            status) ∧
      broadcastMessages channelId
          (trace ++ handlingGain env index packet (receiveClient index loop).1.process) =
        (if packet.channelChannelId = channelId then broadcastMessages channelId trace ++
          [(((receiveClient index loop).1.process.clientAt index).id, packet.channelMessage [])]
        else broadcastMessages channelId trace) ∧
      savedMessages channelId
          (trace ++ handlingGain env index packet (receiveClient index loop).1.process) =
        if packet.channelChannelId = channelId ∧ status = 0 then savedMessages channelId trace ++
          [(((receiveClient index loop).1.process.clientAt index).id, packet.channelMessage [])]
        else savedMessages channelId trace := by
  have received : (receiveClient index loop).1.Consistent :=
    receiveClient_consistent handled.reachable.consistent
  have sameFd := receiveClient_clientAt_fd handled.inside
  refine handlingGain_channelMessage received.valid received.distinct ?_ ?_ asked ?_
  · rw [receiveClient_length]
    exact handled.inside
  · rw [sameFd]
    exact handled.handed.ready.1
  · rw [sameFd]
    exact plain

/-- In a run whose channel messages are all for channels that exist, what is broadcast is
saved. -/
theorem ReachableWhen.agrees (reliable : env.Reliable)
    (reachable : ReachableWhen env KeepsHistory serverFd machine) (channelId : Int) :
    Agrees channelId machine.loop.process.trace := by
  refine reachable.trace_invariant rfl
    (fun past effect unrequested agrees => agrees.append_unrequested unrequested)
    fun loop readSet index packet handled agrees => ?_
  by_cases asked : packet.request = some (.channel .message)
  · obtain ⟨plain, present⟩ := handled.meets packet handled.handed asked
    obtain ⟨time, status, saved, broadcast, stored⟩ :=
      handled.channelMessage asked plain channelId (receiveClient index loop).1.process.trace
    have received : (receiveClient index loop).1.Consistent :=
      receiveClient_consistent handled.reachable.consistent
    have known := PlainMessage.mem_userIds received.valid received.distinct
      ((receiveClient_length index loop).symm ▸ handled.inside)
      (by
        rw [← Process.clientAt, receiveClient_clientAt_fd handled.inside]
        exact plain)
    have done : status = 0 := by
      have cases := (dbSaveMessage_of_reliable (reliable time) _ _ known plain.room
        (packet.channelMessage [])).mpr present
      rw [← Process.clientAt, saved] at cases
      exact cases
    rw [Agrees, broadcast, stored, agrees]
    simp only [done, and_true]
  · exact agrees.handlingGain asked

/-- The text of a message that is saved in such a run ends in the field of its packet. -/
theorem ReachableWhen.short (reachable : ReachableWhen env KeepsHistory serverFd machine)
    {channelId : Int} {message : Authored}
    (saved : message ∈ savedMessages channelId machine.loop.process.trace) :
    message.2.bytes.length ≤ messageLen - 1 := by
  obtain ⟨loop, readSet, index, packet, handled, gained, -⟩ := reachable.origin
    (show Effect.Requested (.called _) from trivial) (called_of_mem_savedMessages saved)
  obtain ⟨ctx, -, -, content, asked⟩ := permitted_of_gain gained
  have plain := (handled.meets packet handled.handed asked).1
  rw [content, TizcordPacket.channelMessage,
    Image.text_of_terminated _ _ _ _ (by decide) plain.terminated]
  have short := length_cString_lt plain.terminated
  rw [TizcordPacket.channelMessageField, Image.length_slice] at short
  exact Nat.le_sub_one_of_lt short

end Run

/-! ### What a history returns -/

/-- A query for the history of a channel finds the messages that are stored for it. -/
theorem dbListChannelMessages_perm {dbEnv : DbEnv} (reliable : dbEnv.Reliable)
    (database : Database) (channelId : Int) :
    ((dbListChannelMessages dbEnv database channelId).1.map fun row =>
        (row.username, row.content)).Perm
      ((database.storedMessages channelId).map fun message =>
        (database.nameOf message.1, message.2)) := by
  have joined : (((database.messages.filter fun row => row.channelId = channelId).flatMap
        fun message => (database.users.filter fun user => (user.id : Int) = message.userId).map
          fun user => (message, user)).map fun row => (row.2.username, row.1.content)) =
      (database.messages.filter fun row => row.channelId = channelId).map
        fun row => (database.nameOf row.userId, row.content) := by
    refine (database.integrity.messages_user.filter _).map_join_eq database.integrity.users_id
      fun row other member same => ?_
    rw [← same, database.nameOf_eq member]
  unfold dbListChannelMessages
  rw [reliable.prepare, if_neg Bool.false_ne_true]
  dsimp only
  rw [reliable.allRows, List.map_map, Tables.storedMessages, List.map_map]
  exact ((List.perm_insertionSort _ _).map _).trans (.of_eq joined)

/-- The message that an effect shows on a connection, as an item of a history. -/
def Effect.returned (fd : Int) : Effect → Option (Text × Text)
  | .sent target copy _ _ =>
    if target = fd ∧ copy.listFrame = ListFrameType.middle.code then
      some (copy.channelChannelName [], copy.channelMessage [])
    else none
  | _ => none

/-- The messages of the items that are sent on a connection: the names of the authors, and the
texts. -/
def returnedMessages (fd : Int) (effects : List Effect) : List (Text × Text) :=
  effects.filterMap (Effect.returned fd)

theorem returnedMessages_append (fd : Int) (first second : List Effect) :
    returnedMessages fd (first ++ second) =
      returnedMessages fd first ++ returnedMessages fd second :=
  List.filterMap_append

theorem returnedMessages_frame {fd : Int} {user : Option Int} {copy : TizcordPacket}
    {effects : List Effect} {frame : ListFrameType} (is : IsFrame frame copy)
    (other : frame ≠ .middle) (sent : Delivers fd user [copy] effects) :
    returnedMessages fd effects = [] := by
  obtain ⟨effect, rest, ⟨status, rfl⟩, last, rfl⟩ := List.forall₂_cons_left_iff.mp sent
  obtain rfl := List.forall₂_nil_left_iff.mp last
  have skipped : ¬ (fd = fd ∧ copy.listFrame = ListFrameType.middle.code) := by
    rintro ⟨-, middle⟩
    rw [IsFrame.eq_1] at is
    rw [is] at middle
    cases frame <;> first | exact absurd rfl other | exact absurd middle (by decide)
  rw [returnedMessages, List.filterMap_cons_none (by rw [Effect.returned, if_neg skipped]),
    List.filterMap_nil]

theorem returnedMessages_items {fd channelId : Int} {user : Option Int}
    {rows : List MessageListRow} {copies : List TizcordPacket} {effects : List Effect}
    (carried : List.Forall₂ (CarriesMessage channelId) rows copies)
    (sent : Delivers fd user copies effects) :
    returnedMessages fd effects = rows.map fun row =>
      (row.username.take (maxNameLen - 1), row.content.take (messageLen - 1)) := by
  induction carried generalizing effects with
  | nil =>
    obtain rfl := List.forall₂_nil_left_iff.mp sent
    rfl
  | @cons row copy rows copies carries _ inductionHypothesis =>
    obtain ⟨effect, rest, ⟨status, rfl⟩, sentRest, rfl⟩ := List.forall₂_cons_left_iff.mp sent
    have item : Effect.returned fd (.sent fd copy status user) =
        some (row.username.take (maxNameLen - 1), row.content.take (messageLen - 1)) := by
      rw [Effect.returned, if_pos ⟨rfl, carries.frame⟩, carries.author, carries.text]
    rw [returnedMessages, List.filterMap_cons_some item, List.map_cons]
    exact congrArg _ (inductionHypothesis sentRest)

/-- A request for the history of a channel returns the messages that are stored for it, each cut to
the size of its fields. -/
theorem returnedMessages_perm {env : Env} (reliable : env.Reliable) (index : Nat)
    {packet : TizcordPacket} (process : Process)
    (asked : packet.request = some (.channel .historyRequest)) :
    (returnedMessages (process.clientAt index).socketFd
        (handlingGain env index packet process)).Perm
      ((process.ctx.db.storedMessages packet.channelChannelId).map fun message =>
        ((process.ctx.db.nameOf message.1).take (maxNameLen - 1),
          message.2.take (messageLen - 1))) := by
  have handled := processClientPacket_channelHistory env index process asked
  obtain ⟨copies, stream, sends⟩ := channelHistory_sends env packet
    (process.clientAt index).socketFd (process.log (.handling (process.clientAt index).socketFd
      packet (process.ctx.userOf (process.clientAt index).socketFd)))
  obtain ⟨effects, gain, delivers⟩ := sends.handlingGain handled
  obtain ⟨first, items, last, rfl, opens, carried, closes⟩ := stream.split
  rw [← List.singleton_append] at delivers
  obtain ⟨opened, rest, rfl, opening, sent⟩ := delivers.split
  obtain ⟨middle, closed, rfl, sentItems, closing⟩ := sent.split
  have found := (dbListChannelMessages_perm (reliable (process.clock + 1)) process.ctx.db
    packet.channelChannelId).map fun item : Text × Text =>
      (item.1.take (maxNameLen - 1), item.2.take (messageLen - 1))
  rw [List.map_map, List.map_map] at found
  rw [gain, ← List.singleton_append, returnedMessages_append, returnedMessages_append,
    returnedMessages_append, returnedMessages_frame opens nofun opening,
    returnedMessages_items carried sentItems, returnedMessages_frame closes nofun closing,
    List.append_nil, List.nil_append]
  exact found

/-! ### A channel with one message -/

/-- A packet about the first channel of the first server, with the text `b`. -/
def firstChannelPacket (action : ChannelAction) : TizcordPacket :=
  let packet := TizcordPacket.setType Image.zero .channel
  let packet := packet.setChannelAction action.code
  let packet := packet.setChannelServerId 1
  let packet := packet.setChannelChannelId 1
  packet.strncpyChannelMessage Text.letterB

/-- A user registers, does something, and sends the message `b`. -/
def messageEvents (packets : List TizcordPacket) : List Event :=
  .round ⟨{3}, [.connected 4 ⟨(registerPacket :: packets).flatMap clientBytes,
      (registerPacket :: packets).map fun _ => .count 1000⟩]⟩ ::
    packets.map fun _ => .round ⟨{4}, []⟩

/-- The loop of the server when the last of these packets is about to be received. -/
def messageLoop (packets : List TizcordPacket) : Loop :=
  runServer Env.ideal 3 (messageEvents packets)

theorem messageLoop_handled {allowed : ServerContext → Int → TizcordPacket → Prop}
    (test : ServerContext → Int → TizcordPacket → Bool)
    (sound : ∀ ctx fd packet, test ctx fd packet = true → allowed ctx fd packet)
    (packets : List TizcordPacket)
    (meets : runMeets Env.ideal test (messageEvents packets) (startLoop 3 Database.empty 0 []) =
      true)
    (ready : selectReady (messageLoop packets) {4} = {4})
    (open' : 0 < (messageLoop packets).process.ctx.clients.length ∧
      ((messageLoop packets).process.clientAt 0).socketFd = 4) (holds : TizcordPacket → Bool)
    (received : (receiveClient 0 (messageLoop packets)).2.packet?.any (fun packet =>
      test (receiveClient 0 (messageLoop packets)).1.process.ctx 4 packet && holds packet) = true) :
    ∃ packet, Handled Env.ideal allowed 3 (messageLoop packets) {4} 0 packet ∧
      holds packet = true :=
  runServer_handled test sound (messageEvents packets) (Finset.mem_singleton_self 4) meets ready
    open' holds received

/-! ### Main theorem -/

/-- Every open connection is sent the message. -/
def Broadcasts (env : Env) (index : Nat) (packet : TizcordPacket) (process : Process) : Prop :=
  ∀ node ∈ process.ctx.clients, 0 < node.socketFd → ∃ copy,
    Sends env index packet process node.socketFd copy ∧
      copy.channelMessage [] = packet.channelMessage []

/-- The channel of the message gains it. -/
def Stores (env : Env) (index : Nat) (packet : TizcordPacket) (process : Process) : Prop :=
  (processClientPacket env index packet process).ctx.db.storedMessages packet.channelChannelId =
    process.ctx.db.storedMessages packet.channelChannelId ++
      [((process.clientAt index).id, packet.channelMessage [])]

/-- The channel was created, and is no longer there. -/
def DeletedChannel (channelId : Int) (process : Process) : Prop :=
  CreatedChannel channelId process.trace ∧ channelId ∉ process.ctx.db.channelIds

section Main

variable {env : Env} {serverFd : Int} {loop : Loop} {readSet : Finset Int} {index : Nat}
  {packet : TizcordPacket}

theorem broadcasts_of_channelMessage (env : Env) (index : Nat) (process : Process)
    (asked : packet.request = some (.channel .message)) : Broadcasts env index packet process := by
  intro node member open'
  have inLog : node ∈ (process.log (.handling (process.clientAt index).socketFd packet
      (process.ctx.userOf (process.clientAt index).socketFd))).ctx.clients := member
  obtain ⟨gain, copy, status, user, logged, sent⟩ := channelMessage_sends env
    (env.beyond process.clock) packet (process.clientAt index).socketFd inLog open'
  have sends : Sends env index packet process node.socketFd copy := by
    refine ⟨status, user, ?_⟩
    rw [processClientPacket_channelMessage asked, logged, Process.log, List.append_assoc,
      List.drop_left]
    exact List.mem_append_right _ sent
  refine ⟨copy, sends, ?_⟩
  rw [copy_of_channelMessage asked sends]
  exact (stampChannelMessage_same packet [] _).2

/-- A plain message is stored exactly when its channel exists. -/
theorem Handled.stores_iff {allowed : ServerContext → Int → TizcordPacket → Prop}
    (reliable : env.Reliable) (handled : Handled env allowed serverFd loop readSet index packet)
    (asked : packet.request = some (.channel .message))
    (plain : PlainMessage (receiveClient index loop).1.process.ctx
      (loop.process.clientAt index).socketFd packet) :
    Stores env index packet (receiveClient index loop).1.process ↔
      packet.channelChannelId ∈ (receiveClient index loop).1.process.ctx.db.channelIds := by
  obtain ⟨time, status, saved, -⟩ := handled.channelMessage asked plain 0 []
  have received : (receiveClient index loop).1.Consistent :=
    receiveClient_consistent handled.reachable.consistent
  have known := PlainMessage.mem_userIds received.valid received.distinct
    ((receiveClient_length index loop).symm ▸ handled.inside)
    (by
      rw [← Process.clientAt, receiveClient_clientAt_fd handled.inside]
      exact plain)
  have done := dbSaveMessage_of_reliable (reliable time) _ packet.channelChannelId known plain.room
    (packet.channelMessage [])
  rw [← Process.clientAt, saved] at done
  rw [← done, Stores]
  rcases dbSaveMessage_cases saved with ⟨is, id, inserted⟩ | ⟨is, same⟩
  · have tables := Database.commit_eq_some.mp inserted
    rw [is, tables, Tables.storedMessages_insert, if_pos rfl]
    exact iff_of_true rfl rfl
  · rw [is, same]
    refine iff_of_false (fun grown => ?_) (show (-1 : Int) ≠ 0 by decide)
    have length := congrArg List.length grown
    rw [List.length_append, List.length_singleton] at length
    exact absurd length (Nat.ne_of_lt (Nat.lt_succ_self _))

end Main

/-- A plain channel message is stored when it is broadcast, and not otherwise, exactly when its
channel exists; and in a run whose channel messages are all plain ones to channels that exist, the
history of a channel that was not deleted returns what was broadcast in it. -/
theorem history_keeps_broadcasts (env : Env) (reliable : env.Reliable) (serverFd : Int) :
    (∀ loop readSet index packet, Handled env (fun _ _ _ => True) serverFd loop readSet index packet →
      packet.request = some (.channel .message) →
      PlainMessage (receiveClient index loop).1.process.ctx
        (loop.process.clientAt index).socketFd packet →
      ((Broadcasts env index packet (receiveClient index loop).1.process ↔
          Stores env index packet (receiveClient index loop).1.process) ↔
        packet.channelChannelId ∈ (receiveClient index loop).1.process.ctx.db.channelIds)) ∧
    ∀ loop readSet index packet, Handled env KeepsHistory serverFd loop readSet index packet →
      packet.request = some (.channel .historyRequest) →
      ¬ DeletedChannel packet.channelChannelId loop.process →
      (returnedMessages (loop.process.clientAt index).socketFd
          (handlingGain env index packet (receiveClient index loop).1.process)).Perm
        ((broadcastMessages packet.channelChannelId loop.process.trace).map fun message =>
          ((loop.process.ctx.db.nameOf message.1).take (maxNameLen - 1), message.2)) := by
  constructor
  · intro loop readSet index packet handled asked plain
    have broadcasts := broadcasts_of_channelMessage env index
      (receiveClient index loop).1.process asked
    rw [← handled.stores_iff reliable asked plain]
    exact ⟨fun same => same.mp broadcasts, fun stores => iff_of_true broadcasts stores⟩
  · intro loop readSet index packet handled asked kept
    have returned := returnedMessages_perm reliable index (receiveClient index loop).1.process asked
    have agrees := handled.reachable.agrees reliable packet.channelChannelId
    have stored : loop.process.ctx.db.storedMessages packet.channelChannelId =
        savedMessages packet.channelChannelId loop.process.trace := by
      by_cases present : packet.channelChannelId ∈ loop.process.ctx.db.channelIds
      · exact handled.reachable.storedMessages present
      · by_contra some
        rw [Database.storedMessages_of_not_mem present] at some
        exact kept ⟨(handled.reachable.createdChannel _).2 (Ne.symm some), present⟩
    have whole : ∀ message ∈ savedMessages packet.channelChannelId loop.process.trace,
        message.2.take (messageLen - 1) = message.2 :=
      fun message saved => Text.take_of_length_le (handled.reachable.short saved)
    have database : (receiveClient index loop).1.process.ctx.db = loop.process.ctx.db := rfl
    rw [receiveClient_clientAt_fd handled.inside, database, stored] at returned
    rw [Agrees.eq_1] at agrees
    rw [agrees]
    refine returned.trans (.of_eq (List.map_congr_left fun message saved => ?_))
    rw [whole message saved]

/-- The user creates a server with a channel, writes to it, and asks for its history. -/
def keptPackets : List TizcordPacket :=
  [createServerPacket, firstChannelPacket .create, firstChannelPacket .message,
    firstChannelPacket .historyRequest]

theorem keptPackets_handled : ∃ packet,
    Handled Env.ideal KeepsHistory 3 (messageLoop keptPackets) {4} 0 packet ∧
      packet.request = some (.channel .historyRequest) ∧ packet.channelChannelId = 1 := by
  obtain ⟨packet, handled, holds⟩ := messageLoop_handled
    (fun ctx fd packet => KeepsHistory ctx fd packet) (fun _ _ _ => of_decide_eq_true) keptPackets
    (by decide +kernel) (by decide +kernel) (by decide +kernel)
    (fun packet => packet.request = some (.channel .historyRequest) && packet.channelChannelId = 1)
    (by decide +kernel)
  rw [Bool.and_eq_true] at holds
  exact ⟨packet, handled, of_decide_eq_true holds.1, of_decide_eq_true holds.2⟩

/-- The history returns the message with the name of its author. -/
theorem history_keeps_broadcasts_channel : ∃ packet, (returnedMessages 4 (handlingGain Env.ideal 0
    packet (receiveClient 0 (messageLoop keptPackets)).1.process)).Perm
      [(Text.letterA, Text.letterB)] := by
  obtain ⟨packet, handled, asked, channel⟩ := keptPackets_handled
  have returned := (history_keeps_broadcasts Env.ideal Env.ideal_reliable 3).2 _ _ _ packet handled
    asked
  have there : (1 : Int) ∈ (messageLoop keptPackets).process.ctx.db.channelIds := by decide +kernel
  have own : ((messageLoop keptPackets).process.clientAt 0).socketFd = 4 := by decide +kernel
  have broadcast : ((broadcastMessages 1 (messageLoop keptPackets).process.trace).map fun message =>
      (((messageLoop keptPackets).process.ctx.db.nameOf message.1).take (maxNameLen - 1),
        message.2)) = [(Text.letterA, Text.letterB)] := by decide +kernel
  rw [channel, own, broadcast] at returned
  exact ⟨packet, returned fun deleted => deleted.2 there⟩

/-- The user writes to the first channel, which nobody has created. -/
theorem strayPacket_handled : ∃ packet, Handled Env.ideal (fun _ _ _ => True) 3
    (messageLoop [firstChannelPacket .message]) {4} 0 packet ∧
      packet.request = some (.channel .message) ∧
      PlainMessage (receiveClient 0 (messageLoop [firstChannelPacket .message])).1.process.ctx
        ((messageLoop [firstChannelPacket .message]).process.clientAt 0).socketFd packet ∧
      packet.channelChannelId = 1 := by
  have own : ((messageLoop [firstChannelPacket .message]).process.clientAt 0).socketFd = 4 := by
    decide +kernel
  obtain ⟨packet, handled, holds⟩ := messageLoop_handled (fun _ _ _ => true)
    (fun _ _ _ _ => trivial) [firstChannelPacket .message] (by decide +kernel) (by decide +kernel)
    (by decide +kernel) (fun packet => packet.request = some (.channel .message) &&
      (decide (PlainMessage (receiveClient 0 (messageLoop [firstChannelPacket .message])).1.process.ctx
        4 packet) && packet.channelChannelId = 1)) (by decide +kernel)
  rw [Bool.and_eq_true, Bool.and_eq_true] at holds
  rw [own]
  exact ⟨packet, handled, of_decide_eq_true holds.1, of_decide_eq_true holds.2.1,
    of_decide_eq_true holds.2.2⟩

/-- A message to a channel that does not exist is broadcast, and stored nowhere. -/
theorem broadcast_without_history :
    ¬ ∀ (env : Env), env.Reliable → ∀ serverFd loop readSet index packet,
      Handled env (fun _ _ _ => True) serverFd loop readSet index packet →
      packet.request = some (.channel .message) →
      PlainMessage (receiveClient index loop).1.process.ctx
        (loop.process.clientAt index).socketFd packet →
      (Broadcasts env index packet (receiveClient index loop).1.process ↔
        Stores env index packet (receiveClient index loop).1.process) := by
  intro claim
  obtain ⟨packet, handled, asked, plain, channel⟩ := strayPacket_handled
  have stores := (claim Env.ideal Env.ideal_reliable 3 _ _ _ packet handled asked plain).mp
    (broadcasts_of_channelMessage Env.ideal 0 _ asked)
  have there := (handled.stores_iff Env.ideal_reliable asked plain).mp stores
  rw [channel] at there
  exact absurd there (by decide +kernel)

end Tizcord
