/-
This file is about what users write to each other. Where the database does not
fail, every direct message of a user to a registered one is saved when it is handled:
a history is the end of the correspondence at its time, and what is forwarded to the
connection after it is the rest.
-/

import Tizcord.Server.LiveMessages

namespace Tizcord

open CModel

/-! ### The correspondence on record -/

/-- The users that are registered, and the direct messages that users have sent to them. -/
structure Mail where
  users : List Int
  sent : List DirectMessage

/-- The direct message that a packet of a user is, with its text as far as the field goes. -/
def directMessageOf (packet : TizcordPacket) (senderId : Int) : DirectMessage :=
  ⟨senderId, packet.dmRecipientId, (packet.dmMessage []).take (messageLen - 1)⟩

/-- A message counts when the server handles it for a user, and its recipient is registered. -/
def Mail.next (mail : Mail) : Effect → Mail
  | .called call => { mail with users := mail.users ++ call.account.toList.map Account.userId }
  | .handling _ packet sender =>
    if packet.request = some (.dm .message) ∧ packet.dmRecipientId ∈ mail.users then
      { mail with sent := mail.sent ++ sender.toList.map (directMessageOf packet) }
    else mail
  | .sent .. | .hashed .. | .started | .accepted .. | .rejected _ | .received .. | .closed _ => mail

def mailOf (trace : List Effect) : Mail :=
  trace.foldl Mail.next ⟨[], []⟩

/-- The direct messages that two users have exchanged. -/
def exchanged (userId friendId : Int) (trace : List Effect) : List DirectMessage :=
  (mailOf trace).sent.filter (DirectMessage.between userId friendId)

/-- The lines that a friend has sent to a user. -/
def sentTo (userId friendId : Int) (trace : List Effect) : List Line :=
  ((mailOf trace).sent.filter fun message =>
    message.senderId = friendId && message.receiverId = userId).map
      fun message => (message.senderId, message.content)

theorem Mail.next_saveDirectMessage (mail : Mail) (senderId receiverId status : Int)
    (content : Text) :
    mail.next (.called (.saveDirectMessage senderId receiverId content status)) = mail :=
  congrArg (fun users => { mail with users }) (List.append_nil _)

theorem Mail.next_sent (mail : Mail) (fd : Int) (packet : TizcordPacket) (status : Int)
    (user : Option Int) : mail.next (.sent fd packet status user) = mail := rfl

/-- A message to somebody who is registered counts if it is from a user. -/
theorem Mail.next_handling {mail : Mail} {packet : TizcordPacket}
    (asked : packet.request = some (.dm .message)) (receiver : packet.dmRecipientId ∈ mail.users)
    (fd : Int) (sender : Option Int) : mail.next (.handling fd packet sender) =
      { mail with sent := mail.sent ++ sender.toList.map (directMessageOf packet) } := by
  rw [Mail.next, if_pos ⟨asked, receiver⟩]

theorem Mail.next_handling_of_not {mail : Mail} {packet : TizcordPacket}
    (other : packet.request = some (.dm .message) → packet.dmRecipientId ∉ mail.users) (fd : Int)
    (sender : Option Int) : mail.next (.handling fd packet sender) = mail := by
  rw [Mail.next, if_neg fun both => other both.1 both.2]

theorem mailOf_append (trace effects : List Effect) :
    mailOf (trace ++ effects) = effects.foldl Mail.next (mailOf trace) :=
  List.foldl_append

theorem mailOf_append_singleton (trace : List Effect) (effect : Effect) :
    mailOf (trace ++ [effect]) = (mailOf trace).next effect :=
  mailOf_append trace [effect]

theorem exchanged_comm (userId friendId : Int) (trace : List Effect) :
    exchanged friendId userId trace = exchanged userId friendId trace := by
  refine List.filter_congr fun message _ => ?_
  rw [DirectMessage.between, DirectMessage.between, Bool.or_comm]

/-! ### Saving a message -/

section Saving

variable {dbEnv : DbEnv} {before after : Database} {senderId receiverId status : Int}
  {content : Text}

/-- An id is left for the next direct message. -/
def Tables.HasRoom (tables : Tables) : Prop :=
  maxRowid tables.directMessageIds + 1 < 2 ^ 63

instance (tables : Tables) : Decidable tables.HasRoom :=
  inferInstanceAs (Decidable (_ < _))

theorem Tables.HasRoom.of_subset {tables other : Tables} (room : other.HasRoom)
    (subset : tables.directMessageIds ⊆ other.directMessageIds) : tables.HasRoom := by
  have bound : maxRowid tables.directMessageIds ≤ maxRowid other.directMessageIds :=
    maxRowid_le (maxRowid_nonneg _) fun id member => le_maxRowid (subset member)
  rw [HasRoom] at room ⊢
  omega

/-- Only a message between users can be saved. -/
theorem dbSaveDirectMessage_known
    (ran : dbSaveDirectMessage dbEnv before senderId receiverId content = (after, 0)) :
    senderId ∈ before.userIds ∧ receiverId ∈ before.userIds := by
  rcases dbSaveDirectMessage_cases ran with ⟨-, id, inserted, -⟩ | ⟨failed, -⟩
  · have tables := Database.commit_eq_some.mp inserted
    have sender := after.integrity.direct_sender
    have receiver := after.integrity.direct_receiver
    rw [tables] at sender receiver
    exact ⟨((references_append_singleton _ _ _ _).mp sender).2,
      ((references_append_singleton _ _ _ _).mp receiver).2⟩
  · cases failed

/-- Without failures a message between users is saved. -/
theorem dbSaveDirectMessage_of_reliable (reliable : dbEnv.Reliable) (room : before.HasRoom)
    (sender : senderId ∈ before.userIds) (receiver : receiverId ∈ before.userIds)
    (ran : dbSaveDirectMessage dbEnv before senderId receiverId content = (after, status)) :
    status = 0 := by
  obtain ⟨id, fresh, inserts⟩ := runInsert_of_reliable reliable 0 before room fun id =>
    before.insertDirectMessage ⟨id, senderId, receiverId, content, dbEnv.now⟩
  have integrity : Tables.Integrity { before.toTables with
      directMessages := before.directMessages ++
        [⟨id, senderId, receiverId, content, dbEnv.now⟩] } :=
    { before.integrity with
      direct_id := (uniqueOn_append_singleton _ _ _).mpr ⟨before.integrity.direct_id, fresh⟩
      direct_sender := (references_append_singleton _ _ _ _).mpr
        ⟨before.integrity.direct_sender, sender⟩
      direct_receiver := (references_append_singleton _ _ _ _).mpr
        ⟨before.integrity.direct_receiver, receiver⟩ }
  have inserted : before.insertDirectMessage ⟨id, senderId, receiverId, content, dbEnv.now⟩ =
      some ⟨_, integrity⟩ := Database.commit_of_integrity integrity
  rw [dbSaveDirectMessage, inserts, inserted] at ran
  exact (congrArg Prod.snd ran).symm

end Saving

/-! ### Messages in the table -/

/-- A row as it is shown in a history. -/
def DirectMessageRow.shown (row : DirectMessageRow) : DirectMessage :=
  ⟨row.senderId, row.receiverId, row.content.take (messageLen - 1)⟩

/-- The tables agree with the record about the users, and about the direct messages as long as
there was room for them. -/
structure MailAgrees (database : Database) (trace : List Effect) : Prop where
  users : (mailOf trace).users = database.userIds
  sent : database.HasRoom →
    (mailOf trace).sent = database.directMessages.map DirectMessageRow.shown

section Agreement

variable {env : Env} {trace : List Effect} {effect : Effect} {database before after : Database}
  {packet : TizcordPacket}

/-- An effect that the record of the mail does not mention. -/
theorem MailAgrees.idle (agrees : MailAgrees database trace)
    (unread : (mailOf trace).next effect = mailOf trace) :
    MailAgrees database (trace ++ [effect]) := by
  have same : mailOf (trace ++ [effect]) = mailOf trace :=
    (mailOf_append_singleton trace effect).trans unread
  refine ⟨?_, ?_⟩ <;> rw [same]
  · exact agrees.users
  · exact agrees.sent

/-- A call that saves no direct message. -/
theorem MailAgrees.call {time : DbEnv} {call : DbCall} (agrees : MailAgrees before trace)
    (runs : call.Runs time before after) (other : (Effect.called call).savesDirect = none) :
    MailAgrees after (trace ++ [.called call]) := by
  have messages : after.directMessages = before.directMessages := by
    rcases runs.directMessages with ⟨-, same⟩ | ⟨row, saves, -⟩
    · exact same
    · rw [other] at saves
      cases saves
  have next : mailOf (trace ++ [.called call]) =
      { mailOf trace with
        users := (mailOf trace).users ++ call.account.toList.map Account.userId } :=
    mailOf_append_singleton ..
  refine ⟨?_, fun room => ?_⟩ <;> rw [next]
  · dsimp only
    rw [agrees.users, Tables.userIds_eq, Tables.userIds_eq, runs.accounts, List.map_append]
  · rw [messages]
    refine agrees.sent ?_
    rwa [Tables.HasRoom, Tables.directMessageIds, ← messages]

/-- What is done for a packet that is no direct message keeps the agreement. -/
theorem HandlerStep.mail {fd : Int} {beyond : List UInt8} {first last : ServerContext}
    {effects : List Effect} (step : HandlerStep env fd beyond packet first effects last)
    (other : packet.request ≠ some (.dm .message)) (agrees : MailAgrees first.db trace) :
    MailAgrees last.db (trace ++ effects) := by
  cases step with
  | reply | broadcast | forward | history | hash => exact agrees.idle rfl
  | @call _ _ call permitted runs =>
    refine agrees.call runs ?_
    cases call with
    | saveDirectMessage => exact absurd permitted.2.2.2 other
    | _ => rfl
  | look | session =>
    rw [List.append_nil]
    exact agrees

theorem Acts.mail {fd : Int} {beyond : List UInt8} {first last : Process}
    (acts : Acts env fd beyond packet first last)
    (other : packet.request ≠ some (.dm .message)) (agrees : MailAgrees first.ctx.db first.trace) :
    MailAgrees last.ctx.db last.trace :=
  Takes.invariant_log (fun ctx past => MailAgrees ctx.db past) (fun step held => step.mail other held)
    acts agrees

end Agreement

section Messages

variable {env : Env} {index : Nat} {packet : TizcordPacket} {process : Process}

/-- What the handling of a direct message makes of the record. -/
theorem mailOf_directMessage (asked : packet.request = some (.dm .message))
    (distinct : process.ctx.fds.Nodup) (inside : index < process.ctx.clients.length) :
    mailOf (processClientPacket env index packet process).trace =
      (mailOf process.trace).next (.handling (process.clientAt index).socketFd packet
        (process.ctx.userOf (process.clientAt index).socketFd)) := by
  obtain ⟨status, forwards, gain, forwarded, -⟩ :=
    @handlingGain_directMessage env index packet process asked distinct inside
  rw [processClientPacket_trace, gain, mailOf_append, List.foldl_cons, List.foldl_cons,
    Mail.next_saveDirectMessage]
  rcases forwarded with ⟨-, rfl⟩ | ⟨node, sent, user, -, rfl⟩
  · rw [List.foldl_nil]
  · rw [List.foldl_cons, List.foldl_nil, Mail.next_sent]

/-- A direct message counts when it is from a user to a registered one. -/
theorem mailOf_directMessage_cases (asked : packet.request = some (.dm .message))
    (distinct : process.ctx.fds.Nodup) (inside : index < process.ctx.clients.length)
    (users : (mailOf process.trace).users = process.ctx.db.userIds) :
    mailOf (processClientPacket env index packet process).trace =
      if (process.clientAt index).isAuthenticated = true ∧
          packet.dmRecipientId ∈ process.ctx.db.userIds then
        { mailOf process.trace with
          sent := (mailOf process.trace).sent ++
            [directMessageOf packet (process.clientAt index).id] }
      else mailOf process.trace := by
  have user : process.ctx.userOf (process.clientAt index).socketFd =
      if (process.clientAt index).isAuthenticated then some (process.clientAt index).id else none :=
    userOf_own distinct inside
  rw [mailOf_directMessage asked distinct inside, user]
  by_cases receiver : packet.dmRecipientId ∈ process.ctx.db.userIds
  · rw [Mail.next_handling asked (users.symm ▸ receiver)]
    cases authenticated : (process.clientAt index).isAuthenticated with
    | true =>
      rw [if_pos rfl, if_pos ⟨rfl, receiver⟩]
      rfl
    | false =>
      rw [if_neg Bool.false_ne_true, if_neg fun both => Bool.false_ne_true both.1]
      exact congrArg (fun sent => { mailOf process.trace with sent }) (List.append_nil _)
  · rw [Mail.next_handling_of_not fun _ known => receiver (users ▸ known),
      if_neg fun both => receiver both.2]

/-- A direct message is saved when it is from a user to a registered one. -/
theorem processClientPacket_mail (reliable : env.Reliable)
    (asked : packet.request = some (.dm .message)) (distinct : process.ctx.fds.Nodup)
    (valid : process.ctx.Valid) (inside : index < process.ctx.clients.length)
    (agrees : MailAgrees process.ctx.db process.trace) :
    MailAgrees (processClientPacket env index packet process).ctx.db
      (processClientPacket env index packet process).trace := by
  have mail := @mailOf_directMessage_cases env index packet process asked distinct inside agrees.users
  obtain ⟨status, -, -, -, stored⟩ :=
    @handlingGain_directMessage env index packet process asked distinct inside
  have member := clientAt_mem_of_lt inside
  have text : (packet.dmMessage (env.beyond process.clock)).take (messageLen - 1) =
      (packet.dmMessage []).take (messageLen - 1) :=
    (Image.take_text packet _ (by decide)).trans (Image.take_text packet [] (by decide)).symm
  by_cases counts : (process.clientAt index).isAuthenticated = true ∧
      packet.dmRecipientId ∈ process.ctx.db.userIds
  · rw [if_pos counts] at mail
    have saves : process.ctx.db.HasRoom → status = 0 := fun room =>
      dbSaveDirectMessage_of_reliable (reliable _) room ((valid _ member).user counts.1) counts.2
        stored
    rcases dbSaveDirectMessage_cases stored with ⟨-, id, inserted, -⟩ | ⟨failed, same⟩
    · have tables := Database.commit_eq_some.mp inserted
      refine ⟨?_, fun room => ?_⟩ <;> rw [mail, tables]
      · exact agrees.users
      · have earlier : process.ctx.db.HasRoom := by
          rw [tables] at room
          refine room.of_subset ?_
          rw [Tables.directMessageIds, Tables.directMessageIds, List.map_append]
          exact List.subset_append_left _ _
        dsimp only
        rw [agrees.sent earlier, List.map_append, List.map_singleton, directMessageOf, ← text,
          DirectMessageRow.shown]
    · refine ⟨?_, fun room => ?_⟩ <;> rw [mail, same]
      · exact agrees.users
      · rw [same] at room
        rw [saves room] at failed
        cases failed
  · rw [if_neg counts] at mail
    have unsaved : status ≠ 0 := by
      rintro rfl
      obtain ⟨sender, receiver⟩ := dbSaveDirectMessage_known stored
      refine counts ⟨?_, receiver⟩
      by_contra stranger
      have nobody := ((valid _ member).stranger (Bool.eq_false_of_not_eq_true stranger)).1
      rw [Process.clientAt, nobody] at sender
      exact zero_not_mem_userIds _ sender
    rcases dbSaveDirectMessage_cases stored with ⟨saved, -⟩ | ⟨-, same⟩
    · exact absurd saved unsaved
    · refine ⟨?_, ?_⟩ <;> rw [mail, same]
      · exact agrees.users
      · exact agrees.sent

end Messages

/-! ### Messages in a run -/

section Runs

variable {env : Env} {allowed : ServerContext → Int → TizcordPacket → Prop} {serverFd : Int}
  {machine : Machine}

/-- In every reachable state the tables agree with the record of the mail. -/
theorem ReachableWhen.mail (reliable : env.Reliable)
    (reachable : ReachableWhen env allowed serverFd machine) :
    MailAgrees machine.loop.process.ctx.db machine.loop.process.trace := by
  have empty : MailAgrees Database.empty [] := ⟨rfl, fun _ => rfl⟩
  have invariant : RunInvariant env allowed serverFd fun process =>
      MailAgrees process.ctx.db process.trace :=
    { started := empty.idle rfl
      restarted := fun _ _ agrees => agrees.idle rfl
      rejected := fun _ _ agrees => agrees.idle rfl
      accepted := fun _ _ _ _ _ _ agrees => agrees.idle rfl
      received := fun _ _ _ agrees => agrees.idle rfl
      closed := fun loop index _ inside _ agrees => by
        have other : noRequest.request ≠ some (.dm .message) := by
          rw [noRequest_request]
          exact Option.some_ne_none _ ∘ Eq.symm
        exact Acts.mail (disconnectClient_notifies env inside) other (agrees.idle rfl)
      handled := fun loop readSet index packet handled agrees => by
        have consistent : (receiveClient index loop).1.Consistent :=
          receiveClient_consistent handled.reachable.consistent
        have inside : index < (receiveClient index loop).1.process.ctx.clients.length := by
          rw [receiveClient_length]
          exact handled.inside
        by_cases asked : packet.request = some (.dm .message)
        · exact processClientPacket_mail reliable asked consistent.distinct consistent.valid inside
            agrees
        · refine (processClientPacket_acts env index packet _).mail asked (agrees.idle ?_)
          exact Mail.next_handling_of_not (fun is => absurd is asked) _ _ }
  exact invariant.reachable reachable

end Runs

/-! ### What is sent to a user -/

section Sent

variable {env : Env} {index : Nat} {packet : TizcordPacket} {process : Process}
  {userId friendId : Int} {trace effects : List Effect}

theorem users_mailOf (trace effects : List Effect) :
    (mailOf trace).users ⊆ (mailOf (trace ++ effects)).users := by
  induction effects using List.reverseRecOn with
  | nil =>
    rw [List.append_nil]
    exact List.Subset.refl _
  | append_singleton effects effect inductionHypothesis =>
    rw [← List.append_assoc, mailOf_append_singleton]
    refine List.Subset.trans inductionHypothesis ?_
    generalize mailOf (trace ++ effects) = mail
    cases effect with
    | called call => exact List.subset_append_left _ _
    | handling fd packet sender =>
      rw [Mail.next]
      split <;> exact List.Subset.refl _
    | _ => exact List.Subset.refl _

theorem sent_of_apart (apart : ∀ effect ∈ effects, effect.Apart) :
    (mailOf (trace ++ effects)).sent = (mailOf trace).sent := by
  induction effects using List.reverseRecOn with
  | nil => rw [List.append_nil]
  | append_singleton effects effect inductionHypothesis =>
    rw [← inductionHypothesis fun other member => apart other (List.mem_append_left _ member),
      ← List.append_assoc, mailOf_append_singleton]
    have last := apart effect (List.mem_append_right _ List.mem_cons_self)
    generalize mailOf (trace ++ effects) = mail
    cases effect with
    | handling fd packet sender =>
      rw [Mail.next_handling_of_not fun asked => absurd asked last]
    | _ => rfl

/-- What a friend has sent to a user is what a part of the record adds to it. -/
def AddsSent (userId friendId : Int) (past : List Effect) (process : Process) : Prop :=
  ∃ later, process.trace = past ++ later ∧ sentTo userId friendId process.trace =
    sentTo userId friendId past ++ (writtenTo userId later).filter fun line => line.1 = friendId

theorem AddsSent.of_apart {past : List Effect} {before after : Process}
    (adds : AddsSent userId friendId past before) (logged : after.trace = before.trace ++ effects)
    (apart : ∀ effect ∈ effects, effect.Apart) : AddsSent userId friendId past after := by
  obtain ⟨later, grown, same⟩ := adds
  refine ⟨later ++ effects, by rw [logged, grown, List.append_assoc], ?_⟩
  rw [sentTo, logged, sent_of_apart apart, ← sentTo, same, writtenTo, writtenTo,
    List.filterMap_append, ← writtenTo, ← writtenTo, writtenTo_of_apart apart, List.append_nil]

/-- Of a direct message, what a user gets from a friend is the line of the friend. -/
theorem line_of_sent (senderId : Int) (packet : TizcordPacket) :
    (([directMessageOf packet senderId].filter fun message =>
        message.senderId = friendId && message.receiverId = userId).map
          fun message => (message.senderId, message.content)) =
      if packet.dmRecipientId = userId ∧ senderId = friendId then
        [(senderId, (packet.dmMessage []).take (messageLen - 1))]
      else [] := by
  have test : (decide ((directMessageOf packet senderId).senderId = friendId) &&
      decide ((directMessageOf packet senderId).receiverId = userId)) =
        decide (packet.dmRecipientId = userId ∧ senderId = friendId) := by
    rw [Bool.eq_iff_iff, Bool.and_eq_true, decide_eq_true_iff, decide_eq_true_iff,
      decide_eq_true_iff, directMessageOf, and_comm]
  rw [List.filter_cons, test]
  by_cases ours : packet.dmRecipientId = userId ∧ senderId = friendId
  · rw [if_pos ours, decide_eq_true ours]
    rfl
  · rw [if_neg ours, decide_eq_false ours]
    rfl

/-- Of a call that saves a direct message, what is written to a user by a friend is the line of the
friend. -/
theorem line_of_written (senderId receiverId status : Int) (content : Text) :
    ((writtenTo userId [.called (.saveDirectMessage senderId receiverId content status)]).filter
        fun line => line.1 = friendId) =
      if receiverId = userId ∧ senderId = friendId then
        [(senderId, content.take (messageLen - 1))]
      else [] := by
  by_cases mine : receiverId = userId
  · by_cases own : senderId = friendId
    · simp [writtenTo, Effect.writes, mine, own]
    · simp [writtenTo, Effect.writes, mine, own]
  · simp [writtenTo, Effect.writes, mine]

/-- A direct message of a friend to a user is sent to the user as it is written. -/
theorem AddsSent.directMessage {past : List Effect} (adds : AddsSent userId friendId past process)
    (asked : packet.request = some (.dm .message)) (distinct : process.ctx.fds.Nodup)
    (valid : process.ctx.Valid) (inside : index < process.ctx.clients.length)
    (users : (mailOf process.trace).users = process.ctx.db.userIds)
    (known : userId ∈ process.ctx.db.userIds) (friend : friendId ≠ 0) :
    AddsSent userId friendId past (processClientPacket env index packet process) := by
  obtain ⟨later, grown, same⟩ := adds
  have mail := @mailOf_directMessage_cases env index packet process asked distinct inside users
  have member := clientAt_mem_of_lt inside
  obtain ⟨status, forwards, gain, forwarded, -⟩ :=
    @handlingGain_directMessage env index packet process asked distinct inside
  have quiet : writtenTo userId forwards = [] := by
    rcases forwarded with ⟨-, rfl⟩ | ⟨node, sent, user, -, rfl⟩ <;> rfl
  have text : (packet.dmMessage (env.beyond process.clock)).take (messageLen - 1) =
      (packet.dmMessage []).take (messageLen - 1) :=
    (Image.take_text packet _ (by decide)).trans (Image.take_text packet [] (by decide)).symm
  have written : ((writtenTo userId (handlingGain env index packet process)).filter
      fun line => line.1 = friendId) =
        if packet.dmRecipientId = userId ∧ (process.clientAt index).id = friendId then
          [((process.clientAt index).id, (packet.dmMessage []).take (messageLen - 1))]
        else [] := by
    rw [gain, writtenTo, List.filterMap_cons_none rfl, ← List.singleton_append,
      List.filterMap_append, ← writtenTo, ← writtenTo, quiet, List.append_nil, line_of_written, text]
  -- A message that is from the friend is from a user, and one to the user to a registered one.
  have counts : packet.dmRecipientId = userId ∧ (process.clientAt index).id = friendId →
      (process.clientAt index).isAuthenticated = true ∧
        packet.dmRecipientId ∈ process.ctx.db.userIds := by
    rintro ⟨rfl, own⟩
    refine ⟨?_, known⟩
    by_contra stranger
    have nobody := ((valid _ member).stranger (Bool.eq_false_of_not_eq_true stranger)).1
    exact friend (own.symm.trans nobody)
  refine ⟨later ++ handlingGain env index packet process, ?_, ?_⟩
  · rw [processClientPacket_trace, grown, List.append_assoc]
  · rw [writtenTo, List.filterMap_append, ← writtenTo, ← writtenTo, List.filter_append,
      ← List.append_assoc, ← same, written, sentTo, mail]
    by_cases counted : (process.clientAt index).isAuthenticated = true ∧
        packet.dmRecipientId ∈ process.ctx.db.userIds
    · rw [if_pos counted]
      dsimp only
      rw [List.filter_append, List.map_append, line_of_sent, sentTo]
    · rw [if_neg counted, if_neg fun ours => counted (counts ours), List.append_nil, sentTo]

/-- Every step adds to what a friend has sent to a registered user what it writes to the user. -/
theorem addsSent_steps {serverFd : Int} (reliable : env.Reliable) {past : List Effect}
    (known : userId ∈ (mailOf past).users) (friend : friendId ≠ 0) :
    StepInvariant env (fun _ _ _ => True) serverFd (AddsSent userId friendId past) where
  restarted _ _ adds := adds.of_apart rfl (List.forall_mem_singleton.mpr trivial)
  rejected _ _ adds := adds.of_apart rfl (List.forall_mem_singleton.mpr trivial)
  accepted _ _ _ _ _ _ adds := adds.of_apart rfl (List.forall_mem_singleton.mpr trivial)
  received _ _ _ adds := adds.of_apart rfl (List.forall_mem_singleton.mpr trivial)
  closed loop index _ inside _ adds := by
    obtain ⟨effects, logged, apart⟩ := (disconnectClient_notifies env inside).apart
    refine adds.of_apart (logged.trans (List.append_assoc ..)) ?_
    exact List.forall_mem_cons.mpr ⟨trivial, apart⟩
  handled loop readSet index packet handled adds := by
    have consistent : (receiveClient index loop).1.Consistent :=
      receiveClient_consistent handled.reachable.consistent
    have inside : index < (receiveClient index loop).1.process.ctx.clients.length := by
      rw [receiveClient_length]
      exact handled.inside
    by_cases asked : packet.request = some (.dm .message)
    · have agrees : MailAgrees (receiveClient index loop).1.process.ctx.db
          (receiveClient index loop).1.process.trace := (handled.reachable.mail reliable).idle rfl
      refine adds.directMessage asked consistent.distinct consistent.valid inside agrees.users ?_
        friend
      obtain ⟨later, grown, -⟩ := adds
      rw [← agrees.users, grown]
      exact users_mailOf _ _ known
    · exact adds.of_apart (processClientPacket_trace ..) (handlingGain_apart asked)

end Sent

/-! ### Main theorem -/

/-- The packet is the row of a history for a direct message: it has the id of the author and the
whole text. -/
structure CarriesExchanged (friendId : Int) (message : DirectMessage) (packet : TizcordPacket) :
    Prop where
  request : packet.request = some (.dm .message)
  frame : IsFrame .middle packet
  sender : packet.senderId = message.senderId
  recipient : packet.dmRecipientId = friendId
  text : ∀ beyond, packet.dmMessage beyond = message.content

/-- The request at an index for a history is answered on its connection with a stream of exactly
these messages, and with nothing else. -/
def AnswersWith (env : Env) (index : Nat) (packet : TizcordPacket) (process : Process)
    (messages : List DirectMessage) : Prop :=
  ∃ copies effects user,
    IsStream (IsFrame .start) (IsFrame .end) (CarriesExchanged packet.dmRecipientId) messages copies ∧
    handlingGain env index packet process =
      .handling (process.clientAt index).socketFd packet user :: effects ∧
    Delivers (process.clientAt index).socketFd user copies effects

/-- In a run, the pass at an index hands on the request of a user for the history with a friend. -/
structure AsksHistory (env : Env) (serverFd : Int) (loop : Loop) (readSet : Finset Int)
    (userId friendId : Int) (index : Nat) (packet : TizcordPacket) : Prop where
  handled : Handled env (fun _ _ _ => True) serverFd loop readSet index packet
  asked : packet.request = some (.dm .historyRequest)
  authenticated : ((receiveClient index loop).1.process.clientAt index).isAuthenticated = true
  user : ((receiveClient index loop).1.process.clientAt index).id = userId
  friend : packet.dmRecipientId = friendId

section History

variable {env : Env} {serverFd : Int} {loop : Loop} {readSet : Finset Int} {index : Nat}
  {packet : TizcordPacket} {userId friendId : Int}

/-- As long as there was room for them, the last messages of two users in the tables are the last
ones they have exchanged. -/
theorem MailAgrees.latestBetween {database : Database} {trace : List Effect}
    (agrees : MailAgrees database trace) (room : database.HasRoom) (userId friendId : Int) :
    (database.latestBetween userId friendId).map DirectMessageRow.shown =
      (exchanged userId friendId trace).rtake 50 := by
  have selected : exchanged userId friendId trace =
      (database.directMessages.filter fun row => row.message.between userId friendId).map
        DirectMessageRow.shown := by
    rw [exchanged, agrees.sent room, List.filter_map]
    rfl
  rw [selected, Tables.latestBetween, List.rtake, List.rtake, List.map_drop, List.length_map]

theorem AsksHistory.answers (reliable : env.Reliable) (rule : ∀ time, (env.db time).rowid = none)
    (asks : AsksHistory env serverFd loop readSet userId friendId index packet)
    (names : ∀ user ∈ loop.process.ctx.db.users, (user.id : Int) = userId →
      user.username.bytes.length < maxNameLen) (room : loop.process.ctx.db.HasRoom) :
    AnswersWith env index packet (receiveClient index loop).1.process
      ((exchanged userId friendId loop.process.trace).rtake 50) := by
  have handled := asks.handled
  have received : (receiveClient index loop).1.Consistent :=
    receiveClient_consistent handled.reachable.consistent
  have inside : index < (receiveClient index loop).1.process.ctx.clients.length := by
    rw [receiveClient_length]
    exact handled.inside
  have rising : (receiveClient index loop).1.process.ctx.db.directMessages.Pairwise
      fun early late => (early.id : Int) < late.id := handled.reachable.directMessages_rising rule
  obtain ⟨rows, copies, -, whole, stream, effects, user, gain, delivers⟩ :=
    @answersHistory_latest env _ _ _ received.distinct inside handled.namedIn
      (fun row known own => names row known (own.trans asks.user)) rising asks.asked
  obtain rfl := whole (reliable _)
  refine ⟨copies, effects, user, ?_, gain, delivers⟩
  rw [← (handled.reachable.mail reliable).latestBetween room]
  rw [asks.user, asks.friend] at stream
  rw [asks.friend]
  refine stream.of_map fun row member copy carried => ?_
  exact ⟨carried.request, carried.frame, carried.sender, carried.recipient, carried.text⟩

/-- The state after the request: the user is still signed in, and no message was sent. -/
theorem AsksHistory.after (asks : AsksHistory env serverFd loop readSet userId friendId index packet) :
    SignedIn (serviceClient env readSet index loop).1.process.ctx
        (loop.process.clientAt index).socketFd userId ∧
      ∃ effects, (serviceClient env readSet index loop).1.process.trace =
        loop.process.trace ++ effects ∧ ∀ effect ∈ effects, effect.Apart := by
  have other : packet.request ≠ some (.dm .message) := by
    rw [asks.asked]
    decide
  have unchanged : ∀ action, packet.request ≠ some (.auth action) := by
    rw [asks.asked]
    exact fun _ is => Request.noConfusion (Option.some.inj is)
  have inside : index < (receiveClient index loop).1.process.ctx.clients.length := by
    rw [receiveClient_length]
    exact asks.handled.inside
  rw [serviceClient_of_handsOn env asks.handled.handed]
  dsimp only
  constructor
  · have present : ((receiveClient index loop).1.process.clientAt index).identity ∈
        (receiveClient index loop).1.process.ctx.identities :=
      mem_identities.mpr ⟨_, clientAt_mem_of_lt inside, rfl⟩
    have kept : (processClientPacket env index packet
        (receiveClient index loop).1.process).ctx.identities =
          (receiveClient index loop).1.process.ctx.identities :=
      ((processClientPacket_acts env index packet _).quiet unchanged).identities
    rw [← kept] at present
    obtain ⟨node, member, same⟩ := mem_identities.mp present
    rw [← receiveClient_clientAt_fd asks.handled.inside, ← asks.user]
    exact ⟨node, member, congrArg Identity.socketFd same,
      (congrArg Identity.isAuthenticated same).trans asks.authenticated, congrArg Identity.id same⟩
  · refine ⟨_, (processClientPacket_trace ..).trans (List.append_assoc ..), ?_⟩
    exact List.forall_mem_cons.mpr ⟨trivial, handlingGain_apart other⟩

/-- Of two registered users, each one that asks for the history with the other gets the last 50
messages they have exchanged, in the order in which they were handled, with their whole texts and
the ids of their authors. What is forwarded to the one who has asked, as long as this user stays
signed in, are all messages the other one sends after the request, each one once and in order.
The database does not fail and has room, new rows get one more than the largest id in their table,
and the names of the two fit into a name field. -/
theorem conversations_complete (env : Env) (serverFd : Int) (reliable : env.Reliable)
    (rule : ∀ time, (env.db time).rowid = none)
    (asks : AsksHistory env serverFd loop readSet userId friendId index packet)
    (registered : friendId ∈ loop.process.ctx.db.userIds)
    (names : ∀ user ∈ loop.process.ctx.db.users, (user.id : Int) = userId ∨
      (user.id : Int) = friendId → user.username.bytes.length < maxNameLen)
    (room : loop.process.ctx.db.HasRoom) :
    AnswersWith env index packet (receiveClient index loop).1.process
        ((exchanged userId friendId loop.process.trace).rtake 50) ∧
      (∀ other request, AsksHistory env serverFd loop readSet friendId userId other request →
        AnswersWith env other request (receiveClient other loop).1.process
          ((exchanged userId friendId loop.process.trace).rtake 50)) ∧
      ∀ last, StaysSignedIn env (loop.process.clientAt index).socketFd userId
          ⟨(serviceClient env readSet index loop).1,
            .servicing readSet (serviceClient env readSet index loop).2⟩ last →
        ∃ later, last.loop.process.trace =
            (serviceClient env readSet index loop).1.process.trace ++ later ∧
          sentTo userId friendId last.loop.process.trace =
            sentTo userId friendId loop.process.trace ++
              (forwardedTo (loop.process.clientAt index).socketFd later).filter
                fun line => line.1 = friendId := by
  refine ⟨asks.answers reliable rule (fun user known own => names user known (Or.inl own)) room,
    fun other request asksToo => ?_, fun last stays => ?_⟩
  · rw [← exchanged_comm]
    exact asksToo.answers reliable rule (fun user known own => names user known (Or.inr own)) room
  · obtain ⟨signedIn, effects, logged, apart⟩ := asks.after
    have reached : Reachable env serverFd ⟨(serviceClient env readSet index loop).1,
        .servicing readSet (serviceClient env readSet index loop).2⟩ :=
      asks.handled.reachable.service asks.handled.inside fun _ _ => trivial
    have unsent : sentTo userId friendId (serviceClient env readSet index loop).1.process.trace =
        sentTo userId friendId loop.process.trace := by
      rw [sentTo, logged, sent_of_apart apart, sentTo]
    generalize (serviceClient env readSet index loop).1 = after at stays signedIn reached unsent ⊢
    have known : userId ∈ (mailOf after.process.trace).users := by
      rw [(reached.mail reliable).users]
      obtain ⟨node, member, -, authenticated, rfl⟩ := signedIn
      exact (reached.consistent.valid node member).user authenticated
    have friend : friendId ≠ 0 := by
      rintro rfl
      exact zero_not_mem_userIds _ registered
    obtain ⟨-, -, later, grown, matches'⟩ := stays.matches reached signedIn
    have steps : Relation.ReflTransGen (Machine.Step env) _ last :=
      stays.lift id fun _ _ step => step.1
    obtain ⟨-, gained, same, sent⟩ := (addsSent_steps reliable known friend).run reached steps
      ⟨[], (List.append_nil _).symm, (List.append_nil _).symm⟩
    obtain rfl := List.append_cancel_left (grown.symm.trans same)
    have forwarded : forwardedTo (loop.process.clientAt index).socketFd later =
        writtenTo userId later := matches' ⟨false, []⟩
    refine ⟨later, grown, ?_⟩
    rw [forwarded, ← unsent]
    exact sent

end History

/-- The loop of the server after two users have written to each other, when the first one asks for
the history and the second one writes again. -/
def talkingLoop : Loop :=
  runServer Env.ideal 3 (pairEvents [directPacket .message 2, directPacket .historyRequest 2]
    [directPacket .message 1, directPacket .message 1] [4, 5, 4, 5])

/-- The first user gets the first two messages with the history, and the third one after it. -/
theorem conversations_complete_pair : ∃ packet,
    AnswersWith Env.ideal 0 packet (receiveClient 0 talkingLoop).1.process
        [⟨1, 2, Text.letterB⟩, ⟨2, 1, Text.letterB⟩] ∧
      ∃ later, (serviceClient Env.ideal {4, 5} 1
          (serviceClient Env.ideal {4, 5} 0 talkingLoop).1).1.process.trace =
            (serviceClient Env.ideal {4, 5} 0 talkingLoop).1.process.trace ++ later ∧
        (forwardedTo 4 later).filter (fun line => line.1 = 2) = [(2, Text.letterB)] := by
  obtain ⟨packet, handled, holds⟩ := runServer_handled (fun _ _ _ => true)
    (fun _ _ _ _ => trivial) (pairEvents [directPacket .message 2, directPacket .historyRequest 2]
      [directPacket .message 1, directPacket .message 1] [4, 5, 4, 5])
    (Finset.mem_insert_self 4 {5}) (by decide +kernel) (by decide +kernel) (by decide +kernel)
    (fun packet => packet.request = some (.dm .historyRequest) && packet.dmRecipientId = 2)
    (by decide +kernel)
  rw [Bool.and_eq_true, decide_eq_true_eq, decide_eq_true_eq] at holds
  rw [← talkingLoop] at handled
  have state : ((receiveClient 0 talkingLoop).1.process.clientAt 0).isAuthenticated = true ∧
      ((receiveClient 0 talkingLoop).1.process.clientAt 0).id = 1 ∧
      (talkingLoop.process.clientAt 0).socketFd = 4 ∧ 2 ∈ talkingLoop.process.ctx.db.userIds ∧
      (∀ user ∈ talkingLoop.process.ctx.db.users, user.username.bytes.length < maxNameLen) ∧
      talkingLoop.process.ctx.db.HasRoom ∧
      (exchanged 1 2 talkingLoop.process.trace).rtake 50 =
        [⟨1, 2, Text.letterB⟩, ⟨2, 1, Text.letterB⟩] := by decide +kernel
  obtain ⟨authenticated, user, open', registered, names, room, before⟩ := state
  have second : (serviceClient Env.ideal {4, 5} 0 talkingLoop).2 = 1 ∧
      1 < (serviceClient Env.ideal {4, 5} 0 talkingLoop).1.process.ctx.clients.length := by
    decide +kernel
  have still : SignedIn (serviceClient Env.ideal {4, 5} 1
      (serviceClient Env.ideal {4, 5} 0 talkingLoop).1).1.process.ctx 4 1 :=
    signedIn_of_any (by decide +kernel)
  have sent : sentTo 1 2 talkingLoop.process.trace = [(2, Text.letterB)] ∧
      sentTo 1 2 (serviceClient Env.ideal {4, 5} 1
        (serviceClient Env.ideal {4, 5} 0 talkingLoop).1).1.process.trace =
          [(2, Text.letterB), (2, Text.letterB)] := by decide +kernel
  generalize talkingLoop = loop at *
  obtain ⟨answered, -, rest⟩ := conversations_complete Env.ideal 3 Env.ideal_reliable (fun _ => rfl)
    ⟨handled, holds.1, authenticated, user, holds.2⟩ registered
    (fun user known _ => names user known) room
  rw [open'] at rest
  rw [before] at answered
  obtain ⟨later, grown, same⟩ := rest _ (.single ⟨.service (by rw [second.1]; exact second.2), by
    dsimp only
    rw [second.1]
    exact still⟩)
  dsimp only at grown same
  rw [second.1] at grown same
  rw [sent.1, sent.2] at same
  exact ⟨packet, answered, later, grown, (List.cons.inj same).2.symm⟩

end Tizcord
