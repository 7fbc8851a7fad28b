/-
This file is about the histories of direct messages. Their table only grows, so it
is the record of what was saved, and a request gets the last of what the two users
wrote to each other, in the order of saving and under the ids of the authors, who
are told apart by their names.
-/

import Tizcord.Server.AuthChanges
import Tizcord.Server.Streams

namespace Tizcord

open CModel

/-! ### Direct messages in the record -/

/-- A direct message: who wrote it, to whom, and its text. -/
structure DirectMessage where
  senderId : Int
  receiverId : Int
  content : Text
  deriving DecidableEq

/-- The message is from one of two users to the other. -/
def DirectMessage.between (userId friendId : Int) (message : DirectMessage) : Bool :=
  (message.senderId = userId && message.receiverId = friendId) ||
    (message.senderId = friendId && message.receiverId = userId)

def DirectMessageRow.message (row : DirectMessageRow) : DirectMessage :=
  ⟨row.senderId, row.receiverId, row.content⟩

/-- The direct message that an effect saves. -/
def Effect.savesDirect : Effect → Option DirectMessage
  | .called (.saveDirectMessage senderId receiverId content status) =>
    if status = 0 then some ⟨senderId, receiverId, content⟩ else none
  | _ => none

/-- The direct messages that were ever saved. -/
def savedDirectMessages (trace : List Effect) : List DirectMessage :=
  trace.filterMap Effect.savesDirect

/-- The messages saved between two users. -/
def conversation (userId friendId : Int) (trace : List Effect) : List DirectMessage :=
  (savedDirectMessages trace).filter (DirectMessage.between userId friendId)

theorem savedDirectMessages_append_singleton (trace : List Effect) (effect : Effect) :
    savedDirectMessages (trace ++ [effect]) =
      savedDirectMessages trace ++ effect.savesDirect.toList := by
  rw [savedDirectMessages, List.filterMap_append]
  cases saved : effect.savesDirect with
  | none => rw [List.filterMap_cons_none saved]; rfl
  | some message => rw [List.filterMap_cons_some saved]; rfl

/-! ### The table of direct messages -/

section Calls

variable {env : DbEnv} {before after : Database} {call : DbCall}

/-- A direct message is saved when the status of the call is 0, and not otherwise. -/
theorem dbSaveDirectMessage_cases {senderId receiverId status : Int} {content : Text}
    (ran : dbSaveDirectMessage env before senderId receiverId content = (after, status)) :
    status = 0 ∧ (∃ id : RowId,
        before.insertDirectMessage ⟨id, senderId, receiverId, content, env.now⟩ = some after ∧
        (env.rowid = none → (id : Int) = maxRowid before.directMessageIds + 1)) ∨
      status = -1 ∧ after = before := by
  obtain ⟨same, answered⟩ := Prod.mk.inj ran
  cases inserted : (runInsert env 0 before before.directMessageIds fun id =>
      before.insertDirectMessage ⟨id, senderId, receiverId, content, env.now⟩).2 with
  | none =>
    rw [inserted] at answered
    exact Or.inr ⟨answered.symm, runInsert_none (Prod.ext same inserted)⟩
  | some id =>
    rw [inserted] at answered
    exact Or.inl ⟨answered.symm, id, (runInsert_some (Prod.ext same inserted)).1, fun rule =>
      runInsert_next rule (Prod.ext same inserted)⟩

/-- A call saves a direct message behind all others, or leaves the table alone. -/
theorem DbCall.Runs.directMessages (runs : call.Runs env before after) :
    (Effect.called call).savesDirect = none ∧ after.directMessages = before.directMessages ∨
      ∃ row : DirectMessageRow, (Effect.called call).savesDirect = some row.message ∧
        after.directMessages = before.directMessages ++ [row] ∧
        (env.rowid = none → (row.id : Int) = maxRowid before.directMessageIds + 1) := by
  cases call with
  | saveDirectMessage senderId receiverId content status =>
    rcases dbSaveDirectMessage_cases runs with ⟨rfl, id, inserted, next⟩ | ⟨rfl, rfl⟩
    · refine Or.inr ⟨⟨id, senderId, receiverId, content, env.now⟩, rfl, ?_, next⟩
      rw [Database.commit_eq_some.mp inserted]
    · exact Or.inl ⟨rfl, rfl⟩
  | _ => exact Or.inl ⟨rfl, (congrArg Tables.directMessages runs.frame :)⟩

end Calls

section Table

variable {env : Env} {allowed : ServerContext → Int → TizcordPacket → Prop} {serverFd : Int}
  {machine : Machine}

/-- In every reachable state the direct messages are those that were ever saved, in this order. -/
theorem ReachableWhen.directMessages (reachable : ReachableWhen env allowed serverFd machine) :
    machine.loop.process.ctx.db.directMessages.map DirectMessageRow.message =
      savedDirectMessages machine.loop.process.trace := by
  refine reachable.database_invariant
    (fun db trace => db.directMessages.map DirectMessageRow.message = savedDirectMessages trace)
    rfl ?_ ?_
  · intro db past effect other held
    have silent : effect.savesDirect = none := by
      cases effect <;> first | rfl | exact absurd rfl (other _)
    rw [savedDirectMessages_append_singleton, silent, held, Option.toList_none, List.append_nil]
  · intro ctx fd beyond packet time call after past _ _ runs held
    rw [savedDirectMessages_append_singleton, ← held]
    rcases runs.directMessages with ⟨silent, same⟩ | ⟨row, saved, grown, -⟩
    · rw [silent, same, Option.toList_none, List.append_nil]
    · rw [saved, grown, List.map_append]
      rfl

/-- Where a new row gets one more than the largest id in its table, the ids of the direct messages
rise. -/
theorem ReachableWhen.directMessages_rising (rule : ∀ time, (env.db time).rowid = none)
    (reachable : ReachableWhen env allowed serverFd machine) :
    machine.loop.process.ctx.db.directMessages.Pairwise fun early late =>
      (early.id : Int) < late.id := by
  refine reachable.database_invariant
    (fun db _ => db.directMessages.Pairwise fun early late => (early.id : Int) < late.id)
    .nil (fun _ _ _ _ held => held) ?_
  intro ctx fd beyond packet time call after past _ _ runs held
  rcases runs.directMessages with ⟨-, same⟩ | ⟨row, -, grown, next⟩
  · rw [same]
    exact held
  · rw [grown]
    refine List.pairwise_append.mpr ⟨held, List.pairwise_singleton _ _, ?_⟩
    intro early inTable late isRow
    rw [List.mem_singleton.mp isRow, next (rule time)]
    exact Int.lt_add_one_of_le (le_maxRowid (List.mem_map_of_mem inTable))

end Table

/-! ### The query -/

/-- The row of a history for a direct message. -/
def Tables.directListRow (tables : Tables) (row : DirectMessageRow) : DirectMessageListRow :=
  ⟨row.id, tables.nameOf row.senderId, tables.nameOf row.receiverId, row.content, row.createdAt⟩

/-- The last 50 messages of two users. -/
def Tables.latestBetween (tables : Tables) (userId friendId : Int) : List DirectMessageRow :=
  (tables.directMessages.filter fun row => row.message.between userId friendId).rtake 50

/-- The rows of the join in a query for a direct-message history. -/
def Tables.joinedDirect (tables : Tables) (rows : List DirectMessageRow) :
    List (DirectMessageRow × UserRow × UserRow) :=
  rows.flatMap fun message =>
    (tables.users.filter fun user => (user.id : Int) = message.senderId).flatMap fun sender =>
      (tables.users.filter fun user => (user.id : Int) = message.receiverId).map
        fun receiver => (message, sender, receiver)

/-- The join has a row for each message, with the names of the two users. -/
theorem Database.map_joinedDirect {Result : Type} (database : Database)
    {rows : List DirectMessageRow} (stored : rows ⊆ database.directMessages)
    (result : DirectMessageRow → Text → Text → Result) :
    ((database.joinedDirect rows).map fun row =>
        result row.1 row.2.1.username row.2.2.username) =
      rows.map fun row => result row (database.nameOf row.senderId)
        (database.nameOf row.receiverId) := by
  rw [Tables.joinedDirect, List.map_flatMap, ← List.flatMap_singleton' (rows.map _),
    List.flatMap_map]
  refine List.flatMap_congr fun row member => ?_
  have unique := database.integrity.users_id
  obtain ⟨sender, sends, own⟩ :=
    List.mem_map.mp (database.integrity.direct_sender row (stored member))
  obtain ⟨receiver, receives, other⟩ :=
    List.mem_map.mp (database.integrity.direct_receiver row (stored member))
  rw [← own, ← other, unique.filter_eq_singleton sends, unique.filter_eq_singleton receives,
    database.nameOf_eq sends, database.nameOf_eq receives]
  rfl

/-- Selecting from the join is selecting the messages. -/
theorem Tables.filter_joinedDirect (tables : Tables) (keep : DirectMessageRow → Bool)
    (rows : List DirectMessageRow) :
    (tables.joinedDirect rows).filter (fun row => keep row.1) =
      tables.joinedDirect (rows.filter keep) := by
  induction rows with
  | nil => rfl
  | cons row rest inductionHypothesis =>
    rw [joinedDirect] at inductionHypothesis ⊢
    rw [List.flatMap_cons, List.filter_append, inductionHypothesis, List.filter_cons]
    cases kept : keep row with
    | true => simp [joinedDirect, List.filter_flatMap, List.filter_map, kept, Function.comp_def]
    | false => simp [joinedDirect, List.filter_flatMap, List.filter_map, kept, Function.comp_def]

/-- A query for a history delivers the last of what two users wrote to each other, or the front of
this where a step fails. -/
theorem dbListDirectMessages_rows {env : DbEnv} {database : Database}
    (rising : database.directMessages.Pairwise fun early late => (early.id : Int) < late.id)
    (userId friendId : Int) :
    (dbListDirectMessages env database userId friendId).1 <+:
        (database.latestBetween userId friendId).map database.directListRow ∧
      (env.Reliable → (dbListDirectMessages env database userId friendId).1 =
        (database.latestBetween userId friendId).map database.directListRow) := by
  let between := fun row : DirectMessageRow => row.message.between userId friendId
  let selected := database.joinedDirect (database.directMessages.filter between)
  have part : database.directMessages.filter between ⊆ database.directMessages :=
    List.filter_sublist.subset
  have messages : selected.map (fun row => row.1) = database.directMessages.filter between := by
    rw [database.map_joinedDirect part fun row _ _ => row, List.map_id']
  have selectedRising : selected.Pairwise fun first second => (first.1.id : Int) < second.1.id := by
    have sorted := rising.sublist (List.filter_sublist (p := between))
    rw [← messages] at sorted
    have pairs := List.pairwise_map.mp sorted
    exact pairs
  have rows : (selected.rtake 50).map (fun row => (⟨row.1.id, row.2.1.username, row.2.2.username,
      row.1.content, row.1.createdAt⟩ : DirectMessageListRow)) =
      (database.latestBetween userId friendId).map database.directListRow := by
    have all := database.map_joinedDirect part fun row sender receiver =>
      DirectMessageListRow.mk row.id sender receiver row.content row.createdAt
    have length := congrArg List.length messages
    rw [List.length_map] at length
    rw [Tables.latestBetween, List.rtake, List.rtake, length, List.map_drop, List.map_drop, all]
    rfl
  have joined : selected = (database.joinedDirect database.directMessages).filter fun row =>
      between row.1 := (database.filter_joinedDirect between _).symm
  unfold dbListDirectMessages
  split
  · next failed =>
    refine ⟨List.nil_prefix, fun reliable => ?_⟩
    rw [reliable.prepare] at failed
    cases failed
  · have query : (orderBy (fun first second : DirectMessageRow × UserRow × UserRow =>
        (first.1.id : Int) ≤ second.1.id) ((orderBy (fun first second =>
          (second.1.id : Int) ≤ first.1.id) selected).take 50)) = selected.rtake 50 :=
      orderBy_newest selectedRising 50
    rw [joined] at query rows
    dsimp only
    rw [← rows, ← query]
    exact ⟨fetch_isPrefix .., fun reliable => congrArg Prod.fst (reliable.allRows ..)⟩

/-! ### What a history shows -/

/-- The packet shows a direct message to or from a friend, under the id of its author. -/
structure CarriesDirectMessage (friendId : Int) (message : DirectMessage)
    (packet : TizcordPacket) : Prop where
  request : packet.request = some (.dm .message)
  frame : IsFrame .middle packet
  sender : packet.senderId = message.senderId
  recipient : packet.dmRecipientId = friendId
  text : ∀ beyond, packet.dmMessage beyond = message.content.take (messageLen - 1)

/-- The packet for a row of a history, in which the author is the requester where the row has the
name of the requester, and the friend otherwise. -/
theorem directMessageHistoryCb_sends (env : Env) (fd userId : Int) {friendId : Int} (name : Text)
    (same : signed 32 friendId = friendId) (process : Process) (row : DirectMessageListRow)
    (index : Nat) :
    ∃ copy, CarriesDirectMessage friendId
        ⟨signed 64 (if row.senderUsername = name then userId else friendId), friendId,
          row.content⟩ copy ∧
      SendsList fd [copy] process
        (directMessageHistoryCb env fd userId friendId name process (row, index)) := by
  rw [directMessageHistoryCb]
  refine ⟨_, ⟨?_, ?_, ?_, ?_, fun beyond => ?_⟩, sendsList_send env fd process _⟩
  · refine TizcordPacket.request_dmMessage ?_ ?_ <;>
      simp (disch := decide) [Process.basePacket, createBasePacket, TizcordPacket.type,
        TizcordPacket.dmAction, TizcordPacket.setType, TizcordPacket.setTimestamp,
        TizcordPacket.setDmAction, TizcordPacket.setListId, TizcordPacket.setListIndex,
        TizcordPacket.setListFrame, TizcordPacket.setSenderId, TizcordPacket.setDmRecipientId,
        TizcordPacket.setDmMessageId, TizcordPacket.strncpyDmMessage, signed_code]
    rfl
  · rw [IsFrame]
    simp (disch := decide) [TizcordPacket.listFrame, TizcordPacket.setListFrame,
      TizcordPacket.setSenderId, TizcordPacket.setDmRecipientId, TizcordPacket.setDmMessageId,
      TizcordPacket.setTimestamp, TizcordPacket.strncpyDmMessage, signed_frame]
  · simp (disch := decide) [TizcordPacket.senderId, TizcordPacket.setSenderId,
      TizcordPacket.setDmRecipientId, TizcordPacket.setDmMessageId, TizcordPacket.setTimestamp,
      TizcordPacket.strncpyDmMessage]
  · simp (disch := decide) [TizcordPacket.dmRecipientId, TizcordPacket.setDmRecipientId,
      TizcordPacket.setDmMessageId, TizcordPacket.setTimestamp, TizcordPacket.strncpyDmMessage,
      same]
  · refine Image.text_of_slice _ beyond (by decide)
      (Image.slice_strncpy_same _ _ _ _ (by decide) ?_)
    simp (disch := decide) [Process.basePacket, createBasePacket, TizcordPacket.setType,
      TizcordPacket.setTimestamp, TizcordPacket.setDmAction, TizcordPacket.setListId,
      TizcordPacket.setListIndex, TizcordPacket.setListFrame, TizcordPacket.setSenderId,
      TizcordPacket.setDmRecipientId, TizcordPacket.setDmMessageId]

/-- The history of direct messages is sent as a stream of its rows. -/
theorem directMessageHistory_sends (env : Env) (packet : TizcordPacket) (fd : Int)
    (node : ClientNode) (process : Process) :
    ∃ copies, IsStream (IsFrame .start) (IsFrame .end)
        (fun row : DirectMessageListRow => CarriesDirectMessage packet.dmRecipientId
          ⟨signed 64 (if row.senderUsername = node.username.text.take (maxNameLen - 1) then node.id
            else packet.dmRecipientId), packet.dmRecipientId, row.content⟩)
        (dbListDirectMessages (env.db (process.clock + 1)) process.ctx.db node.id
          packet.dmRecipientId).1 copies ∧
      SendsList fd copies process (directMessageHistory env packet fd (some node) process) := by
  have same : signed 32 packet.dmRecipientId = packet.dmRecipientId := by
    rw [TizcordPacket.dmRecipientId, Image.int32, signed_signed]
  unfold directMessageHistory
  dsimp only
  generalize packet.dmRecipientId = friendId at same
  have opened : IsFrame .start (dmFramePacket env process friendId .start) :=
    listFrame_dmFramePacket ..
  have closed : ∀ other, IsFrame .end (dmFramePacket env other friendId .end) :=
    fun other => listFrame_dmFramePacket ..
  exact sendsList_stream opened
    (fun other row index _ => directMessageHistoryCb_sends env fd node.id _ same other row index)
    closed

/-- A stream of rows that are made from some sources is also one of other rows that are made from
them, if a packet for the one is a packet for the other. -/
theorem IsStream.of_map {Source Row Shown : Type} {opens closes : TizcordPacket → Prop}
    {carries : Row → TizcordPacket → Prop} {shows : Shown → TizcordPacket → Prop}
    {make : Source → Row} {shown : Source → Shown} {sources : List Source}
    {copies : List TizcordPacket}
    (stream : IsStream opens closes carries (sources.map make) copies)
    (tells : ∀ source ∈ sources, ∀ copy, carries (make source) copy → shows (shown source) copy) :
    IsStream opens closes shows (sources.map shown) copies := by
  obtain ⟨first, items, last, is, opened, each, closed⟩ := stream
  refine ⟨first, items, last, is, opened, ?_, closed⟩
  clear is opened closed
  induction sources generalizing items with
  | nil =>
    cases each
    exact .nil
  | cons source rest inductionHypothesis =>
    obtain ⟨copy, later, carried, others, rfl⟩ := List.forall₂_cons_left_iff.mp each
    exact .cons (tells source List.mem_cons_self copy carried)
      (inductionHypothesis (fun other member => tells other (List.mem_cons_of_mem _ member)) later
        others)

/-! ### Authors -/

/-- Among the messages of two users the name tells the author, where the name of the requester is
not cut. -/
theorem ClientNode.NamedIn.author {node : ClientNode} {database : Database} {friendId : Int}
    {row : DirectMessageRow} (named : node.NamedIn database)
    (short : ∀ user ∈ database.users, (user.id : Int) = node.id →
      user.username.bytes.length < maxNameLen)
    (stored : row ∈ database.directMessages)
    (between : row.message.between node.id friendId = true) :
    (if database.nameOf row.senderId = node.username.text.take (maxNameLen - 1) then node.id
      else friendId) = row.senderId := by
  rw [DirectMessage.between, Bool.or_eq_true, Bool.and_eq_true, Bool.and_eq_true,
    decide_eq_true_eq, decide_eq_true_eq, decide_eq_true_eq, decide_eq_true_eq] at between
  have ours : node.id ∈ database.userIds := by
    rcases between with ⟨own, -⟩ | ⟨-, own⟩
    · exact own ▸ database.integrity.direct_sender row stored
    · exact own ▸ database.integrity.direct_receiver row stored
  obtain ⟨user, known, own⟩ := List.mem_map.mp ours
  obtain ⟨sender, knownSender, sends⟩ :=
    List.mem_map.mp (database.integrity.direct_sender row stored)
  have uncut := Nat.le_sub_one_of_lt (short user known own)
  have whole : node.username.text.take (maxNameLen - 1) = user.username := by
    rw [named user known own, Text.take_of_length_le uncut, Text.take_of_length_le uncut]
  rw [whole, ← sends, database.nameOf_eq knownSender]
  by_cases same : (sender.id : Int) = node.id
  · have one := database.integrity.users_id.eq_of_key knownSender known (same.trans own.symm)
    rw [if_pos (congrArg UserRow.username one), same]
  · have apart : sender.username ≠ user.username := fun equal => same <| by
      rw [database.integrity.users_username.eq_of_key knownSender known equal, own]
    rw [if_neg apart]
    rcases between with ⟨is, -⟩ | ⟨is, -⟩
    · exact absurd (sends.trans is) same
    · exact is.symm.trans sends.symm

/-- The request at an index for the history of direct messages is answered, on its connection, with
a stream of these messages, or of the front of them where a step of the query fails. -/
def AnswersHistory (env : Env) (index : Nat) (packet : TizcordPacket) (process : Process)
    (messages : List DirectMessage) : Prop :=
  ∃ rows copies, rows <+: messages ∧ ((env.db (process.clock + 1)).Reliable → rows = messages) ∧
    IsStream (IsFrame .start) (IsFrame .end) (CarriesDirectMessage packet.dmRecipientId) rows
      copies ∧
    ∃ effects user, handlingGain env index packet process =
        .handling (process.clientAt index).socketFd packet user :: effects ∧
      Delivers (process.clientAt index).socketFd user copies effects

theorem answersHistory_latest {env : Env} {index : Nat} {packet : TizcordPacket}
    {process : Process} (distinct : process.ctx.fds.Nodup)
    (inside : index < process.ctx.clients.length)
    (named : (process.clientAt index).NamedIn process.ctx.db)
    (short : ∀ user ∈ process.ctx.db.users, (user.id : Int) = (process.clientAt index).id →
      user.username.bytes.length < maxNameLen)
    (rising : process.ctx.db.directMessages.Pairwise fun early late => (early.id : Int) < late.id)
    (asked : packet.request = some (.dm .historyRequest)) :
    AnswersHistory env index packet process
      ((process.ctx.db.latestBetween (process.clientAt index).id packet.dmRecipientId).map
        DirectMessageRow.message) := by
  have sender : senderNode process.ctx (process.clientAt index).socketFd =
      some (process.clientAt index) := senderNode_own distinct inside
  have handled := processClientPacket_directMessageHistory env index process asked
  obtain ⟨copies, stream, sends⟩ := directMessageHistory_sends env
    (stampDirectMessage (some (process.clientAt index)) packet)
    (process.clientAt index).socketFd (process.clientAt index)
    (process.log (.handling (process.clientAt index).socketFd packet
      (process.ctx.userOf (process.clientAt index).socketFd)))
  rw [(stampDirectMessage_same packet [] _).2.1] at stream
  rw [← sender] at sends
  obtain ⟨effects, gain, delivers⟩ := sends.handlingGain handled
  obtain ⟨front, whole⟩ := @dbListDirectMessages_rows (env.db (process.clock + 1)) _ rising
    (process.clientAt index).id packet.dmRecipientId
  obtain ⟨listed, inOrder, rows⟩ := List.prefix_map_iff.mp front
  refine ⟨listed.map DirectMessageRow.message, copies, inOrder.map _, fun reliable => ?_, ?_,
    effects, _, gain, delivers⟩
  · have all := whole reliable
    rw [rows] at all
    have length := congrArg List.length all
    rw [List.length_map, List.length_map] at length
    rw [inOrder.eq_of_length length]
  · have made : IsStream _ _ _ (listed.map process.ctx.db.directListRow) copies := rows ▸ stream
    refine made.of_map fun row member copy carried => ?_
    obtain ⟨stored, between⟩ := List.mem_filter.mp <|
      ((List.drop_suffix _ _).subset (inOrder.subset member))
    have author := named.author short stored between
    have id := signed_userId (process.ctx.db.integrity.direct_sender row stored)
    exact ⟨carried.request, carried.frame, by
      rw [carried.sender]
      exact (congrArg (signed 64) author).trans id, carried.recipient, carried.text⟩

/-! ### Main theorem -/

theorem ReachableWhen.latestBetween {env : Env}
    {allowed : ServerContext → Int → TizcordPacket → Prop} {serverFd : Int} {machine : Machine}
    (reachable : ReachableWhen env allowed serverFd machine) (userId friendId : Int) :
    (machine.loop.process.ctx.db.latestBetween userId friendId).map DirectMessageRow.message =
      (conversation userId friendId machine.loop.process.trace).rtake 50 := by
  have selected := congrArg (List.filter (DirectMessage.between userId friendId))
    reachable.directMessages
  rw [List.filter_map] at selected
  have length := congrArg List.length selected
  rw [List.length_map] at length
  rw [conversation, ← selected, Tables.latestBetween, List.rtake, List.rtake, List.map_drop,
    List.length_map]
  rfl

/-- In every run a request for the history of direct messages with a friend is answered with the
last 50 messages that were saved between the two, in the order of saving, with their texts and the
ids of their authors. New rows get one more than the largest id in their table, and the name of the
requester fits into a name field. -/
theorem direct_history_complete (env : Env) (serverFd : Int)
    (rule : ∀ time, (env.db time).rowid = none) {loop : Loop} {readSet : Finset Int} {index : Nat}
    {packet : TizcordPacket}
    (handled : Handled env (fun _ _ _ => True) serverFd loop readSet index packet)
    (asked : packet.request = some (.dm .historyRequest))
    (short : ∀ user ∈ (receiveClient index loop).1.process.ctx.db.users,
      (user.id : Int) = ((receiveClient index loop).1.process.clientAt index).id →
        user.username.bytes.length < maxNameLen) :
    AnswersHistory env index packet (receiveClient index loop).1.process
      ((conversation ((receiveClient index loop).1.process.clientAt index).id packet.dmRecipientId
        loop.process.trace).rtake 50) := by
  have received : (receiveClient index loop).1.Consistent :=
    receiveClient_consistent handled.reachable.consistent
  have inside : index < (receiveClient index loop).1.process.ctx.clients.length := by
    rw [receiveClient_length]
    exact handled.inside
  have rising : (receiveClient index loop).1.process.ctx.db.directMessages.Pairwise
      fun early late => (early.id : Int) < late.id := handled.reachable.directMessages_rising rule
  have answered := @answersHistory_latest env _ _ _ received.distinct inside handled.namedIn short
    rising asked
  rw [← handled.reachable.latestBetween]
  exact answered

/-- A packet about the direct messages with a friend, with the text `b`. -/
def directPacket (action : DMAction) (friendId : Int) : TizcordPacket :=
  let packet := TizcordPacket.setType Image.zero .dm
  let packet := packet.setDmAction action.code
  let packet := packet.setDmRecipientId friendId
  packet.strncpyDmMessage Text.letterB

/-- The loop of the server after two users have written to each other. -/
def writtenLoop : Loop :=
  runServer Env.ideal 3 (pairEvents [directPacket .message 2, directPacket .historyRequest 2]
    [directPacket .message 1] [4, 5, 4, 5])

/-- The first of the two users asks for the history. -/
theorem direct_history_complete_pair : ∃ packet,
    packet.request = some (.dm .historyRequest) ∧
      AnswersHistory Env.ideal 0 packet (receiveClient 0 writtenLoop).1.process
        [⟨1, 2, Text.letterB⟩, ⟨2, 1, Text.letterB⟩] := by
  obtain ⟨packet, handled, holds⟩ := runServer_handled (fun _ _ _ => true)
    (fun _ _ _ _ => trivial) (pairEvents [directPacket .message 2, directPacket .historyRequest 2]
      [directPacket .message 1] [4, 5, 4, 5])
    (Finset.mem_singleton_self 4) (by decide +kernel) (by decide +kernel)
    (by decide +kernel) (fun packet => packet.request = some (.dm .historyRequest) &&
      packet.dmRecipientId = 2) (by decide +kernel)
  rw [Bool.and_eq_true, decide_eq_true_eq, decide_eq_true_eq] at holds
  have state : ((receiveClient 0 writtenLoop).1.process.clientAt 0).id = 1 ∧
      (∀ user ∈ (receiveClient 0 writtenLoop).1.process.ctx.db.users,
        user.username.bytes.length = 1) ∧
      (conversation 1 2 writtenLoop.process.trace).rtake 50 =
        [⟨1, 2, Text.letterB⟩, ⟨2, 1, Text.letterB⟩] := by
    decide +kernel
  rw [← writtenLoop] at handled
  have answered := direct_history_complete Env.ideal 3 (fun _ => rfl) handled holds.1
    fun user known _ => by rw [state.2.1 user known]; decide
  rw [state.1, holds.2, state.2.2] at answered
  exact ⟨packet, holds.1, answered⟩

end Tizcord
