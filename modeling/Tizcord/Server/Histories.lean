/-
This file is about the order of a channel history. Messages are added to the end
of their table, and the clock never goes back, so the table is in the order of
saving. The query orders by the second of saving alone: messages of one second
may come in any order.
-/

import Tizcord.Server.Messages

namespace Tizcord

open CModel

/-! ### Calls in a row -/

/-- A call of the database, with what was decided outside at its time. -/
structure TimedCall where
  env : DbEnv
  call : DbCall

/-- Any calls of the database one after the other. -/
def DbRun : Database → List TimedCall → Database → Prop :=
  Steps fun before calls after =>
    ∃ timed : TimedCall, calls = [timed] ∧ timed.call.Runs timed.env before after

/-- The clock does not go back between two calls. -/
def ClockAdvances (calls : List TimedCall) : Prop :=
  calls.Pairwise fun first second => first.env.now ≤ second.env.now

instance (calls : List TimedCall) : Decidable (ClockAdvances calls) :=
  inferInstanceAs (Decidable (calls.Pairwise _))

/-- The record that the calls leave. -/
def recordOf (calls : List TimedCall) : List Effect :=
  calls.map fun timed => .called timed.call

/-- One call more. -/
theorem DbRun.call {first before after : Database} {calls : List TimedCall} {env : DbEnv}
    {call : DbCall} (run : DbRun first calls before) (runs : call.Runs env before after) :
    DbRun first (calls ++ [⟨env, call⟩]) after :=
  Steps.more run ⟨⟨env, call⟩, rfl, runs⟩

/-- What every call preserves of the database and the calls before it, a run preserves. -/
theorem DbRun.invariant {first last : Database} {calls : List TimedCall}
    (run : DbRun first calls last) (holds : Database → List TimedCall → Prop)
    (initial : holds first [])
    (preserved : ∀ {env call before after past}, DbCall.Runs env before after call →
      holds before past → holds after (past ++ [⟨env, call⟩])) : holds last calls := by
  refine Steps.invariant_log holds ?_ run initial
  rintro before _ after past ⟨timed, rfl, runs⟩ held
  exact preserved runs held

/-! ### The table of messages -/

/-- The messages of a channel, in the order of their table. -/
def Tables.messagesIn (tables : Tables) (channelId : Int) : List MessageRow :=
  tables.messages.filter fun row => row.channelId = channelId

/-- A call puts at most one message into the table, at its end and with the present time. -/
theorem DbCall.Runs.messages {env : DbEnv} {call : DbCall} {before after : Database}
    (runs : call.Runs env before after) :
    after.messages.Sublist before.messages ∨
      ∃ row : MessageRow, row.createdAt = env.now ∧ after.messages = before.messages ++ [row] := by
  cases call with
  | saveMessage channelId userId content status =>
    rcases dbSaveMessage_cases runs with ⟨-, id, inserted⟩ | ⟨-, rfl⟩
    · refine Or.inr ⟨⟨id, channelId, userId, content, env.now⟩, rfl, ?_⟩
      rw [Database.commit_eq_some.mp inserted]
    · exact Or.inl (List.Sublist.refl _)
  | deleteServer =>
    rcases dbDeleteServer_spec runs with ⟨-, rfl⟩ | ⟨-, rfl⟩
    · exact Or.inl List.filter_sublist
    · exact Or.inl (List.Sublist.refl _)
  | deleteChannel =>
    rcases dbDeleteChannel_spec runs with ⟨-, rfl⟩ | ⟨-, rfl⟩
    · exact Or.inl List.filter_sublist
    · exact Or.inl (List.Sublist.refl _)
  | _ =>
    rw [runs.sameMessages nofun nofun nofun]
    exact Or.inl (List.Sublist.refl _)

/-- The messages stand in the order of their times, none of which is later than the last call. -/
theorem DbRun.chronological {first last : Database} {calls : List TimedCall}
    (run : DbRun first calls last) (fresh : first.messages = []) (clock : ClockAdvances calls) :
    last.messages.Pairwise fun early late => early.createdAt ≤ late.createdAt := by
  have held := run.invariant
    (fun db calls => ClockAdvances calls →
      (∀ row ∈ db.messages, ∃ timed ∈ calls, row.createdAt = timed.env.now) ∧
        db.messages.Pairwise fun early late => early.createdAt ≤ late.createdAt) ?_ ?_
  · exact (held clock).2
  · intro _
    rw [fresh]
    exact ⟨fun row member => absurd member List.not_mem_nil, List.Pairwise.nil⟩
  · intro env call before after past runs held clock
    obtain ⟨pastClock, -, later⟩ := List.pairwise_append.mp clock
    obtain ⟨times, ordered⟩ := held pastClock
    have known : ∀ row ∈ before.messages, ∃ timed ∈ past ++ [⟨env, call⟩],
        row.createdAt = timed.env.now := by
      intro row member
      obtain ⟨timed, early, same⟩ := times row member
      exact ⟨timed, List.mem_append_left _ early, same⟩
    rcases runs.messages with kept | ⟨row, now, appended⟩
    · exact ⟨fun row member => known row (kept.subset member), ordered.sublist kept⟩
    · rw [appended]
      constructor
      · intro other member
        rcases List.mem_append.mp member with old | new
        · exact known other old
        · rw [List.mem_singleton.mp new]
          exact ⟨⟨env, call⟩, List.mem_append_right _ List.mem_cons_self, now⟩
      · refine List.pairwise_append.mpr ⟨ordered, List.pairwise_singleton _ _, ?_⟩
        intro old member new isNew
        obtain ⟨timed, early, same⟩ := times old member
        rw [List.mem_singleton.mp isNew, now, same]
        exact later timed early ⟨env, call⟩ List.mem_cons_self

/-- A channel holds what the calls have saved in it since it was created. -/
theorem DbRun.storedMessages {first last : Database} {calls : List TimedCall}
    (run : DbRun first calls last) (fresh : first.messages = []) {channelId : Int}
    (present : channelId ∈ last.channelIds) :
    last.storedMessages channelId = savedMessages channelId (recordOf calls) := by
  have held := run.invariant
    (fun db calls => channelId ∈ db.channelIds →
      db.storedMessages channelId = savedMessages channelId (recordOf calls)) ?_ ?_
  · exact held present
  · intro _
    rw [Tables.storedMessages, fresh]
    rfl
  · intro env call before after past runs held present
    rw [recordOf, List.map_append, List.map_singleton, savedMessages_append_singleton]
    exact runs.storedMessages present held

/-! ### The order of a history -/

/-- The rows of a channel history, in the order in which the messages were saved. -/
def Tables.historyOf (tables : Tables) (channelId : Int) : List MessageListRow :=
  (tables.messagesIn channelId).map fun row =>
    ⟨row.id, tables.nameOf row.userId, row.content, row.createdAt⟩

/-- The rows of the join in a query for the history of a channel. -/
def Tables.joinedMessages (tables : Tables) (channelId : Int) : List (MessageRow × UserRow) :=
  (tables.messagesIn channelId).flatMap fun message =>
    (tables.users.filter fun user => (user.id : Int) = message.userId).map
      fun user => (message, user)

theorem Database.map_joinedMessages {Result : Type} (database : Database) (channelId : Int)
    (result : MessageRow → Text → Result) :
    ((database.joinedMessages channelId).map fun row => result row.1 row.2.username) =
      (database.messagesIn channelId).map fun row => result row (database.nameOf row.userId) := by
  refine (database.integrity.messages_user.filter _).map_join_eq database.integrity.users_id
    fun row other member same => ?_
  rw [← same, database.nameOf_eq member]

/-- The history that a query delivers where nothing fails: the rows of the join, ordered by their
times, and those of one time by what is decided outside. -/
theorem dbListChannelMessages_rows {env : DbEnv} (reliable : env.Reliable) (database : Database)
    (channelId : Int) :
    (dbListChannelMessages env database channelId).1 =
      (orderBy (byKey (fun row => row.1.createdAt) fun row => env.rank row.1.id)
        (database.joinedMessages channelId)).map
        fun row => ⟨row.1.id, row.2.username, row.1.content, row.1.createdAt⟩ := by
  unfold dbListChannelMessages
  rw [reliable.prepare, if_neg Bool.false_ne_true]
  dsimp only
  rw [reliable.allRows]
  rfl

/-- A history is in the order of saving, whatever the order of rows that compare equal is, exactly
when no two messages of the channel were saved in the same second. -/
theorem dbListChannelMessages_order (database : Database) (channelId : Int)
    (chronological : database.messages.Pairwise fun early late =>
      early.createdAt ≤ late.createdAt) :
    (∀ env : DbEnv, env.Reliable →
        (dbListChannelMessages env database channelId).1 = database.historyOf channelId) ↔
      UniqueOn MessageRow.createdAt (database.messagesIn channelId) := by
  have rows := database.map_joinedMessages channelId fun row _ => row
  rw [List.map_id'] at rows
  have unique : UniqueOn (fun row : MessageRow × UserRow => (row.1.id : Int))
      (database.joinedMessages channelId) := by
    unfold UniqueOn
    rw [database.map_joinedMessages channelId fun row _ => (row.id : Int)]
    exact database.integrity.messages_id.filter _
  have ascending : (database.joinedMessages channelId).Pairwise fun first second =>
      first.1.createdAt ≤ second.1.createdAt := by
    have sorted : ((database.joinedMessages channelId).map fun row => row.1).Pairwise
        fun early late => early.createdAt ≤ late.createdAt := by
      rw [rows]
      exact chronological.sublist List.filter_sublist
    have pairs := List.pairwise_map.mp sorted
    exact pairs
  have times : UniqueOn (fun row : MessageRow × UserRow => row.1.createdAt)
      (database.joinedMessages channelId) ↔
      UniqueOn MessageRow.createdAt (database.messagesIn channelId) := by
    unfold UniqueOn
    rw [database.map_joinedMessages channelId fun row _ => row.createdAt]
  have delivered := database.map_joinedMessages channelId fun row name =>
    MessageListRow.mk row.id name row.content row.createdAt
  rw [← times, ← orderBy_byKey_stable unique ascending]
  constructor
  · intro inOrder rank
    refine unique.eq_of_perm (List.perm_insertionSort _ _) ?_
    have ranked := inOrder ⟨fun _ _ => false, none, 0, rank, fun _ => .refl _⟩ fun _ _ => rfl
    rw [dbListChannelMessages_rows fun _ _ => rfl, Tables.historyOf, ← delivered] at ranked
    have ids := congrArg (List.map MessageListRow.messageId) ranked
    rw [List.map_map, List.map_map] at ids
    exact ids
  · intro kept env reliable
    rw [dbListChannelMessages_rows reliable, kept env.rank]
    exact delivered

/-- The messages of a channel that exists are those the calls have saved in it, in this order, and
every history is in this order exactly when no two of them were saved in the same second. -/
theorem history_in_saving_order {first last : Database} {calls : List TimedCall}
    (run : DbRun first calls last) (fresh : first.messages = []) (clock : ClockAdvances calls)
    {channelId : Int} (present : channelId ∈ last.channelIds) :
    (last.messagesIn channelId).map (fun row => (row.userId, row.content)) =
        savedMessages channelId (recordOf calls) ∧
      ((∀ env : DbEnv, env.Reliable →
          (dbListChannelMessages env last channelId).1 = last.historyOf channelId) ↔
        UniqueOn MessageRow.createdAt (last.messagesIn channelId)) :=
  ⟨run.storedMessages fresh present,
    dbListChannelMessages_order last channelId (run.chronological fresh clock)⟩

/-! ### Two messages of one second -/

/-- A user with a channel, before anything was said. -/
def quietDatabase : Database where
  users := [⟨RowId.first, Text.letterA, Text.letterB, Text.empty, Text.empty⟩]
  friends := []
  servers := [⟨RowId.first, ⟨[115], by decide⟩⟩]
  serverMembers := [⟨1, 1, true⟩]
  channels := [⟨RowId.first, 1, Text.letterC⟩]
  messages := []
  directMessages := []
  integrity := by decide

/-- The database after a message of the user, at a time. -/
def sayAt (time : Int) (content : Text) (database : Database) : Database :=
  (dbSaveMessage ⟨fun _ _ => false, none, time, fun _ => 0, fun _ => .refl _⟩ database 1 1 content).1

def saidAt (time : Int) (content : Text) : TimedCall :=
  ⟨⟨fun _ _ => false, none, time, fun _ => 0, fun _ => .refl _⟩, .saveMessage 1 1 content 0⟩

def firstWord : Text := ⟨[120], by decide⟩
def secondWord : Text := ⟨[121], by decide⟩

/-- The user says two words, at these times. -/
theorem twoWords_run (early late : Int) :
    DbRun quietDatabase [saidAt early firstWord, saidAt late secondWord]
      (sayAt late secondWord (sayAt early firstWord quietDatabase)) := by
  have first : DbRun quietDatabase [saidAt early firstWord]
      (sayAt early firstWord quietDatabase) :=
    DbRun.call (.none _) (Prod.ext rfl rfl)
  exact first.call (Prod.ext rfl rfl)

/-- An outside in which nothing fails, and in which of two rows that compare equal the newer one
comes first. -/
def newestFirst : DbEnv :=
  ⟨fun _ _ => false, none, 0, fun id => (2 - id).toNat, fun _ => .refl _⟩

theorem history_in_saving_order_twoWords :
    (dbListChannelMessages newestFirst
      (sayAt 1 secondWord (sayAt 0 firstWord quietDatabase)) 1).1 =
        (sayAt 1 secondWord (sayAt 0 firstWord quietDatabase)).historyOf 1 :=
  ((history_in_saving_order (twoWords_run 0 1) rfl (by decide) (by decide)).2.mpr (by decide)) _
    fun _ _ => rfl

/-- Two words of one second can come back in the other order. -/
theorem history_out_of_saving_order :
    ∃ first last calls channelId, DbRun first calls last ∧ first.messages = [] ∧
      ClockAdvances calls ∧ channelId ∈ last.channelIds ∧ ∃ env : DbEnv, env.Reliable ∧
        (dbListChannelMessages env last channelId).1.map MessageListRow.content =
          [secondWord, firstWord] ∧
        (savedMessages channelId (recordOf calls)).map Prod.snd = [firstWord, secondWord] :=
  ⟨_, _, _, 1, twoWords_run 0 0, rfl, by decide, by decide, newestFirst, fun _ _ => rfl,
    by decide, by decide⟩

end Tizcord
