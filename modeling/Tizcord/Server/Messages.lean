/-
This file says what the record of a run tells about the messages that are stored:
a channel holds what was saved in it since it was created, in this order, and
nothing else.
-/

import Tizcord.Server.Administration

namespace Tizcord

open CModel

/-! ### Messages in the record -/

/-- A message of a channel: the id of its author and its text. -/
abbrev Authored : Type := Int × Text

/-- What an effect does to the messages of a channel: a new channel has none, and a message that
is saved is the last one. -/
def Effect.saves (channelId : Int) (messages : List Authored) : Effect → List Authored
  | .called (.createChannel _ _ (some created)) =>
    if (created : Int) = channelId then [] else messages
  | .called (.saveMessage savedId userId content status) =>
    if savedId = channelId ∧ status = 0 then messages ++ [(userId, content)] else messages
  | _ => messages

/-- The messages saved in a channel since it was created. -/
def savedMessages (channelId : Int) (trace : List Effect) : List Authored :=
  trace.foldl (Effect.saves channelId) []

/-- The messages that the database holds for a channel. -/
def Tables.storedMessages (tables : Tables) (channelId : Int) : List Authored :=
  (tables.messages.filter fun row => row.channelId = channelId).map
    fun row => (row.userId, row.content)

theorem savedMessages_append_singleton (channelId : Int) (trace : List Effect) (effect : Effect) :
    savedMessages channelId (trace ++ [effect]) =
      effect.saves channelId (savedMessages channelId trace) := by
  rw [savedMessages, List.foldl_append]
  rfl

/-- What was saved, some call has saved. -/
theorem called_of_mem_savedMessages {channelId : Int} {trace : List Effect} {message : Authored}
    (member : message ∈ savedMessages channelId trace) :
    .called (.saveMessage channelId message.1 message.2 0) ∈ trace := by
  induction trace using List.reverseRecOn with
  | nil => cases member
  | append_singleton trace effect inductionHypothesis =>
    rw [savedMessages_append_singleton] at member
    have kept : message ∈ savedMessages channelId trace →
        .called (.saveMessage channelId message.1 message.2 0) ∈ trace ++ [effect] :=
      fun early => List.mem_append_left _ (inductionHypothesis early)
    unfold Effect.saves at member
    split at member
    · split at member
      · cases member
      · exact kept member
    · split at member
      · next saved =>
        obtain ⟨rfl, rfl⟩ := saved
        rcases List.mem_append.mp member with early | last
        · exact kept early
        · rw [List.mem_singleton.mp last]
          exact List.mem_append_right _ List.mem_cons_self
      · exact kept member
    · exact kept member

section Calls

variable {env : DbEnv} {before after : Database} {call : DbCall} {channelId : Int}

theorem Tables.storedMessages_of_messages {first second : Tables}
    (same : second.messages = first.messages) (channelId : Int) :
    second.storedMessages channelId = first.storedMessages channelId := by
  rw [storedMessages, storedMessages, same]

/-- A channel that is not there has no messages. -/
theorem Database.storedMessages_of_not_mem {database : Database}
    (absent : channelId ∉ database.channelIds) : database.storedMessages channelId = [] := by
  rw [Tables.storedMessages, List.filter_eq_nil_iff.mpr, List.map_nil]
  intro row member own
  rw [← of_decide_eq_true own] at absent
  exact absent (database.integrity.messages_channel row member)

/-- A channel that is left after others were deleted keeps its messages. -/
theorem Database.storedMessages_messagesWithout {database : Database} {tables : Tables}
    {goes : ChannelRow → Bool}
    (messages : tables.messages = database.messagesWithout (database.channels.filter goes))
    (channels : tables.channels = database.channels.filter fun row => !goes row)
    (present : channelId ∈ tables.channelIds) :
    tables.storedMessages channelId = database.storedMessages channelId := by
  obtain ⟨stays, stayed, rfl⟩ := List.mem_map.mp present
  rw [channels, List.mem_filter, Bool.not_eq_true'] at stayed
  rw [Tables.storedMessages, Tables.storedMessages, messages, messagesWithout, List.filter_filter]
  congr 1
  refine List.filter_congr fun row _ => ?_
  by_cases own : row.channelId = (stays.id : Int)
  · have kept : row.channelId ∉ (database.channels.filter goes).map
        fun channel => (channel.id : Int) := by
      intro deleted
      obtain ⟨gone, member, same⟩ := List.mem_map.mp deleted
      obtain ⟨old, going⟩ := List.mem_filter.mp member
      have equal := database.integrity.channels_id.eq_of_key old stayed.1 (same.trans own)
      rw [equal, stayed.2] at going
      cases going
    simp only [own, decide_true, Bool.true_and]
    exact decide_eq_true (own ▸ kept)
  · simp [own]

/-- A call that is not about channels or their messages leaves the messages alone. -/
theorem DbCall.Runs.sameMessages (runs : call.Runs env before after)
    (noSave : ∀ savedId userId content status, call ≠ .saveMessage savedId userId content status)
    (noServer : ∀ serverId userId status, call ≠ .deleteServer serverId userId status)
    (noChannel : ∀ deletedId status, call ≠ .deleteChannel deletedId status) :
    after.messages = before.messages := by
  have frame := runs.frame
  cases call with
  | saveMessage => exact absurd rfl (noSave _ _ _ _)
  | deleteServer => exact absurd rfl (noServer _ _ _)
  | deleteChannel => exact absurd rfl (noChannel _ _)
  | _ => exact (congrArg Tables.messages frame :)

/-- A message is saved when the status of the call is 0, and not otherwise. -/
theorem dbSaveMessage_cases {userId status : Int} {content : Text}
    (ran : dbSaveMessage env before channelId userId content = (after, status)) :
    status = 0 ∧ (∃ id, before.insertMessage ⟨id, channelId, userId, content, env.now⟩ =
        some after) ∨ status = -1 ∧ after = before := by
  obtain ⟨same, answered⟩ := Prod.mk.inj ran
  cases inserted : (runInsert env 0 before before.messageIds fun id =>
      before.insertMessage ⟨id, channelId, userId, content, env.now⟩).2 with
  | none =>
    rw [inserted] at answered
    exact Or.inr ⟨answered.symm, runInsert_none (Prod.ext same inserted)⟩
  | some id =>
    rw [inserted] at answered
    exact Or.inl ⟨answered.symm, id, (runInsert_some (Prod.ext same inserted)).1⟩

theorem dbCreateChannel_fresh {serverId : Int} {name : Text} {created : RowId}
    (ran : dbCreateChannel env before serverId name = (after, some created)) :
    (created : Int) ∉ before.channelIds ∧ after.messages = before.messages ∧
      after.channelIds = before.channelIds ++ [(created : Int)] := by
  obtain ⟨inserted, fresh⟩ := runInsert_some ran
  have tables := Database.commit_eq_some.mp inserted
  refine ⟨fresh, ?_, ?_⟩
  · rw [tables]
  · rw [Tables.channelIds, tables]
    exact List.map_append

/-- A channel that a call leaves was there before, or is the one that the call has created. -/
theorem DbCall.Runs.mem_channelIds (runs : call.Runs env before after)
    (present : channelId ∈ after.channelIds) :
    channelId ∈ before.channelIds ∨ ∃ serverId name created,
      call = .createChannel serverId name (some created) ∧ (created : Int) = channelId := by
  have unchanged : after.channels = before.channels → channelId ∈ before.channelIds := by
    intro same
    rwa [Tables.channelIds, same] at present
  cases call with
  | createChannel serverId name created =>
    cases created with
    | none =>
      obtain rfl := runInsert_none runs
      exact Or.inl present
    | some created =>
      obtain ⟨-, -, channelIds⟩ := dbCreateChannel_fresh runs
      rw [channelIds, List.mem_append, List.mem_singleton] at present
      exact present.imp id fun is => ⟨serverId, name, created, rfl, is.symm⟩
  | deleteChannel deletedId status =>
    rcases dbDeleteChannel_spec runs with ⟨-, rfl⟩ | ⟨-, rfl⟩
    · obtain ⟨row, member, same⟩ := List.mem_map.mp present
      exact Or.inl (List.mem_map.mpr ⟨row, List.mem_of_mem_filter member, same⟩)
    · exact Or.inl present
  | deleteServer serverId userId status =>
    rcases dbDeleteServer_spec runs with ⟨-, rfl⟩ | ⟨-, rfl⟩
    · obtain ⟨row, member, same⟩ := List.mem_map.mp present
      exact Or.inl (List.mem_map.mpr ⟨row, List.mem_of_mem_filter member, same⟩)
    · exact Or.inl present
  | saveMessage =>
    rcases dbSaveMessage_cases runs with ⟨rfl, id, inserted⟩ | ⟨rfl, rfl⟩
    · exact Or.inl (unchanged (by rw [Database.commit_eq_some.mp inserted]))
    · exact Or.inl present
  | createServer =>
    rcases dbCreateServer_spec runs with ⟨-, rfl⟩ | ⟨id, -, -, middle, tables, joined⟩
    · exact Or.inl present
    · refine Or.inl (unchanged ?_)
      rcases dbJoinServer_spec joined with ⟨-, inserted⟩ | ⟨-, rfl⟩
      · rw [Database.commit_eq_some.mp inserted, tables]
      · rw [tables]
  | joinServer =>
    rcases dbJoinServer_spec runs with ⟨-, inserted⟩ | ⟨-, rfl⟩
    · exact Or.inl (unchanged (by rw [Database.commit_eq_some.mp inserted]))
    · exact Or.inl present
  | leaveServer => rcases dbLeaveServer_spec runs with ⟨-, rfl⟩ | ⟨-, rfl⟩ <;> exact Or.inl present
  | kickServerMember =>
    rcases dbKickServerMember_spec runs with ⟨-, rfl⟩ | ⟨-, rfl⟩ <;> exact Or.inl present
  | createUser | getPasswordHash | getUserIdByName | updateUserStatus | saveDirectMessage
  | sendFriendRequest | acceptFriendRequest | removeFriendship | rejectFriendRequest =>
    exact Or.inl (unchanged (runs.sameServers rfl).channels)

theorem Tables.storedMessages_insert {tables : Tables} (row : MessageRow) (channelId : Int) :
    ({ tables with messages := tables.messages ++ [row] } : Tables).storedMessages channelId =
      if row.channelId = channelId then tables.storedMessages channelId ++ [(row.userId, row.content)]
      else tables.storedMessages channelId := by
  rw [storedMessages, storedMessages, List.filter_append, List.map_append, List.filter_singleton,
    cond_eq_ite]
  by_cases own : row.channelId = channelId
  · rw [if_pos own, if_pos (decide_eq_true own)]
    rfl
  · rw [if_neg own, if_neg (by simpa using own)]
    exact List.append_nil _

/-- A call does with the messages of a channel what the record of the call says. -/
theorem DbCall.Runs.storedMessages (runs : call.Runs env before after)
    (present : channelId ∈ after.channelIds) {messages : List Authored}
    (held : channelId ∈ before.channelIds → before.storedMessages channelId = messages) :
    after.storedMessages channelId = (Effect.called call).saves channelId messages := by
  have unchanged : after.messages = before.messages → after.channels = before.channels →
      (Effect.called call).saves channelId messages = messages →
      after.storedMessages channelId = (Effect.called call).saves channelId messages := by
    intro sameMessages sameChannels silent
    rw [silent, Tables.storedMessages_of_messages sameMessages]
    exact held (by rwa [Tables.channelIds, sameChannels] at present)
  cases call with
  | saveMessage savedId userId content status =>
    rcases dbSaveMessage_cases runs with ⟨rfl, id, inserted⟩ | ⟨rfl, rfl⟩
    · have tables := Database.commit_eq_some.mp inserted
      have old : channelId ∈ before.channelIds := by
        rwa [Tables.channelIds, tables] at present
      rw [tables, Tables.storedMessages_insert, held old]
      simp [Effect.saves]
    · exact unchanged rfl rfl (if_neg fun saved => absurd saved.2 (by decide))
  | createChannel serverId name created =>
    cases created with
    | none =>
      obtain rfl := runInsert_none runs
      exact unchanged rfl rfl rfl
    | some created =>
      obtain ⟨fresh, sameMessages, channelIds⟩ := dbCreateChannel_fresh runs
      rw [Tables.storedMessages_of_messages sameMessages, Effect.saves]
      by_cases own : (created : Int) = channelId
      · subst own
        rw [if_pos rfl, Database.storedMessages_of_not_mem fresh]
      · rw [channelIds, List.mem_append, List.mem_singleton] at present
        rw [if_neg own, held (present.resolve_right (Ne.symm own))]
  | deleteChannel deletedId status =>
    rcases dbDeleteChannel_spec runs with ⟨-, rfl⟩ | ⟨-, rfl⟩
    · have kept : (before.deleteChannel deletedId).storedMessages channelId =
          before.storedMessages channelId := Database.storedMessages_messagesWithout rfl rfl present
      rw [kept]
      obtain ⟨row, member, same⟩ := List.mem_map.mp present
      exact held (List.mem_map.mpr ⟨row, List.mem_of_mem_filter member, same⟩)
    · exact unchanged rfl rfl rfl
  | deleteServer serverId userId status =>
    rcases dbDeleteServer_spec runs with ⟨-, rfl⟩ | ⟨-, rfl⟩
    · have kept : (before.deleteServer serverId).storedMessages channelId =
          before.storedMessages channelId := Database.storedMessages_messagesWithout rfl rfl present
      rw [kept]
      obtain ⟨row, member, same⟩ := List.mem_map.mp present
      exact held (List.mem_map.mpr ⟨row, List.mem_of_mem_filter member, same⟩)
    · exact unchanged rfl rfl rfl
  | createServer =>
    refine unchanged (runs.sameMessages nofun nofun nofun) ?_ rfl
    rcases dbCreateServer_spec runs with ⟨-, rfl⟩ | ⟨id, -, -, middle, tables, joined⟩
    · rfl
    · rcases dbJoinServer_spec joined with ⟨-, inserted⟩ | ⟨-, rfl⟩
      · rw [Database.commit_eq_some.mp inserted, tables]
      · rw [tables]
  | joinServer =>
    refine unchanged (runs.sameMessages nofun nofun nofun) ?_ rfl
    rcases dbJoinServer_spec runs with ⟨-, inserted⟩ | ⟨-, rfl⟩
    · rw [Database.commit_eq_some.mp inserted]
    · rfl
  | leaveServer =>
    refine unchanged (runs.sameMessages nofun nofun nofun) ?_ rfl
    rcases dbLeaveServer_spec runs with ⟨-, rfl⟩ | ⟨-, rfl⟩ <;> rfl
  | kickServerMember =>
    refine unchanged (runs.sameMessages nofun nofun nofun) ?_ rfl
    rcases dbKickServerMember_spec runs with ⟨-, rfl⟩ | ⟨-, rfl⟩ <;> rfl
  | createUser | getPasswordHash | getUserIdByName | updateUserStatus | saveDirectMessage
  | sendFriendRequest | acceptFriendRequest | removeFriendship | rejectFriendRequest =>
    exact unchanged (runs.sameMessages nofun nofun nofun) (runs.sameServers rfl).channels rfl

end Calls

/-- The record has a call that has created the channel. -/
def CreatedChannel (channelId : Int) (trace : List Effect) : Prop :=
  ∃ serverId name, ∃ created : RowId,
    .called (.createChannel serverId name (some created)) ∈ trace ∧ (created : Int) = channelId

theorem CreatedChannel.append {channelId : Int} {trace : List Effect}
    (created : CreatedChannel channelId trace) (effects : List Effect) :
    CreatedChannel channelId (trace ++ effects) := by
  obtain ⟨serverId, name, row, member, same⟩ := created
  exact ⟨serverId, name, row, List.mem_append_left _ member, same⟩

/-- The channels that exist, and those with saved messages, were created. -/
theorem ReachableWhen.createdChannel {env : Env}
    {allowed : ServerContext → Int → TizcordPacket → Prop} {serverFd : Int} {machine : Machine}
    (reachable : ReachableWhen env allowed serverFd machine) (channelId : Int) :
    (channelId ∈ machine.loop.process.ctx.db.channelIds →
        CreatedChannel channelId machine.loop.process.trace) ∧
      (savedMessages channelId machine.loop.process.trace ≠ [] →
        CreatedChannel channelId machine.loop.process.trace) := by
  refine reachable.database_invariant
    (fun db trace => (channelId ∈ db.channelIds → CreatedChannel channelId trace) ∧
      (savedMessages channelId trace ≠ [] → CreatedChannel channelId trace))
    ⟨fun member => absurd member List.not_mem_nil, fun some => absurd rfl some⟩ ?_ ?_
  · intro db past effect other held
    have silent : effect.saves channelId (savedMessages channelId past) =
        savedMessages channelId past := by
      cases effect <;> first | rfl | exact absurd rfl (other _)
    rw [savedMessages_append_singleton, silent]
    exact ⟨fun present => (held.1 present).append _, fun some => (held.2 some).append _⟩
  · intro ctx fd beyond packet time call after past _ _ runs held
    have present : channelId ∈ after.channelIds →
        CreatedChannel channelId (past ++ [.called call]) := by
      intro present
      rcases runs.mem_channelIds present with old | ⟨serverId, name, created, rfl, same⟩
      · exact (held.1 old).append _
      · exact ⟨serverId, name, created, List.mem_append_right _ List.mem_cons_self, same⟩
    refine ⟨present, fun some => ?_⟩
    by_cases old : savedMessages channelId past = []
    · rw [savedMessages_append_singleton, old] at some
      cases call with
      | saveMessage savedId userId content status =>
        rw [Effect.saves] at some
        split at some
        · next saved =>
          obtain ⟨rfl, rfl⟩ := saved
          refine present ?_
          rcases dbSaveMessage_cases runs with ⟨-, id, inserted⟩ | ⟨impossible, -⟩
          · have references := after.integrity.messages_channel
            rw [Database.commit_eq_some.mp inserted] at references ⊢
            exact references _ (List.mem_append_right _ List.mem_cons_self)
          · exact absurd impossible (by decide)
        · exact absurd rfl some
      | createChannel serverId name created =>
        cases created with
        | none => exact absurd rfl some
        | some created =>
          rw [Effect.saves] at some
          split at some <;> exact absurd rfl some
      | _ => exact absurd rfl some
    · exact (held.2 old).append _

/-- In every reachable state a channel holds the messages that were saved in it since it was
created. -/
theorem ReachableWhen.storedMessages {env : Env}
    {allowed : ServerContext → Int → TizcordPacket → Prop} {serverFd : Int} {machine : Machine}
    (reachable : ReachableWhen env allowed serverFd machine) {channelId : Int}
    (present : channelId ∈ machine.loop.process.ctx.db.channelIds) :
    machine.loop.process.ctx.db.storedMessages channelId =
      savedMessages channelId machine.loop.process.trace := by
  have everywhere := reachable.database_invariant
    (fun db trace => channelId ∈ db.channelIds →
      db.storedMessages channelId = savedMessages channelId trace) ?_ ?_ ?_
  · exact everywhere present
  · exact fun member => absurd member List.not_mem_nil
  · intro db past effect other held present
    have silent : effect.saves channelId (savedMessages channelId past) =
        savedMessages channelId past := by
      cases effect <;> first | rfl | exact absurd rfl (other _)
    rw [savedMessages_append_singleton, silent]
    exact held present
  · intro ctx fd beyond packet time call after past _ _ runs held present
    rw [savedMessages_append_singleton]
    exact runs.storedMessages present held

end Tizcord
