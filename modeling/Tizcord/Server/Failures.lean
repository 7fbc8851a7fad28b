/-
This file is about the operations of db.c that run several statements. Each
statement is committed by itself, and the results of some are not looked at. So
an operation can fail after its first statement took effect, or succeed though a
later one did not; it is said exactly when this happens.
-/

import Tizcord.Server.Friendships
import Tizcord.Server.Histories

namespace Tizcord

open CModel

/-! ### Statements that take place -/

/-- The prepare and the first step of the statement succeed. -/
def DbEnv.performs (env : DbEnv) (statement : Nat) : Bool :=
  !env.prepareFails statement && !env.stepFails statement 0

/-- The status of a statement, where the effect is not looked at, and the tables it leaves. -/
theorem runStatement_performs (env : DbEnv) (statement : Nat) (before : Database)
    (effect : Option Database) :
    runStatement env statement before effect =
      if env.performs statement then effect.elim (before, -1) fun after => (after, 0)
      else (before, -1) := by
  unfold runStatement DbEnv.performs
  cases env.prepareFails statement with
  | true => rfl
  | false =>
    cases env.stepFails statement 0 with
    | true => rfl
    | false => cases effect <;> rfl

theorem found_performs {Row : Type} (env : DbEnv) (statement : Nat) (rows : List Row) :
    (if env.prepareFails statement then none else env.firstRow statement rows) =
      if env.performs statement then rows.head? else none := by
  unfold DbEnv.firstRow DbEnv.performs
  cases env.prepareFails statement with
  | true => rfl
  | false => cases env.stepFails statement 0 <;> rfl

theorem runInsert_performs (env : DbEnv) (statement : Nat) (before : Database) (ids : List Int)
    (effect : RowId → Option Database) :
    runInsert env statement before ids effect =
      if env.performs statement then
        (newRowid env.rowid ids).elim (before, none) fun id =>
          (effect id).elim (before, none) fun after => (after, some id)
      else (before, none) := by
  unfold runInsert DbEnv.performs
  cases env.prepareFails statement with
  | true => rfl
  | false =>
    cases env.stepFails statement 0 with
    | true => rfl
    | false =>
      cases newRowid env.rowid ids with
      | none => rfl
      | some id =>
        dsimp only [Option.elim]
        cases effect id <;> rfl

theorem DbEnv.performs_after (env : DbEnv) (statement statements : Nat) :
    (env.after statements).performs statement = env.performs (statement + statements) := rfl

/-! ### Operations -/

/-- The operations that run more than one statement. -/
inductive DbOperation where
  | createServer (name : Text) (userId : Int)
  | friendship (action : TieAction) (userId friendId : Int)

namespace DbOperation

def run (operation : DbOperation) (env : DbEnv) (database : Database) : Database × Int :=
  match operation with
  | .createServer name userId =>
    let created := dbCreateServer env database name userId
    (created.1, created.2.2)
  | .friendship action userId friendId => action.run env database userId friendId

/-- The full effect of an operation that succeeds: a server with its admin, a new request between
users without a tie, a request turned into a friendship, or rows removed. -/
def Effect (before : Database) (status : Int) (after : Database) : DbOperation → Prop
  | .createServer name userId =>
    status = 0 ∧ ∃ id : RowId, after.toTables = { before.toTables with
      servers := before.servers ++ [⟨id, name⟩]
      serverMembers := before.serverMembers ++ [⟨id, userId, true⟩] }
  | .friendship .request userId friendId =>
    SameButFriends before after ∧
      (status = 0 ∧ rowsBetween before.friends userId friendId = [] ∧
          after.friends = before.friends ++ [⟨userId, friendId, false⟩] ∨
        status = 1 ∧ ⟨friendId, userId, false⟩ ∈ before.friends ∧
          after.friends = acceptedRows before.friends userId friendId)
  | .friendship .accept userId friendId =>
    SameButFriends before after ∧ status = 0 ∧ ⟨friendId, userId, false⟩ ∈ before.friends ∧
      after.friends = acceptedRows before.friends userId friendId
  | .friendship .reject userId friendId =>
    SameButFriends before after ∧ status = 0 ∧ ⟨friendId, userId, false⟩ ∈ before.friends ∧
      after.friends = before.friends.filter fun row => row ≠ ⟨friendId, userId, false⟩
  | .friendship .remove userId friendId =>
    SameButFriends before after ∧ status = 0 ∧
      (∃ row ∈ rowsBetween before.friends userId friendId, row.isAccepted) ∧
      after.friends = before.friends.filter fun row => !row.isBetween userId friendId

/-- The operation succeeds with its full effect, or fails and leaves the database as it was. -/
def AllOrNothing (operation : DbOperation) (env : DbEnv) (before : Database) : Prop :=
  operation.Effect before (operation.run env before).2 (operation.run env before).1 ∨
    (operation.run env before).2 < 0 ∧ (operation.run env before).1 = before

end DbOperation

/-- The rows between the two users that the query of a request delivers. -/
def requestRows (env : DbEnv) (before : Database) (userId friendId : Int) : List FriendRow :=
  if env.prepareFails 0 then []
  else (env.allRows 0 (arrange env.order (rowsBetween before.friends userId friendId))).1

/-- No statement of an acceptance fails whose effect is due. -/
def AcceptCompletes (env : DbEnv) (before : Database) (userId friendId : Int) : Prop :=
  env.performs 0 = false ∨ ⟨friendId, userId, false⟩ ∉ before.friends ∨
    env.performs 1 = true ∧
      (env.performs 2 = true ∨ userId = friendId ∨ ⟨userId, friendId, false⟩ ∉ before.friends)

/-- The condition on the failures, the arguments and the tables under which an operation is all or
nothing: its later statements do not fail once an earlier one took effect or was reported, and the
check of a request does not miss a row. -/
def DbOperation.Completes (env : DbEnv) (before : Database) : DbOperation → Prop
  | .createServer name userId =>
    env.performs 0 = false ∨ name ∈ before.servers.map ServerRow.name ∨
      newRowid env.rowid before.serverIds = none ∨
      env.performs 1 = true ∧ userId ∈ before.userIds
  | .friendship .request userId friendId =>
    userId = friendId ∨ (∃ row ∈ requestRows env before userId friendId, row.isAccepted = true) ∨
      ⟨friendId, userId, false⟩ ∈ requestRows env before userId friendId ∧
        AcceptCompletes (env.after 1) before userId friendId ∨
      ⟨friendId, userId, false⟩ ∉ requestRows env before userId friendId ∧
        (env.performs 1 = false ∨ (userId, friendId) ∈ before.friends.map FriendRow.pair ∨
          (friendId, userId) ∉ before.friends.map FriendRow.pair)
  | .friendship .accept userId friendId => AcceptCompletes env before userId friendId
  | .friendship .reject userId friendId =>
    env.performs 0 = false ∨ ⟨friendId, userId, false⟩ ∉ before.friends ∨ env.performs 1 = true
  | .friendship .remove userId friendId =>
    env.performs 0 = false ∨
      (∀ row ∈ rowsBetween before.friends userId friendId, row.isAccepted = false) ∨
      env.performs 1 = true

section Operations

variable {env : DbEnv} {before : Database} {userId friendId : Int}

/-! ### Servers -/

theorem insertServer_of_taken {name : Text} (taken : name ∈ before.servers.map ServerRow.name)
    (id : RowId) : before.insertServer ⟨id, name⟩ = none := by
  rw [Option.eq_none_iff_forall_not_mem]
  intro after inserted
  have unique := after.integrity.servers_name
  rw [Database.commit_eq_some.mp inserted] at unique
  exact ((uniqueOn_append_singleton _ _ _).mp unique).2 taken

theorem insertServer_of_free {name : Text} (free : name ∉ before.servers.map ServerRow.name)
    {id : RowId} (fresh : (id : Int) ∉ before.serverIds) :
    ∃ after, before.insertServer ⟨id, name⟩ = some after := by
  have wider : before.serverIds ⊆
      (before.servers ++ [(⟨id, name⟩ : ServerRow)]).map fun row => (row.id : Int) := by
    rw [List.map_append]
    exact List.subset_append_left _ _
  have integrity : Tables.Integrity { before.toTables with
      servers := before.servers ++ [⟨id, name⟩] } :=
    { before.integrity with
      servers_id := (uniqueOn_append_singleton _ _ _).mpr ⟨before.integrity.servers_id, fresh⟩
      servers_name := (uniqueOn_append_singleton _ _ _).mpr ⟨before.integrity.servers_name, free⟩
      members_server := before.integrity.members_server.mono wider
      channels_server := before.integrity.channels_server.mono wider }
  exact ⟨_, Database.commit_of_integrity integrity⟩

/-- What is left of a server whose creator could not join. -/
theorem createServer_halfway {middle : Database} {name : Text} {id : RowId}
    (created : before.insertServer ⟨id, name⟩ = some middle) : middle ≠ before := by
  intro same
  have servers := congrArg (fun database : Database => database.servers.length) same
  rw [Database.commit_eq_some.mp created, List.length_append, List.length_singleton] at servers
  omega

theorem createServer_allOrNothing (name : Text) :
    (DbOperation.createServer name userId).AllOrNothing env before ↔
      (DbOperation.createServer name userId).Completes env before := by
  have nothing : dbCreateServer env before name userId = (before, none, -1) →
      (DbOperation.createServer name userId).AllOrNothing env before := by
    intro failed
    refine Or.inr ?_
    rw [DbOperation.run, failed]
    exact ⟨show (-1 : Int) < 0 by decide, rfl⟩
  have cases : dbCreateServer env before name userId = (before, none, -1) ∧
      (env.performs 0 = false ∨ name ∈ before.servers.map ServerRow.name ∨
        newRowid env.rowid before.serverIds = none) ∨
      env.performs 0 = true ∧ name ∉ before.servers.map ServerRow.name ∧
        ∃ id middle, newRowid env.rowid before.serverIds = some id ∧
          before.insertServer ⟨id, name⟩ = some middle ∧
          dbCreateServer env before name userId =
            ((dbJoinServer (env.after 1) middle id userId true).1, some id,
              (dbJoinServer (env.after 1) middle id userId true).2) := by
    rw [dbCreateServer, runInsert_performs]
    cases performs : env.performs 0 with
    | false => exact Or.inl ⟨rfl, Or.inl rfl⟩
    | true =>
      cases assigned : newRowid env.rowid before.serverIds with
      | none => exact Or.inl ⟨rfl, Or.inr (Or.inr rfl)⟩
      | some id =>
        by_cases taken : name ∈ before.servers.map ServerRow.name
        · rw [if_pos rfl, Option.elim, insertServer_of_taken taken]
          exact Or.inl ⟨rfl, Or.inr (Or.inl taken)⟩
        · obtain ⟨middle, created⟩ := insertServer_of_free taken (newRowid_fresh assigned)
          rw [if_pos rfl, Option.elim, created]
          exact Or.inr ⟨rfl, taken, id, middle, rfl, created, rfl⟩
  rcases cases with ⟨failed, why⟩ | ⟨performs, free, id, middle, assigned, created, ran⟩
  · refine iff_of_true (nothing failed) ?_
    rcases why with unperformed | taken | full
    · exact Or.inl unperformed
    · exact Or.inr (Or.inl taken)
    · exact Or.inr (Or.inr (Or.inl full))
  · have joins : (∃ after, middle.insertServerMember ⟨id, userId, true⟩ = some after) ↔
        userId ∈ before.userIds := insertServerMember_created (newRowid_fresh assigned) created
    rw [DbOperation.AllOrNothing, DbOperation.run, ran, dbJoinServer, runStatement_performs,
      DbEnv.performs_after]
    by_cases completes : env.performs 1 = true ∧ userId ∈ before.userIds
    · obtain ⟨after, joined⟩ := joins.mpr completes.2
      refine iff_of_true (Or.inl ?_) (Or.inr (Or.inr (Or.inr completes)))
      rw [if_pos completes.1, joined]
      refine ⟨rfl, id, ?_⟩
      rw [Option.elim, Database.commit_eq_some.mp joined, Database.commit_eq_some.mp created]
    · have left : (if env.performs (0 + 1) = true then
          (middle.insertServerMember ⟨id, userId, true⟩).elim (middle, (-1 : Int))
            fun after => (after, 0)
          else (middle, -1)) = (middle, -1) := by
        split
        · rename_i performed
          have unknown : middle.insertServerMember ⟨id, userId, true⟩ = none := by
            rw [Option.eq_none_iff_forall_not_mem]
            exact fun after joined => completes ⟨performed, joins.mp ⟨after, joined⟩⟩
          rw [unknown]
          rfl
        · rfl
      rw [left]
      refine iff_of_false ?_ ?_
      · rintro (⟨failed, -⟩ | ⟨-, same⟩)
        · exact absurd (show (-1 : Int) = 0 from failed) (by decide)
        · exact createServer_halfway created same
      · rintro (unperformed | taken | full | done)
        · rw [performs] at unperformed
          cases unperformed
        · exact free taken
        · rw [assigned] at full
          cases full
        · exact completes done

/-! ### Friends -/

theorem mem_of_head? {select : FriendRow → Bool} {row : FriendRow}
    (found : (before.friends.filter select).head? = some row) :
    row ∈ before.friends ∧ select row = true :=
  List.mem_filter.mp (List.mem_of_head? found)

/-- A row of friends is the only one of its pair. -/
theorem eq_of_pair {first second : FriendRow} (firstMember : first ∈ before.friends)
    (secondMember : second ∈ before.friends) (same : first.pair = second.pair) : first = second :=
  before.integrity.friends_pair.eq_of_key firstMember secondMember same

/-- An acceptance fails, or reports that the request is accepted. -/
theorem dbAcceptFriendRequest_performs :
    (env.performs 0 = false ∨ ⟨friendId, userId, false⟩ ∉ before.friends) ∧
        (dbAcceptFriendRequest env before userId friendId).2 < 0 ∧
        (dbAcceptFriendRequest env before userId friendId).1 = before ∨
      env.performs 0 = true ∧ ⟨friendId, userId, false⟩ ∈ before.friends ∧
        dbAcceptFriendRequest env before userId friendId =
          ((runStatement env 2 (runStatement env 1 before
              (some (before.acceptFriend (friendId, userId)))).1
            (some ((runStatement env 1 before
              (some (before.acceptFriend (friendId, userId)))).1.deleteFriends fun row =>
                row.userId = userId && row.friendId = friendId && !row.isAccepted))).1, 0) := by
  unfold dbAcceptFriendRequest
  dsimp only
  rw [found_performs]
  cases performs : env.performs 0 with
  | false => exact Or.inl ⟨Or.inl rfl, show (-1 : Int) < 0 by decide, rfl⟩
  | true =>
    rw [if_pos rfl]
    split
    · rename_i none'
      refine Or.inl ⟨Or.inr fun member => ?_, show (-1 : Int) < 0 by decide, rfl⟩
      have missing := List.filter_eq_nil_iff.mp (List.head?_eq_none_iff.mp none') _ member
      simp at missing
    · rename_i row found
      obtain ⟨member, selected⟩ := mem_of_head? found
      obtain ⟨other, own, isAccepted⟩ := row
      simp only [Bool.and_eq_true, decide_eq_true_eq] at selected
      obtain ⟨rfl, rfl⟩ := selected
      cases isAccepted with
      | true =>
        rw [if_pos rfl]
        refine Or.inl ⟨Or.inr fun pending => ?_, show (-2 : Int) < 0 by decide, rfl⟩
        cases eq_of_pair member pending rfl
      | false =>
        rw [if_neg Bool.false_ne_true]
        exact Or.inr ⟨rfl, member, rfl⟩

/-- The table after an acceptance has the friendship, and no request of this pair. -/
theorem accepted_mem (member : ⟨friendId, userId, false⟩ ∈ before.friends) :
    ⟨friendId, userId, true⟩ ∈ acceptedRows before.friends userId friendId := by
  refine List.mem_filter.mpr ⟨List.mem_map.mpr ⟨_, member, ?_⟩, ?_⟩
  · exact if_pos rfl
  · simp

/-- An acceptance whose statements take place, as far as they have an effect, is complete. -/
theorem accept_complete (member : ⟨friendId, userId, false⟩ ∈ before.friends) :
    (runStatement env 2 (runStatement env 1 before
        (some (before.acceptFriend (friendId, userId)))).1
      (some ((runStatement env 1 before
        (some (before.acceptFriend (friendId, userId)))).1.deleteFriends fun row =>
          row.userId = userId && row.friendId = friendId && !row.isAccepted))).1.friends =
        acceptedRows before.friends userId friendId ↔
      env.performs 1 = true ∧
        (env.performs 2 = true ∨ userId = friendId ∨
          ⟨userId, friendId, false⟩ ∉ before.friends) := by
  rw [runStatement_performs, runStatement_performs]
  have stale : ∀ rows : List FriendRow, rows.Sublist before.friends →
      rows ≠ acceptedRows before.friends userId friendId := by
    intro rows kept same
    have old := kept.subset (same ▸ accepted_mem member)
    cases eq_of_pair member old rfl
  cases first : env.performs 1 with
  | false =>
    refine iff_of_false ?_ fun both => Bool.false_ne_true both.1
    cases env.performs 2 with
    | false => exact stale _ (List.Sublist.refl _)
    | true => exact stale _ List.filter_sublist
  | true =>
    cases second : env.performs 2 with
    | true => exact iff_of_true rfl ⟨rfl, Or.inl rfl⟩
    | false =>
      have cleaned : (before.friends.map fun row => if row.pair = (friendId, userId) then
            { row with isAccepted := true } else row) =
          acceptedRows before.friends userId friendId ↔
            userId = friendId ∨ ⟨userId, friendId, false⟩ ∉ before.friends := by
        rw [acceptedRows, eq_comm, List.filter_eq_self]
        constructor
        · intro clean
          by_cases self : userId = friendId
          · exact Or.inl self
          · refine Or.inr fun pending => ?_
            have kept := clean ⟨userId, friendId, false⟩
              (List.mem_map.mpr ⟨_, pending, if_neg fun same => self (congrArg Prod.fst same)⟩)
            simp at kept
        · intro absent row member
          obtain ⟨old, present, rfl⟩ := List.mem_map.mp member
          split
          · simp
          · rename_i other
            rw [Bool.not_eq_true', Bool.eq_false_iff]
            intro pending
            simp only [Bool.and_eq_true, decide_eq_true_eq, Bool.not_eq_true'] at pending
            obtain ⟨⟨own, friend⟩, waiting⟩ := pending
            rcases absent with same | missing
            · refine other (Prod.ext ?_ ?_)
              · exact own.trans same
              · exact friend.trans same.symm
            · refine missing ?_
              rw [← own, ← friend, ← waiting]
              exact present
      constructor
      · exact fun same => ⟨rfl, Or.inr (cleaned.mp same)⟩
      · exact fun done => cleaned.mpr (done.2.resolve_left Bool.false_ne_true)

/-- An acceptance fails and changes nothing, or it is reported, and is complete exactly under its
condition. -/
theorem accept_cases :
    (dbAcceptFriendRequest env before userId friendId).2 < 0 ∧
        (dbAcceptFriendRequest env before userId friendId).1 = before ∧
        AcceptCompletes env before userId friendId ∨
      (dbAcceptFriendRequest env before userId friendId).2 = 0 ∧
        ⟨friendId, userId, false⟩ ∈ before.friends ∧
        ((dbAcceptFriendRequest env before userId friendId).1.friends =
            acceptedRows before.friends userId friendId ↔
          AcceptCompletes env before userId friendId) := by
  rcases @dbAcceptFriendRequest_performs env before userId friendId with
    ⟨why, failed, same⟩ | ⟨performs, member, ran⟩
  · exact Or.inl ⟨failed, same, why.imp_right Or.inl⟩
  · refine Or.inr ⟨by rw [ran], member, ?_⟩
    rw [ran, accept_complete member, AcceptCompletes, performs]
    simp [member]

theorem accept_allOrNothing :
    (DbOperation.friendship .accept userId friendId).AllOrNothing env before ↔
      (DbOperation.friendship .accept userId friendId).Completes env before := by
  have other := dbAcceptFriendRequest_friends env before userId friendId
  rw [DbOperation.AllOrNothing, DbOperation.run, TieAction.run]
  rcases @accept_cases env before userId friendId with
    ⟨failed, same, completes⟩ | ⟨reported, member, complete⟩
  · exact iff_of_true (Or.inr ⟨failed, same⟩) completes
  · rw [DbOperation.Completes, ← complete]
    constructor
    · rintro (⟨-, -, -, full⟩ | ⟨failed, -⟩)
      · exact full
      · rw [reported] at failed
        exact absurd failed (by decide)
    · exact fun full => Or.inl ⟨other, reported, member, full⟩

/-- A deletion after a check, whose result is not looked at: it fails where the check finds nothing,
and else it is reported, and is done when its statement takes place. -/
theorem checkedDelete_cases {select goes : FriendRow → Bool} {result : Database × Int}
    (implied : ∀ row, select row = true → goes row = true)
    (ran : result =
      match if env.prepareFails 0 then none
        else env.firstRow 0 (before.friends.filter select) with
      | none => (before, -1)
      | some _ => ((runStatement env 1 before (some (before.deleteFriends goes))).1, 0)) :
    result = (before, -1) ∧
        (env.performs 0 = false ∨ ∀ row ∈ before.friends, select row = false) ∨
      result.2 = 0 ∧ env.performs 0 = true ∧ (∃ row ∈ before.friends, select row = true) ∧
        (result.1.friends = before.friends.filter (fun row => !goes row) ↔
          env.performs 1 = true) := by
  rw [found_performs, runStatement_performs] at ran
  cases performs : env.performs 0 with
  | false =>
    rw [performs] at ran
    exact Or.inl ⟨ran, Or.inl rfl⟩
  | true =>
    rw [performs, if_pos rfl] at ran
    cases found : (before.friends.filter select).head? with
    | none =>
      rw [found] at ran
      refine Or.inl ⟨ran, Or.inr fun row member => ?_⟩
      have missing := List.filter_eq_nil_iff.mp (List.head?_eq_none_iff.mp found) row member
      exact Bool.eq_false_iff.mpr missing
    | some row =>
      obtain ⟨member, selected⟩ := mem_of_head? found
      rw [found] at ran
      refine Or.inr ⟨by rw [ran], rfl, ⟨row, member, selected⟩, ?_⟩
      rw [ran]
      cases env.performs 1 with
      | true => exact iff_of_true rfl rfl
      | false =>
        refine iff_of_false (fun same => ?_) Bool.false_ne_true
        have kept : row ∈ before.friends.filter fun row => !goes row :=
          (show before.friends = _ from same) ▸ member
        have stays := (List.mem_filter.mp kept).2
        rw [implied row selected] at stays
        cases stays

theorem reject_allOrNothing :
    (DbOperation.friendship .reject userId friendId).AllOrNothing env before ↔
      (DbOperation.friendship .reject userId friendId).Completes env before := by
  have other := dbRejectFriendRequest_friends env before userId friendId
  have pending : ∀ row : FriendRow,
      (row.userId = friendId && row.friendId = userId && !row.isAccepted) = true ↔
        row = ⟨friendId, userId, false⟩ := by
    rintro ⟨first, second, isAccepted⟩
    simp [and_assoc]
  have removed : (before.friends.filter fun row =>
      !(row.userId = friendId && row.friendId = userId && !row.isAccepted)) =
        before.friends.filter fun row => row ≠ ⟨friendId, userId, false⟩ := by
    refine List.filter_congr fun row _ => ?_
    rw [Bool.eq_iff_iff, Bool.not_eq_true', Bool.eq_false_iff, ne_eq, pending]
    exact (decide_eq_true_iff).symm
  rw [DbOperation.AllOrNothing, DbOperation.run, TieAction.run]
  rcases checkedDelete_cases (fun _ selected => selected)
    (show dbRejectFriendRequest env before userId friendId = _ from rfl)
    with ⟨ran, why⟩ | ⟨reported, performs, ⟨row, member, selected⟩, done⟩
  · refine iff_of_true (Or.inr (by rw [ran]; exact ⟨neg_one_lt_zero, rfl⟩)) ?_
    refine why.imp_right fun missing => Or.inl fun member => ?_
    have unselected := missing _ member
    rw [(pending _).mpr rfl] at unselected
    cases unselected
  · obtain rfl := (pending row).mp selected
    rw [removed] at done
    rw [DbOperation.Completes, performs]
    constructor
    · rintro (⟨-, -, -, full⟩ | ⟨failed, -⟩)
      · exact Or.inr (Or.inr (done.mp full))
      · rw [reported] at failed
        exact absurd failed (by decide)
    · rintro (impossible | absent | performed)
      · cases impossible
      · exact absurd member absent
      · exact Or.inl ⟨other, reported, member, done.mpr performed⟩

theorem remove_allOrNothing :
    (DbOperation.friendship .remove userId friendId).AllOrNothing env before ↔
      (DbOperation.friendship .remove userId friendId).Completes env before := by
  have other := dbRemoveFriendship_friends env before userId friendId
  rw [DbOperation.AllOrNothing, DbOperation.run, TieAction.run]
  have implied : ∀ row : FriendRow, (row.isAccepted && row.isBetween userId friendId) = true →
      row.isBetween userId friendId = true :=
    fun _ selected => (Bool.and_eq_true_iff.mp selected).2
  rcases checkedDelete_cases implied
    (show dbRemoveFriendship env before userId friendId = _ from rfl)
    with ⟨ran, why⟩ | ⟨reported, performs, ⟨row, member, selected⟩, done⟩
  · refine iff_of_true (Or.inr (by rw [ran]; exact ⟨neg_one_lt_zero, rfl⟩)) ?_
    refine why.imp_right fun missing => Or.inl fun row between => ?_
    obtain ⟨member, is⟩ := List.mem_filter.mp between
    have unselected := missing row member
    rwa [is, Bool.and_true] at unselected
  · obtain ⟨accepted, between⟩ := Bool.and_eq_true_iff.mp selected
    have found : row ∈ rowsBetween before.friends userId friendId :=
      List.mem_filter.mpr ⟨member, between⟩
    rw [DbOperation.Completes, performs]
    constructor
    · rintro (⟨-, -, -, full⟩ | ⟨failed, -⟩)
      · exact Or.inr (Or.inr (done.mp full))
      · rw [reported] at failed
        exact absurd failed (by decide)
    · rintro (impossible | absent | performed)
      · cases impossible
      · rw [absent row found] at accepted
        cases accepted
      · exact Or.inl ⟨other, reported, ⟨row, found, accepted⟩, done.mpr performed⟩

/-- A request that is inserted is new. -/
theorem insertFriend_cases :
    before.insertFriend ⟨userId, friendId, false⟩ = none ∨
      (userId, friendId) ∉ before.friends.map FriendRow.pair ∧
        ∃ after, before.insertFriend ⟨userId, friendId, false⟩ = some after ∧
          after.friends = before.friends ++ [⟨userId, friendId, false⟩] := by
  cases inserted : before.insertFriend ⟨userId, friendId, false⟩ with
  | none => exact Or.inl rfl
  | some after =>
    have tables := Database.commit_eq_some.mp inserted
    have unique := after.integrity.friends_pair
    rw [tables] at unique
    exact Or.inr ⟨((uniqueOn_append_singleton _ _ _).mp unique).2, after, rfl, by rw [tables]⟩

/-- Where the other user has a row to the first, a request of the first fails only when there is
one already. -/
theorem insertFriend_of_reciprocal (taken : before.insertFriend ⟨userId, friendId, false⟩ = none)
    (reciprocal : (friendId, userId) ∈ before.friends.map FriendRow.pair) :
    (userId, friendId) ∈ before.friends.map FriendRow.pair := by
  by_contra free
  obtain ⟨row, member, same⟩ := List.mem_map.mp reciprocal
  have user := before.integrity.friends_friend row member
  have friend := before.integrity.friends_user row member
  rw [show row.friendId = userId from congrArg Prod.snd same] at user
  rw [show row.userId = friendId from congrArg Prod.fst same] at friend
  have integrity : Tables.Integrity { before.toTables with
      friends := before.friends ++ [⟨userId, friendId, false⟩] } :=
    { before.integrity with
      friends_user := (references_append_singleton _ _ _ _).mpr
        ⟨before.integrity.friends_user, user⟩
      friends_friend := (references_append_singleton _ _ _ _).mpr
        ⟨before.integrity.friends_friend, friend⟩
      friends_pair := (uniqueOn_append_singleton _ _ _).mpr
        ⟨before.integrity.friends_pair, free⟩ }
  rw [Database.insertFriend, Database.commit_of_integrity integrity] at taken
  cases taken

theorem rowsBetween_eq_nil_iff :
    rowsBetween before.friends userId friendId = [] ↔
      (userId, friendId) ∉ before.friends.map FriendRow.pair ∧
        (friendId, userId) ∉ before.friends.map FriendRow.pair := by
  rw [rowsBetween, List.filter_eq_nil_iff]
  simp only [FriendRow.isBetween_iff, List.mem_map, not_or, not_exists, not_and]
  exact forall₂_and

/-- A request that is inserted has its full effect when there is no row in the other direction. -/
theorem insertRequest_allOrNothing
    (ran : dbSendFriendRequest env before userId friendId =
      runStatement (env.after 1) 0 before (before.insertFriend ⟨userId, friendId, false⟩)) :
    (DbOperation.friendship .request userId friendId).AllOrNothing env before ↔
      env.performs 1 = false ∨ (userId, friendId) ∈ before.friends.map FriendRow.pair ∨
        (friendId, userId) ∉ before.friends.map FriendRow.pair := by
  have other := dbSendFriendRequest_friends env before userId friendId
  rw [DbOperation.AllOrNothing, DbOperation.run, TieAction.run, ran]
  rw [ran] at other
  rw [runStatement_performs, DbEnv.performs_after] at other ⊢
  cases performs : env.performs 1 with
  | false =>
    rw [if_neg Bool.false_ne_true]
    exact iff_of_true (Or.inr ⟨neg_one_lt_zero, rfl⟩) (Or.inl rfl)
  | true =>
    rw [show env.performs (0 + 1) = true from performs, if_pos rfl] at other
    rw [if_pos rfl]
    rcases @insertFriend_cases before userId friendId with taken | ⟨free, after, inserted, appended⟩
    · rw [taken]
      refine iff_of_true (Or.inr ⟨neg_one_lt_zero, rfl⟩) (Or.inr ?_)
      by_cases reciprocal : (friendId, userId) ∈ before.friends.map FriendRow.pair
      · exact Or.inl (insertFriend_of_reciprocal taken reciprocal)
      · exact Or.inr reciprocal
    · rw [inserted] at other ⊢
      constructor
      · rintro (⟨-, ⟨-, none', -⟩ | ⟨impossible, -⟩⟩ | ⟨impossible, -⟩)
        · exact Or.inr (Or.inr (rowsBetween_eq_nil_iff.mp none').2)
        · exact absurd (show (0 : Int) = 1 from impossible) (by decide)
        · exact absurd (show (0 : Int) < 0 from impossible) (by decide)
      · rintro (impossible | taken | alone)
        · cases impossible
        · exact absurd taken free
        · exact Or.inl ⟨other, Or.inl ⟨rfl, rowsBetween_eq_nil_iff.mpr ⟨free, alone⟩, appended⟩⟩

/-- A request that accepts the other user's one is as complete as the acceptance. -/
theorem acceptingRequest_allOrNothing
    (ran : dbSendFriendRequest env before userId friendId =
      ((dbAcceptFriendRequest (env.after 1) before userId friendId).1,
        if (dbAcceptFriendRequest (env.after 1) before userId friendId).2 = 0 then 1 else -1)) :
    (DbOperation.friendship .request userId friendId).AllOrNothing env before ↔
      AcceptCompletes (env.after 1) before userId friendId := by
  have other := dbSendFriendRequest_friends env before userId friendId
  rw [DbOperation.AllOrNothing, DbOperation.run, TieAction.run, ran]
  rw [ran] at other
  rcases @accept_cases (env.after 1) before userId friendId
    with ⟨failed, same, completes⟩ | ⟨reported, member, complete⟩
  · rw [if_neg (ne_of_lt failed)]
    exact iff_of_true (Or.inr ⟨neg_one_lt_zero, same⟩) completes
  · rw [if_pos reported] at other ⊢
    rw [← complete]
    constructor
    · rintro (⟨-, ⟨impossible, -⟩ | ⟨-, -, full⟩⟩ | ⟨impossible, -⟩)
      · exact absurd (show (1 : Int) = 0 from impossible) (by decide)
      · exact full
      · exact absurd (show (1 : Int) < 0 from impossible) (by decide)
    · exact fun full => Or.inl ⟨other, Or.inr ⟨rfl, member, full⟩⟩

/-- What the check of a request finds in each direction is the row of this direction. -/
theorem collectFriendStatuses_eq_some {rows : List FriendRow}
    (unique : UniqueOn FriendRow.pair rows) (isAccepted : Bool) :
    ((collectFriendStatuses userId friendId rows).sameDirection = some isAccepted ↔
      ⟨userId, friendId, isAccepted⟩ ∈ rows) ∧
    ((collectFriendStatuses userId friendId rows).reciprocal = some isAccepted ↔
      userId ≠ friendId ∧ ⟨friendId, userId, isAccepted⟩ ∈ rows) := by
  induction rows using List.reverseRecOn with
  | nil => simp [collectFriendStatuses]
  | append_singleton rows row inductionHypothesis =>
    obtain ⟨earlier, fresh⟩ := (uniqueOn_append_singleton _ _ _).mp unique
    obtain ⟨same, reciprocal⟩ := inductionHypothesis earlier
    have absent : ∀ other : Bool, ⟨row.userId, row.friendId, other⟩ ∉ rows := fun other member =>
      fresh (List.mem_map.mpr ⟨_, member, rfl⟩)
    obtain ⟨rowUser, rowFriend, accepted⟩ := row
    rw [collectFriendStatuses, List.foldl_append, List.foldl_cons, List.foldl_nil,
      ← collectFriendStatuses, List.mem_append, List.mem_append, List.mem_singleton,
      List.mem_singleton, FriendRow.mk.injEq, FriendRow.mk.injEq]
    dsimp only at absent ⊢
    split
    · next own =>
      obtain ⟨rfl, rfl⟩ := own
      refine ⟨?_, ?_⟩
      · simp [absent, eq_comm]
      · rw [reciprocal]
        simp +contextual [eq_comm]
    · next other =>
      split
      · next mirrored =>
        obtain ⟨rfl, rfl⟩ := mirrored
        have apart : rowFriend ≠ rowUser := fun is => other ⟨is.symm, is⟩
        refine ⟨?_, ?_⟩
        · rw [same]
          simp [apart]
        · simp [absent, apart, eq_comm]
      · next neither =>
        refine ⟨?_, ?_⟩
        · rw [same]
          refine (or_iff_left ?_).symm
          rintro ⟨rfl, rfl, -⟩
          exact other ⟨rfl, rfl⟩
        · rw [reciprocal]
          refine and_congr_right fun _ => (or_iff_left ?_).symm
          rintro ⟨rfl, rfl, -⟩
          exact neither ⟨rfl, rfl⟩

theorem requestRows_spec {row : FriendRow}
    (member : row ∈ requestRows env before userId friendId) :
    row ∈ before.friends ∧ row.isBetween userId friendId = true := by
  rw [requestRows] at member
  split at member
  · cases member
  · exact List.mem_filter.mp (mem_arrange.mp ((fetch_isPrefix ..).subset member))

theorem requestRows_unique : UniqueOn FriendRow.pair (requestRows env before userId friendId) := by
  rw [requestRows]
  split
  · exact List.nodup_nil
  · have unique := before.integrity.friends_pair.filter (FriendRow.isBetween userId friendId)
    have arranged := ((arrange_perm env.order _).map FriendRow.pair).nodup_iff.mpr unique
    exact arranged.sublist ((fetch_isPrefix ..).sublist.map FriendRow.pair)

theorem request_allOrNothing :
    (DbOperation.friendship .request userId friendId).AllOrNothing env before ↔
      (DbOperation.friendship .request userId friendId).Completes env before := by
  have ran : dbSendFriendRequest env before userId friendId =
      if (collectFriendStatuses userId friendId
            (requestRows env before userId friendId)).sameDirection = some true ∨
          (collectFriendStatuses userId friendId
            (requestRows env before userId friendId)).reciprocal = some true then (before, -2)
      else if (collectFriendStatuses userId friendId
          (requestRows env before userId friendId)).reciprocal = some false then
        ((dbAcceptFriendRequest (env.after 1) before userId friendId).1,
          if (dbAcceptFriendRequest (env.after 1) before userId friendId).2 = 0 then 1 else -1)
      else
        runStatement (env.after 1) 0 before (before.insertFriend ⟨userId, friendId, false⟩) := rfl
  have finds := @collectFriendStatuses_eq_some userId friendId
    (requestRows env before userId friendId) requestRows_unique
  rw [DbOperation.Completes]
  split at ran
  · rename_i already
    rw [(finds true).1, (finds true).2] at already
    have accepted : ∃ row ∈ requestRows env before userId friendId, row.isAccepted = true := by
      rcases already with own | ⟨-, friends⟩
      · exact ⟨_, own, rfl⟩
      · exact ⟨_, friends, rfl⟩
    rw [DbOperation.AllOrNothing, DbOperation.run, TieAction.run, ran]
    exact iff_of_true (Or.inr ⟨show (-2 : Int) < 0 by decide, rfl⟩) (Or.inr (Or.inl accepted))
  · rename_i strangers
    rw [(finds true).1, (finds true).2] at strangers
    have unaccepted : userId ≠ friendId →
        ¬ ∃ row ∈ requestRows env before userId friendId, row.isAccepted = true := by
      rintro apart ⟨row, member, accepted⟩
      obtain ⟨rowUser, rowFriend, isAccepted⟩ := row
      obtain rfl : isAccepted = true := accepted
      rcases FriendRow.isBetween_iff.mp (requestRows_spec member).2 with same | same <;>
        cases same
      · exact strangers (Or.inl member)
      · exact strangers (Or.inr ⟨apart, member⟩)
    split at ran
    · rename_i asked
      obtain ⟨apart, member⟩ := (finds false).2.mp asked
      rw [acceptingRequest_allOrNothing ran]
      constructor
      · exact fun completes => Or.inr (Or.inr (Or.inl ⟨member, completes⟩))
      · rintro (same | accepted | ⟨-, completes⟩ | ⟨absent, -⟩)
        · exact absurd same apart
        · exact absurd accepted (unaccepted apart)
        · exact completes
        · exact absurd member absent
    · rename_i unasked
      rw [insertRequest_allOrNothing ran]
      by_cases same : userId = friendId
      · refine iff_of_true (Or.inr ?_) (Or.inl same)
        rw [same]
        exact Decidable.em _
      · have absent : ⟨friendId, userId, false⟩ ∉ requestRows env before userId friendId :=
          fun member => unasked ((finds false).2.mpr ⟨same, member⟩)
        constructor
        · exact fun completes => Or.inr (Or.inr (Or.inr ⟨absent, completes⟩))
        · rintro (equal | accepted | ⟨member, -⟩ | ⟨-, completes⟩)
          · exact absurd equal same
          · exact absurd accepted (unaccepted same)
          · exact absurd member absent
          · exact completes

end Operations

/-- For every database, all arguments and every pattern of failures: an operation succeeds with its
full effect, or fails and changes nothing, exactly under its condition. -/
theorem operation_all_or_nothing (operation : DbOperation) (env : DbEnv) (before : Database) :
    operation.AllOrNothing env before ↔ operation.Completes env before := by
  cases operation with
  | createServer name userId => exact createServer_allOrNothing name
  | friendship action userId friendId =>
    cases action with
    | request => exact request_allOrNothing
    | accept => exact accept_allOrNothing
    | reject => exact reject_allOrNothing
    | remove => exact remove_allOrNothing

/-- An outside in which the second statement of an operation fails. -/
def secondFails : DbEnv :=
  ⟨fun statement _ => statement = 1, none, 0, fun _ => 0, fun _ => .refl _⟩

/-- The database after its first user registered. -/
def firstUserDatabase : Database :=
  (dbCreateUser (Env.ideal.db 0) Database.empty firstWord secondWord).1

/-- The first user of a new database creates a server and cannot join it: the creation fails, and
the server is there without a member. -/
theorem createServer_without_admin :
    ∃ calls, DbRun Database.empty calls firstUserDatabase ∧
      ¬ (DbOperation.createServer firstWord 1).AllOrNothing secondFails firstUserDatabase := by
  refine ⟨[⟨Env.ideal.db 0, .createUser firstWord secondWord (some RowId.first)⟩],
    DbRun.call (.none _) (Prod.ext rfl rfl), ?_⟩
  rw [createServer_allOrNothing]
  rintro (unperformed | taken | full | ⟨performed, -⟩)
  · cases unperformed
  · exact absurd taken (by decide)
  · exact absurd full (by decide)
  · cases performed

end Tizcord
