/-
This file says what each call of the database can do to the tables, failures
included: it leaves them as they are, or changes one table (and what a deletion
cascades to) in the way its name says. No call takes an account away.
-/

import Tizcord.Server.HandlerSteps

namespace Tizcord

open CModel

variable {env : DbEnv} {before after : Database}

/-! ### Users and messages -/

theorem dbCreateUser_spec {username passwordHash : Text} {created : Option RowId}
    (ran : dbCreateUser env before username passwordHash = (after, created)) :
    created = none ∧ after = before ∨
    ∃ id, created = some id ∧ (id : Int) ∉ before.userIds ∧
      after.toTables = { before.toTables with
        users := before.users ++
          [⟨id, username, dummyEmail username, passwordHash, Text.empty⟩] } := by
  cases created with
  | none => exact Or.inl ⟨rfl, runInsert_none ran⟩
  | some id =>
    obtain ⟨inserted, fresh⟩ := runInsert_some ran
    exact Or.inr ⟨id, rfl, fresh, Database.commit_eq_some.mp inserted⟩

theorem dbUpdateUserStatus_spec {userId status : Int} {statusText : Text}
    (ran : dbUpdateUserStatus env before userId statusText = (after, status)) :
    after = before ∨ before.updateUserStatus userId statusText = some after := by
  have same : (runStatement env 0 before (before.updateUserStatus userId statusText)).1 = after := by
    unfold dbUpdateUserStatus at ran
    dsimp only at ran
    split at ran
    · exact congrArg Prod.fst ran
    · exact congrArg Prod.fst ran
  rcases runStatement_cases (Prod.ext same rfl) with ⟨-, updated⟩ | ⟨-, unchanged⟩
  · exact Or.inr updated
  · exact Or.inl unchanged

theorem dbSaveMessage_spec {channelId userId status : Int} {content : Text}
    (ran : dbSaveMessage env before channelId userId content = (after, status)) :
    after = before ∨ ∃ id, before.insertMessage ⟨id, channelId, userId, content, env.now⟩ =
      some after := by
  have same := congrArg Prod.fst ran
  cases inserted : (runInsert env 0 before before.messageIds fun id =>
      before.insertMessage ⟨id, channelId, userId, content, env.now⟩).2 with
  | none => exact Or.inl (runInsert_none (Prod.ext same inserted))
  | some id => exact Or.inr ⟨id, (runInsert_some (Prod.ext same inserted)).1⟩

theorem dbSaveDirectMessage_spec {senderId receiverId status : Int} {content : Text}
    (ran : dbSaveDirectMessage env before senderId receiverId content = (after, status)) :
    after = before ∨ ∃ id, before.insertDirectMessage
      ⟨id, senderId, receiverId, content, env.now⟩ = some after := by
  have same := congrArg Prod.fst ran
  cases inserted : (runInsert env 0 before before.directMessageIds fun id =>
      before.insertDirectMessage ⟨id, senderId, receiverId, content, env.now⟩).2 with
  | none => exact Or.inl (runInsert_none (Prod.ext same inserted))
  | some id => exact Or.inr ⟨id, (runInsert_some (Prod.ext same inserted)).1⟩

/-! ### Servers and channels -/

theorem dbCreateServer_spec {name : Text} {userId status : Int} {created : Option RowId}
    (ran : dbCreateServer env before name userId = (after, created, status)) :
    created = none ∧ after = before ∨
    ∃ id, created = some id ∧ (id : Int) ∉ before.serverIds ∧ ∃ middle : Database,
      middle.toTables = { before.toTables with servers := before.servers ++ [⟨id, name⟩] } ∧
      dbJoinServer (env.after 1) middle id userId true = (after, status) := by
  unfold dbCreateServer at ran
  split at ran
  · rename_i middle failed
    obtain ⟨same, rest⟩ := Prod.mk.inj ran
    obtain ⟨none', -⟩ := Prod.mk.inj rest
    exact Or.inl ⟨none'.symm, same ▸ runInsert_none failed⟩
  · rename_i middle id inserted
    obtain ⟨same, rest⟩ := Prod.mk.inj ran
    obtain ⟨some', answered⟩ := Prod.mk.inj rest
    obtain ⟨added, fresh⟩ := runInsert_some inserted
    exact Or.inr ⟨id, some'.symm, fresh, middle, Database.commit_eq_some.mp added,
      Prod.ext same answered⟩

theorem dbCreateServer_assigned {name : Text} {userId status : Int} {id : RowId}
    (ran : dbCreateServer env before name userId = (after, some id, status)) :
    newRowid env.rowid before.serverIds = some id := by
  unfold dbCreateServer at ran
  split at ran
  · cases (Prod.mk.inj (Prod.mk.inj ran).2).1
  · next inserted =>
    obtain rfl := Option.some.inj (Prod.mk.inj (Prod.mk.inj ran).2).1
    exact runInsert_assigned inserted

/-- A call that removes something has done so when its status is 0, and has done nothing
otherwise. -/
theorem dbJoinServer_spec {serverId userId status : Int} {isAdmin : Bool}
    (ran : dbJoinServer env before serverId userId isAdmin = (after, status)) :
    status = 0 ∧ before.insertServerMember ⟨serverId, userId, isAdmin⟩ = some after ∨
      status = -1 ∧ after = before :=
  runStatement_cases ran

theorem dbLeaveServer_spec {serverId userId status : Int}
    (ran : dbLeaveServer env before serverId userId = (after, status)) :
    status = 0 ∧ after = before.deleteServerMember (serverId, userId) ∨
      status = -1 ∧ after = before :=
  (runStatement_cases ran).imp_left fun done => ⟨done.1, (Option.some.inj done.2).symm⟩

theorem dbDeleteServer_spec {serverId userId status : Int}
    (ran : dbDeleteServer env before serverId userId = (after, status)) :
    status = 0 ∧ after = before.deleteServer serverId ∨ status = -1 ∧ after = before := by
  unfold dbDeleteServer at ran
  split at ran
  · obtain ⟨same, failed⟩ := Prod.mk.inj ran
    exact Or.inr ⟨failed.symm, same.symm⟩
  · exact (runStatement_cases ran).imp_left fun done => ⟨done.1, (Option.some.inj done.2).symm⟩

/-- Deleting a membership that is not there changes nothing. -/
theorem Database.deleteServerMember_of_none {database : Database} {pair : Int × Int}
    (none' : database.serverMembers.countP (fun row => row.pair = pair) = 0) :
    database.deleteServerMember pair = database := by
  have kept : database.serverMembers.filter (fun row => row.pair ≠ pair) =
      database.serverMembers := by
    refine List.filter_eq_self.mpr fun row member => ?_
    simpa using List.countP_eq_zero.mp none' row member
  exact Database.ext (congrArg (fun rows => { database.toTables with serverMembers := rows }) kept)

theorem dbKickServerMember_spec {serverId userId status : Int}
    (ran : dbKickServerMember env before serverId userId = (after, status)) :
    status = 0 ∧ after = before.deleteServerMember (serverId, userId) ∨
      status = -1 ∧ after = before := by
  unfold dbKickServerMember at ran
  split at ran
  · obtain ⟨same, failed⟩ := Prod.mk.inj ran
    exact Or.inr ⟨failed.symm, same.symm⟩
  · dsimp only at ran
    split at ran
    · rename_i succeeded
      obtain ⟨same, answered⟩ := Prod.mk.inj ran
      rcases runStatement_cases (Prod.ext same succeeded) with ⟨-, deleted⟩ | ⟨failed, -⟩
      · have removed := (Option.some.inj deleted).symm
        split at answered
        · exact Or.inl ⟨answered.symm, removed⟩
        · rename_i unchanged
          rw [Database.deleteServerMember_of_none (by omega)] at removed
          exact Or.inr ⟨answered.symm, removed⟩
      · exact absurd failed (by decide)
    · exact (runStatement_cases ran).imp_left fun done =>
        ⟨done.1, (Option.some.inj done.2).symm⟩

theorem dbCreateChannel_spec {serverId : Int} {name : Text} {created : Option RowId}
    (ran : dbCreateChannel env before serverId name = (after, created)) :
    created = none ∧ after = before ∨
    ∃ id, created = some id ∧ after.toTables = { before.toTables with
      channels := before.channels ++ [⟨id, serverId, name⟩] } := by
  cases created with
  | none => exact Or.inl ⟨rfl, runInsert_none ran⟩
  | some id =>
    exact Or.inr ⟨id, rfl, Database.commit_eq_some.mp (runInsert_some ran).1⟩

theorem dbDeleteChannel_spec {channelId status : Int}
    (ran : dbDeleteChannel env before channelId = (after, status)) :
    status = 0 ∧ after = before.deleteChannel channelId ∨ status = -1 ∧ after = before :=
  (runStatement_cases ran).imp_left fun done => ⟨done.1, (Option.some.inj done.2).symm⟩

/-! ### Friends -/

/-- The tables but for the friends are the same. -/
def SameButFriends (before after : Database) : Prop :=
  after.toTables = { before.toTables with friends := after.friends }

theorem SameButFriends.refl (database : Database) : SameButFriends database database := rfl

theorem SameButFriends.trans {middle : Database} (first : SameButFriends before middle)
    (second : SameButFriends middle after) : SameButFriends before after := by
  unfold SameButFriends at first second ⊢
  rw [second, first]

/-- A statement whose effect is on the friends leaves the other tables as they are. -/
theorem runStatement_sameButFriends {statement : Nat} {effect : Option Database}
    (friends : ∀ database, effect = some database → SameButFriends before database) :
    SameButFriends before (runStatement env statement before effect).1 := by
  generalize ran : runStatement env statement before effect = result
  obtain ⟨after, status⟩ := result
  rcases runStatement_cases ran with ⟨-, changed⟩ | ⟨-, rfl⟩
  · exact friends after changed
  · exact .refl after

theorem deleteFriends_sameButFriends (database : Database) (where' : FriendRow → Bool)
    (other : Database) (deleted : some (database.deleteFriends where') = some other) :
    SameButFriends database other := by
  rw [← Option.some.inj deleted]
  rfl

theorem dbAcceptFriendRequest_friends (env : DbEnv) (database : Database)
    (myUserId friendId : Int) :
    SameButFriends database (dbAcceptFriendRequest env database myUserId friendId).1 := by
  unfold dbAcceptFriendRequest
  dsimp only
  split
  · exact .refl database
  · split
    · exact .refl database
    · refine SameButFriends.trans (runStatement_sameButFriends fun other accepted => ?_)
        (runStatement_sameButFriends (deleteFriends_sameButFriends _ _))
      rw [← Option.some.inj accepted]
      rfl

theorem dbSendFriendRequest_friends (env : DbEnv) (database : Database) (userId friendId : Int) :
    SameButFriends database (dbSendFriendRequest env database userId friendId).1 := by
  unfold dbSendFriendRequest
  extract_lets existing rows statuses
  split
  · exact .refl database
  · split
    · exact dbAcceptFriendRequest_friends _ _ _ _
    · refine runStatement_sameButFriends fun other inserted => ?_
      have tables := Database.commit_eq_some.mp inserted
      unfold SameButFriends
      rw [tables]

theorem dbRemoveFriendship_friends (env : DbEnv) (database : Database) (userId friendId : Int) :
    SameButFriends database (dbRemoveFriendship env database userId friendId).1 := by
  unfold dbRemoveFriendship
  dsimp only
  split
  · exact .refl database
  · exact runStatement_sameButFriends (deleteFriends_sameButFriends _ _)

theorem dbRejectFriendRequest_friends (env : DbEnv) (database : Database)
    (myUserId senderId : Int) :
    SameButFriends database (dbRejectFriendRequest env database myUserId senderId).1 := by
  unfold dbRejectFriendRequest
  dsimp only
  split
  · exact .refl database
  · exact runStatement_sameButFriends (deleteFriends_sameButFriends _ _)

/-! ### What a call is not about -/

/-- A call leaves the tables as they are that it is not about. -/
def DbCall.Frame (before after : Tables) : DbCall → Prop
  | .getPasswordHash _ | .getUserIdByName _ => after = before
  | .createUser .. | .updateUserStatus .. => after = { before with users := after.users }
  | .saveMessage .. => after = { before with messages := after.messages }
  | .saveDirectMessage .. => after = { before with directMessages := after.directMessages }
  | .createServer .. =>
    after = { before with servers := after.servers, serverMembers := after.serverMembers }
  | .joinServer .. | .leaveServer .. | .kickServerMember .. =>
    after = { before with serverMembers := after.serverMembers }
  | .deleteServer .. =>
    after = { before with
      servers := after.servers
      serverMembers := after.serverMembers
      channels := after.channels
      messages := after.messages }
  | .createChannel .. => after = { before with channels := after.channels }
  | .deleteChannel .. =>
    after = { before with channels := after.channels, messages := after.messages }
  | .sendFriendRequest .. | .acceptFriendRequest .. | .removeFriendship ..
  | .rejectFriendRequest .. => after = { before with friends := after.friends }

theorem DbCall.Runs.frame {call : DbCall} (runs : call.Runs env before after) :
    call.Frame before.toTables after.toTables := by
  cases call with
  | getPasswordHash | getUserIdByName => exact congrArg Database.toTables runs
  | createUser =>
    rcases dbCreateUser_spec runs with ⟨-, rfl⟩ | ⟨id, -, -, tables⟩
    · rfl
    · rw [tables]
      rfl
  | updateUserStatus =>
    rcases dbUpdateUserStatus_spec runs with rfl | updated
    · rfl
    · rw [Database.commit_eq_some.mp updated]
      rfl
  | saveMessage =>
    rcases dbSaveMessage_spec runs with rfl | ⟨id, inserted⟩
    · rfl
    · rw [Database.commit_eq_some.mp inserted]
      rfl
  | saveDirectMessage =>
    rcases dbSaveDirectMessage_spec runs with rfl | ⟨id, inserted⟩
    · rfl
    · rw [Database.commit_eq_some.mp inserted]
      rfl
  | createServer =>
    rcases dbCreateServer_spec runs with ⟨-, rfl⟩ | ⟨id, -, -, middle, tables, joined⟩
    · rfl
    · rcases dbJoinServer_spec joined with ⟨-, inserted⟩ | ⟨-, rfl⟩
      · rw [Database.commit_eq_some.mp inserted, tables]
        rfl
      · rw [tables]
        rfl
  | joinServer =>
    rcases dbJoinServer_spec runs with ⟨-, inserted⟩ | ⟨-, rfl⟩
    · rw [Database.commit_eq_some.mp inserted]
      rfl
    · rfl
  | leaveServer => rcases dbLeaveServer_spec runs with ⟨-, rfl⟩ | ⟨-, rfl⟩ <;> rfl
  | deleteServer => rcases dbDeleteServer_spec runs with ⟨-, rfl⟩ | ⟨-, rfl⟩ <;> rfl
  | kickServerMember => rcases dbKickServerMember_spec runs with ⟨-, rfl⟩ | ⟨-, rfl⟩ <;> rfl
  | createChannel =>
    rcases dbCreateChannel_spec runs with ⟨-, rfl⟩ | ⟨id, -, tables⟩
    · rfl
    · rw [tables]
      rfl
  | deleteChannel => rcases dbDeleteChannel_spec runs with ⟨-, rfl⟩ | ⟨-, rfl⟩ <;> rfl
  | sendFriendRequest userId friendId =>
    have same := dbSendFriendRequest_friends env before userId friendId
    rwa [show dbSendFriendRequest env before userId friendId = (after, _) from runs] at same
  | acceptFriendRequest userId friendId =>
    have same := dbAcceptFriendRequest_friends env before userId friendId
    rwa [show dbAcceptFriendRequest env before userId friendId = (after, _) from runs] at same
  | removeFriendship userId friendId =>
    have same := dbRemoveFriendship_friends env before userId friendId
    rwa [show dbRemoveFriendship env before userId friendId = (after, _) from runs] at same
  | rejectFriendRequest userId senderId =>
    have same := dbRejectFriendRequest_friends env before userId senderId
    rwa [show dbRejectFriendRequest env before userId senderId = (after, _) from runs] at same

/-! ### Accounts -/

/-- What stays of a user for ever. -/
structure Account where
  userId : Int
  username : Text
  passwordHash : Text
  deriving DecidableEq

def Tables.accounts (tables : Tables) : List Account :=
  tables.users.map fun row => ⟨row.id, row.username, row.passwordHash⟩

theorem Tables.userIds_eq (tables : Tables) :
    tables.userIds = tables.accounts.map Account.userId := by
  rw [userIds, accounts, List.map_map]
  rfl

/-- The account a call creates. -/
def DbCall.account : DbCall → Option Account
  | .createUser username passwordHash (some id) => some ⟨id, username, passwordHash⟩
  | _ => none

theorem accounts_of_status {userId : Int} {statusText : Text}
    (updated : before.updateUserStatus userId statusText = some after) :
    after.accounts = before.accounts := by
  rw [Database.commit_eq_some.mp updated, Tables.accounts, Tables.accounts, List.map_map]
  refine List.map_congr_left fun row _ => ?_
  dsimp only [Function.comp]
  split <;> rfl

/-- Accounts are there for ever; a call adds the one it creates. -/
theorem DbCall.Runs.accounts {call : DbCall} (runs : call.Runs env before after) :
    after.accounts = before.accounts ++ call.account.toList := by
  have unchanged : after.accounts = before.accounts →
      after.accounts = before.accounts ++ (none : Option Account).toList :=
    fun same => same.trans (List.append_nil _).symm
  have frame := runs.frame
  cases call with
  | createUser username passwordHash created =>
    rcases dbCreateUser_spec runs with ⟨rfl, rfl⟩ | ⟨id, rfl, -, tables⟩
    · exact unchanged rfl
    · rw [tables]
      exact List.map_append
  | updateUserStatus =>
    rcases dbUpdateUserStatus_spec runs with rfl | updated
    · exact unchanged rfl
    · exact unchanged (accounts_of_status updated)
  | _ => exact unchanged (congrArg Tables.accounts frame :)

theorem DbCall.Runs.userIds_subset {call : DbCall} (runs : call.Runs env before after) :
    before.userIds ⊆ after.userIds := by
  rw [Tables.userIds_eq, Tables.userIds_eq, runs.accounts, List.map_append]
  exact List.subset_append_left _ _

/-- The creator of a server can join it when there is such a user. -/
theorem insertServerMember_created {middle : Database} {name : Text} {userId : Int} {id : RowId}
    (fresh : (id : Int) ∉ before.serverIds)
    (created : before.insertServer ⟨id, name⟩ = some middle) :
    (∃ after, middle.insertServerMember ⟨id, userId, true⟩ = some after) ↔
      userId ∈ before.userIds := by
  have tables := Database.commit_eq_some.mp created
  have users : middle.userIds = before.userIds := by
    rw [Tables.userIds, tables]
    rfl
  constructor
  · rintro ⟨after, joined⟩
    have references := after.integrity.members_user
    rw [Database.commit_eq_some.mp joined] at references
    rw [← users]
    exact ((references_append_singleton _ _ _ _).mp references).2
  · intro user
    have server : (id : Int) ∈ middle.serverIds := by
      rw [Tables.serverIds, tables, List.map_append]
      exact List.mem_append_right _ List.mem_cons_self
    have apart : ((id : Int), userId) ∉ middle.serverMembers.map ServerMemberRow.pair := by
      rw [tables]
      intro taken
      obtain ⟨row, member, same⟩ := List.mem_map.mp taken
      have known := before.integrity.members_server row member
      rw [show row.serverId = (id : Int) from congrArg Prod.fst same] at known
      exact fresh known
    have integrity : Tables.Integrity { middle.toTables with
        serverMembers := middle.serverMembers ++ [⟨id, userId, true⟩] } :=
      { middle.integrity with
        members_server := (references_append_singleton _ _ _ _).mpr
          ⟨middle.integrity.members_server, server⟩
        members_user := (references_append_singleton _ _ _ _).mpr
          ⟨middle.integrity.members_user, users ▸ user⟩
        members_pair := (uniqueOn_append_singleton _ _ _).mpr
          ⟨middle.integrity.members_pair, apart⟩ }
    exact ⟨_, Database.commit_of_integrity integrity⟩

end Tizcord
