/-
This file says whose friend list a request about friends changes, and who is told.
The tie of two users is in the lists of these two only; the other of the two is sent
the list when the tie has moved, and the one who asks when it has become a friendship.
-/

import Tizcord.Server.Friendships
import Tizcord.Server.SentPackets

namespace Tizcord

open CModel

/-! ### The rows of a user -/

/-- The rows of a user, in either direction. -/
def rowsOf (userId : Int) (rows : List FriendRow) : List FriendRow :=
  rows.filter fun row => row.userId = userId || row.friendId = userId

section Rows

variable {rows : List FriendRow} {userId first second : Int} {env : DbEnv}
  {database before after : Database}

theorem filter_rowsOf {own : FriendRow → Bool} (mine : ∀ row : FriendRow, own row = true →
    row.userId = userId ∨ row.friendId = userId) :
    (rowsOf userId rows).filter own = rows.filter own := by
  rw [rowsOf, List.filter_filter]
  refine List.filter_congr fun row _ => ?_
  cases is : own row with
  | false => rfl
  | true =>
    rw [Bool.true_and]
    simpa using mine row is

/-- The friend list of a user depends on the rows of the user and on the accounts. -/
theorem friendList_congr (same : rowsOf userId after.friends = rowsOf userId before.friends)
    {more : List Account} (accounts : after.accounts = before.accounts ++ more)
    (fresh : ∀ account ∈ more, account.userId ∉ before.userIds) :
    friendList after userId = friendList before userId := by
  have incoming : after.friends.filter (fun row => row.friendId = userId) =
      before.friends.filter fun row => row.friendId = userId := by
    rw [← @filter_rowsOf after.friends userId _ fun row is => Or.inr (of_decide_eq_true is), same]
    exact filter_rowsOf fun row is => Or.inr (of_decide_eq_true is)
  have outgoing : after.friends.filter (fun row => row.userId = userId) =
      before.friends.filter fun row => row.userId = userId := by
    rw [← @filter_rowsOf after.friends userId _ fun row is => Or.inl (of_decide_eq_true is), same]
    exact filter_rowsOf fun row is => Or.inl (of_decide_eq_true is)
  -- the names of a known user come from the accounts
  have named : ∀ (database : Database) (id code : Int),
      ((database.users.filter fun user => (user.id : Int) = id).map fun user =>
        FriendListRow.mk user.id user.username code) =
      (database.accounts.filter fun account => account.userId = id).map fun account =>
        FriendListRow.mk account.userId account.username code := by
    intro database id code
    rw [Tables.accounts, List.filter_map, List.map_map]
    rfl
  have known : ∀ id code, id ∈ before.userIds →
      ((after.users.filter fun user => (user.id : Int) = id).map fun user =>
        FriendListRow.mk user.id user.username code) =
      (before.users.filter fun user => (user.id : Int) = id).map fun user =>
        FriendListRow.mk user.id user.username code := by
    intro id code member
    have none' : more.filter (fun account => account.userId = id) = [] :=
      List.filter_eq_nil_iff.mpr fun account new is =>
        fresh account new (of_decide_eq_true is ▸ member)
    rw [named, named, accounts, List.filter_append, none', List.append_nil]
  have senders := before.integrity.friends_user
  have receivers := before.integrity.friends_friend
  rw [friendList, friendList, incoming, outgoing]
  refine congrArg₂ _ (List.flatMap_congr fun row member => ?_)
    (List.flatMap_congr fun row member => ?_)
  · exact known _ _ (senders row (List.mem_of_mem_filter member))
  · exact known _ _ (receivers row (List.mem_of_mem_filter member))

/-! ### Actions -/

theorem not_between_of_row {row : FriendRow} (own : row.userId = userId ∨ row.friendId = userId)
    (apart : userId ≠ first ∧ userId ≠ second) : row.isBetween first second = false := by
  refine Bool.eq_false_iff.mpr fun between => ?_
  rcases FriendRow.isBetween_iff.mp between with pair | pair <;>
    obtain ⟨sender, receiver⟩ := Prod.mk.inj pair <;> rcases own with is | is <;> omega

theorem rowsOf_deleteFriends {select : FriendRow → Bool} (apart : userId ≠ first ∧ userId ≠ second)
    (inside : ∀ row, select row = true → row.isBetween first second = true) :
    rowsOf userId (database.deleteFriends select).friends = rowsOf userId database.friends := by
  show rowsOf userId (database.friends.filter fun row => !select row) = _
  rw [rowsOf, rowsOf, List.filter_filter]
  refine List.filter_congr fun row _ => ?_
  by_cases own : row.userId = userId ∨ row.friendId = userId
  · have kept : select row = false := Bool.eq_false_iff.mpr fun selected =>
      Bool.eq_false_iff.mp (not_between_of_row own apart) (inside row selected)
    rw [kept]
    exact Bool.and_true _
  · have other : (decide (row.userId = userId) || decide (row.friendId = userId)) = false := by
      simpa using own
    rw [other, Bool.false_and]

theorem rowsOf_acceptFriend (apart : userId ≠ first ∧ userId ≠ second) :
    rowsOf userId (database.acceptFriend (second, first)).friends =
      rowsOf userId database.friends := by
  show rowsOf userId (database.friends.map fun row =>
    if row.pair = (second, first) then { row with isAccepted := true } else row) = _
  rw [rowsOf, rowsOf, List.filter_map]
  have sameTest : ((fun row : FriendRow =>
      decide (row.userId = userId) || decide (row.friendId = userId)) ∘ fun row : FriendRow =>
        if row.pair = (second, first) then { row with isAccepted := true } else row) =
      fun row => decide (row.userId = userId) || decide (row.friendId = userId) := by
    funext row
    dsimp only [Function.comp]
    split <;> rfl
  rw [sameTest]
  refine (List.map_congr_left fun row member => if_neg fun pair => ?_).trans (List.map_id _)
  have own : row.userId = userId ∨ row.friendId = userId := by
    simpa using (List.mem_filter.mp member).2
  exact Bool.eq_false_iff.mp (not_between_of_row own apart)
    (FriendRow.isBetween_iff.mpr (Or.inr pair))

theorem rowsOf_accept (reliable : env.Reliable) (apart : userId ≠ first ∧ userId ≠ second) :
    rowsOf userId (dbAcceptFriendRequest env database first second).1.friends =
      rowsOf userId database.friends := by
  rw [dbAcceptFriendRequest_of_reliable reliable]
  split
  · rfl
  · split
    · rfl
    · dsimp only
      rw [rowsOf_deleteFriends apart fun row selected => ?_, rowsOf_acceptFriend apart]
      simp only [Bool.and_eq_true, decide_eq_true_eq] at selected
      exact FriendRow.isBetween_iff.mpr (Or.inl (Prod.ext selected.1.1 selected.1.2))

/-- An action on the tie of two users leaves the rows of all others as they are. -/
theorem TieAction.rowsOf_run (action : TieAction) (reliable : env.Reliable)
    (apart : userId ≠ first ∧ userId ≠ second) :
    rowsOf userId (action.run env database first second).1.friends =
      rowsOf userId database.friends := by
  cases action with
  | request =>
    rw [run, dbSendFriendRequest]
    dsimp only
    generalize collectFriendStatuses first second _ = statuses
    split
    · rfl
    · split
      · exact rowsOf_accept (reliable.after 1) apart
      · rw [runStatement_of_reliable (reliable.after 1)]
        cases inserted : database.insertFriend ⟨first, second, false⟩ with
        | none => rfl
        | some after =>
          dsimp only
          rw [Database.commit_eq_some.mp inserted, rowsOf, rowsOf, List.filter_append,
            List.filter_singleton]
          have other : (decide (first = userId) || decide (second = userId)) = false := by
            simpa using ⟨apart.1.symm, apart.2.symm⟩
          rw [other]
          exact List.append_nil _
  | accept => exact rowsOf_accept reliable apart
  | reject =>
    rw [run, dbRejectFriendRequest_of_reliable reliable]
    split
    · rfl
    · refine rowsOf_deleteFriends apart fun row selected => ?_
      simp only [Bool.and_eq_true, decide_eq_true_eq] at selected
      exact FriendRow.isBetween_iff.mpr (Or.inr (Prod.ext selected.1.1 selected.1.2))
  | remove =>
    rw [run, dbRemoveFriendship_of_reliable reliable]
    split
    · rfl
    · exact rowsOf_deleteFriends apart fun _ between => between

theorem TieAction.run_runs (action : TieAction) (env : DbEnv) (database : Database)
    (userId friendId : Int) :
    (action.call userId friendId (action.run env database userId friendId).2).Runs env database
      (action.run env database userId friendId).1 := by
  cases action <;> rfl

/-- An action on the tie of two users leaves the friend lists of all others as they are. -/
theorem TieAction.friendList_run (action : TieAction) (reliable : env.Reliable)
    (apart : userId ≠ first ∧ userId ≠ second) :
    friendList (action.run env database first second).1 userId = friendList database userId := by
  have accounts := (action.run_runs env database first second).accounts
  refine friendList_congr (action.rowsOf_run reliable apart) (accounts.trans ?_)
    fun _ member => absurd member List.not_mem_nil
  cases action <;> rfl

theorem TieAction.Outcome.kept {action : TieAction} {status : Int} {rows later : List FriendRow}
    (outcome : action.Outcome first second status rows later) (negative : status < 0) :
    later = rows := by
  rw [TieAction.Outcome] at outcome
  split at outcome
  · exact absurd outcome.1 (not_le.mpr negative)
  · exact outcome.2

end Rows

/-! ### Handlers -/

section Handlers

variable {env : Env} {client : ClientNode} {process after : Process} {action : TieAction}
  {friendId : Int} {name : Text}

/-- The call of an action, after the other user has been looked up. -/
def TieAction.made (action : TieAction) (env : Env) (client : ClientNode) (name : Text)
    (friendId : Int) (process : Process) : Process × Int :=
  (findTargetUser env name process).1.change env
    (fun env db => action.run env db client.id friendId)
    (fun status => action.call client.id friendId status)

/-- What the handling of a request about friends comes to: it answers with an error without a call,
or after one that has failed; or it answers that the call has succeeded, and sends the list to the
other user, after the client if to both. -/
inductive HandlesTie (env : Env) (client : ClientNode) (name : Text) (action : TieAction)
    (process after : Process) : Prop
  | unmade (status : ResponseCode) (error : status.code < 0)
    (is : after = socialResponse env client.socketFd action.socialAction status
      (findTargetUser env name process).1)
  | failed {friendId : Int} (status : ResponseCode) (error : status.code < 0)
    (found : dbGetUserIdByName (env.db process.clock) process.ctx.db name = some friendId)
    (apart : action = .request → client.id ≠ friendId)
    (negative : (action.made env client name friendId process).2 < 0)
    (is : after = socialResponse env client.socketFd action.socialAction status
      (action.made env client name friendId process).1)
  | moved {friendId : Int} {middle : Process}
    (found : dbGetUserIdByName (env.db process.clock) process.ctx.db name = some friendId)
    (apart : action = .request → client.id ≠ friendId)
    (succeeded : 0 ≤ (action.made env client name friendId process).2)
    (is : middle = socialResponse env client.socketFd action.socialAction .ok
      (action.made env client name friendId process).1)
    (told : after = notifyFriendListUpdate env friendId middle ∨
      after = notifyFriendListUpdate env friendId (notifyFriendListUpdate env client.id middle))

/-- Apart from a request, an action has one negative status, or two for an acceptance. -/
theorem TieAction.status_cases (action : TieAction) (asked : Bool) (tie : Tie) :
    0 ≤ action.status asked tie ∨ action.status asked tie = -1 ∨
      action.status asked tie = -2 ∧ (action = .request ∨ action = .accept) := by
  cases action <;> cases tie <;> cases asked <;> decide

theorem TieAction.made_cases (action : TieAction) (reliable : env.Reliable)
    (paired : Paired process.ctx.db.friends) (user : client.id ∈ process.ctx.db.userIds)
    (found : dbGetUserIdByName (env.db process.clock) process.ctx.db name = some friendId)
    (apart : action = .request → client.id ≠ friendId) :
    0 ≤ (action.made env client name friendId process).2 ∨
      (action.made env client name friendId process).2 = -1 ∨
      (action.made env client name friendId process).2 = -2 ∧
        (action = .request ∨ action = .accept) := by
  have status := action.run_status (reliable (process.clock + 1)) paired user
    (mem_userIds_of_found found) apart
  rw [show (action.made env client name friendId process).2 =
    (action.run (env.db (process.clock + 1)) process.ctx.db client.id friendId).2 from rfl, status]
  exact action.status_cases _ _

theorem friendUnlink_cases (other : action ≠ .request ∧ action ≠ .accept)
    {operation : DbEnv → Database → Int → Int → Database × Int} {call : Int → Int → Int → DbCall}
    (runs : operation = action.run) (calls : call = action.call) (reliable : env.Reliable)
    (paired : Paired process.ctx.db.friends) (user : client.id ∈ process.ctx.db.userIds)
    (name : Text) :
    HandlesTie env client name action process
      (friendUnlink env client action.socialAction operation call name process) := by
  subst runs calls
  rw [friendUnlink]
  cases found : dbGetUserIdByName (env.db process.clock) process.ctx.db name with
  | none =>
    rw [show (findTargetUser env name process).2 = none from found]
    exact .unmade .errNotFound (by decide) rfl
  | some friendId =>
    have apart : action = .request → client.id ≠ friendId := fun is => absurd is other.1
    have made := action.made_cases reliable paired user found apart
    rw [show (findTargetUser env name process).2 = some friendId from found]
    dsimp only
    split
    · next missing =>
      exact .failed .errNotFound (by decide) found apart
        (lt_of_eq_of_lt missing (by decide)) rfl
    · next done =>
      refine .moved found apart ?_ rfl (Or.inl rfl)
      rcases made with succeeded | missing | ⟨-, is⟩
      · exact succeeded
      · exact absurd missing done
      · exact absurd is (not_or.mpr other)

theorem friendAccept_cases (reliable : env.Reliable) (paired : Paired process.ctx.db.friends)
    (user : client.id ∈ process.ctx.db.userIds) (name : Text) :
    HandlesTie env client name .accept process (friendAccept env client name process) := by
  rw [friendAccept]
  cases found : dbGetUserIdByName (env.db process.clock) process.ctx.db name with
  | none =>
    rw [show (findTargetUser env name process).2 = none from found]
    exact .unmade .errNotFound (by decide) rfl
  | some friendId =>
    have apart : TieAction.accept = .request → client.id ≠ friendId := TieAction.noConfusion
    have made := TieAction.made_cases .accept reliable paired user found apart
    rw [show (findTargetUser env name process).2 = some friendId from found]
    dsimp only
    split
    · next missing =>
      exact .failed .errNotFound (by decide) found apart
        (lt_of_eq_of_lt missing (by decide)) rfl
    · next present =>
      split
      · next already =>
        exact .failed .errConflict (by decide) found apart
          (lt_of_eq_of_lt already (by decide)) rfl
      · next done =>
        refine .moved found apart ?_ rfl (Or.inl rfl)
        rcases made with succeeded | missing | ⟨already, -⟩
        · exact succeeded
        · exact absurd missing present
        · exact absurd already done

theorem friendRequest_cases (name : Text) :
    HandlesTie env client name .request process (friendRequest env client name process) := by
  rw [friendRequest]
  cases found : dbGetUserIdByName (env.db process.clock) process.ctx.db name with
  | none =>
    rw [show (findTargetUser env name process).2 = none from found]
    exact .unmade .errNotFound (by decide) rfl
  | some friendId =>
    rw [show (findTargetUser env name process).2 = some friendId from found]
    dsimp only
    split
    · exact .unmade .errInvalid (by decide) rfl
    · next other =>
      have apart : TieAction.request = .request → client.id ≠ friendId := fun _ => Ne.symm other
      split
      · next already =>
        exact .failed .errConflict (by decide) found apart
          (lt_of_eq_of_lt already (by decide)) rfl
      · split
        · next negative => exact .failed .errDb (by decide) found apart negative rfl
        · next done =>
          have succeeded : 0 ≤ (TieAction.request.made env client name friendId process).2 :=
            not_lt.mp done
          split
          · exact .moved found apart succeeded rfl (Or.inr rfl)
          · exact .moved found apart succeeded rfl (Or.inl rfl)

/-- Every request about friends is handled in one of these ways. -/
theorem TieAction.handle_cases (action : TieAction) (reliable : env.Reliable)
    (paired : Paired process.ctx.db.friends) (user : client.id ∈ process.ctx.db.userIds)
    (name : Text) :
    HandlesTie env client name action process (action.handle env client name process) := by
  cases action with
  | request => exact friendRequest_cases name
  | accept => exact friendAccept_cases reliable paired user name
  | reject => exact friendUnlink_cases (by decide) rfl rfl reliable paired user name
  | remove => exact friendUnlink_cases (by decide) rfl rfl reliable paired user name

/-! ### Lists -/

/-- What the handling of a request about friends does: it leaves all friend lists as they are; or it
changes those of the client and of another user at most, and sends the list to the other user, after
the client if to both. -/
inductive FriendUpdate (env : Env) (client : ClientNode) (before after : Process) : Prop
  | kept (emits : Emits [] before after) (identities : after.ctx.identities = before.ctx.identities)
    (lists : ∀ userId, friendList after.ctx.db userId = friendList before.ctx.db userId)
  | moved {friendId : Int} {middle : Process} (friend : friendId ∈ before.ctx.db.userIds)
    (emits : Emits [] before middle)
    (identities : middle.ctx.identities = before.ctx.identities)
    (others : ∀ userId, userId ≠ client.id ∧ userId ≠ friendId →
      friendList middle.ctx.db userId = friendList before.ctx.db userId)
    (told : after = notifyFriendListUpdate env friendId middle ∨
      after = notifyFriendListUpdate env friendId (notifyFriendListUpdate env client.id middle))

theorem socialResponse_ctx (env : Env) (fd : Int) (action : SocialAction) (status : ResponseCode)
    (process : Process) : (socialResponse env fd action status process).ctx = process.ctx := by
  rw [socialResponse, sendActionResponse, sendPacketToClient]
  split <;> rfl

theorem TieAction.answer_unlisted (action : TieAction) :
    Request.topic (.social action.socialAction) = none := by
  cases action <;> rfl

theorem TieAction.made_emits (action : TieAction) (env : Env) (client : ClientNode) (name : Text)
    (friendId : Int) (process : Process) {topics : List Topic} :
    Emits topics process (action.made env client name friendId process).1 :=
  (findTargetUser_emits env name process).trans (Emits.change env _ _ _)

theorem TieAction.made_identities (action : TieAction) (env : Env) (client : ClientNode)
    (name : Text) (friendId : Int) (process : Process) :
    (action.made env client name friendId process).1.ctx.identities = process.ctx.identities :=
  rfl

/-- A call that fails leaves all tables as they are. -/
theorem TieAction.made_failed (reliable : env.Reliable) (paired : Paired process.ctx.db.friends)
    (user : client.id ∈ process.ctx.db.userIds)
    (found : dbGetUserIdByName (env.db process.clock) process.ctx.db name = some friendId)
    (apart : action = .request → client.id ≠ friendId)
    (negative : (action.made env client name friendId process).2 < 0) :
    (action.made env client name friendId process).1.ctx.db = process.ctx.db := by
  have outcome := action.outcome (reliable (process.clock + 1)) paired user
    (mem_userIds_of_found found) apart
  have kept := outcome.kept negative
  have frame := (action.run_runs (env.db (process.clock + 1)) process.ctx.db client.id
    friendId).frame
  refine Database.ext ?_
  cases action <;> exact frame.trans (by rw [kept])

/-- Every request about friends updates the lists in one of these ways. -/
theorem TieAction.handle_updates (action : TieAction) (reliable : env.Reliable)
    (paired : Paired process.ctx.db.friends) (user : client.id ∈ process.ctx.db.userIds)
    (name : Text) :
    FriendUpdate env client process (action.handle env client name process) := by
  cases action.handle_cases reliable paired user name with
  | unmade status _ is =>
    have ctx := socialResponse_ctx env client.socketFd action.socialAction status
      (findTargetUser env name process).1
    rw [is]
    refine .kept ((findTargetUser_emits env name process).trans (socialResponse_emits env _
      action.answer_unlisted status _)) (congrArg ServerContext.identities ctx) fun userId => ?_
    rw [ctx]
    rfl
  | @failed friendId status _ found apart negative is =>
    have ctx := socialResponse_ctx env client.socketFd action.socialAction status
      (action.made env client name friendId process).1
    have identities := congrArg ServerContext.identities ctx
    rw [action.made_identities] at identities
    rw [is]
    refine .kept ((action.made_emits env client name friendId process).trans (socialResponse_emits
      env _ action.answer_unlisted status _)) identities fun userId => ?_
    rw [ctx, TieAction.made_failed reliable paired user found apart negative]
  | @moved friendId middle found apart _ is told =>
    have ctx := socialResponse_ctx env client.socketFd action.socialAction .ok
      (action.made env client name friendId process).1
    rw [← is] at ctx
    have identities := congrArg ServerContext.identities ctx
    rw [action.made_identities] at identities
    refine .moved (mem_userIds_of_found found) ?_ identities (fun userId apart => ?_) told
    · rw [is]
      exact (action.made_emits env client name friendId process).trans (socialResponse_emits env _
        action.answer_unlisted .ok _)
    · rw [ctx]
      exact action.friendList_run (reliable (process.clock + 1)) apart

end Handlers

end Tizcord
