/-
This file is about what a friend list hides. A friendship keeps the direction in
which it was asked for, and the list shows the same to both friends. What an
action does depends on what is shown, and for one action on the direction, too.
-/

import Mathlib.Data.Multiset.ZeroCons
import Tizcord.Server.Friendships

namespace Tizcord

open CModel

/-! ### What is shown -/

/-- How the friend list of a user shows another user: the number in each row about them, whatever
the order of the rows. -/
def shownTo (env : DbEnv) (database : Database) (userId friendId : Int) : Multiset Int :=
  ((dbListFriendRequests env database userId).1.filter fun row =>
    row.targetUserId = friendId).map FriendListRow.isIncoming

/-- An action returns the same in two databases, and then both users see the same in both. -/
structure TieAction.SameOutcome (action : TieAction) (env otherEnv : DbEnv)
    (database other : Database) (userId friendId otherUserId otherFriendId : Int) : Prop where
  status : (action.run env database userId friendId).2 =
    (action.run otherEnv other otherUserId otherFriendId).2
  own : shownTo env (action.run env database userId friendId).1 userId friendId =
    shownTo otherEnv (action.run otherEnv other otherUserId otherFriendId).1 otherUserId
      otherFriendId
  friend : shownTo env (action.run env database userId friendId).1 friendId userId =
    shownTo otherEnv (action.run otherEnv other otherUserId otherFriendId).1 otherFriendId
      otherUserId

section Shown

variable {env : DbEnv} {database : Database} {userId friendId : Int}

/-- One of the two halves of a friend list, as far as it is about one user. -/
theorem shown_half {rows : List FriendRow} {key : FriendRow → Int}
    (references : References key rows database.userIds) (number : FriendRow → Int) (friendId : Int) :
    ((rows.flatMap fun row => (database.users.filter fun user => (user.id : Int) = key row).map
      fun user => FriendListRow.mk user.id user.username (number row)).filter
        fun row => row.targetUserId = friendId).map FriendListRow.isIncoming =
      (rows.filter fun row => key row = friendId).map number := by
  have pairs : (rows.flatMap fun row =>
      (database.users.filter fun user => (user.id : Int) = key row).map fun user =>
        FriendListRow.mk user.id user.username (number row)).map
          (fun row => (row.targetUserId, row.isIncoming)) =
      rows.map fun row => (key row, number row) :=
    references.map_join_eq database.integrity.users_id fun row other _ same => by rw [same]
  have halves := congrArg (fun pairs => (pairs.filter fun pair => pair.1 = friendId).map Prod.snd)
    pairs
  simp only [List.filter_map, List.map_map] at halves
  exact halves

/-- A friend list shows of each row between two users whether it is accepted, and where it is not,
in which direction it goes. -/
theorem shownTo_eq (reliable : env.Reliable) : shownTo env database userId friendId =
    (((database.friends.filter fun row => row.userId = friendId && row.friendId = userId).map
      fun row => if row.isAccepted then 2 else 1) ++
    (database.friends.filter fun row => row.userId = userId && row.friendId = friendId).map
      fun row => if row.isAccepted then 2 else 0 : List Int) := by
  have received := shown_half
    (database.integrity.friends_user.filter fun row => row.friendId = userId)
    (fun row => if row.isAccepted then 2 else 1) friendId
  have sent := shown_half
    (database.integrity.friends_friend.filter fun row => row.userId = userId)
    (fun row => if row.isAccepted then 2 else 0) friendId
  rw [List.filter_filter] at received sent
  have arranged := ((arrange_perm env.order (friendList database userId)).filter fun row =>
    row.targetUserId = friendId).map FriendListRow.isIncoming
  rw [shownTo, dbListFriendRequests_of_reliable reliable, Multiset.coe_eq_coe.mpr arranged,
    friendList, List.filter_append, List.map_append, received, sent]
  simp only [Bool.and_comm]

/-- Of a pair with at most one row, a friend list shows the tie. -/
theorem shownTo_of_paired (reliable : env.Reliable) (paired : Paired database.friends) :
    shownTo env database userId friendId = (tieOf database.friends userId friendId).code.toList := by
  have received : ∀ row : FriendRow, (row.userId = friendId && row.friendId = userId) = true →
      row.isBetween userId friendId = true := by
    intro row selected
    rw [FriendRow.isBetween, selected, Bool.or_true]
  have sent : ∀ row : FriendRow, (row.userId = userId && row.friendId = friendId) = true →
      row.isBetween userId friendId = true := by
    intro row selected
    rw [FriendRow.isBetween, selected, Bool.true_or]
  have describes := paired.describes userId friendId
  rw [shownTo_eq reliable, filter_eq_filter_rowsBetween received,
    filter_eq_filter_rowsBetween sent]
  cases is : tieOf database.friends userId friendId with
  | none =>
    rw [is] at describes
    rw [describes]
    rfl
  | outgoing | incoming =>
    rw [is] at describes
    have apart := paired.ne_of_between describes
    rw [describes]
    simp [apart, apart.symm, Tie.code]
  | friends =>
    rw [is] at describes
    rcases describes with shape | shape <;>
    · have apart := paired.ne_of_between shape
      rw [shape]
      simp [apart, apart.symm, Tie.code]

theorem Tie.code_injective {tie other : Tie}
    (same : (tie.code.toList : Multiset Int) = other.code.toList) : tie = other := by
  revert same
  cases tie <;> cases other <;> decide

/-! ### What an action makes of it -/

/-- After an action each user sees the tie that the action made, from their side. -/
theorem TieAction.run_shown (action : TieAction) (reliable : env.Reliable)
    (paired : Paired database.friends) (user : userId ∈ database.userIds)
    (friend : friendId ∈ database.userIds) (apart : action = .request → userId ≠ friendId) :
    let tie := (action.move (tieOf database.friends userId friendId)).getD
      (tieOf database.friends userId friendId)
    shownTo env (action.run env database userId friendId).1 userId friendId = tie.code.toList ∧
      shownTo env (action.run env database userId friendId).1 friendId userId =
        tie.mirror.code.toList := by
  have outcome := action.outcome reliable paired user friend apart
  have pairedAfter := outcome.paired paired
  rw [shownTo_of_paired reliable pairedAfter, shownTo_of_paired reliable pairedAfter,
    pairedAfter.tieOf_mirror userId friendId]
  have moved : tieOf (action.run env database userId friendId).1.friends userId friendId =
      (action.move (tieOf database.friends userId friendId)).getD
        (tieOf database.friends userId friendId) := by
    rw [TieAction.Outcome] at outcome
    cases moves : action.move (tieOf database.friends userId friendId) with
    | none =>
      rw [moves] at outcome
      rw [outcome.2, Option.getD_none]
    | some tie =>
      rw [moves] at outcome
      rw [outcome.2.2, if_pos rfl, Option.getD_some]
  rw [moved]
  exact ⟨rfl, rfl⟩

/-- Nothing stops a user of the database who asks themselves. -/
theorem request_self (reliable : env.Reliable) (paired : Paired database.friends)
    (user : userId ∈ database.userIds) :
    (TieAction.request.run env database userId userId).2 = 0 ∧
      shownTo env (TieAction.request.run env database userId userId).1 userId userId = {1, 0} := by
  obtain ⟨after, inserted, friends⟩ := insertFriend_of_none user user (paired.self userId)
  have statuses : collectFriendStatuses userId userId [] = ⟨none, none⟩ := rfl
  have ran : TieAction.request.run env database userId userId = (after, 0) := by
    rw [TieAction.run, dbSendFriendRequest_of_reliable reliable (paired.single userId userId),
      paired.self, statuses, inserted]
    rfl
  have nothing : (database.friends.filter fun row =>
      row.userId = userId && row.friendId = userId) = [] := by
    refine List.filter_eq_nil_iff.mpr fun row member selected => ?_
    rw [Bool.and_eq_true, decide_eq_true_iff, decide_eq_true_iff] at selected
    exact paired.apart row member (selected.1.trans selected.2.symm)
  rw [ran, shownTo_eq reliable, friends, List.filter_append, nothing]
  refine ⟨rfl, ?_⟩
  simp only [List.nil_append, List.filter_singleton, decide_true, Bool.and_self, cond_true]
  rfl

variable {otherEnv : DbEnv} {other : Database} {otherUserId otherFriendId : Int}

theorem Paired.friends_of_asked {rows : List FriendRow} (paired : Paired rows)
    (asked : ⟨friendId, userId, true⟩ ∈ rows) : tieOf rows userId friendId = .friends :=
  paired.tieOf_of_mem asked (Or.inr rfl)

theorem TieAction.status_accept {asked otherAsked : Bool}
    (same : TieAction.accept.status asked .friends = TieAction.accept.status otherAsked .friends) :
    asked = otherAsked := by
  cases asked <;> cases otherAsked <;> first | rfl | exact absurd same (by decide)

/-- Where an action finds the same tie in two databases, it has the same outcome, unless it is to
accept a friend who had asked in one of them only. -/
theorem TieAction.sameOutcome_iff (action : TieAction) (reliable : env.Reliable)
    (otherReliable : otherEnv.Reliable) (paired : Paired database.friends)
    (otherPaired : Paired other.friends) (user : userId ∈ database.userIds)
    (friend : friendId ∈ database.userIds) (otherUser : otherUserId ∈ other.userIds)
    (otherFriend : otherFriendId ∈ other.userIds)
    (alike : userId = friendId ↔ otherUserId = otherFriendId)
    (same : tieOf database.friends userId friendId =
      tieOf other.friends otherUserId otherFriendId) :
    action.SameOutcome env otherEnv database other userId friendId otherUserId otherFriendId ↔
      (action = .accept → (⟨friendId, userId, true⟩ ∈ database.friends ↔
        ⟨otherFriendId, otherUserId, true⟩ ∈ other.friends)) := by
  by_cases self : action = .request ∧ userId = friendId
  · obtain ⟨rfl, rfl⟩ := self
    obtain rfl := alike.mp rfl
    obtain ⟨status, shown⟩ := request_self reliable paired user
    obtain ⟨otherStatus, otherShown⟩ := request_self otherReliable otherPaired otherUser
    exact ⟨fun _ is => TieAction.noConfusion is, fun _ => ⟨status.trans otherStatus.symm,
      shown.trans otherShown.symm, shown.trans otherShown.symm⟩⟩
  · have apart : action = .request → userId ≠ friendId := fun is equal => self ⟨is, equal⟩
    have otherApart : action = .request → otherUserId ≠ otherFriendId :=
      fun is equal => self ⟨is, alike.mpr equal⟩
    have status := action.run_status reliable paired user friend apart
    have otherStatus := action.run_status otherReliable otherPaired otherUser otherFriend otherApart
    rw [← same] at otherStatus
    constructor
    · rintro outcome rfl
      have statuses := (status.symm.trans outcome.status).trans otherStatus
      by_cases friends : tieOf database.friends userId friendId = .friends
      · rw [friends] at statuses
        exact decide_eq_decide.mp (TieAction.status_accept statuses)
      · exact ⟨fun asked => absurd (paired.friends_of_asked asked) friends,
          fun asked => absurd (same.trans (otherPaired.friends_of_asked asked)) friends⟩
    · intro direction
      have own := action.run_shown reliable paired user friend apart
      have others := action.run_shown otherReliable otherPaired otherUser otherFriend otherApart
      rw [← same] at others
      refine ⟨?_, own.1.trans others.1.symm, own.2.trans others.2.symm⟩
      rw [status, otherStatus]
      cases action with
      | accept => rw [decide_eq_decide.mpr (direction rfl)]
      | request | reject | remove => cases tieOf database.friends userId friendId <;> rfl

end Shown

/-! ### Two reachable states -/

/-- Where a friend list shows the same relation in two reachable states, an action returns the same
in both and both users see the same afterwards, unless the action is to accept a friend, and the
friend is the one who had asked in one of the states only. So both users of a friendship find the
same outcome for every action but this one. -/
theorem shown_decides_iff {env otherEnv : Env} (reliable : env.Reliable)
    (otherReliable : otherEnv.Reliable) {serverFd otherFd : Int} {machine other : Machine}
    (reachable : Reachable env serverFd machine) (otherReachable : Reachable otherEnv otherFd other)
    {dbEnv otherDbEnv : DbEnv} (succeeds : dbEnv.Reliable) (otherSucceeds : otherDbEnv.Reliable)
    {userId friendId : Int} (user : userId ∈ machine.loop.process.ctx.db.userIds)
    (friend : friendId ∈ machine.loop.process.ctx.db.userIds) (action : TieAction) :
    (userId ∈ other.loop.process.ctx.db.userIds → friendId ∈ other.loop.process.ctx.db.userIds →
      shownTo dbEnv machine.loop.process.ctx.db userId friendId =
        shownTo otherDbEnv other.loop.process.ctx.db userId friendId →
      (action.SameOutcome dbEnv otherDbEnv machine.loop.process.ctx.db other.loop.process.ctx.db
          userId friendId userId friendId ↔
        (action = .accept → (⟨friendId, userId, true⟩ ∈ machine.loop.process.ctx.db.friends ↔
          ⟨friendId, userId, true⟩ ∈ other.loop.process.ctx.db.friends)))) ∧
    (shownTo dbEnv machine.loop.process.ctx.db userId friendId = {2} →
      (action.SameOutcome dbEnv dbEnv machine.loop.process.ctx.db machine.loop.process.ctx.db
        userId friendId friendId userId ↔ action ≠ .accept)) := by
  have paired := reachable.paired reliable
  have otherPaired := otherReachable.paired otherReliable
  constructor
  · intro otherUser otherFriend same
    rw [shownTo_of_paired succeeds paired, shownTo_of_paired otherSucceeds otherPaired] at same
    exact action.sameOutcome_iff succeeds otherSucceeds paired otherPaired user friend otherUser
      otherFriend Iff.rfl (Tie.code_injective same)
  · intro shown
    have friends : tieOf machine.loop.process.ctx.db.friends userId friendId = .friends := by
      rw [shownTo_of_paired succeeds paired] at shown
      exact Tie.code_injective shown
    have mirrored : tieOf machine.loop.process.ctx.db.friends friendId userId = .friends := by
      rw [paired.tieOf_mirror userId friendId, friends]
      rfl
    rw [action.sameOutcome_iff succeeds succeeds paired paired user friend friend user eq_comm
      (friends.trans mirrored.symm)]
    have describes := paired.describes userId friendId
    rw [friends] at describes
    have direction : ¬ (⟨friendId, userId, true⟩ ∈ machine.loop.process.ctx.db.friends ↔
        ⟨userId, friendId, true⟩ ∈ machine.loop.process.ctx.db.friends) := by
      intro both
      have members : ⟨friendId, userId, true⟩ ∈ machine.loop.process.ctx.db.friends ∧
          ⟨userId, friendId, true⟩ ∈ machine.loop.process.ctx.db.friends := by
        rcases describes with shape | shape
        · have member := List.mem_of_mem_filter (shape ▸ List.mem_cons_self)
          exact ⟨both.mpr member, member⟩
        · have member := List.mem_of_mem_filter (shape ▸ List.mem_cons_self)
          exact ⟨member, both.mp member⟩
      have rows := paired.eq_of_between (mem_rowsBetween.mpr ⟨members.1, Or.inr rfl⟩)
        (mem_rowsBetween.mpr ⟨members.2, Or.inl rfl⟩)
      exact paired.apart _ members.1 (congrArg FriendRow.userId rows)
    exact ⟨fun same is => direction (same is), fun other is => absurd is other⟩

/-- A request about the user with a certain name. -/
def tiePacket (action : TieAction) (name : Text) : TizcordPacket :=
  let packet := TizcordPacket.setType Image.zero .social
  let packet := packet.setSocialAction action.socialAction.code
  packet.strncpySocialTargetUsername name

/-- Two users register. Then each has something to say about the other. -/
def acquaintance (first second : TieAction) (order : List Int) : List Event :=
  [.round ⟨{3}, [.connected 4 ⟨clientBytes registerPacket ++
        clientBytes (tiePacket first Text.letterB), [.count 1000, .count 1000]⟩]⟩,
    .round ⟨{3}, [.connected 5 ⟨clientBytes registerSecondPacket ++
        clientBytes (tiePacket second Text.letterA), [.count 1000, .count 1000]⟩]⟩,
    .round ⟨{4}, []⟩, .round ⟨{5}, []⟩] ++ order.map fun fd => .round ⟨{fd}, []⟩

/-- The first user asks, and the second one accepts. -/
def askedByFirst : Machine :=
  ⟨runServer Env.ideal 3 (acquaintance .request .accept [4, 5]), .selecting⟩

/-- The second user asks, and the first one accepts. -/
def askedBySecond : Machine :=
  ⟨runServer Env.ideal 3 (acquaintance .accept .request [5, 4]), .selecting⟩

theorem askedByFirst_reachable : Reachable Env.ideal 3 askedByFirst :=
  reachable_runServer Env.ideal 3 _

theorem askedBySecond_reachable : Reachable Env.ideal 3 askedBySecond :=
  reachable_runServer Env.ideal 3 _

/-- What the two states show, and what accepting a friend returns in them. -/
theorem acquaintance_facts :
    ((1 : Int) ∈ askedByFirst.loop.process.ctx.db.userIds ∧
      (2 : Int) ∈ askedByFirst.loop.process.ctx.db.userIds ∧
      shownTo (Env.ideal.db 0) askedByFirst.loop.process.ctx.db 1 2 = {2} ∧
      shownTo (Env.ideal.db 0) askedByFirst.loop.process.ctx.db 2 1 = {2} ∧
      (TieAction.accept.run (Env.ideal.db 0) askedByFirst.loop.process.ctx.db 1 2).2 = -1 ∧
      (TieAction.accept.run (Env.ideal.db 0) askedByFirst.loop.process.ctx.db 2 1).2 = -2) ∧
    (1 : Int) ∈ askedBySecond.loop.process.ctx.db.userIds ∧
      (2 : Int) ∈ askedBySecond.loop.process.ctx.db.userIds ∧
      shownTo (Env.ideal.db 0) askedBySecond.loop.process.ctx.db 1 2 = {2} ∧
      (TieAction.accept.run (Env.ideal.db 0) askedBySecond.loop.process.ctx.db 1 2).2 = -2 := by
  decide +kernel

/-- To remove the friend has the same outcome in both states. -/
theorem shown_decides_iff_remove : TieAction.SameOutcome .remove (Env.ideal.db 0) (Env.ideal.db 0)
    askedByFirst.loop.process.ctx.db askedBySecond.loop.process.ctx.db 1 2 1 2 := by
  obtain ⟨⟨user, friend, shown, -⟩, otherUser, otherFriend, otherShown, -⟩ := acquaintance_facts
  have decides := shown_decides_iff Env.ideal_reliable Env.ideal_reliable askedByFirst_reachable
    askedBySecond_reachable (Env.ideal_reliable 0) (Env.ideal_reliable 0) user friend .remove
  exact (decides.1 otherUser otherFriend (shown.trans otherShown.symm)).mpr
    fun is => TieAction.noConfusion is

/-- To accept the friend has not, and one friend has another outcome than the other. -/
theorem shown_alike_accepted_otherwise :
    Reachable Env.ideal 3 askedByFirst ∧ Reachable Env.ideal 3 askedBySecond ∧
    shownTo (Env.ideal.db 0) askedByFirst.loop.process.ctx.db 1 2 = {2} ∧
    shownTo (Env.ideal.db 0) askedByFirst.loop.process.ctx.db 2 1 = {2} ∧
    shownTo (Env.ideal.db 0) askedBySecond.loop.process.ctx.db 1 2 = {2} ∧
    (TieAction.accept.run (Env.ideal.db 0) askedByFirst.loop.process.ctx.db 1 2).2 = -1 ∧
    (TieAction.accept.run (Env.ideal.db 0) askedByFirst.loop.process.ctx.db 2 1).2 = -2 ∧
    (TieAction.accept.run (Env.ideal.db 0) askedBySecond.loop.process.ctx.db 1 2).2 = -2 := by
  obtain ⟨⟨-, -, shown, mirrored, asker, accepter⟩, -, -, otherShown, other⟩ := acquaintance_facts
  exact ⟨askedByFirst_reachable, askedBySecond_reachable, shown, mirrored, otherShown, asker,
    accepter, other⟩

end Tizcord
