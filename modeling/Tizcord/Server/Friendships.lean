/-
This file proves that the table of friends refines a state machine for every
pair of users: they are strangers, one has asked the other, or they are friends.
Each call of the database is one move of the machine, or it fails and changes
nothing; and both users of a pair are shown the two sides of one state.
-/

import Tizcord.Server.Administration

namespace Tizcord

open CModel

/-! ### The state machine of a pair -/

/-- What a user is to another user, from the side of the first. -/
inductive Tie where
  | none | outgoing | incoming | friends
  deriving DecidableEq

/-- The same from the side of the other user. -/
def Tie.mirror : Tie → Tie
  | .none => .none
  | .outgoing => .incoming
  | .incoming => .outgoing
  | .friends => .friends

/-- The number a friend list shows for a tie. -/
def Tie.code : Tie → Option Int
  | .none => Option.none
  | .outgoing => some 0
  | .incoming => some 1
  | .friends => some 2

/-- What a user can do about the tie to another user. -/
inductive TieAction where
  | request | accept | reject | remove
  deriving DecidableEq

/-- The tie after an action, from the side of the acting user; none where the action fails. -/
def TieAction.move : TieAction → Tie → Option Tie
  | .request, .none => some .outgoing
  | .request, .incoming => some .friends
  | .accept, .incoming => some .friends
  | .reject, .incoming => some .none
  | .remove, .friends => some .none
  | _, _ => none

/-- The status an action returns. To accept a friend is a conflict where the friend is the one who
had asked, and otherwise there is nothing to accept. -/
def TieAction.status (action : TieAction) (asked : Bool) : Tie → Int
  | .none => match action with
    | .request => 0
    | .accept | .reject | .remove => -1
  | .outgoing => -1
  | .incoming => match action with
    | .request => 1
    | .accept | .reject => 0
    | .remove => -1
  | .friends => match action with
    | .request => -2
    | .accept => if asked then -2 else -1
    | .reject => -1
    | .remove => 0

/-! ### Ties in the table -/

/-- The row is about the two users, in either direction. -/
def FriendRow.isBetween (first second : Int) (row : FriendRow) : Bool :=
  (row.userId = first && row.friendId = second) || (row.userId = second && row.friendId = first)

def rowsBetween (rows : List FriendRow) (first second : Int) : List FriendRow :=
  rows.filter (FriendRow.isBetween first second)

/-- What a row says about a user that is in it. -/
def FriendRow.tie (userId : Int) (row : FriendRow) : Tie :=
  if row.isAccepted then .friends else if row.userId = userId then .outgoing else .incoming

/-- What `first` is to `second`. -/
def tieOf (rows : List FriendRow) (first second : Int) : Tie :=
  ((rowsBetween rows first second).head?.map (FriendRow.tie first)).getD .none

/-- Nobody has a tie to themselves, and no pair of users has two rows. -/
structure Paired (rows : List FriendRow) : Prop where
  apart : ∀ row ∈ rows, row.userId ≠ row.friendId
  single : ∀ first second, (rowsBetween rows first second).length ≤ 1

theorem FriendRow.isBetween_iff {first second : Int} {row : FriendRow} :
    row.isBetween first second = true ↔
      row.pair = (first, second) ∨ row.pair = (second, first) := by
  simp [isBetween, pair]

theorem FriendRow.isBetween_comm (first second : Int) :
    FriendRow.isBetween first second = FriendRow.isBetween second first :=
  funext fun _ => Bool.or_comm ..

theorem rowsBetween_comm (rows : List FriendRow) (first second : Int) :
    rowsBetween rows first second = rowsBetween rows second first := by
  rw [rowsBetween, rowsBetween, FriendRow.isBetween_comm]

section Table

variable {rows after : List FriendRow} {first second : Int}

theorem mem_rowsBetween {row : FriendRow} :
    row ∈ rowsBetween rows first second ↔
      row ∈ rows ∧ (row.pair = (first, second) ∨ row.pair = (second, first)) := by
  rw [rowsBetween, List.mem_filter, FriendRow.isBetween_iff]

/-- Between two users there is no row, or one in one of the directions. -/
theorem Paired.cases (paired : Paired rows) (first second : Int) :
    rowsBetween rows first second = [] ∨
      (∃ isAccepted, rowsBetween rows first second = [⟨first, second, isAccepted⟩]) ∨
      ∃ isAccepted, rowsBetween rows first second = [⟨second, first, isAccepted⟩] := by
  rcases shape : rowsBetween rows first second with _ | ⟨⟨userId, friendId, isAccepted⟩, rest⟩
  · exact Or.inl rfl
  · have empty : rest = [] := by
      have bound := paired.single first second
      rw [shape, List.length_cons] at bound
      exact List.length_eq_zero_iff.mp (by omega)
    have between := (mem_rowsBetween.mp (shape ▸ List.mem_cons_self)).2
    rw [empty]
    rcases between with same | same
    · obtain ⟨rfl, rfl⟩ := Prod.mk.inj same
      exact Or.inr (Or.inl ⟨isAccepted, rfl⟩)
    · obtain ⟨rfl, rfl⟩ := Prod.mk.inj same
      exact Or.inr (Or.inr ⟨isAccepted, rfl⟩)

theorem Paired.self (paired : Paired rows) (userId : Int) : rowsBetween rows userId userId = [] := by
  refine List.filter_eq_nil_iff.mpr fun row member between => ?_
  have same := or_self_iff.mp (FriendRow.isBetween_iff.mp between)
  exact paired.apart row member ((congrArg Prod.fst same).trans (congrArg Prod.snd same).symm)

/-- The rows between two users when `first` is the tie to `second`. -/
def Tie.Describes (tie : Tie) (first second : Int) (between : List FriendRow) : Prop :=
  match tie with
  | .none => between = []
  | .outgoing => between = [⟨first, second, false⟩]
  | .incoming => between = [⟨second, first, false⟩]
  | .friends => between = [⟨first, second, true⟩] ∨ between = [⟨second, first, true⟩]

theorem Paired.ne_of_between (paired : Paired rows) {one other : Int} {isAccepted : Bool}
    (shape : rowsBetween rows first second = [⟨one, other, isAccepted⟩]) : one ≠ other :=
  paired.apart _ (List.mem_of_mem_filter (shape ▸ List.mem_cons_self))

theorem Paired.describes (paired : Paired rows) (first second : Int) :
    (tieOf rows first second).Describes first second (rowsBetween rows first second) := by
  rw [tieOf]
  rcases paired.cases first second with shape | ⟨isAccepted, shape⟩ | ⟨isAccepted, shape⟩
  · rw [shape]
    exact rfl
  · rw [shape]
    cases isAccepted with
    | false => simp [FriendRow.tie, Tie.Describes]
    | true => exact Or.inl rfl
  · have apart := paired.ne_of_between shape
    rw [shape]
    cases isAccepted with
    | false => simp [FriendRow.tie, Tie.Describes, apart]
    | true => exact Or.inr rfl

/-- One tie at most describes the rows between two users. -/
theorem Tie.Describes.unique {tie other : Tie} {between : List FriendRow}
    (describes : tie.Describes first second between) (apart : first ≠ second)
    (describesToo : other.Describes first second between) : tie = other := by
  cases tie <;> cases other <;> simp only [Tie.Describes] at describes describesToo <;> first
    | rfl
    | rcases describes with rfl | rfl <;> simp_all

/-- Both users of a pair see the two sides of one tie. -/
theorem Paired.tieOf_mirror (paired : Paired rows) (first second : Int) :
    tieOf rows second first = (tieOf rows first second).mirror := by
  by_cases same : first = second
  · rw [same, tieOf, paired.self]
    rfl
  · rw [tieOf, tieOf, rowsBetween_comm rows second first]
    rcases paired.cases first second with shape | ⟨isAccepted, shape⟩ | ⟨isAccepted, shape⟩
    · rw [shape]
      rfl
    · rw [shape]
      cases isAccepted <;> simp [FriendRow.tie, Tie.mirror, same]
    · rw [shape]
      cases isAccepted <;> simp [FriendRow.tie, Tie.mirror, Ne.symm same]

/-- A change of the rows between two users is a change of the tie of these two only. -/
theorem Paired.change (paired : Paired rows) (apart : ∀ row ∈ after, row.userId ≠ row.friendId)
    (single : (rowsBetween after first second).length ≤ 1)
    (others : ∀ one other, (one, other) ≠ (first, second) → (one, other) ≠ (second, first) →
      rowsBetween after one other = rowsBetween rows one other) :
    Paired after ∧ ∀ one other, tieOf after one other =
      if (one, other) = (first, second) then tieOf after first second
      else if (one, other) = (second, first) then (tieOf after first second).mirror
      else tieOf rows one other := by
  have pairedAfter : Paired after := by
    refine ⟨apart, fun one other => ?_⟩
    by_cases same : (one, other) = (first, second)
    · obtain ⟨rfl, rfl⟩ := Prod.mk.inj same
      exact single
    · by_cases mirrored : (one, other) = (second, first)
      · obtain ⟨rfl, rfl⟩ := Prod.mk.inj mirrored
        rw [rowsBetween_comm]
        exact single
      · rw [others one other same mirrored]
        exact paired.single one other
  refine ⟨pairedAfter, fun one other => ?_⟩
  split
  · rename_i same
    obtain ⟨rfl, rfl⟩ := Prod.mk.inj same
    rfl
  · split
    · rename_i mirrored
      obtain ⟨rfl, rfl⟩ := Prod.mk.inj mirrored
      exact pairedAfter.tieOf_mirror other one
    · rename_i same mirrored
      rw [tieOf, tieOf, others one other same mirrored]

/-- A row between two users is not between any others. -/
theorem FriendRow.isBetween_other {one other : Int} {row : FriendRow}
    (between : row.isBetween first second = true) (same : (one, other) ≠ (first, second))
    (mirrored : (one, other) ≠ (second, first)) : row.isBetween one other = false := by
  rw [Bool.eq_false_iff, ne_eq, FriendRow.isBetween_iff]
  rw [FriendRow.isBetween_iff] at between
  simp only [ne_eq, Prod.mk.injEq] at same mirrored
  rcases between with is | is <;> rw [is] <;> simp only [Prod.mk.injEq] <;> tauto

theorem rowsBetween_append (rows : List FriendRow) (row : FriendRow) (first second : Int) :
    rowsBetween (rows ++ [row]) first second =
      rowsBetween rows first second ++ if row.isBetween first second then [row] else [] := by
  rw [rowsBetween, rowsBetween, List.filter_append, List.filter_singleton, cond_eq_ite]

theorem rowsBetween_map {update : FriendRow → FriendRow} (same : ∀ row, (update row).pair = row.pair)
    (rows : List FriendRow) (first second : Int) :
    rowsBetween (rows.map update) first second = (rowsBetween rows first second).map update := by
  rw [rowsBetween, rowsBetween, List.filter_map]
  have between : FriendRow.isBetween first second ∘ update = FriendRow.isBetween first second := by
    funext row
    rw [Function.comp, Bool.eq_iff_iff, FriendRow.isBetween_iff, FriendRow.isBetween_iff, same]
  rw [between]

theorem rowsBetween_filter (keep : FriendRow → Bool) (rows : List FriendRow) (first second : Int) :
    rowsBetween (rows.filter keep) first second = (rowsBetween rows first second).filter keep := by
  rw [rowsBetween, rowsBetween, List.filter_filter, List.filter_filter]
  exact List.filter_congr fun _ _ => Bool.and_comm _ _

/-- A selection of rows between two users is one of the rows between them. -/
theorem filter_eq_filter_rowsBetween {select : FriendRow → Bool}
    (between : ∀ row, select row = true → row.isBetween first second = true)
    (rows : List FriendRow) : rows.filter select = (rowsBetween rows first second).filter select := by
  rw [rowsBetween, List.filter_filter]
  refine List.filter_congr fun row _ => ?_
  cases selected : select row with
  | false => rfl
  | true => rw [between row selected]; rfl

/-- An edit of the rows between two users keeps the rows between all others. -/
theorem rowsBetween_edit {update : FriendRow → FriendRow} {keep : FriendRow → Bool}
    (samePair : ∀ row, (update row).pair = row.pair)
    (elsewhere : ∀ row, row.isBetween first second = false → update row = row ∧ keep row = true)
    {one other : Int} (same : (one, other) ≠ (first, second))
    (mirrored : (one, other) ≠ (second, first)) :
    rowsBetween ((rows.map update).filter keep) one other = rowsBetween rows one other := by
  have untouched : ∀ row ∈ rowsBetween rows one other, update row = row ∧ keep row = true := by
    intro row member
    refine elsewhere row (Bool.eq_false_iff.mpr fun between => ?_)
    have outside := FriendRow.isBetween_other between same mirrored
    rw [(List.mem_filter.mp member).2] at outside
    exact Bool.noConfusion outside
  rw [rowsBetween_filter, rowsBetween_map samePair, List.map_congr_left fun row member =>
    (untouched row member).1, List.map_id', List.filter_eq_self.mpr fun row member =>
    (untouched row member).2]

/-- An edit of the rows between two users moves their tie and no other. -/
theorem Paired.edit (paired : Paired rows) (update : FriendRow → FriendRow)
    (keep : FriendRow → Bool) (samePair : ∀ row, (update row).pair = row.pair)
    (elsewhere : ∀ row, row.isBetween first second = false → update row = row ∧ keep row = true) :
    Paired ((rows.map update).filter keep) ∧ ∀ one other,
      tieOf ((rows.map update).filter keep) one other =
        if (one, other) = (first, second) then
          tieOf ((rows.map update).filter keep) first second
        else if (one, other) = (second, first) then
          (tieOf ((rows.map update).filter keep) first second).mirror
        else tieOf rows one other := by
  refine paired.change ?_ ?_ fun one other same mirrored =>
    rowsBetween_edit samePair elsewhere same mirrored
  · intro row member
    obtain ⟨old, present, rfl⟩ := List.mem_map.mp (List.mem_of_mem_filter member)
    have equal := samePair old
    rw [show (update old).userId = old.userId from congrArg Prod.fst equal,
      show (update old).friendId = old.friendId from congrArg Prod.snd equal]
    exact paired.apart old present
  · rw [rowsBetween_filter, rowsBetween_map samePair]
    refine (List.length_filter_le ..).trans ?_
    rw [List.length_map]
    exact paired.single first second

/-- A deletion of rows between two users moves their tie and no other. -/
theorem Paired.delete (paired : Paired rows) (keep : FriendRow → Bool)
    (elsewhere : ∀ row, row.isBetween first second = false → keep row = true) :
    Paired (rows.filter keep) ∧ ∀ one other, tieOf (rows.filter keep) one other =
      if (one, other) = (first, second) then tieOf (rows.filter keep) first second
      else if (one, other) = (second, first) then (tieOf (rows.filter keep) first second).mirror
      else tieOf rows one other := by
  have edited := paired.edit id keep (fun _ => rfl)
    fun row outside => ⟨rfl, elsewhere row outside⟩
  rwa [List.map_id] at edited

end Table

/-! ### The calls as moves -/

/-- The call of the database an action makes. -/
def TieAction.run (action : TieAction) (env : DbEnv) (database : Database)
    (userId friendId : Int) : Database × Int :=
  match action with
  | .request => dbSendFriendRequest env database userId friendId
  | .accept => dbAcceptFriendRequest env database userId friendId
  | .reject => dbRejectFriendRequest env database userId friendId
  | .remove => dbRemoveFriendship env database userId friendId

def TieAction.call (action : TieAction) (userId friendId status : Int) : DbCall :=
  match action with
  | .request => .sendFriendRequest userId friendId status
  | .accept => .acceptFriendRequest userId friendId status
  | .reject => .rejectFriendRequest userId friendId status
  | .remove => .removeFriendship userId friendId status

/-- The action moves the tie of the two users and no other tie; or it has a negative status, and
the table is as before. -/
def TieAction.Outcome (action : TieAction) (userId friendId status : Int)
    (before after : List FriendRow) : Prop :=
  match action.move (tieOf before userId friendId) with
  | some tie =>
    0 ≤ status ∧ Paired after ∧ ∀ one other, tieOf after one other =
      if (one, other) = (userId, friendId) then tie
      else if (one, other) = (friendId, userId) then tie.mirror
      else tieOf before one other
  | none => status < 0 ∧ after = before

section Calls

variable {env : DbEnv} {database : Database} {userId friendId : Int}

/-- What is accepted, and the request in the other direction is cleaned up. -/
def acceptedRows (rows : List FriendRow) (userId friendId : Int) : List FriendRow :=
  (rows.map fun row =>
    if row.pair = (friendId, userId) then { row with isAccepted := true } else row).filter
      fun row => !(row.userId = userId && row.friendId = friendId && !row.isAccepted)

theorem dbAcceptFriendRequest_of_reliable (reliable : env.Reliable) :
    dbAcceptFriendRequest env database userId friendId =
      match (database.friends.filter fun row =>
          row.userId = friendId && row.friendId = userId).head? with
      | none => (database, -1)
      | some row =>
        if row.isAccepted then (database, -2)
        else ((database.acceptFriend (friendId, userId)).deleteFriends fun row =>
          row.userId = userId && row.friendId = friendId && !row.isAccepted, 0) := by
  rw [dbAcceptFriendRequest]
  simp only [reliable.prepare, reliable.firstRow, runStatement_of_reliable reliable]
  rfl

theorem TieAction.Outcome.of_tie {action : TieAction} {status : Int} {before after : List FriendRow}
    {tie moved : Tie} (is : tieOf before userId friendId = tie) (moves : action.move tie = some moved)
    (succeeded : 0 ≤ status) (paired : Paired after) (result : tieOf after userId friendId = moved)
    (ties : ∀ one other, tieOf after one other =
      if (one, other) = (userId, friendId) then tieOf after userId friendId
      else if (one, other) = (friendId, userId) then (tieOf after userId friendId).mirror
      else tieOf before one other) :
    action.Outcome userId friendId status before after := by
  rw [Outcome, is, moves]
  rw [result] at ties
  exact ⟨succeeded, paired, ties⟩

theorem TieAction.Outcome.of_none {action : TieAction} {status : Int} {before after : List FriendRow}
    {tie : Tie} (is : tieOf before userId friendId = tie) (fails : action.move tie = none)
    (negative : status < 0) (unchanged : after = before) :
    action.Outcome userId friendId status before after := by
  rw [Outcome, is, fails]
  exact ⟨negative, unchanged⟩

/-- A selection of rows between two users, when these rows are known. -/
theorem select_of_shape {rows between : List FriendRow} {select : FriendRow → Bool}
    (inside : ∀ row, select row = true → row.isBetween userId friendId = true)
    (shape : rowsBetween rows userId friendId = between) :
    rows.filter select = between.filter select := by
  rw [filter_eq_filter_rowsBetween inside, shape]

/-- On acceptance the request becomes a friendship. -/
theorem Paired.accept {rows : List FriendRow} (paired : Paired rows)
    (shape : rowsBetween rows userId friendId = [⟨friendId, userId, false⟩]) :
    TieAction.Outcome .accept userId friendId 0 rows (acceptedRows rows userId friendId) := by
  have apart := paired.ne_of_between shape
  have is : tieOf rows userId friendId = .incoming := by
    rw [tieOf, shape]
    simp [FriendRow.tie, apart]
  have samePair : ∀ row : FriendRow, (if row.pair = (friendId, userId) then
      { row with isAccepted := true } else row).pair = row.pair := by
    intro row
    split <;> rfl
  have edited : Paired (acceptedRows rows userId friendId) ∧ ∀ one other,
      tieOf (acceptedRows rows userId friendId) one other =
        if (one, other) = (userId, friendId) then
          tieOf (acceptedRows rows userId friendId) userId friendId
        else if (one, other) = (friendId, userId) then
          (tieOf (acceptedRows rows userId friendId) userId friendId).mirror
        else tieOf rows one other := by
    refine paired.edit _ _ samePair fun row outside => ?_
    rw [Bool.eq_false_iff, ne_eq, FriendRow.isBetween_iff, not_or] at outside
    refine ⟨if_neg outside.2, ?_⟩
    have other := outside.1
    simp only [FriendRow.pair, Prod.mk.injEq, not_and] at other
    by_cases same : row.userId = userId <;> simp [same, other]
  have result : tieOf (acceptedRows rows userId friendId) userId friendId = .friends := by
    rw [tieOf, acceptedRows, rowsBetween_filter, rowsBetween_map samePair, shape]
    simp [FriendRow.pair, FriendRow.tie]
  exact .of_tie is rfl le_rfl edited.1 result edited.2

theorem not_selected_of_outside {select : FriendRow → Bool}
    (inside : ∀ row, select row = true → row.isBetween userId friendId = true) (row : FriendRow)
    (outside : row.isBetween userId friendId = false) : (!select row) = true := by
  rw [Bool.not_eq_true', Bool.eq_false_iff]
  intro selected
  rw [inside row selected] at outside
  exact Bool.noConfusion outside

/-- A request that is there is accepted. -/
theorem dbAcceptFriendRequest_of_incoming (reliable : env.Reliable)
    (shape : rowsBetween database.friends userId friendId = [⟨friendId, userId, false⟩]) :
    (dbAcceptFriendRequest env database userId friendId).1.friends =
        acceptedRows database.friends userId friendId ∧
      (dbAcceptFriendRequest env database userId friendId).2 = 0 := by
  have inside : ∀ row : FriendRow, (row.userId = friendId && row.friendId = userId) = true →
      row.isBetween userId friendId = true := by
    intro row selected
    simp only [FriendRow.isBetween, selected, Bool.or_true]
  rw [dbAcceptFriendRequest_of_reliable reliable, select_of_shape inside shape,
    List.filter_singleton]
  simp only [decide_true, Bool.and_true, cond_true]
  exact ⟨rfl, rfl⟩

theorem accept_outcome (reliable : env.Reliable) (paired : Paired database.friends) :
    TieAction.Outcome .accept userId friendId
      (dbAcceptFriendRequest env database userId friendId).2 database.friends
      (dbAcceptFriendRequest env database userId friendId).1.friends ∧
    (dbAcceptFriendRequest env database userId friendId).2 = TieAction.status .accept
      (decide (⟨friendId, userId, true⟩ ∈ database.friends))
      (tieOf database.friends userId friendId) := by
  have inside : ∀ row : FriendRow, (row.userId = friendId && row.friendId = userId) = true →
      row.isBetween userId friendId = true := by
    intro row selected
    simp only [FriendRow.isBetween, selected, Bool.or_true]
  have describes := paired.describes userId friendId
  rw [dbAcceptFriendRequest_of_reliable reliable]
  cases is : tieOf database.friends userId friendId with
  | none =>
    rw [is] at describes
    rw [select_of_shape inside describes]
    exact ⟨.of_none is rfl (show (-1 : Int) < 0 by decide) rfl, rfl⟩
  | outgoing =>
    rw [is] at describes
    have apart := paired.ne_of_between describes
    rw [select_of_shape inside describes, List.filter_singleton]
    simp only [apart, decide_false, Bool.false_and, cond_false]
    exact ⟨.of_none is rfl (show (-1 : Int) < 0 by decide) rfl, rfl⟩
  | friends =>
    rw [is] at describes
    rcases describes with shape | shape
    · have apart := paired.ne_of_between shape
      have unasked : ⟨friendId, userId, true⟩ ∉ database.friends := by
        intro member
        have between := mem_rowsBetween.mpr ⟨member, Or.inr rfl⟩
        rw [shape, List.mem_singleton] at between
        exact apart (congrArg FriendRow.friendId between)
      rw [select_of_shape inside shape, List.filter_singleton, decide_eq_false unasked]
      simp only [apart, decide_false, Bool.false_and, cond_false]
      exact ⟨.of_none is rfl (show (-1 : Int) < 0 by decide) rfl, rfl⟩
    · have asked : ⟨friendId, userId, true⟩ ∈ database.friends :=
        List.mem_of_mem_filter (shape ▸ List.mem_cons_self)
      rw [select_of_shape inside shape, List.filter_singleton, decide_eq_true asked]
      simp only [decide_true, Bool.and_true, cond_true]
      exact ⟨.of_none is rfl (show (-2 : Int) < 0 by decide) rfl, rfl⟩
  | incoming =>
    rw [is] at describes
    rw [select_of_shape inside describes, List.filter_singleton]
    simp only [decide_true, Bool.and_true, cond_true]
    exact ⟨paired.accept describes, rfl⟩

theorem dbRejectFriendRequest_of_reliable (reliable : env.Reliable) :
    dbRejectFriendRequest env database userId friendId =
      match (database.friends.filter fun row =>
          row.userId = friendId && row.friendId = userId && !row.isAccepted).head? with
      | none => (database, -1)
      | some _ => (database.deleteFriends fun row =>
          row.userId = friendId && row.friendId = userId && !row.isAccepted, 0) := by
  rw [dbRejectFriendRequest]
  simp only [reliable.prepare, reliable.firstRow, runStatement_of_reliable reliable]
  rfl

theorem reject_outcome (reliable : env.Reliable) (paired : Paired database.friends) :
    TieAction.Outcome .reject userId friendId
      (dbRejectFriendRequest env database userId friendId).2 database.friends
      (dbRejectFriendRequest env database userId friendId).1.friends ∧
    (dbRejectFriendRequest env database userId friendId).2 = TieAction.status .reject
      (decide (⟨friendId, userId, true⟩ ∈ database.friends))
      (tieOf database.friends userId friendId) := by
  have inside : ∀ row : FriendRow,
      (row.userId = friendId && row.friendId = userId && !row.isAccepted) = true →
      row.isBetween userId friendId = true := by
    intro row selected
    simp only [FriendRow.isBetween, (Bool.and_eq_true_iff.mp selected).1, Bool.or_true]
  have describes := paired.describes userId friendId
  rw [dbRejectFriendRequest_of_reliable reliable]
  cases is : tieOf database.friends userId friendId with
  | none =>
    rw [is] at describes
    rw [select_of_shape inside describes]
    exact ⟨.of_none is rfl (show (-1 : Int) < 0 by decide) rfl, rfl⟩
  | outgoing =>
    rw [is] at describes
    have apart := paired.ne_of_between describes
    rw [select_of_shape inside describes, List.filter_singleton]
    simp only [apart, decide_false, Bool.false_and, cond_false]
    exact ⟨.of_none is rfl (show (-1 : Int) < 0 by decide) rfl, rfl⟩
  | friends =>
    rw [is] at describes
    rcases describes with shape | shape <;>
      rw [select_of_shape inside shape, List.filter_singleton] <;>
      simp only [Bool.not_true, Bool.and_false, cond_false] <;>
      exact ⟨.of_none is rfl (show (-1 : Int) < 0 by decide) rfl, rfl⟩
  | incoming =>
    rw [is] at describes
    rw [select_of_shape inside describes, List.filter_singleton]
    simp only [decide_true, Bool.not_false, Bool.and_true, cond_true]
    have edited := paired.delete
      (fun row => !(row.userId = friendId && row.friendId = userId && !row.isAccepted))
      (not_selected_of_outside inside)
    refine ⟨.of_tie is rfl le_rfl edited.1 ?_ edited.2, rfl⟩
    show tieOf (database.friends.filter _) userId friendId = .none
    rw [tieOf, rowsBetween_filter, describes]
    simp

theorem dbRemoveFriendship_of_reliable (reliable : env.Reliable) :
    dbRemoveFriendship env database userId friendId =
      match (database.friends.filter fun row =>
          row.isAccepted && row.isBetween userId friendId).head? with
      | none => (database, -1)
      | some _ => (database.deleteFriends (FriendRow.isBetween userId friendId), 0) := by
  rw [dbRemoveFriendship]
  simp only [reliable.prepare, reliable.firstRow, runStatement_of_reliable reliable]
  rfl

theorem remove_outcome (reliable : env.Reliable) (paired : Paired database.friends) :
    TieAction.Outcome .remove userId friendId
      (dbRemoveFriendship env database userId friendId).2 database.friends
      (dbRemoveFriendship env database userId friendId).1.friends ∧
    (dbRemoveFriendship env database userId friendId).2 = TieAction.status .remove
      (decide (⟨friendId, userId, true⟩ ∈ database.friends))
      (tieOf database.friends userId friendId) := by
  have inside : ∀ row : FriendRow, (row.isAccepted && row.isBetween userId friendId) = true →
      row.isBetween userId friendId = true :=
    fun _ selected => (Bool.and_eq_true_iff.mp selected).2
  have describes := paired.describes userId friendId
  rw [dbRemoveFriendship_of_reliable reliable]
  cases is : tieOf database.friends userId friendId with
  | none =>
    rw [is] at describes
    rw [select_of_shape inside describes]
    exact ⟨.of_none is rfl (show (-1 : Int) < 0 by decide) rfl, rfl⟩
  | outgoing | incoming =>
    rw [is] at describes
    rw [select_of_shape inside describes, List.filter_singleton]
    simp only [Bool.false_and, cond_false]
    exact ⟨.of_none is rfl (show (-1 : Int) < 0 by decide) rfl, rfl⟩
  | friends =>
    rw [is] at describes
    have edited := paired.delete (fun row => !row.isBetween userId friendId)
      (not_selected_of_outside fun _ selected => selected)
    have removed : tieOf (database.friends.filter fun row => !row.isBetween userId friendId)
        userId friendId = .none := by
      have empty : rowsBetween (database.friends.filter fun row =>
          !row.isBetween userId friendId) userId friendId = [] := by
        refine List.filter_eq_nil_iff.mpr fun row member between => ?_
        have outside := (List.mem_filter.mp member).2
        rw [between] at outside
        exact Bool.noConfusion outside
      rw [tieOf, empty]
      rfl
    have success : TieAction.Outcome .remove userId friendId 0 database.friends
        (database.friends.filter fun row => !row.isBetween userId friendId) :=
      .of_tie is rfl le_rfl edited.1 removed edited.2
    rcases describes with shape | shape
    · rw [select_of_shape inside shape, List.filter_singleton]
      simp only [FriendRow.isBetween, decide_true, Bool.true_and, Bool.true_or, cond_true]
      exact ⟨success, rfl⟩
    · rw [select_of_shape inside shape, List.filter_singleton]
      simp only [FriendRow.isBetween, decide_true, Bool.true_and, Bool.or_true, cond_true]
      exact ⟨success, rfl⟩

theorem dbSendFriendRequest_of_reliable (reliable : env.Reliable)
    (few : (rowsBetween database.friends userId friendId).length ≤ 1) :
    dbSendFriendRequest env database userId friendId =
      (let statuses := collectFriendStatuses userId friendId
        (rowsBetween database.friends userId friendId)
      if statuses.sameDirection = some true ∨ statuses.reciprocal = some true then (database, -2)
      else if statuses.reciprocal = some false then
        let accepted := dbAcceptFriendRequest (env.after 1) database userId friendId
        (accepted.1, if accepted.2 = 0 then 1 else -1)
      else
        match database.insertFriend ⟨userId, friendId, false⟩ with
        | none => (database, -1)
        | some database => (database, 0)) := by
  have existing : arrange env.order (database.friends.filter fun row =>
      (row.userId = userId && row.friendId = friendId) ||
        (row.userId = friendId && row.friendId = userId)) =
      rowsBetween database.friends userId friendId := arrange_of_length_le_one few
  rw [dbSendFriendRequest]
  simp only [reliable.prepare, reliable.allRows, runStatement_of_reliable (reliable.after 1),
    existing]
  rfl

/-- A request between strangers can be inserted. -/
theorem insertFriend_of_none (user : userId ∈ database.userIds) (friend : friendId ∈ database.userIds)
    (shape : rowsBetween database.friends userId friendId = []) :
    ∃ after, database.insertFriend ⟨userId, friendId, false⟩ = some after ∧
      after.friends = database.friends ++ [⟨userId, friendId, false⟩] := by
  have integrity : Tables.Integrity { database.toTables with
      friends := database.friends ++ [⟨userId, friendId, false⟩] } :=
    { database.integrity with
      friends_user := (references_append_singleton _ _ _ _).mpr
        ⟨database.integrity.friends_user, user⟩
      friends_friend := (references_append_singleton _ _ _ _).mpr
        ⟨database.integrity.friends_friend, friend⟩
      friends_pair := by
        refine (uniqueOn_append_singleton _ _ _).mpr
          ⟨database.integrity.friends_pair, fun taken => ?_⟩
        obtain ⟨row, member, same⟩ := List.mem_map.mp taken
        have between := mem_rowsBetween.mpr ⟨member, Or.inl same⟩
        rw [shape] at between
        exact List.not_mem_nil between }
  exact ⟨_, Database.commit_of_integrity integrity, rfl⟩

/-- A request cannot be made twice. -/
theorem insertFriend_of_taken {row : FriendRow} (member : row ∈ database.friends)
    (taken : row.pair = (userId, friendId)) :
    database.insertFriend ⟨userId, friendId, false⟩ = none := by
  rw [Option.eq_none_iff_forall_not_mem]
  intro after inserted
  have unique := after.integrity.friends_pair
  rw [Database.commit_eq_some.mp inserted] at unique
  exact ((uniqueOn_append_singleton _ _ _).mp unique).2 (List.mem_map.mpr ⟨row, member, taken⟩)

/-- A new request between strangers. -/
theorem Paired.request {rows : List FriendRow} (paired : Paired rows) (apart : userId ≠ friendId)
    (shape : rowsBetween rows userId friendId = []) :
    TieAction.Outcome .request userId friendId 0 rows (rows ++ [⟨userId, friendId, false⟩]) := by
  have own : FriendRow.isBetween userId friendId ⟨userId, friendId, false⟩ = true :=
    FriendRow.isBetween_iff.mpr (Or.inl rfl)
  have between : rowsBetween (rows ++ [⟨userId, friendId, false⟩]) userId friendId =
      [⟨userId, friendId, false⟩] := by
    rw [rowsBetween_append, shape, own]
    rfl
  have changed : Paired (rows ++ [⟨userId, friendId, false⟩]) ∧ ∀ one other,
      tieOf (rows ++ [⟨userId, friendId, false⟩]) one other =
        if (one, other) = (userId, friendId) then
          tieOf (rows ++ [⟨userId, friendId, false⟩]) userId friendId
        else if (one, other) = (friendId, userId) then
          (tieOf (rows ++ [⟨userId, friendId, false⟩]) userId friendId).mirror
        else tieOf rows one other := by
    refine paired.change ?_ ?_ ?_
    · intro row member
      rcases List.mem_append.mp member with old | new
      · exact paired.apart row old
      · rw [List.mem_singleton.mp new]
        exact apart
    · rw [between, List.length_singleton]
    · intro one other same mirrored
      rw [rowsBetween_append, FriendRow.isBetween_other own same mirrored]
      exact List.append_nil _
  have is : tieOf rows userId friendId = .none := by
    rw [tieOf, shape]
    rfl
  refine .of_tie is rfl le_rfl changed.1 ?_ changed.2
  rw [tieOf, between]
  simp [FriendRow.tie]

theorem request_outcome (reliable : env.Reliable) (paired : Paired database.friends)
    (apart : userId ≠ friendId) (user : userId ∈ database.userIds)
    (friend : friendId ∈ database.userIds) :
    TieAction.Outcome .request userId friendId
      (dbSendFriendRequest env database userId friendId).2 database.friends
      (dbSendFriendRequest env database userId friendId).1.friends ∧
    (dbSendFriendRequest env database userId friendId).2 = TieAction.status .request
      (decide (⟨friendId, userId, true⟩ ∈ database.friends))
      (tieOf database.friends userId friendId) := by
  have describes := paired.describes userId friendId
  have reversed : ¬ (friendId = userId ∧ userId = friendId) := fun same => apart same.2
  rw [dbSendFriendRequest_of_reliable reliable (paired.single userId friendId)]
  cases is : tieOf database.friends userId friendId with
  | none =>
    rw [is] at describes
    obtain ⟨after, inserted, friends⟩ := insertFriend_of_none user friend describes
    have statuses : collectFriendStatuses userId friendId [] = ⟨none, none⟩ := rfl
    rw [describes, statuses, inserted]
    have success := paired.request apart describes
    rw [← friends] at success
    exact ⟨success, rfl⟩
  | outgoing =>
    rw [is] at describes
    have member : ⟨userId, friendId, false⟩ ∈ database.friends :=
      List.mem_of_mem_filter (describes ▸ List.mem_cons_self)
    have statuses : collectFriendStatuses userId friendId [⟨userId, friendId, false⟩] =
        ⟨some false, none⟩ := by
      simp [collectFriendStatuses]
    rw [describes, statuses, insertFriend_of_taken member rfl]
    exact ⟨.of_none is rfl (show (-1 : Int) < 0 by decide) rfl, rfl⟩
  | incoming =>
    rw [is] at describes
    have statuses : collectFriendStatuses userId friendId [⟨friendId, userId, false⟩] =
        ⟨none, some false⟩ := by
      simp [collectFriendStatuses, reversed]
    obtain ⟨friends, status⟩ := dbAcceptFriendRequest_of_incoming (reliable.after 1) describes
    have accepted := paired.accept describes
    rw [TieAction.Outcome, is] at accepted
    obtain ⟨-, pairedAfter, ties⟩ := accepted
    rw [describes, statuses]
    simp only [status, TieAction.Outcome, is, TieAction.move]
    rw [← friends] at pairedAfter ties
    exact ⟨⟨Int.one_nonneg, pairedAfter, ties⟩, rfl⟩
  | friends =>
    rw [is] at describes
    rcases describes with shape | shape
    · have statuses : collectFriendStatuses userId friendId [⟨userId, friendId, true⟩] =
          ⟨some true, none⟩ := by
        simp [collectFriendStatuses]
      rw [shape, statuses]
      exact ⟨.of_none is rfl (show (-2 : Int) < 0 by decide) rfl, rfl⟩
    · have statuses : collectFriendStatuses userId friendId [⟨friendId, userId, true⟩] =
          ⟨none, some true⟩ := by
        simp [collectFriendStatuses, reversed]
      rw [shape, statuses]
      exact ⟨.of_none is rfl (show (-2 : Int) < 0 by decide) rfl, rfl⟩

/-- Every call of an action on another user is a move of the tie or fails. -/
theorem TieAction.outcome (action : TieAction) (reliable : env.Reliable)
    (paired : Paired database.friends) (user : userId ∈ database.userIds)
    (friend : friendId ∈ database.userIds) (apart : action = .request → userId ≠ friendId) :
    action.Outcome userId friendId (action.run env database userId friendId).2 database.friends
      (action.run env database userId friendId).1.friends := by
  cases action with
  | request => exact (request_outcome reliable paired (apart rfl) user friend).1
  | accept => exact (accept_outcome reliable paired).1
  | reject => exact (reject_outcome reliable paired).1
  | remove => exact (remove_outcome reliable paired).1

/-- The status of every call of an action on another user. -/
theorem TieAction.run_status (action : TieAction) (reliable : env.Reliable)
    (paired : Paired database.friends) (user : userId ∈ database.userIds)
    (friend : friendId ∈ database.userIds) (apart : action = .request → userId ≠ friendId) :
    (action.run env database userId friendId).2 =
      action.status (decide (⟨friendId, userId, true⟩ ∈ database.friends))
        (tieOf database.friends userId friendId) := by
  cases action with
  | request => exact (request_outcome reliable paired (apart rfl) user friend).2
  | accept => exact (accept_outcome reliable paired).2
  | reject => exact (reject_outcome reliable paired).2
  | remove => exact (remove_outcome reliable paired).2

end Calls

/-! ### Friend lists -/

section Lists

variable {rows : List FriendRow} {first second : Int}

theorem Paired.tieOf_of_mem (paired : Paired rows) {row : FriendRow} (member : row ∈ rows)
    (between : row.pair = (first, second) ∨ row.pair = (second, first)) :
    tieOf rows first second = row.tie first := by
  have present := mem_rowsBetween.mpr ⟨member, between⟩
  have bound := paired.single first second
  rw [tieOf]
  cases shape : rowsBetween rows first second with
  | nil =>
    rw [shape] at present
    cases present
  | cons head rest =>
    rw [shape, List.length_cons] at bound
    rw [shape, List.length_eq_zero_iff.mp (show rest.length = 0 by omega),
      List.mem_singleton] at present
    rw [present]
    rfl

theorem Paired.tieOf_cases (paired : Paired rows) {code : Int}
    (related : (tieOf rows first second).code = some code) :
    (∃ row ∈ rows, row.pair = (second, first) ∧ code = if row.isAccepted then 2 else 1) ∨
      ∃ row ∈ rows, row.pair = (first, second) ∧ code = if row.isAccepted then 2 else 0 := by
  rcases paired.cases first second with shape | ⟨isAccepted, shape⟩ | ⟨isAccepted, shape⟩
  · rw [tieOf, shape] at related
    cases related
  · have member : ⟨first, second, isAccepted⟩ ∈ rows :=
      List.mem_of_mem_filter (shape ▸ List.mem_cons_self)
    refine Or.inr ⟨_, member, rfl, ?_⟩
    rw [tieOf, shape] at related
    cases isAccepted <;> simpa [FriendRow.tie, Tie.code, eq_comm] using related
  · have member : ⟨second, first, isAccepted⟩ ∈ rows :=
      List.mem_of_mem_filter (shape ▸ List.mem_cons_self)
    have apart := paired.ne_of_between shape
    refine Or.inl ⟨_, member, rfl, ?_⟩
    rw [tieOf, shape] at related
    cases isAccepted <;> simpa [FriendRow.tie, Tie.code, apart, eq_comm] using related

variable {env : DbEnv} {database : Database} {userId : Int}

/-- The rows of the list for a user, when the query does not fail. -/
def friendList (database : Database) (userId : Int) : List FriendListRow :=
  ((database.friends.filter fun row => row.friendId = userId).flatMap fun row =>
    (database.users.filter fun user => (user.id : Int) = row.userId).map fun user =>
      FriendListRow.mk user.id user.username (if row.isAccepted then 2 else 1)) ++
  (database.friends.filter fun row => row.userId = userId).flatMap fun row =>
    (database.users.filter fun user => (user.id : Int) = row.friendId).map fun user =>
      FriendListRow.mk user.id user.username (if row.isAccepted then 2 else 0)

theorem dbListFriendRequests_of_reliable (reliable : env.Reliable) :
    dbListFriendRequests env database userId =
      (arrange env.order (friendList database userId), 0) := by
  rw [dbListFriendRequests]
  simp only [reliable.prepare, reliable.allRows]
  rfl

/-- A friend list shows to a user each tie with another user that is not none. -/
theorem mem_friendList (paired : Paired database.friends) (row : FriendListRow) :
    row ∈ friendList database userId ↔ ∃ user ∈ database.users,
      row.targetUserId = user.id ∧ row.username = user.username ∧
        (tieOf database.friends userId user.id).code = some row.isIncoming := by
  obtain ⟨targetUserId, username, isIncoming⟩ := row
  simp only [friendList, List.mem_append, List.mem_flatMap, List.mem_filter, List.mem_map,
    decide_eq_true_eq, FriendListRow.mk.injEq]
  constructor
  · rintro (⟨row, ⟨member, own⟩, user, ⟨present, same⟩, rfl, rfl, rfl⟩ |
      ⟨row, ⟨member, own⟩, user, ⟨present, same⟩, rfl, rfl, rfl⟩)
    · refine ⟨user, present, rfl, rfl, ?_⟩
      have apart := paired.apart row member
      rw [own] at apart
      rw [paired.tieOf_of_mem member (Or.inr (Prod.ext same.symm own))]
      cases accepted : row.isAccepted <;> simp [FriendRow.tie, Tie.code, accepted, apart]
    · refine ⟨user, present, rfl, rfl, ?_⟩
      rw [paired.tieOf_of_mem member (Or.inl (Prod.ext own same.symm))]
      cases accepted : row.isAccepted <;> simp [FriendRow.tie, Tie.code, accepted, own]
  · rintro ⟨user, present, rfl, rfl, related⟩
    rcases paired.tieOf_cases related with ⟨row, member, pair, rfl⟩ | ⟨row, member, pair, rfl⟩
    · obtain ⟨target, own⟩ := Prod.mk.inj pair
      exact Or.inl ⟨row, ⟨member, own⟩, user, ⟨present, target.symm⟩, rfl, rfl, rfl⟩
    · obtain ⟨own, target⟩ := Prod.mk.inj pair
      exact Or.inr ⟨row, ⟨member, own⟩, user, ⟨present, target.symm⟩, rfl, rfl, rfl⟩

/-- The targets of a friend list are the other users in the rows of a user. -/
theorem friendList_targets (database : Database) (userId : Int) :
    (friendList database userId).map FriendListRow.targetUserId =
      (database.friends.filter fun row => row.friendId = userId).map FriendRow.userId ++
        (database.friends.filter fun row => row.userId = userId).map FriendRow.friendId := by
  have senders := database.integrity.friends_user.filter fun row => row.friendId = userId
  have receivers := database.integrity.friends_friend.filter fun row => row.userId = userId
  have unique := database.integrity.users_id
  rw [friendList, List.map_append]
  exact congrArg₂ (· ++ ·) (senders.map_join unique fun _ _ => rfl)
    (receivers.map_join unique fun _ _ => rfl)

theorem Paired.eq_of_between (paired : Paired rows) {row other : FriendRow}
    (member : row ∈ rowsBetween rows first second)
    (otherMember : other ∈ rowsBetween rows first second) : row = other := by
  have bound := paired.single first second
  cases shape : rowsBetween rows first second with
  | nil =>
    rw [shape] at member
    cases member
  | cons head rest =>
    rw [shape, List.length_cons] at bound
    rw [shape, List.length_eq_zero_iff.mp (show rest.length = 0 by omega),
      List.mem_singleton] at member otherMember
    rw [member, otherMember]

/-- A friend list shows nobody twice. -/
theorem friendList_nodup (paired : Paired database.friends) (userId : Int) :
    ((friendList database userId).map FriendListRow.targetUserId).Nodup := by
  have distinct : database.friends.Nodup := database.integrity.friends_pair.of_map _
  rw [friendList_targets, List.nodup_append]
  refine ⟨?_, ?_, ?_⟩
  · refine List.Nodup.map_on (fun row member other present same => ?_) (distinct.filter _)
    obtain ⟨member, own⟩ := List.mem_filter.mp member
    obtain ⟨present, ownToo⟩ := List.mem_filter.mp present
    refine database.integrity.friends_pair.eq_of_key member present (Prod.ext same ?_)
    exact (of_decide_eq_true own).trans (of_decide_eq_true ownToo).symm
  · refine List.Nodup.map_on (fun row member other present same => ?_) (distinct.filter _)
    obtain ⟨member, own⟩ := List.mem_filter.mp member
    obtain ⟨present, ownToo⟩ := List.mem_filter.mp present
    refine database.integrity.friends_pair.eq_of_key member present (Prod.ext ?_ same)
    exact (of_decide_eq_true own).trans (of_decide_eq_true ownToo).symm
  · rintro target sender _ receiver rfl
    obtain ⟨row, member, sent⟩ := List.mem_map.mp sender
    obtain ⟨other, present, received⟩ := List.mem_map.mp receiver
    obtain ⟨member, own⟩ := List.mem_filter.mp member
    obtain ⟨present, ownToo⟩ := List.mem_filter.mp present
    have between : row ∈ rowsBetween database.friends userId target :=
      mem_rowsBetween.mpr ⟨member, Or.inr (Prod.ext sent (of_decide_eq_true own))⟩
    have betweenToo : other ∈ rowsBetween database.friends userId target :=
      mem_rowsBetween.mpr ⟨present, Or.inl (Prod.ext (of_decide_eq_true ownToo) received)⟩
    have same := paired.eq_of_between between betweenToo
    refine paired.apart row member ?_
    rw [of_decide_eq_true own, same]
    exact of_decide_eq_true ownToo

end Lists

/-! ### Requests about friends -/

/-- The social action of a packet that asks for an action. -/
def TieAction.socialAction : TieAction → SocialAction
  | .request => .friendRequest
  | .accept => .friendAccept
  | .reject => .friendReject
  | .remove => .friendRemove

section Requests

variable {env : Env} {client : ClientNode} {process : Process} {friendId : Int}

theorem socialResponse_notifies (fd : Int) (action : SocialAction) (status : ResponseCode)
    (process : Process) : Notifies env process (socialResponse env fd action status process) :=
  socialResponse_acts _ _ (Or.inr (Or.inl noRequest_type))

theorem serverResponse_notifies (fd : Int) (action : ServerAction) (status : ResponseCode)
    (process : Process) : Notifies env process (serverResponse env fd action status process) :=
  serverResponse_acts _ _ (Or.inr (Or.inl noRequest_type))

theorem notifyFriendListUpdate_notifies (userId : Int) (process : Process) :
    Notifies env process (notifyFriendListUpdate env userId process) :=
  notifyFriendListUpdate_acts _ (Or.inl noRequest_type)

/-- The process looks up the user a request names, makes the call of the action, and tells clients
about the result. -/
def Calls (env : Env) (action : TieAction) (name : Text) (userId friendId : Int)
    (before after : Process) : Prop :=
  ∃ middle, Notifies env middle after ∧
    middle.ctx = { before.ctx with
      db := (action.run (env.db (before.clock + 1)) before.ctx.db userId friendId).1 } ∧
    middle.trace = before.trace ++ [.called (.getUserIdByName name), .called (action.call userId
      friendId (action.run (env.db (before.clock + 1)) before.ctx.db userId friendId).2)]

theorem Calls.of_change {action : TieAction} {name : Text} {userId : Int} {after : Process}
    (notifies : Notifies env ((findTargetUser env name process).1.change env
      (fun env db => action.run env db userId friendId)
      (fun status => action.call userId friendId status)).1 after) :
    Calls env action name userId friendId process after :=
  ⟨_, notifies, rfl, List.append_assoc ..⟩

theorem friendRequest_calls {name : Text}
    (found : dbGetUserIdByName (env.db process.clock) process.ctx.db name = some friendId)
    (apart : friendId ≠ client.id) :
    Calls env .request name client.id friendId process (friendRequest env client name process) := by
  have target : (findTargetUser env name process).2 = some friendId := found
  rw [friendRequest]
  dsimp only
  rw [target]
  dsimp only
  rw [if_neg apart]
  refine Calls.of_change ?_
  dsimp only [TieAction.run, TieAction.call]
  split
  · exact socialResponse_notifies _ _ _ _
  · split
    · exact socialResponse_notifies _ _ _ _
    · split
      · exact (socialResponse_notifies _ _ _ _).trans
          ((notifyFriendListUpdate_notifies _ _).trans (notifyFriendListUpdate_notifies _ _))
      · exact (socialResponse_notifies _ _ _ _).trans (notifyFriendListUpdate_notifies _ _)

theorem friendAccept_calls {name : Text}
    (found : dbGetUserIdByName (env.db process.clock) process.ctx.db name = some friendId) :
    Calls env .accept name client.id friendId process (friendAccept env client name process) := by
  have target : (findTargetUser env name process).2 = some friendId := found
  rw [friendAccept]
  dsimp only
  rw [target]
  refine Calls.of_change ?_
  dsimp only [TieAction.run, TieAction.call]
  split
  · exact socialResponse_notifies _ _ _ _
  · split
    · exact socialResponse_notifies _ _ _ _
    · exact (socialResponse_notifies _ _ _ _).trans (notifyFriendListUpdate_notifies _ _)

theorem friendUnlink_calls {name : Text} {action : SocialAction}
    {operation : DbEnv → Database → Int → Int → Database × Int} {call : Int → Int → Int → DbCall}
    (found : dbGetUserIdByName (env.db process.clock) process.ctx.db name = some friendId) :
    Notifies env ((findTargetUser env name process).1.change env
        (fun env db => operation env db client.id friendId)
        (fun status => call client.id friendId status)).1
      (friendUnlink env client action operation call name process) := by
  have target : (findTargetUser env name process).2 = some friendId := found
  rw [friendUnlink]
  dsimp only
  rw [target]
  dsimp only
  split
  · exact socialResponse_notifies _ _ _ _
  · exact (socialResponse_notifies _ _ _ _).trans (notifyFriendListUpdate_notifies _ _)

/-- The handler of an action. -/
def TieAction.handle (action : TieAction) (env : Env) (client : ClientNode) (name : Text)
    (process : Process) : Process :=
  match action with
  | .request => friendRequest env client name process
  | .accept => friendAccept env client name process
  | .reject => friendReject env client name process
  | .remove => friendRemove env client name process

theorem TieAction.handle_calls (action : TieAction) {name : Text}
    (found : dbGetUserIdByName (env.db process.clock) process.ctx.db name = some friendId)
    (apart : action = .request → client.id ≠ friendId) :
    Calls env action name client.id friendId process (action.handle env client name process) := by
  cases action with
  | request => exact friendRequest_calls found (apart rfl).symm
  | accept => exact friendAccept_calls found
  | reject => exact Calls.of_change (friendUnlink_calls found)
  | remove => exact Calls.of_change (friendUnlink_calls found)

/-- Without a call the tables stay as they are. -/
theorem TieAction.handle_idle (action : TieAction) {name : Text}
    (idle : dbGetUserIdByName (env.db process.clock) process.ctx.db name = none ∨
      action = .request ∧
        dbGetUserIdByName (env.db process.clock) process.ctx.db name = some client.id) :
    (action.handle env client name process).ctx.db = process.ctx.db := by
  have unchanged : ∀ {after : Process}, Notifies env (findTargetUser env name process).1 after →
      after.ctx.db = process.ctx.db := fun notifies => notifies.db
  rcases idle with unknown | ⟨rfl, self⟩
  · have target : (findTargetUser env name process).2 = none := unknown
    refine unchanged ?_
    cases action with
    | request =>
      rw [handle, friendRequest]
      dsimp only
      rw [target]
      exact socialResponse_notifies _ _ _ _
    | accept =>
      rw [handle, friendAccept]
      dsimp only
      rw [target]
      exact socialResponse_notifies _ _ _ _
    | reject =>
      rw [handle, friendReject, friendUnlink]
      dsimp only
      rw [target]
      exact socialResponse_notifies _ _ _ _
    | remove =>
      rw [handle, friendRemove, friendUnlink]
      dsimp only
      rw [target]
      exact socialResponse_notifies _ _ _ _
  · have target : (findTargetUser env name process).2 = some client.id := self
    refine unchanged ?_
    rw [handle, friendRequest]
    dsimp only
    rw [target]
    dsimp only
    rw [if_pos rfl]
    exact socialResponse_notifies _ _ _ _

theorem processClientPacket_social {packet : TizcordPacket} {index : Nat} {action : SocialAction}
    (asked : packet.request = some (.social action))
    (authenticated : (process.clientAt index).isAuthenticated = true) :
    processClientPacket env index packet process =
      handleSocialAction env (env.beyond process.clock) (process.clientAt index) packet
        (process.log (.handling (process.clientAt index).socketFd packet
          (process.ctx.userOf (process.clientAt index).socketFd))) (some action) := by
  obtain ⟨type, acted⟩ := TizcordPacket.request_social asked
  rw [processClientPacket, type, handlePacket, handleSocialPacket, acted]
  have checked : ((process.log (.handling (process.clientAt index).socketFd packet
      (process.ctx.userOf (process.clientAt index).socketFd))).clientAt index).isAuthenticated =
        true := authenticated
  rw [checked]
  rfl

theorem processClientPacket_tie {packet : TizcordPacket} {index : Nat} (action : TieAction)
    (asked : packet.request = some (.social action.socialAction))
    (authenticated : (process.clientAt index).isAuthenticated = true) :
    processClientPacket env index packet process =
      action.handle env (process.clientAt index)
        (packet.socialTargetUsername (env.beyond process.clock))
        (process.log (.handling (process.clientAt index).socketFd packet
          (process.ctx.userOf (process.clientAt index).socketFd))) := by
  rw [processClientPacket_social asked authenticated]
  cases action <;> rfl

end Requests

/-! ### The table of a reachable state -/

section Reached

variable {env : Env} {allowed : ServerContext → Int → TizcordPacket → Prop} {serverFd : Int}
  {machine : Machine}

/-- A call is that of an action, or it leaves the friends as they are. -/
theorem DbCall.Runs.friends_cases {env : DbEnv} {before after : Database} {call : DbCall}
    (runs : call.Runs env before after) :
    (∃ (action : TieAction) (userId friendId status : Int),
      call = action.call userId friendId status ∧
        action.run env before userId friendId = (after, status)) ∨
    after.friends = before.friends := by
  have frame := runs.frame
  cases call with
  | sendFriendRequest userId friendId status =>
    exact Or.inl ⟨.request, userId, friendId, status, rfl, runs⟩
  | acceptFriendRequest userId friendId status =>
    exact Or.inl ⟨.accept, userId, friendId, status, rfl, runs⟩
  | rejectFriendRequest userId friendId status =>
    exact Or.inl ⟨.reject, userId, friendId, status, rfl, runs⟩
  | removeFriendship userId friendId status =>
    exact Or.inl ⟨.remove, userId, friendId, status, rfl, runs⟩
  | _ => exact Or.inr (congrArg Tables.friends frame :)

theorem TieAction.permitted {ctx : ServerContext} {fd : Int} {beyond : List UInt8}
    {packet : TizcordPacket} {action : TieAction} {userId friendId status : Int}
    (permitted : (action.call userId friendId status).Permitted ctx fd beyond packet) :
    SignedIn ctx fd userId ∧ friendId ∈ ctx.db.userIds ∧
      (action = .request → userId ≠ friendId) ∧
      packet.request = some (.social action.socialAction) := by
  cases action with
  | request =>
    obtain ⟨signed, known, apart, asked⟩ := permitted
    exact ⟨signed, known, fun _ same => apart same.symm, asked⟩
  | accept | reject | remove =>
    obtain ⟨signed, known, asked⟩ := permitted
    exact ⟨signed, known, TieAction.noConfusion, asked⟩

theorem TieAction.Outcome.paired {action : TieAction} {userId friendId status : Int}
    {before after : List FriendRow} (outcome : action.Outcome userId friendId status before after)
    (paired : Paired before) : Paired after := by
  rw [Outcome] at outcome
  split at outcome
  · exact outcome.2.1
  · rw [outcome.2]
    exact paired

theorem SignedIn.mem_userIds {ctx : ServerContext} {fd userId : Int} (valid : ctx.Valid)
    (signed : SignedIn ctx fd userId) : userId ∈ ctx.db.userIds := by
  obtain ⟨node, member, -, authenticated, rfl⟩ := signed
  exact (valid node member).user authenticated

/-- In every reachable state no pair of users has two rows. -/
theorem ReachableWhen.paired (reliable : env.Reliable)
    (reachable : ReachableWhen env allowed serverFd machine) :
    Paired machine.loop.process.ctx.db.friends := by
  refine reachable.database_invariant (fun db _ => Paired db.friends) ?_ ?_ ?_
  · exact ⟨fun _ member => absurd member List.not_mem_nil, fun _ _ => Nat.zero_le 1⟩
  · exact fun _ _ _ _ paired => paired
  · intro ctx fd beyond packet time call after past valid permitted runs paired
    rcases runs.friends_cases with ⟨action, userId, friendId, status, rfl, ran⟩ | same
    · obtain ⟨signed, known, apart, -⟩ := TieAction.permitted permitted
      have outcome := action.outcome (reliable time) paired (signed.mem_userIds valid) known apart
      rw [ran] at outcome
      exact outcome.paired paired
    · rw [same]
      exact paired

/-- A packet that asks for no action leaves the friends as they are. -/
theorem Acts.friends {fd : Int} {beyond : List UInt8} {packet : TizcordPacket}
    {start finish : Process} (acts : Acts env fd beyond packet start finish)
    (other : ∀ action : TieAction, packet.request ≠ some (.social action.socialAction)) :
    finish.ctx.db.friends = start.ctx.db.friends := by
  refine Takes.invariant (fun ctx => ctx.db.friends = start.ctx.db.friends) ?_ acts rfl
  intro before effects after step same
  rcases step.database_cases with ⟨time, call, permitted, runs, -⟩ | ⟨unchanged, -⟩
  · rcases runs.friends_cases with ⟨action, userId, friendId, status, rfl, -⟩ | kept
    · exact absurd (TieAction.permitted permitted).2.2.2 (other action)
    · exact kept.trans same
  · rw [unchanged]
    exact same

/-- The connection at an index is that of a user, whose packet asks for an action on another. -/
def Process.Asks (env : Env) (process : Process) (index : Nat) (packet : TizcordPacket)
    (action : TieAction) (userId friendId : Int) : Prop :=
  ((process.clientAt index).isAuthenticated = true ∧ (process.clientAt index).id = userId) ∧
    packet.request = some (.social action.socialAction) ∧
    ∃ row ∈ process.ctx.db.users, (row.id : Int) = friendId ∧
      row.username = packet.socialTargetUsername (env.beyond process.clock)

/-- The step from `machine` to `next` handles a packet with which an authenticated user asks for an
action on another. -/
def Machine.Asks (env : Env) (machine next : Machine) (action : TieAction)
    (userId friendId : Int) : Prop :=
  ∃ readSet index packet, machine.phase = .servicing readSet index ∧
    next.loop = (serviceClient env readSet index machine.loop).1 ∧
    index < machine.loop.process.ctx.clients.length ∧
    machine.loop.HandsOn readSet index packet ∧
    machine.loop.process.Asks env index packet action userId friendId

theorem receiveClient_clientAt {index : Nat} {loop : Loop}
    (inside : index < loop.process.ctx.clients.length) :
    ((receiveClient index loop).1.process.clientAt index).identity =
      (loop.process.clientAt index).identity := by
  have insideAfter : index < (receiveClient index loop).1.process.ctx.clients.length := by
    rw [receiveClient_length]
    exact inside
  have same : (receiveClient index loop).1.process.ctx.identities[index]? =
      loop.process.ctx.identities[index]? := by rw [receiveClient_identities]
  rw [ServerContext.identities, ServerContext.identities, List.getElem?_map, List.getElem?_map,
    List.getElem?_eq_getElem inside, List.getElem?_eq_getElem insideAfter] at same
  rw [Process.clientAt, Process.clientAt, clientAt_eq_getElem inside,
    clientAt_eq_getElem insideAfter]
  exact Option.some.inj same

/-- Without failures a name is found exactly where there is a user with it. -/
theorem dbGetUserIdByName_of_reliable {dbEnv : DbEnv} (reliable : dbEnv.Reliable)
    {database : Database} {name : Text} {userId : Int} :
    dbGetUserIdByName dbEnv database name = some userId ↔
      ∃ row ∈ database.users, (row.id : Int) = userId ∧ row.username = name := by
  have query : dbGetUserIdByName dbEnv database name =
      (database.users.find? fun row => row.username = name).map fun row => (row.id : Int) := by
    rw [dbGetUserIdByName]
    simp only [reliable.prepare, reliable.firstRow, List.head?_filter]
    rfl
  rw [query, Option.map_eq_some_iff]
  constructor
  · rintro ⟨row, found, same⟩
    exact ⟨row, List.mem_of_find?_eq_some found, same, by simpa using List.find?_some found⟩
  · rintro ⟨row, member, same, named⟩
    exact ⟨row, (database.integrity.users_username.find?_eq_some_iff name row).mpr ⟨member, named⟩,
      same⟩

/-- The call that has been made is in the record, and its result is the database. -/
theorem Calls.outcome {action : TieAction} {name : Text} {userId friendId : Int}
    {before after : Process} (calls : Calls env action name userId friendId before after)
    (reliable : env.Reliable) (paired : Paired before.ctx.db.friends)
    (user : userId ∈ before.ctx.db.userIds) (friend : friendId ∈ before.ctx.db.userIds)
    (apart : action = .request → userId ≠ friendId) :
    ∃ status gain, after.trace = before.trace ++ gain ∧
      .called (action.call userId friendId status) ∈ gain ∧
      action.Outcome userId friendId status before.ctx.db.friends after.ctx.db.friends := by
  obtain ⟨middle, notifies, ctx, trace⟩ := calls
  have outcome := action.outcome (reliable (before.clock + 1)) paired user friend apart
  have db := notifies.db
  rw [ctx] at db
  obtain ⟨effects, logged, -⟩ := notifies
  generalize action.run (env.db (before.clock + 1)) before.ctx.db userId friendId = result at *
  refine ⟨result.2, [.called (.getUserIdByName name), .called (action.call userId friendId
    result.2)] ++ effects, ?_, by simp, ?_⟩
  · rw [logged, trace, List.append_assoc]
  · rw [db]
    exact outcome

/-- The handling of a request about a friend makes the call of the request. -/
theorem processClientPacket_asks (reliable : env.Reliable) {process : Process} {index : Nat}
    {packet : TizcordPacket} {action : TieAction} {userId friendId : Int}
    (valid : (process.clientAt index).Valid process.ctx.db)
    (paired : Paired process.ctx.db.friends)
    (asks : process.Asks env index packet action userId friendId)
    (apart : action = .request → userId ≠ friendId) :
    ∃ status gain, (processClientPacket env index packet process).trace = process.trace ++ gain ∧
      .called (action.call userId friendId status) ∈ gain ∧
      action.Outcome userId friendId status process.ctx.db.friends
        (processClientPacket env index packet process).ctx.db.friends := by
  obtain ⟨⟨authenticated, rfl⟩, asked, row, member, rfl, named⟩ := asks
  have found : dbGetUserIdByName (env.db process.clock) process.ctx.db
      (packet.socialTargetUsername (env.beyond process.clock)) = some (row.id : Int) :=
    (dbGetUserIdByName_of_reliable (reliable _)).mpr ⟨row, member, rfl, named⟩
  have calls : Calls env action (packet.socialTargetUsername (env.beyond process.clock))
      (process.clientAt index).id row.id
      (process.log (.handling (process.clientAt index).socketFd packet
        (process.ctx.userOf (process.clientAt index).socketFd)))
      (processClientPacket env index packet process) := by
    rw [processClientPacket_tie action asked authenticated]
    exact action.handle_calls found apart
  obtain ⟨status, gain, logged, called, outcome⟩ := calls.outcome reliable paired
    (valid.user authenticated) (List.mem_map_of_mem member) apart
  exact ⟨status, [.handling (process.clientAt index).socketFd packet
    (process.ctx.userOf (process.clientAt index).socketFd)] ++ gain,
    logged.trans (List.append_assoc ..), List.mem_append_right _ called, outcome⟩

/-- The handling of any other packet leaves the friends as they are. -/
theorem processClientPacket_unasked (reliable : env.Reliable) {process : Process} {index : Nat}
    {packet : TizcordPacket}
    (unasked : ∀ action userId friendId, process.Asks env index packet action userId friendId →
      action = .request ∧ userId = friendId) :
    (processClientPacket env index packet process).ctx.db.friends = process.ctx.db.friends := by
  by_cases other : ∀ action : TieAction, packet.request ≠ some (.social action.socialAction)
  · exact (processClientPacket_acts env index packet process).friends other
  · push Not at other
    obtain ⟨action, asked⟩ := other
    cases authenticated : (process.clientAt index).isAuthenticated with
    | true =>
      rw [processClientPacket_tie action asked authenticated, action.handle_idle]
      · rfl
      · cases found : dbGetUserIdByName (env.db process.clock) process.ctx.db
            (packet.socialTargetUsername (env.beyond process.clock)) with
        | none => exact Or.inl found
        | some friendId =>
          have row := (dbGetUserIdByName_of_reliable (reliable _)).mp found
          obtain ⟨request, self⟩ := unasked action _ friendId ⟨⟨authenticated, rfl⟩, asked, row⟩
          exact Or.inr ⟨request, found.trans (congrArg some self.symm)⟩
    | false =>
      obtain ⟨type, acted⟩ := TizcordPacket.request_social asked
      have refused : Notifies env (process.log (.handling (process.clientAt index).socketFd packet
          (process.ctx.userOf (process.clientAt index).socketFd)))
          (processClientPacket env index packet process) := by
        rw [processClientPacket, type, handlePacket, handleSocialPacket]
        split
        · exact sendActionResponse_acts (by decide) _ _ (Or.inr (Or.inl noRequest_type))
        · rename_i checked
          exact absurd (congrArg (!·) authenticated) checked
      rw [refused.db]
      rfl

theorem Process.asks_receiveClient {loop : Loop} {index : Nat} {packet : TizcordPacket}
    {action : TieAction} {userId friendId : Int}
    (inside : index < loop.process.ctx.clients.length) :
    (receiveClient index loop).1.process.Asks env index packet action userId friendId ↔
      loop.process.Asks env index packet action userId friendId := by
  have identity := receiveClient_clientAt inside
  have authenticated : ((receiveClient index loop).1.process.clientAt index).isAuthenticated =
      (loop.process.clientAt index).isAuthenticated := congrArg Identity.isAuthenticated identity
  have own : ((receiveClient index loop).1.process.clientAt index).id =
      (loop.process.clientAt index).id := congrArg Identity.id identity
  rw [Process.Asks, Process.Asks, authenticated, own]
  rfl

/-- What a step of the machine does to the friends: it makes the move that is asked for, and
otherwise nothing. -/
structure Moves (env : Env) (machine next : Machine) : Prop where
  asked : ∀ (action : TieAction) (userId friendId : Int),
    machine.Asks env next action userId friendId → (action = .request → userId ≠ friendId) →
    ∃ status, .called (action.call userId friendId status) ∈
        next.loop.process.trace.drop machine.loop.process.trace.length ∧
      action.Outcome userId friendId status machine.loop.process.ctx.db.friends
        next.loop.process.ctx.db.friends
  unasked : (∀ action userId friendId, machine.Asks env next action userId friendId →
      action = .request ∧ userId = friendId) →
    next.loop.process.ctx.db.friends = machine.loop.process.ctx.db.friends

theorem serviceClient_asked (reliable : env.Reliable) {loop : Loop} {readSet : Finset Int}
    {index : Nat} {packet : TizcordPacket} {action : TieAction} {userId friendId : Int}
    (consistent : loop.Consistent) (paired : Paired loop.process.ctx.db.friends)
    (inside : index < loop.process.ctx.clients.length) (handed : loop.HandsOn readSet index packet)
    (asks : loop.process.Asks env index packet action userId friendId)
    (apart : action = .request → userId ≠ friendId) :
    ∃ status, .called (action.call userId friendId status) ∈
        (serviceClient env readSet index loop).1.process.trace.drop loop.process.trace.length ∧
      action.Outcome userId friendId status loop.process.ctx.db.friends
        (serviceClient env readSet index loop).1.process.ctx.db.friends := by
  have insideAfter : index < (receiveClient index loop).1.process.ctx.clients.length := by
    rw [receiveClient_length]
    exact inside
  have valid : ClientNode.Valid (receiveClient index loop).1.process.ctx.db
      ((receiveClient index loop).1.process.clientAt index) :=
    receiveClient_valid consistent.valid _ (clientAt_mem_of_lt insideAfter)
  have asksAfter := (Process.asks_receiveClient inside).mpr asks
  obtain ⟨status, gain, logged, called, outcome⟩ :=
    processClientPacket_asks reliable valid paired asksAfter apart
  rw [serviceClient_of_handsOn env handed]
  dsimp only
  rw [logged, receiveClient_trace, List.append_assoc, List.drop_left]
  exact ⟨status, List.mem_append_right _ called, outcome⟩

theorem serviceClient_unasked (reliable : env.Reliable) {loop : Loop} {readSet : Finset Int}
    {index : Nat} (inside : index < loop.process.ctx.clients.length)
    (unasked : ∀ packet action userId friendId, loop.HandsOn readSet index packet →
      loop.process.Asks env index packet action userId friendId →
      action = .request ∧ userId = friendId) :
    (serviceClient env readSet index loop).1.process.ctx.db.friends =
      loop.process.ctx.db.friends := by
  rcases serviceClient_cases env readSet index loop with
    ⟨-, skipped⟩ | ⟨ready, ⟨errno, -, failed⟩ | ⟨-, again⟩ | ⟨packet, arrived, handled⟩⟩
  · rw [skipped]
  · have insideAfter : index < (receiveClient index loop).1.process.ctx.clients.length := by
      rw [receiveClient_length]
      exact inside
    rw [failed, (disconnectClient_notifies env insideAfter).db]
    rfl
  · rw [again]
    rfl
  · rw [handled]
    dsimp only
    refine processClientPacket_unasked reliable fun action userId friendId asks => ?_
    exact unasked packet action userId friendId ⟨ready, arrived⟩
      ((Process.asks_receiveClient inside).mp asks)

theorem Machine.Step.moves (reliable : env.Reliable) {next : Machine}
    (reachable : Reachable env serverFd machine) (step : machine.Step env next) :
    Moves env machine next := by
  constructor
  · rintro action userId friendId ⟨readSet, index, packet, -, result, inside, handed, asks⟩ apart
    rw [result]
    exact serviceClient_asked reliable reachable.consistent (reachable.paired reliable) inside
      handed asks apart
  · intro unasked
    cases step with
    | @service loop readSet index inside =>
      refine serviceClient_unasked reliable inside fun packet action userId friendId handed asks =>
        unasked action userId friendId ⟨readSet, index, packet, rfl, rfl, inside, handed, asks⟩
    | select loop round =>
      dsimp only
      rw [acceptRound_db]
    | finish | restart => rfl

/-- The table of friends refines the state machine of the pairs of users: every pair has one tie,
every step makes the move that is asked for, and both users of a pair are shown their side. -/
theorem friends_refine (env : Env) (reliable : env.Reliable) (serverFd : Int) (machine : Machine)
    (reachable : Reachable env serverFd machine) :
    Paired machine.loop.process.ctx.db.friends ∧
    (∀ (first second : Int) (tie : Tie), first ≠ second →
      (tie.Describes first second (rowsBetween machine.loop.process.ctx.db.friends first second) ↔
        tie = tieOf machine.loop.process.ctx.db.friends first second)) ∧
    (∀ next, machine.Step env next → Moves env machine next) ∧
    ∀ dbEnv : DbEnv, dbEnv.Reliable → ∀ userId,
      ((dbListFriendRequests dbEnv machine.loop.process.ctx.db userId).1.map
        FriendListRow.targetUserId).Nodup ∧
      (∀ row, row ∈ (dbListFriendRequests dbEnv machine.loop.process.ctx.db userId).1 ↔
        ∃ user ∈ machine.loop.process.ctx.db.users,
          row.targetUserId = user.id ∧ row.username = user.username ∧
            (tieOf machine.loop.process.ctx.db.friends userId user.id).code = some row.isIncoming) ∧
      ∀ friendId, tieOf machine.loop.process.ctx.db.friends friendId userId =
        (tieOf machine.loop.process.ctx.db.friends userId friendId).mirror := by
  have paired := reachable.paired reliable
  refine ⟨paired, fun first second tie apart => ⟨fun describes => ?_, ?_⟩,
    fun next step => step.moves reliable reachable,
    fun dbEnv dbReliable userId => ⟨?_, fun row => ?_, paired.tieOf_mirror userId⟩⟩
  · exact describes.unique apart (paired.describes first second)
  · rintro rfl
    exact paired.describes first second
  · rw [dbListFriendRequests_of_reliable dbReliable]
    exact ((arrange_perm _ _).map _).nodup_iff.mpr (friendList_nodup paired userId)
  · rw [dbListFriendRequests_of_reliable dbReliable]
    exact mem_arrange.trans (mem_friendList paired row)

/-- The request to the user with the name `b`. -/
def friendRequestPacket : TizcordPacket :=
  let packet := TizcordPacket.setType Image.zero .social
  let packet := packet.setSocialAction SocialAction.friendRequest.code
  packet.strncpySocialTargetUsername Text.letterB

/-- Two users register, and the first sends a request to the second. -/
def friendEvents : List Event :=
  [.round ⟨{3}, [.connected 4 ⟨clientBytes registerPacket ++ clientBytes friendRequestPacket,
      [.count 1000, .count 1000]⟩]⟩,
    .round ⟨{3}, [.connected 5 ⟨clientBytes registerSecondPacket, [.count 1000]⟩]⟩,
    .round ⟨{4}, []⟩, .round ⟨{5}, []⟩, .round ⟨{4}, []⟩]

theorem friends_refine_request :
    tieOf (runServer Env.ideal 3 friendEvents).process.ctx.db.friends 2 1 = .incoming := by
  have refines := (friends_refine Env.ideal Env.ideal_reliable 3
    ⟨runServer Env.ideal 3 friendEvents, .selecting⟩
    (reachable_runServer Env.ideal 3 friendEvents)).2.2.2 (Env.ideal.db 0)
    (Env.ideal_reliable 0) 1
  have requested : tieOf (runServer Env.ideal 3 friendEvents).process.ctx.db.friends 1 2 =
      .outgoing := by
    decide +kernel
  have mirrored := refines.2.2 2
  dsimp only at mirrored
  rw [mirrored, requested]
  rfl

end Reached

end Tizcord
