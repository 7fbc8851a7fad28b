/-
This file is about the list of all users that a client holds: only what it
receives changes the list, and the client sorts it without losing one. Whatever a
stream of rows brings, at its end the client holds the rows for which it has room,
the users who are online in front and each part in the order of the names.
-/

import Tizcord.Client.Steps

namespace Tizcord

open CModel

/-! ### What the list is read from -/

/-- The packet that a step of the client takes in. -/
def UiEvent.received : UiEvent → Option TizcordPacket
  | .packet content => some content
  | .key _ => none

theorem UiStep.allUsers {before after : Ui} {events : List UiEvent}
    (step : UiStep before events after) :
    after.allUsers = (events.filterMap UiEvent.received).foldl readUsers before.allUsers := by
  cases step with
  | packet now received processed =>
    rw [List.filterMap_cons, UiEvent.received, List.filterMap_nil, List.foldl_cons, List.foldl_nil]
    exact (processNetworkPacket_changes processed).allUsers
  | key now key handled =>
    rcases handleKey_cases handled with same | submits
    · exact same.allUsers
    · exact submits.allUsers
  | draw => exact (redraw_same before).allUsers
  | disconnect => rfl

/-- Whatever a client does, its list of all users is what it has read from the packets. -/
theorem allUsers_of_steps {before after : Ui} {events : List UiEvent}
    (steps : Steps UiStep before events after) :
    after.allUsers = (events.filterMap UiEvent.received).foldl readUsers before.allUsers := by
  induction steps with
  | none => rfl
  | more _ next inductionHypothesis =>
    rw [List.filterMap_append, List.foldl_append, ← inductionHypothesis]
    exact next.allUsers

/-! ### The order of the users -/

theorem comesBefore_asymm {first second : Text} (before : comesBefore first second = true) :
    comesBefore second first = false := by
  rw [comesBefore, Bool.not_eq_true'] at before
  rw [comesBefore, Bool.not_eq_false']
  rcases Text.leBytes_total (first.bytes.map toLower) (second.bytes.map toLower) with le | le
  · exact le
  · exact absurd le (Bool.eq_false_iff.mp before)

theorem comesBefore_trans {first second third : Text} (before : comesBefore first second = true)
    (later : comesBefore second third = true) : comesBefore first third = true := by
  have le := comesBefore_asymm before
  rw [comesBefore, Bool.not_eq_false'] at le
  rw [comesBefore, Bool.not_eq_true'] at later ⊢
  refine Bool.eq_false_iff.mpr fun back => ?_
  exact absurd (Text.leBytes_trans _ _ _ back le) (Bool.eq_false_iff.mp later)

namespace UIUser

variable {first second third : UIUser}

theorem precedes_iff : first.precedes second = true ↔ second.isOnline < first.isOnline ∨
    first.isOnline = second.isOnline ∧ comesBefore first.username second.username = true := by
  rw [precedes, Bool.or_eq_true, Bool.and_eq_true, decide_eq_true_iff, decide_eq_true_iff]

theorem precedes_asymm (before : first.precedes second = true) :
    second.precedes first = false := by
  refine Bool.eq_false_iff.mpr fun back => ?_
  rcases precedes_iff.mp before with online | ⟨same, name⟩ <;>
    rcases precedes_iff.mp back with onlineBack | ⟨sameBack, nameBack⟩
  · exact lt_asymm online onlineBack
  · exact absurd sameBack online.ne
  · exact absurd same onlineBack.ne
  · exact absurd nameBack (Bool.eq_false_iff.mp (comesBefore_asymm name))

theorem precedes_trans (before : first.precedes second = true)
    (later : second.precedes third = true) : first.precedes third = true := by
  rw [precedes_iff] at before later ⊢
  rcases before with online | ⟨same, name⟩
  · rcases later with onlineLater | ⟨sameLater, -⟩
    · exact Or.inl (onlineLater.trans online)
    · exact Or.inl (sameLater ▸ online)
  · rcases later with onlineLater | ⟨sameLater, nameLater⟩
    · exact Or.inl (same ▸ onlineLater)
    · exact Or.inr ⟨same.trans sameLater, comesBefore_trans name nameLater⟩

/-- Where a user does not precede the one in front, the two are in order. -/
theorem ordered_of_not_precedes (passed : second.precedes first = false) :
    second.isOnline < first.isOnline ∨ first.isOnline = second.isOnline ∧
      comesBefore second.username first.username = false := by
  rcases lt_trichotomy second.isOnline first.isOnline with less | same | greater
  · exact Or.inl less
  · refine Or.inr ⟨same.symm, Bool.eq_false_iff.mpr fun name => ?_⟩
    exact absurd (precedes_iff.mpr (Or.inr ⟨same, name⟩)) (Bool.eq_false_iff.mp passed)
  · exact absurd (precedes_iff.mpr (Or.inl greater)) (Bool.eq_false_iff.mp passed)

end UIUser

/-! ### A stream of users -/

/-- A packet of the list of all users, with a certain frame. -/
structure IsUserFrame (frame : ListFrameType) (packet : TizcordPacket) : Prop where
  asked : packet.request = some (.social .listUsers)
  marked : frame.marks packet = true

section Stream

variable {now : Int} {packet : TizcordPacket} {frame : ListFrameType}

theorem processNetworkPacket_userList (asked : packet.request = some (.social .listUsers))
    (ui : Ui) : processNetworkPacket now packet ui = .ok (userListed packet ui) := by
  rw [processNetworkPacket_eq, asked, processRequest, updateSocialState]

theorem marks_unique {other : ListFrameType} (marked : frame.marks packet = true)
    (different : frame ≠ other) : ¬ other.marks packet = true := by
  unfold ListFrameType.marks at marked ⊢
  rw [decide_eq_true_iff] at marked ⊢
  intro same
  have codes : frame.code = other.code := marked.symm.trans same
  revert codes
  cases frame <;> cases other <;> first | exact absurd rfl different | decide

theorem userListed_start (ui : Ui) (starts : ListFrameType.start.marks packet = true) :
    (userListed packet ui).allUsers = ui.allUsers.clear := by
  rw [userListed, if_pos starts]

theorem userListed_middle (ui : Ui) (row : ListFrameType.middle.marks packet = true) :
    (userListed packet ui).allUsers = ui.allUsers.file fun _ => listedUser packet := by
  rw [userListed, if_neg (marks_unique row (by decide)), if_pos row]

theorem userListed_end (ui : Ui) (ends : ListFrameType.end.marks packet = true) :
    (userListed packet ui).allUsers = sortUsers ui.allUsers := by
  rw [userListed, if_neg (marks_unique ends (by decide)), if_neg (marks_unique ends (by decide)),
    if_pos ends]

/-- The rows of a stream are filed one behind the other, as long as there is room. -/
theorem processTimed_rows {rows : List (Int × TizcordPacket)}
    (middle : ∀ row ∈ rows, IsUserFrame .middle row.2) (ui : Ui) :
    ∃ after, processTimed rows ui = .ok after ∧ after.allUsers =
      (rows.map fun row => listedUser row.2).foldl
        (fun users user => users.file fun _ => user) ui.allUsers := by
  induction rows generalizing ui with
  | nil => exact ⟨ui, rfl, rfl⟩
  | cons row rest inductionHypothesis =>
    have first := middle row List.mem_cons_self
    obtain ⟨after, processed, filed⟩ := inductionHypothesis
      (fun other member => middle other (List.mem_cons_of_mem _ member)) (userListed row.2 ui)
    refine ⟨after, ?_, ?_⟩
    · rw [← processed]
      exact processTimed_cons (processNetworkPacket_userList first.asked ui)
    · rw [filed, userListed_middle ui first.marked, List.map_cons, List.foldl_cons]

end Stream

/-- After a stream of users the client holds the first rows, as many as it has room for, each as
often as it came, and in order: a user who is more online comes first, and among users who are
equally online no name comes before one in front of it, upper and lower case being the same. -/
theorem user_list_sorted {start finish : Int × TizcordPacket} {rows : List (Int × TizcordPacket)}
    (starts : IsUserFrame .start start.2) (middle : ∀ row ∈ rows, IsUserFrame .middle row.2)
    (ends : IsUserFrame .end finish.2) (ui : Ui) :
    ∃ after, processTimed (start :: (rows ++ [finish])) ui = .ok after ∧
      after.allUsers.entries.Perm ((rows.map fun row => listedUser row.2).take maxAllUsers) ∧
      after.allUsers.entries.Pairwise fun first second =>
        second.isOnline < first.isOnline ∨ first.isOnline = second.isOnline ∧
          comesBefore second.username first.username = false := by
  obtain ⟨filled, processed, filed⟩ := processTimed_rows middle (userListed start.2 ui)
  have entries : filled.allUsers.entries =
      (rows.map fun row => listedUser row.2).take maxAllUsers := by
    rw [filed, SlotArray.entries_foldl_file, userListed_start ui starts.marked,
      SlotArray.entries_clear, List.nil_append]
  have last : (userListed finish.2 filled).allUsers =
      filled.allUsers.exchangeSort UIUser.precedes := by
    rw [userListed_end filled ends.marked, sortUsers]
  refine ⟨userListed finish.2 filled, ?_, ?_, ?_⟩
  · refine (processTimed_cons (processNetworkPacket_userList starts.asked ui)).trans ?_
    refine (processTimed_append processed).trans ?_
    exact processTimed_cons (processNetworkPacket_userList ends.asked filled)
  · rw [last, ← entries]
    exact SlotArray.exchangeSort_perm _
  · rw [last]
    have sorted := @SlotArray.exchangeSort_pairwise _ _ UIUser.precedes
      (fun _ _ => UIUser.precedes_asymm) (fun _ _ _ => UIUser.precedes_trans) filled.allUsers
    exact sorted.imp UIUser.ordered_of_not_precedes

/-- A packet of the list of all users, with the id of a user and whether they are online. -/
def userPacket (frame : ListFrameType) (id online : Int) : TizcordPacket :=
  let packet := TizcordPacket.setType Image.zero .social
  let packet := packet.setSocialAction SocialAction.listUsers.code
  let packet := packet.setListFrame frame
  let packet := packet.setSocialTargetUserId id
  packet.setSocialStatusCode online

/-- A user who is online comes in front of one who came first. -/
theorem user_list_sorted_two : ∃ after, processTimed [(0, userPacket .start 0 0),
      (0, userPacket .middle 1 0), (0, userPacket .middle 2 1), (0, userPacket .end 0 0)]
        Ui.start = .ok after ∧
    after.allUsers.entries.Perm
      [listedUser (userPacket .middle 1 0), listedUser (userPacket .middle 2 1)] ∧
    after.allUsers.entries.Pairwise fun first second =>
      second.isOnline < first.isOnline ∨ first.isOnline = second.isOnline ∧
        comesBefore second.username first.username = false := by
  have middle : ∀ row ∈ [((0 : Int), userPacket .middle 1 0), (0, userPacket .middle 2 1)],
      IsUserFrame .middle row.2 := by
    intro row member
    rcases List.mem_pair.mp member with rfl | rfl <;> constructor <;> decide +kernel
  have starts : IsUserFrame .start (userPacket .start 0 0) := by
    constructor <;> decide +kernel
  have ends : IsUserFrame .end (userPacket .end 0 0) := by
    constructor <;> decide +kernel
  exact @user_list_sorted (0, userPacket .start 0 0) (0, userPacket .end 0 0) _ starts middle ends
    Ui.start

end Tizcord
