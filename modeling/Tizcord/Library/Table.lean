/-
This file is a library for the tables of an SQL database, as lists of rows. A
constraint is a property of the keys of the rows, the id of a new row is positive
and not in use, and a query delivers its rows one step at a time, each of which
can fail.
-/

import Mathlib.Algebra.Group.Int.Defs
import Mathlib.Data.List.DropRight
import Mathlib.Data.List.FinRange
import Mathlib.Data.List.Nodup
import Mathlib.Data.List.Sort

namespace CModel

variable {Row Key : Type}

/-! ### Constraints -/

/-- No two rows of the table have the same key. -/
def UniqueOn (key : Row → Key) (rows : List Row) : Prop :=
  (rows.map key).Nodup

/-- The key of every row is one of the targets. -/
def References (key : Row → Key) (rows : List Row) (targets : List Key) : Prop :=
  ∀ row ∈ rows, key row ∈ targets

instance [DecidableEq Key] (key : Row → Key) (rows : List Row) : Decidable (UniqueOn key rows) :=
  inferInstanceAs (Decidable (rows.map key).Nodup)

instance [DecidableEq Key] (key : Row → Key) (rows : List Row) (targets : List Key) :
    Decidable (References key rows targets) :=
  inferInstanceAs (Decidable (∀ row ∈ rows, key row ∈ targets))

theorem uniqueOn_append_singleton (key : Row → Key) (rows : List Row) (row : Row) :
    UniqueOn key (rows ++ [row]) ↔ UniqueOn key rows ∧ key row ∉ rows.map key := by
  unfold UniqueOn
  rw [List.map_append, List.map_singleton, List.nodup_append]
  constructor
  · rintro ⟨unique, -, apart⟩
    exact ⟨unique, fun member => apart _ member _ (List.mem_singleton_self _) rfl⟩
  · rintro ⟨unique, fresh⟩
    refine ⟨unique, List.nodup_singleton _, fun first member second same equal => fresh ?_⟩
    rw [← List.mem_singleton.mp same, ← equal]
    exact member

theorem UniqueOn.filter {key : Row → Key} {rows : List Row} (unique : UniqueOn key rows)
    (keep : Row → Bool) : UniqueOn key (rows.filter keep) :=
  List.Nodup.sublist ((List.filter_sublist).map key) unique

/-- An update that keeps the keys keeps them unique. -/
theorem UniqueOn.map {key : Row → Key} {rows : List Row} (unique : UniqueOn key rows)
    {update : Row → Row} (same : ∀ row, key (update row) = key row) :
    UniqueOn key (rows.map update) := by
  unfold UniqueOn
  rw [List.map_map]
  have keys : key ∘ update = key := funext same
  rw [keys]
  exact unique

theorem UniqueOn.eq_of_key {key : Row → Key} {rows : List Row} (unique : UniqueOn key rows)
    {first second : Row} (firstMember : first ∈ rows) (secondMember : second ∈ rows)
    (equal : key first = key second) : first = second :=
  List.inj_on_of_nodup_map unique firstMember secondMember equal

/-- Two orders of a table with the same keys, place by place, are the same order. -/
theorem UniqueOn.eq_of_perm {key : Row → Key} {first second : List Row}
    (unique : UniqueOn key second) (perm : first.Perm second)
    (keys : first.map key = second.map key) : first = second := by
  refine List.ext_getElem perm.length_eq fun index inFirst inSecond => ?_
  refine unique.eq_of_key (perm.mem_iff.mp (List.getElem_mem inFirst)) (List.getElem_mem inSecond) ?_
  rw [← List.getElem_map key (h := by rwa [List.length_map]),
    ← List.getElem_map key (h := by rwa [List.length_map])]
  exact List.getElem_of_eq keys _

/-- A row found by its key is the only row with this key. -/
theorem UniqueOn.find?_eq_some_iff [DecidableEq Key] {key : Row → Key} {rows : List Row}
    (unique : UniqueOn key rows) (wanted : Key) (row : Row) :
    rows.find? (fun other => key other = wanted) = some row ↔ row ∈ rows ∧ key row = wanted := by
  constructor
  · intro found
    exact ⟨List.mem_of_find?_eq_some found, by simpa using List.find?_some found⟩
  · rintro ⟨member, equal⟩
    cases found : rows.find? (fun other => key other = wanted) with
    | none => exact absurd equal (by simpa using List.find?_eq_none.mp found row member)
    | some other =>
      have otherMember := List.mem_of_find?_eq_some found
      have otherEqual : key other = wanted := by simpa using List.find?_some found
      rw [unique.eq_of_key otherMember member (otherEqual.trans equal.symm)]

/-- The rows with the key of a row are this row alone. -/
theorem UniqueOn.filter_eq_singleton [DecidableEq Key] {key : Row → Key} {rows : List Row}
    (unique : UniqueOn key rows) {row : Row} (member : row ∈ rows) :
    (rows.filter fun other => key other = key row) = [row] := by
  induction rows with
  | nil => cases member
  | cons head rest inductionHypothesis =>
    obtain ⟨fresh, uniqueRest⟩ := List.nodup_cons.mp unique
    have foreign : ∀ other ∈ rest, key other ≠ key head := fun other present same =>
      fresh (same ▸ List.mem_map_of_mem present)
    rcases List.mem_cons.mp member with rfl | inRest
    · have none' : (rest.filter fun other => key other = key row) = [] :=
        List.filter_eq_nil_iff.mpr fun other present => by simpa using foreign other present
      rw [List.filter_cons_of_pos (by simp), none']
    · have other : key head ≠ key row := (foreign row inRest).symm
      rw [List.filter_cons_of_neg (by simpa using other), inductionHypothesis uniqueRest inRest]

/-- A join along a reference has one row for each row that refers. -/
theorem References.map_join_eq {Other Joined Result : Type} [DecidableEq Key] {key : Row → Key}
    {otherKey : Other → Key} {rows : List Row} {others : List Other}
    (references : References key rows (others.map otherKey)) (unique : UniqueOn otherKey others)
    {join : Row → Other → Joined} {target : Joined → Result} {result : Row → Result}
    (joins : ∀ row, ∀ other ∈ others, otherKey other = key row →
      target (join row other) = result row) :
    (rows.flatMap fun row =>
      (others.filter fun other => otherKey other = key row).map (join row)).map target =
      rows.map result := by
  rw [List.map_flatMap, ← List.flatMap_singleton' (rows.map result), List.flatMap_map]
  refine List.flatMap_congr fun row member => ?_
  obtain ⟨other, present, same⟩ := List.mem_map.mp (references row member)
  rw [← same, unique.filter_eq_singleton present, List.map_singleton, List.map_singleton,
    joins row other present same]

theorem References.map_join {Other Joined : Type} [DecidableEq Key] {key : Row → Key}
    {otherKey : Other → Key} {rows : List Row} {others : List Other}
    (references : References key rows (others.map otherKey)) (unique : UniqueOn otherKey others)
    {join : Row → Other → Joined} {target : Joined → Key}
    (joins : ∀ row other, target (join row other) = otherKey other) :
    (rows.flatMap fun row =>
      (others.filter fun other => otherKey other = key row).map (join row)).map target =
      rows.map key :=
  references.map_join_eq unique fun row other _ same => (joins row other).trans same

theorem References.filter {key : Row → Key} {rows : List Row} {targets : List Key}
    (references : References key rows targets) (keep : Row → Bool) :
    References key (rows.filter keep) targets :=
  fun row member => references row (List.mem_of_mem_filter member)

theorem References.mono {key : Row → Key} {rows : List Row} {targets targets' : List Key}
    (references : References key rows targets) (wider : targets ⊆ targets') :
    References key rows targets' :=
  fun row member => wider (references row member)

theorem References.map {key : Row → Key} {rows : List Row} {targets : List Key}
    (references : References key rows targets) {update : Row → Row}
    (same : ∀ row, key (update row) = key row) : References key (rows.map update) targets := by
  intro row member
  obtain ⟨source, sourceMember, rfl⟩ := List.mem_map.mp member
  rw [same]
  exact references source sourceMember

theorem references_append_singleton (key : Row → Key) (rows : List Row) (row : Row)
    (targets : List Key) :
    References key (rows ++ [row]) targets ↔ References key rows targets ∧ key row ∈ targets := by
  simp [References, or_imp, forall_and]

/-! ### Row ids -/

/-- The ids SQLite assigns to the rows of a table with an integer primary key. -/
def RowId : Type := { id : Int // 0 < id ∧ id < 2 ^ 63 }

instance : DecidableEq RowId := inferInstanceAs (DecidableEq { id : Int // 0 < id ∧ id < 2 ^ 63 })

instance : CoeOut RowId Int := ⟨Subtype.val⟩

def RowId.first : RowId := ⟨1, by decide⟩

/-- The largest id of a table, and 0 for an empty one. -/
def maxRowid (ids : List Int) : Int :=
  ids.foldr max 0

theorem le_maxRowid {ids : List Int} {id : Int} (member : id ∈ ids) : id ≤ maxRowid ids := by
  induction ids with
  | nil => cases member
  | cons head rest inductionHypothesis =>
    rcases List.mem_cons.mp member with rfl | inRest
    · exact le_max_left _ _
    · exact (inductionHypothesis inRest).trans (le_max_right _ _)

theorem maxRowid_nonneg (ids : List Int) : 0 ≤ maxRowid ids := by
  induction ids with
  | nil => exact le_refl 0
  | cons _ _ inductionHypothesis => exact inductionHypothesis.trans (le_max_right _ _)

theorem maxRowid_le {ids : List Int} {bound : Int} (nonneg : 0 ≤ bound)
    (all : ∀ id ∈ ids, id ≤ bound) : maxRowid ids ≤ bound := by
  induction ids with
  | nil => exact nonneg
  | cons head rest inductionHypothesis =>
    exact max_le (all head List.mem_cons_self)
      (inductionHypothesis fun id member => all id (List.mem_cons_of_mem _ member))

/-- The largest id is an id of the table, unless there is none. -/
theorem maxRowid_mem {ids : List Int} (positive : 0 < maxRowid ids) : maxRowid ids ∈ ids := by
  induction ids with
  | nil => exact absurd positive (lt_irrefl 0)
  | cons head rest inductionHypothesis =>
    have is : maxRowid (head :: rest) = max head (maxRowid rest) := rfl
    rw [is] at positive ⊢
    rcases le_total (maxRowid rest) head with first | later
    · rw [max_eq_left first]
      exact List.mem_cons_self
    · rw [max_eq_right later] at positive ⊢
      exact List.mem_cons_of_mem _ (inductionHypothesis positive)

theorem maxRowid_append_singleton (ids : List Int) (id : Int) :
    maxRowid (ids ++ [id]) = max (maxRowid ids) id := by
  induction ids with
  | nil => exact max_comm id 0
  | cons head rest inductionHypothesis =>
    have step : ∀ ids, maxRowid (head :: ids) = max head (maxRowid ids) := fun _ => rfl
    rw [List.cons_append, step, step, inductionHypothesis, max_assoc]

/-- The id of a new row: `preferred`, where it is an id and not in use, and else one more than the
largest id in use. There is none when that would not be an id. -/
def newRowid (preferred : Option Int) (ids : List Int) : Option RowId :=
  match preferred with
  | none => following
  | some id => if valid : (0 < id ∧ id < 2 ^ 63) ∧ id ∉ ids then some ⟨id, valid.1⟩ else following
where
  following : Option RowId :=
    if valid : 0 < maxRowid ids + 1 ∧ maxRowid ids + 1 < 2 ^ 63 then
      some ⟨maxRowid ids + 1, valid⟩
    else none

/-- The id of a new row is not in use. -/
theorem newRowid_fresh {preferred : Option Int} {ids : List Int} {id : RowId}
    (assigned : newRowid preferred ids = some id) : (id : Int) ∉ ids := by
  have following : newRowid.following ids = some id → (id : Int) ∉ ids := by
    intro assigned member
    unfold newRowid.following at assigned
    split at assigned
    · cases assigned
      have bound := le_maxRowid member
      exact absurd bound (Int.not_le.mpr (Int.lt_succ (maxRowid ids)))
    · cases assigned
  unfold newRowid at assigned
  split at assigned
  · exact following assigned
  · split at assigned
    · rename_i valid
      cases assigned
      exact valid.2
    · exact following assigned

/-- Without a preference a new row gets one more than the largest id in use. -/
theorem newRowid_next {ids : List Int} {id : RowId} (assigned : newRowid none ids = some id) :
    (id : Int) = maxRowid ids + 1 := by
  have following : newRowid.following ids = some id := assigned
  unfold newRowid.following at following
  split at following
  · cases following
    rfl
  · cases following

/-- As long as there is an id above the largest one in use, a new row gets an id. -/
theorem newRowid_of_room (preferred : Option Int) {ids : List Int}
    (room : maxRowid ids + 1 < 2 ^ 63) : ∃ id, newRowid preferred ids = some id := by
  have nonneg := maxRowid_nonneg ids
  have following : newRowid.following ids = some ⟨maxRowid ids + 1, by omega, room⟩ := by
    rw [newRowid.following, dif_pos ⟨by omega, room⟩]
  unfold newRowid
  split
  · exact ⟨_, following⟩
  · split
    · exact ⟨_, rfl⟩
    · exact ⟨_, following⟩

/-! ### Queries -/

/-- The rows a query delivers before a step fails, and whether it came to its end. -/
def fetch (fails : Nat → Bool) : Nat → List Row → List Row × Bool
  | step, [] => ([], !fails step)
  | step, row :: rest =>
    if fails step then ([], false)
    else
      let later := fetch fails (step + 1) rest
      (row :: later.1, later.2)

theorem fetch_isPrefix (fails : Nat → Bool) (step : Nat) (rows : List Row) :
    (fetch fails step rows).1 <+: rows := by
  induction rows generalizing step with
  | nil => exact List.nil_prefix
  | cons row rest inductionHypothesis =>
    unfold fetch
    split
    · exact List.nil_prefix
    · exact (List.prefix_cons_inj row).mpr (inductionHypothesis _)

theorem fetch_of_never {fails : Nat → Bool} (never : ∀ step, fails step = false) (step : Nat)
    (rows : List Row) : fetch fails step rows = (rows, true) := by
  induction rows generalizing step with
  | nil => simp [fetch, never]
  | cons row rest inductionHypothesis => simp [fetch, never, inductionHypothesis]

/-- The rows of a query without `ORDER BY`, in an order that is decided outside. -/
def arrange (order : (count : Nat) → Equiv.Perm (Fin count)) (rows : List Row) : List Row :=
  List.ofFn fun place => rows.get (order rows.length place)

theorem arrange_perm (order : (count : Nat) → Equiv.Perm (Fin count)) (rows : List Row) :
    (arrange order rows).Perm rows := by
  have shuffled := (order rows.length).ofFn_comp_perm rows.get
  rw [List.ofFn_get] at shuffled
  exact shuffled

theorem mem_arrange {order : (count : Nat) → Equiv.Perm (Fin count)} {rows : List Row} {row : Row} :
    row ∈ arrange order rows ↔ row ∈ rows :=
  (arrange_perm order rows).mem_iff

/-- A single row, or none, has no order. -/
theorem arrange_of_length_le_one {order : (count : Nat) → Equiv.Perm (Fin count)}
    {rows : List Row} (few : rows.length ≤ 1) : arrange order rows = rows := by
  have perm := arrange_perm order rows
  rcases Nat.le_one_iff_eq_zero_or_eq_one.mp few with none' | one
  · rw [List.length_eq_zero_iff.mp none'] at perm ⊢
    exact perm.eq_nil
  · obtain ⟨row, is⟩ := List.length_eq_one_iff.mp one
    rw [is] at perm ⊢
    exact List.perm_singleton.mp perm

/-- The rows in the order of `ORDER BY`, rows that compare equal in their old order. -/
def orderBy (le : Row → Row → Bool) (rows : List Row) : List Row :=
  rows.insertionSort (fun first second => le first second)

/-- Rows that are in the order already keep their places. -/
theorem orderBy_of_pairwise {le : Row → Row → Bool} {rows : List Row}
    (ordered : rows.Pairwise fun first second => le first second) : orderBy le rows = rows :=
  ordered.insertionSort_eq

/-- `ORDER BY` an order in which any two rows compare leaves the rows in this order. -/
theorem orderBy_pairwise {le : Row → Row → Bool}
    (total : ∀ first second, le first second = true ∨ le second first = true)
    (trans : ∀ first second third, le first second = true → le second third = true →
      le first third = true) (rows : List Row) :
    (orderBy le rows).Pairwise fun first second => le first second :=
  have : Std.Total fun first second : Row => le first second = true := ⟨total⟩
  have : IsTrans Row fun first second => le first second = true := ⟨trans⟩
  List.pairwise_insertionSort _ rows

/-- The comparison by a number, of rows with the same number by their rank. -/
def byKey (key : Row → Int) (rank : Row → Nat) (first second : Row) : Bool :=
  key first < key second || (key first = key second && rank first ≤ rank second)

theorem byKey_iff {key : Row → Int} {rank : Row → Nat} {first second : Row} :
    byKey key rank first second = true ↔
      key first < key second ∨ key first = key second ∧ rank first ≤ rank second := by
  simp [byKey]

theorem orderBy_byKey (key : Row → Int) (rank : Row → Nat) (rows : List Row) :
    (orderBy (byKey key rank) rows).Pairwise fun first second => byKey key rank first second := by
  refine orderBy_pairwise (fun first second => ?_) (fun first second third => ?_) rows
  · rw [byKey_iff, byKey_iff]
    omega
  · rw [byKey_iff, byKey_iff, byKey_iff]
    omega

/-- Rows whose numbers do not fall keep their places whatever the ranks are, exactly when no two of
them have the same number. Two that have could change places: their ranks can be such. -/
theorem orderBy_byKey_stable {Id : Type} [DecidableEq Id] {key : Row → Int} {id : Row → Id}
    {rows : List Row} (unique : UniqueOn id rows)
    (ascending : rows.Pairwise fun first second => key first ≤ key second) :
    (∀ rank : Id → Nat, orderBy (byKey key fun row => rank (id row)) rows = rows) ↔
      UniqueOn key rows := by
  constructor
  · intro kept
    refine List.pairwise_map.mpr ?_
    have distinct : rows.Pairwise fun first second => id first ≠ id second :=
      List.pairwise_map.mp unique
    refine List.pairwise_iff_forall_sublist.mpr fun {first second} inOrder same => ?_
    have apart := List.pairwise_iff_forall_sublist.mp distinct inOrder
    have sorted := orderBy_byKey key (fun row => if id row = id second then 0 else 1) rows
    rw [kept fun other => if other = id second then 0 else 1] at sorted
    have compared := byKey_iff.mp (List.pairwise_iff_forall_sublist.mp sorted inOrder)
    rw [if_neg apart, if_pos rfl] at compared
    omega
  · intro distinct rank
    refine orderBy_of_pairwise (List.Pairwise.imp₂ (fun first second low apart => ?_) ascending
      (List.pairwise_map.mp distinct))
    rw [byKey_iff]
    omega

theorem mem_orderBy (le : Row → Row → Bool) (rows : List Row) (row : Row) :
    row ∈ orderBy le rows ↔ row ∈ rows :=
  (List.perm_insertionSort _ _).mem_iff

/-- Rows in the order are the only ones in this order, as long as no two of them compare equal. -/
theorem orderBy_eq_of_perm {le : Row → Row → Bool}
    (total : ∀ first second, le first second = true ∨ le second first = true)
    (trans : ∀ first second third, le first second = true → le second third = true →
      le first third = true) {rows ordered : List Row} (perm : rows.Perm ordered)
    (pairwise : ordered.Pairwise fun first second => le first second)
    (apart : ∀ first ∈ ordered, ∀ second ∈ ordered, le first second = true →
      le second first = true → first = second) : orderBy le rows = ordered := by
  have sorted := (List.perm_insertionSort (fun first second => le first second = true) rows).trans
    perm
  exact sorted.eq_of_pairwise
    (fun first second early late => apart first (sorted.mem_iff.mp early) second late)
    (orderBy_pairwise total trans rows) pairwise

/-- The last of some rows whose keys rise are those with the greatest keys, in the rising order. -/
theorem orderBy_newest {key : Row → Int} {rows : List Row}
    (rising : rows.Pairwise fun first second => key first < key second) (count : Nat) :
    orderBy (fun first second => key first ≤ key second)
        ((orderBy (fun first second => key second ≤ key first) rows).take count) =
      rows.rtake count := by
  have unique : UniqueOn key rows := List.pairwise_map.mpr (rising.imp fun less => less.ne)
  have falling : orderBy (fun first second => key second ≤ key first) rows = rows.reverse := by
    refine orderBy_eq_of_perm (fun first second => ?_) (fun first second third low high => ?_)
      (List.reverse_perm rows).symm
      (List.pairwise_reverse.mpr (rising.imp fun less => decide_eq_true less.le))
      fun first inFirst second inSecond low high => ?_
    · simpa using le_total (key second) (key first)
    · exact decide_eq_true ((of_decide_eq_true high).trans (of_decide_eq_true low))
    · exact unique.eq_of_key (List.mem_reverse.mp inFirst) (List.mem_reverse.mp inSecond)
        (le_antisymm (of_decide_eq_true high) (of_decide_eq_true low))
  rw [falling, List.take_reverse, List.rtake]
  have last := (List.drop_suffix (rows.length - count) rows).subset
  refine orderBy_eq_of_perm (fun first second => ?_) (fun first second third low high => ?_)
    (List.reverse_perm _)
    ((rising.sublist (List.drop_sublist _ _)).imp fun less => decide_eq_true less.le)
    fun first inFirst second inSecond low high => ?_
  · simpa using le_total (key first) (key second)
  · exact decide_eq_true ((of_decide_eq_true low).trans (of_decide_eq_true high))
  · exact unique.eq_of_key (last inFirst) (last inSecond)
      (le_antisymm (of_decide_eq_true low) (of_decide_eq_true high))

end CModel
