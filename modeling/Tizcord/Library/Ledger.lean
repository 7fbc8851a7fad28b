/-
This file is a library for a table whose new rows get one more than the largest id
present. Beside the rows that are present stand all rows that were ever made: a
row that is deleted gives its id back, and where it was the one with the largest
id the next row gets this id again.
-/

import Tizcord.Library.Table

namespace CModel

/-- A table, and all rows that were ever made in it. -/
structure Ledger (Row : Type) where
  rows : List Row
  made : List Row

/-- What happens to a table, with the rows it makes: some rows go, or a row comes. -/
inductive LedgerStep {Row : Type} (key : Row → Int) (before : Ledger Row) :
    List Row → Ledger Row → Prop where
  | keeps {after : Ledger Row} (rows : after.rows.Sublist before.rows)
      (made : after.made = before.made) : LedgerStep key before [] after
  | makes {after : Ledger Row} {row : Row} (next : key row = maxRowid (before.rows.map key) + 1)
      (rows : after.rows = before.rows ++ [row]) (made : after.made = before.made ++ [row]) :
      LedgerStep key before [row] after

namespace Ledger

variable {Row : Type} (key : Row → Int)

/-- An id never means two things: no two rows were made with the same one, and where a row with
the id of a row that was made is present, it is this row. -/
structure Faithful (ledger : Ledger Row) : Prop where
  distinct : UniqueOn key ledger.made
  same : ∀ row ∈ ledger.made, key row ∈ ledger.rows.map key → row ∈ ledger.rows

/-- The row with the largest id that was ever given is still there. -/
def KeepsNewest (ledger : Ledger Row) : Prop :=
  ledger.made = [] ∨ maxRowid (ledger.made.map key) ∈ ledger.rows.map key

/-- What holds of every table: all rows that are present were made, and the ids that were given are
those from 1 on, without a gap. -/
structure Dense (ledger : Ledger Row) : Prop where
  rows : ledger.rows ⊆ ledger.made
  ids : ∀ id, id ∈ ledger.made.map key ↔ 0 < id ∧ id ≤ maxRowid (ledger.made.map key)

def empty : Ledger Row := ⟨[], []⟩

theorem dense_empty : (empty : Ledger Row).Dense key where
  rows := List.Subset.refl _
  ids _ := ⟨fun member => absurd member List.not_mem_nil, fun bounds =>
    absurd bounds.1 (Int.not_lt.mpr bounds.2)⟩

theorem faithful_empty : (empty : Ledger Row).Faithful key :=
  ⟨List.nodup_nil, fun _ member => absurd member List.not_mem_nil⟩

variable {key} {ledger : Ledger Row}

/-- Where the ids are distinct, a row that is present is the one its id was given to. -/
theorem Dense.faithful (dense : ledger.Dense key) (distinct : UniqueOn key ledger.made) :
    ledger.Faithful key := by
  refine ⟨distinct, fun row made present => ?_⟩
  obtain ⟨other, there, equal⟩ := List.mem_map.mp present
  rwa [distinct.eq_of_key made (dense.rows there) equal.symm]

/-- No id that is present is larger than all that were given. -/
theorem Dense.maxRowid_le (dense : ledger.Dense key) :
    maxRowid (ledger.rows.map key) ≤ maxRowid (ledger.made.map key) := by
  refine CModel.maxRowid_le (maxRowid_nonneg _) fun id present => ?_
  exact le_maxRowid (List.map_subset key dense.rows present)

/-- The next id was never given before exactly when the row with the largest one is present. -/
theorem Dense.next_fresh_iff (dense : ledger.Dense key) :
    maxRowid (ledger.rows.map key) + 1 ∉ ledger.made.map key ↔ ledger.KeepsNewest key := by
  have nonneg := maxRowid_nonneg (ledger.rows.map key)
  have bound := dense.maxRowid_le
  rw [dense.ids]
  constructor
  · intro fresh
    have largest : maxRowid (ledger.rows.map key) = maxRowid (ledger.made.map key) := by omega
    cases made : ledger.made with
    | nil => exact Or.inl made
    | cons row rest =>
      have given : key row ∈ ledger.made.map key := by
        rw [made]
        exact List.mem_cons_self
      have positive := ((dense.ids _).mp given).1
      have below := le_maxRowid given
      refine Or.inr (largest ▸ maxRowid_mem ?_)
      omega
  · rintro (none | present) ⟨-, given⟩
    · rw [none] at given
      have zero : maxRowid (([] : List Row).map key) = 0 := rfl
      omega
    · have below := le_maxRowid present
      omega

end Ledger

section Steps

variable {Row : Type} {key : Row → Int} {before after : Ledger Row} {made : List Row}

theorem LedgerStep.dense (step : LedgerStep key before made after) (dense : before.Dense key) :
    after.Dense key := by
  cases step with
  | keeps rows made =>
    refine ⟨fun row member => ?_, fun id => ?_⟩
    · rw [made]
      exact dense.rows (rows.subset member)
    · rw [made]
      exact dense.ids id
  | @makes _ row next rows made =>
    have nonneg := maxRowid_nonneg (before.rows.map key)
    have bound := dense.maxRowid_le
    refine ⟨?_, fun id => ?_⟩
    · rw [rows, made]
      exact List.append_subset.mpr
        ⟨List.subset_append_of_subset_left _ dense.rows, List.subset_append_right _ _⟩
    · rw [made, List.map_append, List.map_singleton, maxRowid_append_singleton, List.mem_append,
        List.mem_singleton, dense.ids]
      omega

/-- A step keeps the ids apart exactly when, before it makes a row, the row with the largest id
that was ever given is still there. -/
theorem LedgerStep.faithful_iff (step : LedgerStep key before made after)
    (dense : before.Dense key) (faithful : before.Faithful key) :
    after.Faithful key ↔ (made ≠ [] → before.KeepsNewest key) := by
  have denseAfter := step.dense dense
  cases step with
  | keeps rows made =>
    refine ⟨fun _ some' => absurd rfl some', fun _ => denseAfter.faithful ?_⟩
    rw [made]
    exact faithful.distinct
  | makes next rows made =>
    rw [← dense.next_fresh_iff, ← next]
    constructor
    · intro kept _
      have distinct := kept.distinct
      rw [made, uniqueOn_append_singleton] at distinct
      exact distinct.2
    · intro fresh
      refine denseAfter.faithful ?_
      rw [made, uniqueOn_append_singleton]
      exact ⟨faithful.distinct, fresh (List.cons_ne_nil _ _)⟩

end Steps

end CModel
