/-
This file is a library for what a log says about the present: something has
happened since when it started at one event and no later event ended it. Whether
an event starts or ends it may depend on the log before the event.
-/

import Mathlib.Data.List.Basic

namespace CModel

variable {Event : Type} {starts ends : List Event → Event → Prop} {log : List Event}
  {event : Event}

/-- An event of the log has started it, and no event after that one has ended it. -/
def Since (starts ends : List Event → Event → Prop) (log : List Event) : Prop :=
  ∃ before event after, log = before ++ event :: after ∧ starts before event ∧
    ∀ middle later rest, after = middle ++ later :: rest → ¬ ends (before ++ event :: middle) later

theorem not_since_nil : ¬ Since starts ends [] := by
  rintro ⟨before, event, after, logged, -⟩
  exact List.append_ne_nil_of_right_ne_nil before (List.cons_ne_nil event after) logged.symm

/-- A log is cut at its last event or before it. -/
theorem cut_append_singleton {before after : List Event} {first : Event}
    (cut : log ++ [event] = before ++ first :: after) :
    log = before ∧ event = first ∧ after = [] ∨
      ∃ middle, after = middle ++ [event] ∧ log = before ++ first :: middle := by
  rcases List.eq_nil_or_concat after with rfl | ⟨middle, last, rfl⟩
  · obtain ⟨same, equal⟩ := List.append_inj' cut rfl
    exact Or.inl ⟨same, List.singleton_inj.mp equal, rfl⟩
  · rw [List.concat_eq_append, ← List.cons_append, ← List.append_assoc] at cut
    obtain ⟨same, equal⟩ := List.append_inj' cut rfl
    rw [List.singleton_inj.mp equal, List.concat_eq_append]
    exact Or.inr ⟨middle, rfl, same⟩

/-- One more event starts it, or it goes on as long as the event does not end it. -/
theorem since_append_singleton :
    Since starts ends (log ++ [event]) ↔
      starts log event ∨ Since starts ends log ∧ ¬ ends log event := by
  constructor
  · rintro ⟨before, first, after, logged, started, lasting⟩
    rcases cut_append_singleton logged with ⟨rfl, rfl, rfl⟩ | ⟨middle, rfl, rfl⟩
    · exact Or.inl started
    · refine Or.inr ⟨⟨before, first, middle, rfl, started, ?_⟩, lasting middle event [] rfl⟩
      rintro early later rest rfl
      exact lasting early later (rest ++ [event]) (by simp)
  · rintro (started | ⟨⟨before, first, after, rfl, started, lasting⟩, lasts⟩)
    · exact ⟨log, event, [], rfl, started, fun _ _ _ empty => absurd empty.symm (by simp)⟩
    · refine ⟨before, first, after ++ [event], by simp, started, fun middle later rest cut => ?_⟩
      rcases cut_append_singleton cut with ⟨rfl, rfl, rfl⟩ | ⟨front, rfl, rfl⟩
      · exact lasts
      · exact lasting middle later front rfl

/-- An event that neither starts nor ends it is of no importance to it. -/
theorem since_append_of_neither (unstarted : ¬ starts log event) (unended : ¬ ends log event) :
    Since starts ends (log ++ [event]) ↔ Since starts ends log := by
  rw [since_append_singleton]
  exact ⟨fun since => (since.resolve_left unstarted).1, fun since => Or.inr ⟨since, unended⟩⟩

end CModel
