/-
This file is a library for what a program does in steps. A step leads from one
state to another and leaves events behind; several steps in a row leave their
events in order. A process that keeps a state and a log takes such steps when
its log grows by their events.
-/

import Mathlib.Data.List.Basic

namespace CModel

variable {State Event : Type}

/-! ### Steps in a row -/

/-- Some steps in a row, with the events they leave. -/
inductive Steps (step : State → List Event → State → Prop) :
    State → List Event → State → Prop where
  | none (state : State) : Steps step state [] state
  | more {first middle last : State} {events later : List Event}
      (steps : Steps step first events middle) (next : step middle later last) :
      Steps step first (events ++ later) last

namespace Steps

variable {step : State → List Event → State → Prop} {first middle last : State}
  {events later : List Event}

theorem single (next : step first events last) : Steps step first events last :=
  (none first).more next

theorem trans (steps : Steps step first events middle) (rest : Steps step middle later last) :
    Steps step first (events ++ later) last := by
  induction rest with
  | none =>
    rw [List.append_nil]
    exact steps
  | more _ next inductionHypothesis =>
    rw [← List.append_assoc]
    exact inductionHypothesis.more next

/-- What every step preserves, some steps in a row preserve. -/
theorem invariant (holds : State → Prop)
    (preserved : ∀ {first events last}, step first events last → holds first → holds last)
    (steps : Steps step first events last) (initial : holds first) : holds last := by
  induction steps with
  | none => exact initial
  | more _ next inductionHypothesis => exact preserved next inductionHypothesis

/-- Where a step from a state with the invariant leaves only certain events, so do some steps
in a row. -/
theorem events_of_invariant (holds : State → Prop) {allowed : Event → Prop}
    (preserved : ∀ {first events last}, step first events last → holds first → holds last)
    (allows : ∀ {first events last}, step first events last → holds first →
      ∀ event ∈ events, allowed event)
    (steps : Steps step first events last) (initial : holds first) :
    ∀ event ∈ events, allowed event := by
  induction steps with
  | none => exact fun event member => absurd member List.not_mem_nil
  | more steps next inductionHypothesis =>
    intro event member
    rcases List.mem_append.mp member with early | late
    · exact inductionHypothesis event early
    · exact allows next (steps.invariant holds preserved initial) event late

/-- What every step preserves of the state and the past, some steps in a row preserve. -/
theorem invariant_log (holds : State → List Event → Prop)
    (preserved : ∀ {first events last past}, step first events last → holds first past →
      holds last (past ++ events))
    {past : List Event} (steps : Steps step first events last) (initial : holds first past) :
    holds last (past ++ events) := by
  induction steps with
  | none =>
    rw [List.append_nil]
    exact initial
  | more _ next inductionHypothesis =>
    rw [← List.append_assoc]
    exact preserved next inductionHypothesis

/-- A relation that holds of every step, and of steps in a row when it holds of each. -/
theorem lift {related : State → List Event → State → Prop}
    (refl : ∀ state, related state [] state)
    (extend : ∀ {first events middle later last}, related first events middle →
      step middle later last → related first (events ++ later) last)
    (steps : Steps step first events last) : related first events last := by
  induction steps with
  | none => exact refl _
  | more _ next inductionHypothesis => exact extend inductionHypothesis next

end Steps

/-! ### Steps on record -/

/-- A step that was taken: its states before and after, and its events. -/
structure Visit (State Event : Type) where
  before : State
  events : List Event
  after : State

/-- A step that leaves itself as its event. -/
inductive Recorded (step : State → List Event → State → Prop) :
    State → List (Visit State Event) → State → Prop where
  | take {before after : State} {events : List Event} (next : step before events after) :
      Recorded step before [⟨before, events, after⟩] after

namespace Steps

variable {step : State → List Event → State → Prop} {first last : State} {events : List Event}

/-- All steps can be put on record. -/
theorem record (steps : Steps step first events last) :
    ∃ visits : List (Visit State Event), Steps (Recorded step) first visits last := by
  induction steps with
  | none => exact ⟨[], .none _⟩
  | more _ next inductionHypothesis =>
    obtain ⟨visits, recorded⟩ := inductionHypothesis
    exact ⟨_, recorded.more (.take next)⟩

/-- The last state of a run is that in which it starts, or is on record. -/
theorem last_visited {visits : List (Visit State Event)}
    (steps : Steps (Recorded step) first visits last) :
    last = first ∨ ∃ visit ∈ visits, visit.after = last := by
  cases steps with
  | none => exact Or.inl rfl
  | more _ next =>
    cases next with
    | take => exact Or.inr ⟨_, List.mem_append_right _ List.mem_cons_self, rfl⟩

/-- Where a step from a good state leads to a good one exactly when it is allowed, all states on
record are good exactly when all steps are allowed. The invariant has to hold only as long as the
states are good. -/
theorem good_iff_allowed {good : State → Prop} {allowed : State → List Event → Prop}
    (holds : State → Prop)
    (exact' : ∀ {first events last}, step first events last → holds first → good first →
      (good last ↔ allowed first events))
    (preserved : ∀ {first events last}, step first events last → holds first → good first →
      good last → holds last)
    {visits : List (Visit State Event)} (steps : Steps (Recorded step) first visits last)
    (initial : holds first) (start : good first) :
    (∀ visit ∈ visits, good visit.after) ↔
      ∀ visit ∈ visits, allowed visit.before visit.events := by
  have both : ((∀ visit ∈ visits, good visit.after) ↔
      ∀ visit ∈ visits, allowed visit.before visit.events) ∧
      ((∀ visit ∈ visits, good visit.after) → holds last ∧ good last) := by
    induction steps with
    | none => exact ⟨by simp, fun _ => ⟨initial, start⟩⟩
    | more steps next inductionHypothesis =>
      obtain ⟨same, reached⟩ := inductionHypothesis
      cases next with
      | take next =>
        simp only [List.forall_mem_append, List.forall_mem_singleton]
        refine ⟨⟨fun all => ?_, fun all => ?_⟩, fun all => ?_⟩
        · obtain ⟨held, good⟩ := reached all.1
          exact ⟨same.mp all.1, (exact' next held good).mp all.2⟩
        · obtain ⟨held, good⟩ := reached (same.mpr all.1)
          exact ⟨same.mpr all.1, (exact' next held good).mpr all.2⟩
        · obtain ⟨held, good⟩ := reached all.1
          exact ⟨preserved next held good all.2, all.2⟩
  exact both.1

end Steps

/-- There are steps on record between two states, all of them allowed. -/
def AllowedSteps (step : State → List Event → State → Prop) (allowed : State → List Event → Prop)
    (first last : State) : Prop :=
  ∃ visits, Steps (Recorded step) first visits last ∧
    ∀ visit ∈ visits, allowed visit.before visit.events

namespace AllowedSteps

variable {step : State → List Event → State → Prop} {allowed : State → List Event → Prop}
  {first middle last : State} {events : List Event}

theorem none (state : State) : AllowedSteps step allowed state state :=
  ⟨[], .none state, fun _ member => absurd member List.not_mem_nil⟩

theorem more (before : AllowedSteps step allowed first middle) (next : step middle events last)
    (now : allowed middle events) : AllowedSteps step allowed first last := by
  obtain ⟨visits, steps, allows⟩ := before
  refine ⟨_, steps.more (.take next), fun visit member => ?_⟩
  rcases List.mem_append.mp member with early | late
  · exact allows visit early
  · rw [List.mem_singleton.mp late]
    exact now

theorem of_steps {narrow : State → List Event → State → Prop}
    (is : ∀ {before events after}, narrow before events after →
      step before events after ∧ allowed before events)
    (steps : Steps narrow first events last) : AllowedSteps step allowed first last := by
  induction steps with
  | none => exact .none _
  | more _ next inductionHypothesis => exact inductionHypothesis.more (is next).1 (is next).2

end AllowedSteps

/-! ### Processes that keep a log -/

section Log

variable {Process : Type} {view : Process → State} {log : Process → List Event}
  {step : State → List Event → State → Prop}

/-- A process goes from `before` to `after` in steps whose events its log gains. -/
def Takes (view : Process → State) (log : Process → List Event)
    (step : State → List Event → State → Prop) (before after : Process) : Prop :=
  ∃ events, log after = log before ++ events ∧ Steps step (view before) events (view after)

theorem Takes.refl (process : Process) : Takes view log step process process :=
  ⟨[], (List.append_nil _).symm, .none _⟩

theorem Takes.trans {before middle after : Process} (first : Takes view log step before middle)
    (second : Takes view log step middle after) : Takes view log step before after := by
  obtain ⟨events, logged, steps⟩ := first
  obtain ⟨later, loggedLater, rest⟩ := second
  refine ⟨events ++ later, ?_, steps.trans rest⟩
  rw [loggedLater, logged, List.append_assoc]

/-- A change of the process that neither its state nor its log shows. -/
theorem Takes.idle {before after : Process} (same : view after = view before)
    (logged : log after = log before) : Takes view log step before after := by
  refine ⟨[], ?_, ?_⟩
  · rw [logged, List.append_nil]
  · rw [same]
    exact .none _

theorem Takes.single {before after : Process} {events : List Event}
    (logged : log after = log before ++ events) (next : step (view before) events (view after)) :
    Takes view log step before after :=
  ⟨events, logged, .single next⟩

/-- What every step preserves, a process that takes steps preserves. -/
theorem Takes.invariant (holds : State → Prop) {before after : Process}
    (preserved : ∀ {first events last}, step first events last → holds first → holds last)
    (takes : Takes view log step before after) (initial : holds (view before)) :
    holds (view after) := by
  obtain ⟨_, _, steps⟩ := takes
  exact steps.invariant holds preserved initial

/-- What every step preserves of the state and the log, a process that takes steps preserves. -/
theorem Takes.invariant_log (holds : State → List Event → Prop) {before after : Process}
    (preserved : ∀ {first events last past}, step first events last → holds first past →
      holds last (past ++ events))
    (takes : Takes view log step before after) (initial : holds (view before) (log before)) :
    holds (view after) (log after) := by
  obtain ⟨events, logged, steps⟩ := takes
  rw [logged]
  exact steps.invariant_log holds preserved initial

/-- A loop whose body takes steps on every item takes steps, under an assumption that steps
preserve. -/
theorem Takes.foldl_of_mem {Item : Type} {body : Process → Item → Process} (holds : State → Prop)
    (preserved : ∀ {first events last}, step first events last → holds first → holds last)
    (items : List Item) (takes : ∀ process, ∀ item ∈ items, holds (view process) →
      Takes view log step process (body process item))
    (process : Process) (initial : holds (view process)) :
    Takes view log step process (items.foldl body process) := by
  induction items generalizing process with
  | nil => exact .refl process
  | cons item rest inductionHypothesis =>
    have head := takes process item List.mem_cons_self initial
    exact head.trans (inductionHypothesis
      (fun process other member => takes process other (List.mem_cons_of_mem _ member)) _
      (head.invariant holds preserved initial))

theorem Takes.foldl {Item : Type} {body : Process → Item → Process} (holds : State → Prop)
    (preserved : ∀ {first events last}, step first events last → holds first → holds last)
    (takes : ∀ process item, holds (view process) →
      Takes view log step process (body process item))
    (items : List Item) (process : Process) (initial : holds (view process)) :
    Takes view log step process (items.foldl body process) :=
  Takes.foldl_of_mem holds preserved items (fun process item _ => takes process item) process
    initial

/-- A loop that keeps an invariant of the process takes steps when its body does under it. -/
theorem Takes.foldl_of_invariant_mem {Item : Type} {body : Process → Item → Process}
    (holds : Process → Prop) (kept : ∀ process item, holds process → holds (body process item))
    (items : List Item) (takes : ∀ process, ∀ item ∈ items, holds process →
      Takes view log step process (body process item))
    (process : Process) (initial : holds process) :
    Takes view log step process (items.foldl body process) := by
  induction items generalizing process with
  | nil => exact .refl process
  | cons item rest inductionHypothesis =>
    have head := takes process item List.mem_cons_self initial
    exact head.trans (inductionHypothesis
      (fun process other member => takes process other (List.mem_cons_of_mem _ member)) _
      (kept process item initial))

theorem Takes.foldl_of_invariant {Item : Type} {body : Process → Item → Process}
    (holds : Process → Prop) (kept : ∀ process item, holds process → holds (body process item))
    (takes : ∀ process item, holds process → Takes view log step process (body process item))
    (items : List Item) (process : Process) (initial : holds process) :
    Takes view log step process (items.foldl body process) :=
  Takes.foldl_of_invariant_mem holds kept items (fun process item _ => takes process item) process
    initial

end Log

end CModel
