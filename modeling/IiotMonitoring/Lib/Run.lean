import Mathlib.Data.List.Infix

/-!
# Runs of a labelled system

Two kinds of system are run here: one whose step is a function of state and label (`exec`), and one
whose step is a relation (`Trail`). For both, an invariant of one step is an invariant of every run,
and the step may be assumed to meet a guard where the run's every step does.
-/

namespace IiotMonitoring

section Functional

variable {σ ℓ : Type} (step : σ → ℓ → σ)

/-- The state a run ends in. -/
def exec (state : σ) (labels : List ℓ) : σ := labels.foldl step state

@[simp]
theorem exec_nil (state : σ) : exec step state [] = state := rfl

@[simp]
theorem exec_cons (state : σ) (label : ℓ) (labels : List ℓ) :
    exec step state (label :: labels) = exec step (step state label) labels := rfl

theorem exec_append (state : σ) (left right : List ℓ) :
    exec step state (left ++ right) = exec step (exec step state left) right :=
  List.foldl_append

/-- Every step of the run is taken where the guard holds. -/
def StepsMeet (guard : σ → ℓ → Prop) : σ → List ℓ → Prop
  | _, [] => True
  | state, label :: labels => guard state label ∧ StepsMeet guard (step state label) labels

/-- Every state of the run, its first and last included, has the property. -/
def StatesMeet (property : σ → Prop) : σ → List ℓ → Prop
  | state, [] => property state
  | state, label :: labels => property state ∧ StatesMeet property (step state label) labels

variable {step}

/-- What relates every two states of a step relates the ends of a run. -/
theorem exec_related (relation : σ → σ → Prop) (hrefl : ∀ state, relation state state)
    (htrans : ∀ first second third, relation first second → relation second third →
      relation first third)
    {labels : List ℓ} (hstep : ∀ state, ∀ label ∈ labels, relation state (step state label))
    (state : σ) : relation state (exec step state labels) := by
  induction labels generalizing state with
  | nil => exact hrefl state
  | cons label labels ih =>
      apply htrans state (step state label)
      · exact hstep state label (List.mem_cons_self ..)
      · exact ih (fun state label hlabel => hstep state label (List.mem_cons_of_mem _ hlabel)) _

theorem StatesMeet.head {property : σ → Prop} {state : σ} {labels : List ℓ}
    (h : StatesMeet step property state labels) : property state := by
  cases labels with
  | nil => exact h
  | cons label labels => exact h.1

theorem StatesMeet.last {property : σ → Prop} {state : σ} {labels : List ℓ}
    (h : StatesMeet step property state labels) : property (exec step state labels) := by
  induction labels generalizing state with
  | nil => exact h
  | cons label labels ih => exact ih h.2

theorem StatesMeet.mono {property property' : σ → Prop}
    (hmono : ∀ state, property state → property' state) {state : σ} {labels : List ℓ}
    (h : StatesMeet step property state labels) : StatesMeet step property' state labels := by
  induction labels generalizing state with
  | nil => exact hmono state h
  | cons label labels ih => exact ⟨hmono state h.1, ih h.2⟩

theorem stepsMeet_append {guard : σ → ℓ → Prop} (state : σ) (left right : List ℓ) :
    StepsMeet step guard state (left ++ right) ↔
      StepsMeet step guard state left ∧ StepsMeet step guard (exec step state left) right := by
  induction left generalizing state with
  | nil => simp [StepsMeet]
  | cons label left ih => simp [StepsMeet, ih, and_assoc]

theorem stepsMeet_of_forall {guard : σ → ℓ → Prop} (hguard : ∀ state label, guard state label)
    (state : σ) (labels : List ℓ) : StepsMeet step guard state labels := by
  induction labels generalizing state with
  | nil => trivial
  | cons label labels ih => exact ⟨hguard state label, ih (step state label)⟩

theorem StepsMeet.mono {guard guard' : σ → ℓ → Prop}
    (hmono : ∀ state label, guard state label → guard' state label) {state : σ}
    {labels : List ℓ} (h : StepsMeet step guard state labels) :
    StepsMeet step guard' state labels := by
  induction labels generalizing state with
  | nil => trivial
  | cons label labels ih => exact ⟨hmono _ _ h.1, ih h.2⟩

/-- **Guarded invariants.** What every guarded step preserves holds in every state of a run whose
steps meet the guard. -/
theorem statesMeet_of_guarded {invariant : σ → Prop} {guard : σ → ℓ → Prop}
    (hstep : ∀ state label, invariant state → guard state label → invariant (step state label))
    {state : σ} (hinit : invariant state) {labels : List ℓ}
    (hguard : StepsMeet step guard state labels) : StatesMeet step invariant state labels := by
  induction labels generalizing state with
  | nil => exact hinit
  | cons label labels ih =>
      exact ⟨hinit, ih (hstep state label hinit hguard.1) hguard.2⟩

/-- An invariant of every step holds in every state of every run. -/
theorem statesMeet_of_invariant {invariant : σ → Prop}
    (hstep : ∀ state label, invariant state → invariant (step state label)) {state : σ}
    (hinit : invariant state) (labels : List ℓ) : StatesMeet step invariant state labels := by
  induction labels generalizing state with
  | nil => exact hinit
  | cons label labels ih => exact ⟨hinit, ih (hstep state label hinit)⟩

/-- What an invariant and a guard give at each step holds at every step of a guarded run. -/
theorem stepsMeet_of_guarded {invariant : σ → Prop} {guard property : σ → ℓ → Prop}
    (hstep : ∀ state label, invariant state → guard state label → invariant (step state label))
    (hproperty : ∀ state label, invariant state → guard state label → property state label)
    {state : σ} (hinit : invariant state) {labels : List ℓ}
    (hguard : StepsMeet step guard state labels) : StepsMeet step property state labels := by
  induction labels generalizing state with
  | nil => trivial
  | cons label labels ih =>
      exact ⟨hproperty state label hinit hguard.1, ih (hstep state label hinit hguard.1) hguard.2⟩

/-- Where a step meets its guard exactly when it leads to a good state, and the invariant always
holds, a run's states are good exactly when its steps meet the guard. -/
theorem statesMeet_iff_stepsMeet {invariant property : σ → Prop} {guard : σ → ℓ → Prop}
    (hinv : ∀ state label, invariant state → invariant (step state label))
    (hguard : ∀ state label, invariant state → property state →
      (guard state label ↔ property (step state label)))
    {state : σ} (hinit : invariant state) (hgood : property state) (labels : List ℓ) :
    StatesMeet step property state labels ↔ StepsMeet step guard state labels := by
  induction labels generalizing state with
  | nil => exact ⟨fun _ => trivial, fun _ => hgood⟩
  | cons label labels ih =>
      constructor
      · rintro ⟨-, hrest⟩
        have hnext := hrest.head
        exact ⟨(hguard state label hinit hgood).mpr hnext,
          (ih (hinv state label hinit) hnext).mp hrest⟩
      · rintro ⟨hmeets, hrest⟩
        have hnext := (hguard state label hinit hgood).mp hmeets
        exact ⟨hgood, (ih (hinv state label hinit) hnext).mpr hrest⟩

end Functional

section Relational

variable {σ ℓ : Type} (step : σ → ℓ → σ → Prop)

/-- A run of a system whose step is a relation, with the labels of its steps in order. -/
inductive Trail (start : σ) : List ℓ → σ → Prop where
  | start : Trail start [] start
  | step {labels : List ℓ} {label : ℓ} {state state' : σ} (hrun : Trail start labels state)
      (hstep : step state label state') : Trail start (labels ++ [label]) state'

variable {step}

/-- An invariant of the labels so far and the state, kept by every step, holds of every run. -/
theorem Trail.invariant {start : σ} (property : List ℓ → σ → Prop) (hstart : property [] start)
    (hstep : ∀ labels state label state', property labels state → step state label state' →
      property (labels ++ [label]) state')
    {labels : List ℓ} {state : σ} (hrun : Trail step start labels state) :
    property labels state := by
  induction hrun with
  | start => exact hstart
  | step _ hlast ih => exact hstep _ _ _ _ ih hlast

/-- A run of a system is one of any system with more steps. -/
theorem Trail.mono {step' : σ → ℓ → σ → Prop}
    (hmono : ∀ state label state', step state label state' → step' state label state') {start : σ}
    {labels : List ℓ} {state : σ} (hrun : Trail step start labels state) :
    Trail step' start labels state := by
  induction hrun with
  | start => exact .start
  | step _ hlast ih => exact .step ih (hmono _ _ _ hlast)

theorem Trail.last_step {start : σ} {labels : List ℓ} {label : ℓ} {state : σ}
    (hrun : Trail step start (labels ++ [label]) state) :
    ∃ before, Trail step start labels before ∧ step before label state := by
  generalize hall : labels ++ [label] = all at hrun
  cases hrun with
  | start => simp at hall
  | step hbefore hstep =>
      obtain ⟨rfl, hlabel⟩ := List.append_inj' hall rfl
      obtain rfl := List.singleton_inj.mp hlabel
      exact ⟨_, hbefore, hstep⟩

end Relational

end IiotMonitoring
