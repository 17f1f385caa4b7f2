import Mathlib.Data.List.Basic

/-!
# Computations that raise

What a computation returns, and which errors it may raise, by its parts.
-/

namespace IiotMonitoring

variable {ε α β : Type}

/-! ### Results -/

theorem ok_bind (value : α) (next : α → Except ε β) :
    (Except.ok value : Except ε α) >>= next = next value := rfl

theorem error_bind (error : ε) (next : α → Except ε β) :
    (Except.error error : Except ε α) >>= next = .error error := rfl

theorem bind_eq_ok {attempt : Except ε α} {next : α → Except ε β} {result : β} :
    attempt >>= next = .ok result ↔ ∃ value, attempt = .ok value ∧ next value = .ok result := by
  cases attempt with
  | error error =>
      constructor
      · intro h
        cases h
      · rintro ⟨value, h, -⟩
        cases h
  | ok value =>
      constructor
      · exact fun h => ⟨value, rfl, h⟩
      · rintro ⟨value', h, hnext⟩
        cases h
        exact hnext

theorem mapM_ok {f : α → Except ε β} {g : α → β} {items : List α}
    (h : ∀ item ∈ items, f item = .ok (g item)) : items.mapM f = .ok (items.map g) := by
  induction items with
  | nil => rfl
  | cons item items ih =>
      rw [List.mapM_cons, h item List.mem_cons_self, ih fun item hitem => h item (.tail _ hitem)]
      rfl

/-- A loop that raises nowhere. -/
theorem mapM_succeeds {f : α → Except ε β} {items : List α}
    (h : ∀ item ∈ items, ∃ result, f item = .ok result) : ∃ results, items.mapM f = .ok results := by
  induction items with
  | nil => exact ⟨[], rfl⟩
  | cons item items ih =>
      obtain ⟨result, hresult⟩ := h item List.mem_cons_self
      obtain ⟨results, hresults⟩ := ih fun item hitem => h item (.tail _ hitem)
      refine ⟨result :: results, ?_⟩
      rw [List.mapM_cons, hresult, hresults]
      rfl

/-- What is made of the items that a loop returns. -/
theorem mapM_results {f : α → Except ε β} {items : List α} {results : List β}
    (h : items.mapM f = .ok results) :
    List.Forall₂ (fun item result => f item = .ok result) items results := by
  induction items generalizing results with
  | nil =>
      cases h
      exact .nil
  | cons item items ih =>
      rw [List.mapM_cons, bind_eq_ok] at h
      obtain ⟨result, hresult, hrest⟩ := h
      obtain ⟨results, hresults, hlast⟩ := bind_eq_ok.mp hrest
      cases hlast
      exact .cons hresult (ih hresults)

theorem mem_results_iff {f : α → Except ε β} {items : List α} {results : List β}
    (h : items.mapM f = .ok results) (result : β) :
    result ∈ results ↔ ∃ item ∈ items, f item = .ok result := by
  induction items generalizing results with
  | nil =>
      cases h
      simp
  | cons item items ih =>
      rw [List.mapM_cons, bind_eq_ok] at h
      obtain ⟨head, hhead, hrest⟩ := h
      obtain ⟨tail, htail, hlast⟩ := bind_eq_ok.mp hrest
      cases hlast
      rw [List.mem_cons, ih htail, List.exists_mem_cons_iff, hhead, Except.ok.injEq, eq_comm]

/-! ### Errors -/

/-- Only allowed errors are raised. -/
def Within (allowed : ε → Prop) (attempt : Except ε α) : Prop :=
  ∀ error, attempt = .error error → allowed error

variable {allowed : ε → Prop}

theorem within_ok (value : α) : Within allowed (Except.ok value : Except ε α) :=
  fun _ h => (by cases h)

theorem within_error {error : ε} :
    Within allowed (Except.error error : Except ε α) ↔ allowed error := by
  constructor
  · exact fun h => h error rfl
  · intro h error' hsame
    cases hsame
    exact h

theorem within_bind {attempt : Except ε α} {next : α → Except ε β} :
    Within allowed (attempt >>= next) ↔
      Within allowed attempt ∧ ∀ value, attempt = .ok value → Within allowed (next value) := by
  cases attempt with
  | error error =>
      rw [error_bind, within_error, within_error]
      constructor
      · exact fun h => ⟨h, fun _ hvalue => (by cases hvalue)⟩
      · exact And.left
  | ok value =>
      rw [ok_bind]
      constructor
      · intro h
        refine ⟨within_ok value, ?_⟩
        intro value' hvalue
        cases hvalue
        exact h
      · exact fun h => h.2 value rfl

/-- Where what follows raises allowed errors only. -/
theorem within_bind_within {attempt : Except ε α} {next : α → Except ε β}
    (h : ∀ value, Within allowed (next value)) :
    Within allowed (attempt >>= next) ↔ Within allowed attempt := by
  rw [within_bind]
  exact and_iff_left fun value _ => h value

theorem within_bind_pure {attempt : Except ε α} {f : α → β} :
    Within allowed (attempt >>= fun value => pure (f value)) ↔ Within allowed attempt :=
  within_bind_within fun value => within_ok (f value)

/-- Where the errors of what follows do not depend on the value. -/
theorem within_bind_const {attempt : Except ε α} {next : α → Except ε β} {rest : Prop}
    (h : ∀ value, Within allowed (next value) ↔ rest) :
    Within allowed (attempt >>= next) ↔
      Within allowed attempt ∧ ((∃ value, attempt = .ok value) → rest) := by
  rw [within_bind]
  apply and_congr_right
  intro _
  constructor
  · rintro hnext ⟨value, hvalue⟩
    exact (h value).mp (hnext value hvalue)
  · exact fun hrest value hvalue => (h value).mpr (hrest ⟨value, hvalue⟩)

theorem within_congr {allowed' : ε → Prop} (h : ∀ error, allowed error ↔ allowed' error)
    {attempt : Except ε α} : Within allowed attempt ↔ Within allowed' attempt :=
  forall₂_congr fun error _ => h error

/-! ### One after another -/

/-- Every item has the property, as far as the ones before it return. -/
def InTurn (returns property : α → Prop) : List α → Prop
  | [] => True
  | item :: items => property item ∧ (returns item → InTurn returns property items)

theorem InTurn.congr {returns returns' property property' : α → Prop}
    (hreturns : ∀ item, returns item ↔ returns' item)
    (hproperty : ∀ item, property item ↔ property' item) (items : List α) :
    InTurn returns property items ↔ InTurn returns' property' items := by
  induction items with
  | nil => exact Iff.rfl
  | cons item items ih =>
      rw [InTurn, InTurn]
      exact and_congr (hproperty item) (imp_congr (hreturns item) ih)

/-- A loop raises what its items raise in turn. -/
theorem within_mapM {f : α → Except ε β} {items : List α} :
    Within allowed (items.mapM f) ↔
      InTurn (fun item => ∃ result, f item = .ok result) (fun item => Within allowed (f item)) items := by
  induction items with
  | nil => exact ⟨fun _ => trivial, fun _ => within_ok []⟩
  | cons item items ih =>
      rw [List.mapM_cons, InTurn, ← ih]
      apply within_bind_const
      intro result
      exact within_bind_pure

end IiotMonitoring
