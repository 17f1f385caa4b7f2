import Mathlib.Algebra.Order.Floor.Div
import Mathlib.Data.List.FinRange

/-!
# Thinning a list

Every so many places of a list and its last one, of which at most a number is kept, counted from the
end.
-/

namespace IiotMonitoring

/-- The places that are picked: the multiples of the stride, and the last. -/
def pickedPlaces (length stride : Nat) : List (Fin length) :=
  (List.finRange length).filter fun place =>
    place.val % stride = 0 || place.val = length - 1

/-- The picked places that are kept. -/
def thinnedPlaces (length stride limit : Nat) : List (Fin length) :=
  (pickedPlaces length stride).drop ((pickedPlaces length stride).length - limit)

/-- A filter by places is a choice of places. -/
theorem filter_zipIdx {α : Type} (items : List α) (picks : Nat → Bool) :
    (items.zipIdx.filter fun item => picks item.2).map Prod.fst =
      ((List.finRange items.length).filter fun place : Fin items.length =>
        picks place.val).map items.get := by
  have hplaces : items.zipIdx =
      (List.finRange items.length).map fun place => (items.get place, place.val) := by
    apply List.ext_getElem
    · simp
    · intro index hleft hright
      simp
  rw [hplaces, List.filter_map, List.map_map]
  rfl

section Places

variable {length stride limit : Nat}

theorem mem_pickedPlaces {place : Fin length} :
    place ∈ pickedPlaces length stride ↔ place.val % stride = 0 ∨ place.val = length - 1 := by
  simp [pickedPlaces]

theorem pairwise_pickedPlaces : (pickedPlaces length stride).Pairwise (· < ·) :=
  (List.pairwise_lt_finRange length).filter _

theorem pairwise_thinnedPlaces : (thinnedPlaces length stride limit).Pairwise (· < ·) :=
  pairwise_pickedPlaces.drop

theorem length_thinnedPlaces_le : (thinnedPlaces length stride limit).length ≤ limit := by
  unfold thinnedPlaces
  rw [List.length_drop]
  omega

/-- The last place is picked, and kept. -/
theorem getLast?_thinnedPlaces (hlimit : 1 ≤ limit) (hlength : 0 < length) :
    (thinnedPlaces length stride limit).getLast? = some ⟨length - 1, by omega⟩ := by
  have hpicked : (pickedPlaces length stride).getLast? = some ⟨length - 1, by omega⟩ := by
    obtain ⟨before, rfl⟩ : ∃ before, length = before + 1 := ⟨length - 1, by omega⟩
    unfold pickedPlaces
    rw [List.finRange_succ_last, List.filter_append, List.filter_cons_of_pos (by simp),
      List.filter_nil, List.getLast?_concat]
    rfl
  have hnonempty : (pickedPlaces length stride).length ≠ 0 := by
    intro hempty
    rw [List.length_eq_zero_iff] at hempty
    rw [hempty] at hpicked
    cases hpicked
  unfold thinnedPlaces
  rw [List.getLast?_drop, if_neg (by omega), hpicked]

/-- Nothing is left out of a list within the limit that is taken place by place. -/
theorem thinnedPlaces_all (hlength : length ≤ limit) :
    thinnedPlaces length 1 limit = List.finRange length := by
  have hpicked : pickedPlaces length 1 = List.finRange length := by
    unfold pickedPlaces
    apply List.filter_eq_self.mpr
    intro place _
    simp [Nat.mod_one]
  unfold thinnedPlaces
  rw [hpicked, List.length_finRange, Nat.sub_eq_zero_of_le hlength, List.drop_zero]

/-- Nothing that is picked lies between two neighbours. -/
theorem neighbours_apart {places before after : List (Fin length)} {left right place : Fin length}
    (hsorted : places.Pairwise (· < ·)) (hsplit : places = before ++ left :: right :: after)
    (hplace : place ∈ places) : place ≤ left ∨ right ≤ place := by
  subst hsplit
  obtain ⟨-, hrest, hbefore⟩ := List.pairwise_append.mp hsorted
  rcases List.mem_append.mp hplace with hmem | hmem
  · exact .inl (hbefore place hmem left List.mem_cons_self).le
  · rcases List.mem_cons.mp hmem with rfl | hmem
    · exact .inl le_rfl
    · rcases List.mem_cons.mp hmem with rfl | hmem
      · exact .inr le_rfl
      · exact .inr ((List.pairwise_cons.mp (List.pairwise_cons.mp hrest).2).1 place hmem).le

/-- Neighbours are at most a stride apart. -/
theorem thinnedPlaces_gap (hstride : 0 < stride) {before after : List (Fin length)}
    {left right : Fin length}
    (hsplit : thinnedPlaces length stride limit = before ++ left :: right :: after) :
    right.val ≤ left.val + stride := by
  have hpicked : pickedPlaces length stride =
      (pickedPlaces length stride).take ((pickedPlaces length stride).length - limit) ++ before ++
        left :: right :: after := by
    rw [List.append_assoc, ← hsplit]
    exact (List.take_append_drop _ _).symm
  have hleft : left ∈ pickedPlaces length stride := by
    rw [hpicked]
    simp
  have hless : left < right := by
    have hsorted : (thinnedPlaces length stride limit).Pairwise (· < ·) := pairwise_thinnedPlaces
    rw [hsplit] at hsorted
    exact (List.pairwise_cons.mp (List.pairwise_append.mp hsorted).2.1).1 right List.mem_cons_self
  have hmultiple : left.val % stride = 0 := by
    rcases mem_pickedPlaces.mp hleft with h | h
    · exact h
    · have hlast := right.isLt
      have hvalue := Fin.lt_def.mp hless
      omega
  by_contra hfar
  have hright := right.isLt
  have hnext : (⟨left.val + stride, by omega⟩ : Fin length) ∈ pickedPlaces length stride :=
    mem_pickedPlaces.mpr (.inl (by rw [Nat.add_mod_right]; exact hmultiple))
  rcases neighbours_apart pairwise_pickedPlaces hpicked hnext with h | h
  · have hle := Fin.le_def.mp h
    dsimp only at hle
    omega
  · have hle := Fin.le_def.mp h
    dsimp only at hle
    omega

end Places

end IiotMonitoring
