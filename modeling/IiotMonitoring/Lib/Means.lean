import Mathlib.Algebra.Order.BigOperators.Group.List
import Mathlib.Algebra.Order.Field.Basic
import Mathlib.Data.List.Induction

/-!
# Means and mean squares

A mean lies between the numbers it is of, and the mean square between the largest square and its part
for one of the numbers.
-/

namespace IiotMonitoring

variable {K : Type} [Field K]

/-- The sum of the squares. -/
def squareSum (numbers : List K) : K := (numbers.map fun number => number * number).sum

theorem squareSum_concat (numbers : List K) (number : K) :
    squareSum (numbers ++ [number]) = squareSum numbers + number * number := by
  unfold squareSum
  rw [List.map_append, List.sum_append, List.map_singleton, List.sum_singleton]

theorem squareSum_perm {numbers numbers' : List K} (h : numbers.Perm numbers') :
    squareSum numbers = squareSum numbers' := (h.map _).sum_eq

variable [LinearOrder K]

/-- The largest absolute value. -/
def peakOf (numbers : List K) : K :=
  numbers.foldl (fun peak number => if peak < |number| then |number| else peak) 0

theorem peakOf_concat (numbers : List K) (number : K) :
    peakOf (numbers ++ [number]) =
      if peakOf numbers < |number| then |number| else peakOf numbers := List.foldl_concat ..

variable [IsStrictOrderedRing K] {numbers : List K}

theorem length_pos_cast (h : numbers ≠ []) : (0 : K) < numbers.length := by
  exact_mod_cast List.length_pos_iff.mpr h

theorem le_mean {low : K} (h : numbers ≠ []) (hlow : ∀ number ∈ numbers, low ≤ number) :
    low ≤ numbers.sum / numbers.length := by
  have hsum := List.card_nsmul_le_sum numbers low hlow
  rw [nsmul_eq_mul] at hsum
  rw [le_div_iff₀ (length_pos_cast h), mul_comm]
  exact hsum

theorem mean_le {high : K} (h : numbers ≠ []) (hhigh : ∀ number ∈ numbers, number ≤ high) :
    numbers.sum / numbers.length ≤ high := by
  have hsum := List.sum_le_card_nsmul numbers high hhigh
  rw [nsmul_eq_mul] at hsum
  rw [div_le_iff₀ (length_pos_cast h), mul_comm]
  exact hsum

theorem sum_const_mean (h : numbers ≠ []) :
    (numbers.map fun _ => numbers.sum / numbers.length).sum = numbers.sum := by
  rw [List.map_const', List.sum_replicate, nsmul_eq_mul, mul_div_cancel₀ _ (length_pos_cast h).ne']

/-- One of the numbers is not above their mean. -/
theorem exists_le_mean (h : numbers ≠ []) :
    ∃ number ∈ numbers, number ≤ numbers.sum / numbers.length := by
  apply List.exists_le_of_sum_le h id
  rw [sum_const_mean h, List.map_id]

/-- And one is not below it. -/
theorem exists_mean_le (h : numbers ≠ []) :
    ∃ number ∈ numbers, numbers.sum / numbers.length ≤ number := by
  apply List.exists_le_of_sum_le h _ id
  rw [sum_const_mean h, List.map_id]

/-! ### Squares -/

theorem peakOf_nonneg (numbers : List K) : 0 ≤ peakOf numbers := by
  induction numbers using List.reverseRecOn with
  | nil => exact le_rfl
  | append_singleton numbers number ih =>
      rw [peakOf_concat]
      split
      · exact abs_nonneg number
      · exact ih

omit [IsStrictOrderedRing K] in
theorem abs_le_peakOf {number : K} (h : number ∈ numbers) : |number| ≤ peakOf numbers := by
  induction numbers using List.reverseRecOn with
  | nil => cases h
  | append_singleton numbers last ih =>
      rw [peakOf_concat]
      rcases List.mem_append.mp h with hmem | hlast
      · split
        · rename_i hlarger
          exact (ih hmem).trans hlarger.le
        · exact ih hmem
      · rw [List.mem_singleton.mp hlast]
        split
        · exact le_rfl
        · rename_i hsmaller
          exact not_lt.mp hsmaller

/-- The peak is reached. -/
theorem exists_peakOf (h : numbers ≠ []) : ∃ number ∈ numbers, peakOf numbers = |number| := by
  induction numbers using List.reverseRecOn with
  | nil => exact absurd rfl h
  | append_singleton numbers last ih =>
      rw [peakOf_concat]
      split
      · exact ⟨last, List.mem_concat_self, rfl⟩
      · rename_i hsmaller
        by_cases hempty : numbers = []
        · subst hempty
          have hzero : |last| ≤ 0 := not_lt.mp hsmaller
          exact ⟨last, List.mem_concat_self, le_antisymm (abs_nonneg last) hzero⟩
        · obtain ⟨number, hmem, hpeak⟩ := ih hempty
          exact ⟨number, List.mem_append_left _ hmem, hpeak⟩

theorem squareSum_nonneg (numbers : List K) : 0 ≤ squareSum numbers := by
  apply List.sum_nonneg
  intro square hsquare
  obtain ⟨number, -, rfl⟩ := List.mem_map.mp hsquare
  exact mul_self_nonneg number

/-- The square of the peak is one of the squares. -/
theorem peakOf_sq_le (h : numbers ≠ []) : peakOf numbers * peakOf numbers ≤ squareSum numbers := by
  obtain ⟨number, hmem, hpeak⟩ := exists_peakOf h
  rw [hpeak, abs_mul_abs_self]
  apply List.single_le_sum _ _ (List.mem_map_of_mem hmem)
  intro square hsquare
  obtain ⟨other, -, rfl⟩ := List.mem_map.mp hsquare
  exact mul_self_nonneg other

/-- No square is larger. -/
theorem squareSum_le (numbers : List K) :
    squareSum numbers ≤ numbers.length * (peakOf numbers * peakOf numbers) := by
  have hsum := List.sum_le_card_nsmul (numbers.map fun number => number * number)
    (peakOf numbers * peakOf numbers) ?_
  · rwa [List.length_map, nsmul_eq_mul] at hsum
  · intro square hsquare
    obtain ⟨number, hmem, rfl⟩ := List.mem_map.mp hsquare
    rw [← abs_mul_abs_self number]
    exact mul_self_le_mul_self (abs_nonneg number) (abs_le_peakOf hmem)

/-! ### Order -/

theorem peakOf_mono {numbers' : List K} (h : numbers ⊆ numbers') : peakOf numbers ≤ peakOf numbers' := by
  by_cases hempty : numbers = []
  · rw [hempty]
    exact peakOf_nonneg numbers'
  · obtain ⟨number, hmem, hpeak⟩ := exists_peakOf hempty
    rw [hpeak]
    exact abs_le_peakOf (h hmem)

theorem peakOf_perm {numbers' : List K} (h : numbers.Perm numbers') : peakOf numbers = peakOf numbers' :=
  le_antisymm (peakOf_mono h.subset) (peakOf_mono h.symm.subset)

end IiotMonitoring
