import Mathlib.Data.List.Sort

/-!
# The ends of a sorted list

What comes first or last when items are sorted is the least or the greatest of them. Items that an order
does not tell apart have to be one item.
-/

namespace IiotMonitoring

variable {α : Type} {le : α → α → Bool} {items : List α} {item : α}

/-- An order by which items can be sorted, which tells those of a list apart. -/
structure SortsApart (le : α → α → Bool) (items : List α) : Prop where
  trans : ∀ a b c, le a b = true → le b c = true → le a c = true
  total : ∀ a b, (le a b || le b a) = true
  apart : ∀ a ∈ items, ∀ b ∈ items, le a b = true → le b a = true → a = b

theorem SortsApart.refl (h : SortsApart le items) (item : α) : le item item = true := by
  have hboth := h.total item item
  rwa [Bool.or_self] at hboth

theorem SortsApart.pairwise (h : SortsApart le items) :
    (items.mergeSort le).Pairwise fun left right => le left right = true :=
  List.pairwise_mergeSort h.trans h.total items

/-- The first item is the least. -/
theorem SortsApart.head?_eq_some_iff (h : SortsApart le items) :
    (items.mergeSort le).head? = some item ↔ item ∈ items ∧ ∀ other ∈ items, le item other = true := by
  have hsorted := h.pairwise
  have hmem : ∀ other, other ∈ items.mergeSort le ↔ other ∈ items := fun _ => List.mem_mergeSort
  generalize items.mergeSort le = sorted at hsorted hmem ⊢
  cases sorted with
  | nil =>
      constructor
      · intro hnone
        cases hnone
      · rintro ⟨hitem, -⟩
        cases (hmem item).mpr hitem
  | cons first rest =>
      have hfirst : ∀ other ∈ items, le first other = true := by
        intro other hother
        rcases List.mem_cons.mp ((hmem other).mpr hother) with rfl | hrest
        · exact h.refl other
        · exact (List.pairwise_cons.mp hsorted).1 other hrest
      have hfirst_mem := (hmem first).mp List.mem_cons_self
      constructor
      · intro hsame
        obtain rfl := Option.some.inj hsame
        exact ⟨hfirst_mem, hfirst⟩
      · rintro ⟨hitem, hleast⟩
        exact congrArg some
          (h.apart first hfirst_mem item hitem (hfirst item hitem) (hleast first hfirst_mem))

/-- The last item is the greatest. -/
theorem SortsApart.getLast?_eq_some_iff (h : SortsApart le items) :
    (items.mergeSort le).getLast? = some item ↔
      item ∈ items ∧ ∀ other ∈ items, le other item = true := by
  have hsorted := h.pairwise
  have hmem : ∀ other, other ∈ items.mergeSort le ↔ other ∈ items := fun _ => List.mem_mergeSort
  generalize items.mergeSort le = sorted at hsorted hmem ⊢
  cases hlast : sorted.getLast? with
  | none =>
      rw [List.getLast?_eq_none_iff] at hlast
      constructor
      · intro hnone
        cases hnone
      · rintro ⟨hitem, -⟩
        rw [← hmem, hlast] at hitem
        cases hitem
  | some last =>
      obtain ⟨rest, rfl⟩ := List.getLast?_eq_some_iff.mp hlast
      have hgreatest : ∀ other ∈ items, le other last = true := by
        intro other hother
        rcases List.mem_append.mp ((hmem other).mpr hother) with hrest | hsame
        · exact (List.pairwise_append.mp hsorted).2.2 other hrest last (List.mem_singleton_self last)
        · rw [List.mem_singleton.mp hsame]
          exact h.refl last
      have hlast_mem := (hmem last).mp (List.mem_append_right _ (List.mem_singleton_self last))
      constructor
      · intro hsame
        obtain rfl := Option.some.inj hsame
        exact ⟨hlast_mem, hgreatest⟩
      · rintro ⟨hitem, habove⟩
        exact congrArg some
          (h.apart last hlast_mem item hitem (habove last hlast_mem) (hgreatest item hitem))

end IiotMonitoring
