import Mathlib.Data.List.Basic

/-!
# The first of each kind

Items are taken in order, and one of a kind that was taken before is dropped.
-/

namespace IiotMonitoring

variable {α : Type} (same : α → α → Bool)

/-- The items with one more, unless one of its kind is among them. -/
def addFirst (kept : List α) (item : α) : List α :=
  if kept.any fun other => same other item then kept else kept ++ [item]

def firsts (items : List α) : List α := items.foldl (addFirst same) []

variable {same} {kept items : List α}

theorem addFirst_kept {item : α} (h : kept.any (fun other => same other item) = true) :
    addFirst same kept item = kept := if_pos h

theorem addFirst_added {item : α} (h : kept.any (fun other => same other item) = false) :
    addFirst same kept item = kept ++ [item] := if_neg (ne_true_of_eq_false h)

theorem mem_of_mem_foldl {item : α} (h : item ∈ items.foldl (addFirst same) kept) :
    item ∈ kept ∨ item ∈ items := by
  induction items generalizing kept with
  | nil => exact .inl h
  | cons next items ih =>
      rcases ih h with hkept | hitems
      · cases hany : kept.any fun other => same other next with
        | true =>
            rw [addFirst_kept hany] at hkept
            exact .inl hkept
        | false =>
            rw [addFirst_added hany, List.mem_append, List.mem_singleton] at hkept
            rcases hkept with hkept | rfl
            · exact .inl hkept
            · exact .inr List.mem_cons_self
      · exact .inr (.tail _ hitems)

theorem mem_of_mem_firsts {item : α} (h : item ∈ firsts same items) : item ∈ items :=
  (mem_of_mem_foldl h).resolve_left List.not_mem_nil

theorem pairwise_addFirst {item : α} (h : kept.Pairwise fun left right => same left right = false) :
    (addFirst same kept item).Pairwise fun left right => same left right = false := by
  cases hany : kept.any fun other => same other item with
  | true => rwa [addFirst_kept hany]
  | false =>
      rw [addFirst_added hany, List.pairwise_append]
      refine ⟨h, List.pairwise_singleton _ item, ?_⟩
      intro other hother item' hitem'
      obtain rfl := List.mem_singleton.mp hitem'
      exact Bool.eq_false_iff.mpr (List.any_eq_false.mp hany other hother)

/-- A property of the kind is decided before or after. -/
theorem filter_foldl {property : α → Bool}
    (hkind : ∀ left right, same left right = true → property left = property right) :
    (items.foldl (addFirst same) kept).filter property =
      (items.filter property).foldl (addFirst same) (kept.filter property) := by
  induction items generalizing kept with
  | nil => rfl
  | cons item items ih =>
      rw [List.foldl_cons, ih]
      cases hitem : property item with
      | true =>
          have hany : (kept.filter property).any (fun other => same other item) =
              kept.any fun other => same other item := by
            rw [List.any_filter]
            congr 1
            funext other
            cases hsame : same other item with
            | true => rw [hkind other item hsame, hitem, Bool.true_and]
            | false => rw [Bool.and_false]
          rw [List.filter_cons_of_pos hitem, List.foldl_cons]
          congr 1
          cases hkept : kept.any fun other => same other item with
          | true => rw [addFirst_kept hkept, addFirst_kept (hany.trans hkept)]
          | false =>
              rw [addFirst_added hkept, addFirst_added (hany.trans hkept), List.filter_append,
                List.filter_cons_of_pos hitem, List.filter_nil]
      | false =>
          rw [List.filter_cons_of_neg (ne_true_of_eq_false hitem)]
          congr 1
          cases hkept : kept.any fun other => same other item with
          | true => rw [addFirst_kept hkept]
          | false =>
              rw [addFirst_added hkept, List.filter_append,
                List.filter_cons_of_neg (ne_true_of_eq_false hitem), List.filter_nil, List.append_nil]

theorem filter_firsts {property : α → Bool}
    (hkind : ∀ left right, same left right = true → property left = property right) :
    (firsts same items).filter property = firsts same (items.filter property) :=
  filter_foldl hkind

/-- Items of different kinds are all taken. -/
theorem firsts_of_pairwise (h : items.Pairwise fun left right => same left right = false) :
    firsts same items = items := by
  have hfold : ∀ kept : List α, (kept ++ items).Pairwise (fun left right => same left right = false) →
      items.foldl (addFirst same) kept = kept ++ items := by
    clear h
    induction items with
    | nil => exact fun kept _ => (List.append_nil kept).symm
    | cons item items ih =>
        intro kept hpairs
        have hnew : kept.any (fun other => same other item) = false := by
          rw [List.any_eq_false]
          intro other hother
          have hapart := (List.pairwise_append.mp hpairs).2.2 other hother item List.mem_cons_self
          exact ne_true_of_eq_false hapart
        rw [List.append_cons] at hpairs
        rw [List.foldl_cons, addFirst_added hnew, ih _ hpairs, List.append_assoc, List.singleton_append]
  exact hfold [] h

end IiotMonitoring
