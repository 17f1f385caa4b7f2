import Mathlib.Data.List.Infix

/-!
# Lines taken into a bounded buffer

Items arrive one by one, and those that are kept go to a buffer of a fixed capacity. An item that
arrives at a full buffer empties it, whatever item it is. A line that does not fit is therefore not
dropped as a whole: what follows the emptied buffer is taken for a line of its own.
-/

namespace IiotMonitoring

section LineBuffer

variable {α : Type} (keeps : α → Bool) (capacity : Nat)

/-- The buffer after one more item of a line. -/
def bufferStep (buffer : List α) (item : α) : List α :=
  if keeps item ∧ buffer.length < capacity then buffer ++ [item]
  else if capacity ≤ buffer.length then []
  else buffer

/-- The buffer at the end of a line. -/
def bufferOf (line : List α) : List α := line.foldl (bufferStep keeps capacity) []

/-- What the buffer makes of a line: a nonempty text, or nothing. -/
def heldLine (line : List α) : Option (List α) :=
  if bufferOf keeps capacity line = [] then none else some (bufferOf keeps capacity line)

/-- The text of a line that is neither empty nor too long. -/
def wholeLine (line : List α) : Option (List α) :=
  if line.filter keeps = [] ∨ capacity < (line.filter keeps).length then none
  else some (line.filter keeps)

/-- The items of a line up to the one that empties the buffer. -/
def Overflows (block : List α) : Prop :=
  ∃ front last extra, block = front ++ [last, extra] ∧ keeps last = true ∧
    (front.filter keeps).length + 1 = capacity

/-- The line is a run of overflows, with nothing after them that is kept. -/
inductive Discarded : List α → Prop where
  | quiet {line : List α} (hquiet : ∀ item ∈ line, keeps item = false) : Discarded line
  | overflow {block line : List α} (hblock : Overflows keeps capacity block)
      (hrest : Discarded line) : Discarded (block ++ line)

/-- The buffer is not full before the last item of the line, or the line is too long and all of it is
discarded. -/
def LineSafe (line : List α) : Prop :=
  (line.filter keeps).length < capacity ∨
    (line.filter keeps).length = capacity ∧ (∃ front last, line = front ++ [last] ∧ keeps last = true) ∨
    capacity < (line.filter keeps).length ∧ Discarded keeps capacity line

variable {keeps capacity}

theorem foldl_bufferStep {buffer line : List α}
    (h : buffer.length + (line.filter keeps).length < capacity) :
    line.foldl (bufferStep keeps capacity) buffer = buffer ++ line.filter keeps := by
  induction line generalizing buffer with
  | nil => simp
  | cons item line ih =>
      rw [List.foldl_cons]
      cases hkeeps : keeps item with
      | false =>
          have hstep : bufferStep keeps capacity buffer item = buffer := by
            rw [bufferStep, if_neg (by simp [hkeeps]), if_neg (by omega)]
          rw [List.filter_cons_of_neg (by simp [hkeeps])] at h ⊢
          rw [hstep, ih h]
      | true =>
          rw [List.filter_cons_of_pos hkeeps, List.length_cons] at h
          have hstep : bufferStep keeps capacity buffer item = buffer ++ [item] :=
            if_pos ⟨hkeeps, by omega⟩
          rw [hstep, ih (by rw [List.length_append, List.length_singleton]; omega),
            List.filter_cons_of_pos hkeeps, List.append_assoc]
          rfl

theorem bufferOf_short {line : List α} (h : (line.filter keeps).length < capacity) :
    bufferOf keeps capacity line = line.filter keeps :=
  foldl_bufferStep (by rwa [List.length_nil, Nat.zero_add])

/-- The kept item that fills the buffer. -/
theorem bufferOf_full {front : List α} {last : α}
    (hlast : keeps last = true) (hfront : (front.filter keeps).length + 1 = capacity) :
    bufferOf keeps capacity (front ++ [last]) = (front ++ [last]).filter keeps := by
  rw [bufferOf, List.foldl_append, List.foldl_cons, List.foldl_nil]
  change bufferStep keeps capacity (bufferOf keeps capacity front) last = _
  rw [bufferOf_short (by omega), bufferStep, if_pos ⟨hlast, by omega⟩, List.filter_append,
    List.filter_cons_of_pos hlast, List.filter_nil]

/-- After an overflow the buffer starts anew. -/
theorem bufferOf_overflow {block line : List α} (h : Overflows keeps capacity block) :
    bufferOf keeps capacity (block ++ line) = bufferOf keeps capacity line := by
  obtain ⟨front, last, extra, rfl, hlast, hfront⟩ := h
  have hfull := bufferOf_full hlast hfront
  have hlength : (bufferOf keeps capacity (front ++ [last])).length = capacity := by
    rw [hfull, List.filter_append, List.filter_cons_of_pos hlast, List.filter_nil, List.length_append,
      List.length_singleton, hfront]
  have hempty : bufferStep keeps capacity (bufferOf keeps capacity (front ++ [last])) extra = [] := by
    rw [bufferStep, if_neg fun h => by omega, if_pos hlength.ge]
  calc bufferOf keeps capacity (front ++ [last, extra] ++ line) =
        line.foldl (bufferStep keeps capacity)
          (bufferStep keeps capacity (bufferOf keeps capacity (front ++ [last])) extra) := by
        simp [bufferOf]
    _ = bufferOf keeps capacity line := by rw [hempty, bufferOf]

/-- A line with enough kept items has one that fills the buffer. -/
theorem exists_filling (hcapacity : 0 < capacity) {line : List α}
    (h : capacity ≤ (line.filter keeps).length) :
    ∃ front last rest, line = front ++ last :: rest ∧ keeps last = true ∧
      (front.filter keeps).length + 1 = capacity := by
  induction line generalizing capacity with
  | nil => exact absurd h (by simp; omega)
  | cons item line ih =>
      cases hkeeps : keeps item with
      | false =>
          rw [List.filter_cons_of_neg (by simp [hkeeps])] at h
          obtain ⟨front, last, rest, rfl, hlast, hfront⟩ := ih hcapacity h
          refine ⟨item :: front, last, rest, rfl, hlast, ?_⟩
          rwa [List.filter_cons_of_neg (by simp [hkeeps])]
      | true =>
          rw [List.filter_cons_of_pos hkeeps, List.length_cons] at h
          rcases Nat.eq_or_lt_of_le (Nat.succ_le_of_lt hcapacity) with hone | hmore
          · exact ⟨[], item, line, rfl, hkeeps, hone⟩
          · obtain ⟨front, last, rest, rfl, hlast, hfront⟩ :=
              ih (show 0 < capacity - 1 by omega) (by omega)
            refine ⟨item :: front, last, rest, rfl, hlast, ?_⟩
            rw [List.filter_cons_of_pos hkeeps, List.length_cons]
            omega

theorem bufferOf_eq_nil_iff (hcapacity : 0 < capacity) (line : List α) :
    bufferOf keeps capacity line = [] ↔ Discarded keeps capacity line := by
  constructor
  · intro hempty
    induction hlength : line.length using Nat.strong_induction_on generalizing line with
    | _ length ih =>
        rcases Nat.lt_or_ge (line.filter keeps).length capacity with hshort | hlong
        · rw [bufferOf_short hshort, List.filter_eq_nil_iff] at hempty
          exact .quiet fun item hitem => by simpa using hempty item hitem
        · obtain ⟨front, last, rest, rfl, hlast, hfront⟩ := exists_filling hcapacity hlong
          cases rest with
          | nil =>
              rw [bufferOf_full hlast hfront, List.filter_append, List.filter_cons_of_pos hlast] at hempty
              exact absurd hempty (by simp)
          | cons extra rest =>
              have hblock : Overflows keeps capacity (front ++ [last, extra]) :=
                ⟨front, last, extra, rfl, hlast, hfront⟩
              have hsplit : front ++ last :: extra :: rest = (front ++ [last, extra]) ++ rest := by simp
              rw [hsplit] at hempty hlength ⊢
              rw [bufferOf_overflow hblock] at hempty
              apply Discarded.overflow hblock
              apply ih rest.length ?_ rest hempty rfl
              rw [← hlength, List.length_append, List.length_append, List.length_cons]
              omega
  · intro hdiscarded
    induction hdiscarded with
    | @quiet line hquiet =>
        have hnone : line.filter keeps = [] := List.filter_eq_nil_iff.mpr fun item hitem => by
          simp [hquiet item hitem]
        rw [bufferOf_short (by rw [hnone]; exact hcapacity), hnone]
    | overflow hblock _ ih => rw [bufferOf_overflow hblock, ih]

/-- A line of just the buffer's capacity is taken if it ends with its last kept item. -/
theorem heldLine_full_iff (hcapacity : 0 < capacity) {line : List α}
    (hfull : (line.filter keeps).length = capacity) :
    heldLine keeps capacity line = some (line.filter keeps) ↔
      ∃ front last, line = front ++ [last] ∧ keeps last = true := by
  obtain ⟨front, last, rest, rfl, hlast, hfront⟩ := exists_filling hcapacity hfull.ge
  rw [List.filter_append, List.filter_cons_of_pos hlast, List.length_append, List.length_cons] at hfull
  have hrest : rest.filter keeps = [] := List.length_eq_zero_iff.mp (by omega)
  cases rest with
  | nil =>
      apply iff_of_true _ ⟨front, last, rfl, hlast⟩
      have hne : (front ++ [last]).filter keeps ≠ [] := by
        rw [List.filter_append, List.filter_cons_of_pos hlast]
        simp
      rw [heldLine, bufferOf_full hlast hfront, if_neg hne]
  | cons extra rest =>
      have hblock : Overflows keeps capacity (front ++ [last, extra]) :=
        ⟨front, last, extra, rfl, hlast, hfront⟩
      have hsplit : front ++ last :: extra :: rest = (front ++ [last, extra]) ++ rest := by simp
      have hnone : ∀ item ∈ extra :: rest, keeps item = false := fun item hitem => by
        simpa using List.filter_eq_nil_iff.mp hrest item hitem
      have hempty : bufferOf keeps capacity rest = [] :=
        (bufferOf_eq_nil_iff hcapacity rest).mpr
          (.quiet fun item hitem => hnone item (List.mem_cons_of_mem _ hitem))
      apply iff_of_false
      · rw [hsplit, heldLine, bufferOf_overflow hblock, if_pos hempty]
        rintro ⟨⟩
      · rintro ⟨front', last', hline, hlast'⟩
        have hmem : last' ∈ extra :: rest := by
          have hends : (front ++ last :: extra :: rest).getLast? = (extra :: rest).getLast? := by
            simp [List.getLast?_cons]
          rw [hline, List.getLast?_concat] at hends
          exact List.mem_of_getLast? hends.symm
        rw [hnone last' hmem] at hlast'
        cases hlast'

/-- **Where the buffer makes what it should of a line.** -/
theorem heldLine_eq_iff (hcapacity : 0 < capacity) (line : List α) :
    heldLine keeps capacity line = wholeLine keeps capacity line ↔ LineSafe keeps capacity line := by
  rcases Nat.lt_trichotomy (line.filter keeps).length capacity with hshort | hfull | hlong
  · apply iff_of_true _ (Or.inl hshort)
    rw [heldLine, wholeLine, bufferOf_short hshort]
    simp only [Nat.not_lt.mpr hshort.le, or_false]
  · have hne : line.filter keeps ≠ [] := List.ne_nil_of_length_pos (by omega)
    have hwhole : wholeLine keeps capacity line = some (line.filter keeps) :=
      if_neg (not_or.mpr ⟨hne, by omega⟩)
    rw [hwhole, heldLine_full_iff hcapacity hfull, LineSafe]
    simp only [hfull, Nat.lt_irrefl, true_and, false_and, false_or, or_false]
  · have hwhole : wholeLine keeps capacity line = none := if_pos (Or.inr hlong)
    rw [hwhole, heldLine, ite_eq_left_iff, LineSafe]
    simp only [reduceCtorEq, imp_false, not_not, bufferOf_eq_nil_iff hcapacity, Nat.not_lt.mpr hlong.le,
      hlong.ne', hlong, false_and, false_or, true_and]

/-! ### Lines of a stream -/

variable (ends : α → Bool)

/-- The terminated lines of a stream and the items after the last of them. -/
def splitLines (items : List α) : List (List α) × List α :=
  items.foldl (fun split item =>
    if ends item then (split.1 ++ [split.2], []) else (split.1, split.2 ++ [item])) ([], [])

theorem splitLines_concat (items : List α) (item : α) :
    splitLines ends (items ++ [item]) =
      if ends item then ((splitLines ends items).1 ++ [(splitLines ends items).2], [])
      else ((splitLines ends items).1, (splitLines ends items).2 ++ [item]) :=
  List.foldl_concat _ _ _ _

theorem bufferOf_concat (line : List α) (item : α) :
    bufferOf keeps capacity (line ++ [item]) = bufferStep keeps capacity (bufferOf keeps capacity line) item :=
  List.foldl_concat _ _ _ _

end LineBuffer

end IiotMonitoring
