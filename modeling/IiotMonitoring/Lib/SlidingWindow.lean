import Mathlib.Data.List.DropRight
import Mathlib.Data.List.SplitBy

/-!
# Sliding windows that start anew

A window takes items one after another and holds the last `size` of them. An item that does not follow
the one before it starts the window anew. What the window held before its last `size` items is
forgotten, so it may be rebuilt from them alone. The window is the end of the last run of items that
follow each other.
-/

namespace IiotMonitoring

variable {α : Type} (size : Nat) (follows : α → α → Bool)

/-- The items that an item joins. -/
def joined (window : List α) (item : α) : List α :=
  if window.getLast?.all fun last => follows last item then window else []

/-- The window after one more item. -/
def slide (window : List α) (item : α) : List α :=
  let grown := joined follows window item ++ [item]
  if grown.length > size then grown.tail else grown

def windowAfter (window items : List α) : List α := items.foldl (slide size follows) window

variable {size follows}

@[simp]
theorem windowAfter_nil (window : List α) : windowAfter size follows window [] = window := rfl

theorem windowAfter_append (window left right : List α) :
    windowAfter size follows window (left ++ right) =
      windowAfter size follows (windowAfter size follows window left) right :=
  List.foldl_append

theorem windowAfter_concat (window items : List α) (item : α) :
    windowAfter size follows window (items ++ [item]) =
      slide size follows (windowAfter size follows window items) item :=
  windowAfter_append window items [item]

theorem slide_broken {window : List α} {item : α} (hsize : 0 < size)
    (h : joined follows window item = []) : slide size follows window item = [item] := by
  rw [slide, h]
  exact if_neg (Nat.not_lt.mpr hsize)

theorem slide_short {window : List α} {item : α} (h : joined follows window item = window)
    (hlength : window.length < size) : slide size follows window item = window ++ [item] := by
  rw [slide, h]
  apply if_neg
  rw [List.length_append, List.length_singleton]
  omega

theorem slide_full {window : List α} {item : α} (h : joined follows window item = window)
    (hlength : window.length = size) :
    slide size follows window item = (window ++ [item]).tail := by
  rw [slide, h]
  apply if_pos
  rw [List.length_append, List.length_singleton]
  omega

theorem joined_cases (follows : α → α → Bool) (window : List α) (item : α) :
    joined follows window item = [] ∨ joined follows window item = window := by
  rw [joined]
  split
  · exact .inr rfl
  · exact .inl rfl

theorem length_slide_le {window : List α} (item : α) (hsize : 0 < size)
    (hlength : window.length ≤ size) : (slide size follows window item).length ≤ size := by
  rcases joined_cases follows window item with hbroken | hjoined
  · rw [slide_broken hsize hbroken]
    exact hsize
  · rcases Nat.lt_or_eq_of_le hlength with hshort | hfull
    · rw [slide_short hjoined hshort, List.length_append]
      exact hshort
    · rw [slide_full hjoined hfull, List.length_tail, List.length_append, List.length_singleton]
      omega

/-- Only the last item of a window decides whether the next one joins it. -/
theorem joined_append (follows : α → α → Bool) (older newer : List α) (item : α) :
    joined follows newer item = if joined follows (older ++ newer) item = [] then [] else newer := by
  by_cases hnewer : newer = []
  · rw [hnewer]
    split
    · exact (joined_cases follows [] item).elim id id
    · exact (joined_cases follows [] item).elim id id
  · have hlast : (older ++ newer).getLast? = newer.getLast? := by
      rw [List.getLast?_append, List.getLast?_eq_some_getLast hnewer, Option.some_or]
    have hboth : older ++ newer ≠ [] := List.append_ne_nil_of_right_ne_nil _ hnewer
    rw [joined, joined, hlast]
    by_cases hfollows : newer.getLast?.all fun last => follows last item
    · rw [if_pos hfollows, if_pos hfollows, if_neg hboth]
    · rw [if_neg hfollows, if_neg hfollows, if_pos rfl]

/-- A window beside the one that is rebuilt from the last items only. Where they differ, the rebuilt
one holds all its items, and the other holds older ones before them. -/
inductive Rebuilds (items : List α) : List α → List α → Prop where
  | same (window : List α) : Rebuilds items window window
  | shorter (older : List α) (holder : older ≠ []) : Rebuilds items (older ++ items) items

theorem Rebuilds.slide {window rebuilt items : List α} (hsize : 0 < size)
    (hlength : window.length ≤ size) (h : Rebuilds items window rebuilt) (item : α) :
    Rebuilds (items ++ [item]) (slide size follows window item) (slide size follows rebuilt item) := by
  rcases h with _ | ⟨older, holder⟩
  · exact .same _
  · have hrebuilt := joined_append follows older rebuilt item
    rcases joined_cases follows (older ++ rebuilt) item with hbroken | hjoined
    · rw [if_pos hbroken] at hrebuilt
      rw [slide_broken hsize hbroken, slide_broken hsize hrebuilt]
      exact .same _
    · have hboth : older ++ rebuilt ≠ [] := List.append_ne_nil_of_left_ne_nil holder _
      rw [if_neg (by rwa [hjoined])] at hrebuilt
      have hcount : (older ++ rebuilt).length = older.length + rebuilt.length := List.length_append
      have holder_pos := List.length_pos_iff.mpr holder
      rw [slide_short hrebuilt (by omega)]
      rcases Nat.lt_or_eq_of_le hlength with hshort | hfull
      · rw [slide_short hjoined hshort, List.append_assoc]
        exact .shorter older holder
      · rw [slide_full hjoined hfull, List.append_assoc, List.tail_append_of_ne_nil holder]
        by_cases htail : older.tail = []
        · rw [htail, List.nil_append]
          exact .same _
        · exact .shorter _ htail

theorem length_windowAfter_le (follows : α → α → Bool) {window : List α} (items : List α)
    (hsize : 0 < size) (hlength : window.length ≤ size) :
    (windowAfter size follows window items).length ≤ size := by
  induction items using List.reverseRecOn with
  | nil => exact hlength
  | append_singleton items item ih =>
      rw [windowAfter_concat]
      exact length_slide_le item hsize ih

theorem rebuilds_windowAfter (follows : α → α → Bool) {window : List α} (items : List α)
    (hsize : 0 < size) (hlength : window.length ≤ size) :
    Rebuilds items (windowAfter size follows window items)
      (windowAfter size follows [] items) := by
  induction items using List.reverseRecOn with
  | nil =>
      by_cases hwindow : window = []
      · rw [hwindow]
        exact .same _
      · have hshorter := @Rebuilds.shorter α [] window hwindow
        rwa [List.append_nil] at hshorter
  | append_singleton items item ih =>
      rw [windowAfter_concat, windowAfter_concat]
      exact ih.slide hsize (length_windowAfter_le follows items hsize hlength) item

/-- **Forgetting.** After `size` items a window is what these items alone make of it. -/
theorem windowAfter_forgets {window items : List α} (hsize : 0 < size)
    (hlength : window.length ≤ size) (hitems : size ≤ items.length) :
    windowAfter size follows window items = windowAfter size follows [] items := by
  have hbound := length_windowAfter_le follows items hsize hlength
  have hrebuilds := rebuilds_windowAfter follows items hsize hlength
  generalize windowAfter size follows window items = whole at hbound hrebuilds ⊢
  generalize windowAfter size follows [] items = rebuilt at hrebuilds ⊢
  rcases hrebuilds with _ | ⟨older, holder⟩
  · rfl
  · have holder_pos := List.length_pos_iff.mpr holder
    rw [List.length_append] at hbound
    omega

/-! ### The last run -/

/-- The last of the longest runs of items that follow each other. -/
def lastRun (follows : α → α → Bool) (items : List α) : List α := (items.splitBy follows).getLastD []

/-- The second list starts anew after the first one. -/
def Broken (follows : α → α → Bool) (older newer : List α) : Prop :=
  ∀ last ∈ older.getLast?, ∀ first ∈ newer.head?, follows last first = false

theorem lastRun_append {older run : List α} (hrun : run ≠ []) (hchain : run.IsChain fun x y => follows x y)
    (hbroken : Broken follows older run) : lastRun follows (older ++ run) = run := by
  unfold lastRun
  rw [List.splitBy_append hbroken, List.splitBy_of_isChain hrun hchain, List.getLastD_concat]

theorem exists_lastRun (follows : α → α → Bool) {items : List α} (hitems : items ≠ []) :
    ∃ older run, items = older ++ run ∧ run ≠ [] ∧ run.IsChain (fun x y => follows x y) ∧
      Broken follows older run := by
  induction items using List.reverseRecOn with
  | nil => exact absurd rfl hitems
  | append_singleton items item ih =>
      by_cases hempty : items = []
      · subst hempty
        exact ⟨[], [item], rfl, List.cons_ne_nil _ _, .singleton item, fun _ hlast => by cases hlast⟩
      · obtain ⟨older, run, rfl, hrun, hchain, hbroken⟩ := ih hempty
        by_cases hfollows : follows (run.getLast hrun) item = true
        · refine ⟨older, run ++ [item], List.append_assoc .., List.append_ne_nil_of_left_ne_nil hrun _, ?_, ?_⟩
          · apply hchain.append (.singleton item)
            intro last hlast first hfirst
            rw [List.getLast?_eq_some_getLast hrun] at hlast
            cases hlast
            cases hfirst
            exact hfollows
          · rwa [Broken, List.head?_append_of_ne_nil _ hrun]
        · refine ⟨older ++ run, [item], rfl, List.cons_ne_nil _ _, .singleton item, ?_⟩
          intro last hlast first hfirst
          rw [List.getLast?_append_of_ne_nil _ hrun, List.getLast?_eq_some_getLast hrun] at hlast
          cases hlast
          cases hfirst
          exact Bool.of_not_eq_true hfollows

theorem length_rtake (items : List α) : (items.rtake size).length = min items.length size := by
  rw [List.rtake, List.length_drop]
  omega

theorem getLast?_rtake (hsize : 0 < size) (items : List α) :
    (items.rtake size).getLast? = items.getLast? := by
  rw [List.rtake, List.getLast?_drop]
  split
  · rename_i hshort
    have hempty : items = [] := List.eq_nil_of_length_eq_zero (by omega)
    rw [hempty, List.getLast?_nil]
  · rfl

theorem rtake_of_length_le {items : List α} (h : items.length ≤ size) : items.rtake size = items := by
  rw [List.rtake, Nat.sub_eq_zero_of_le h, List.drop_zero]

/-- A window takes a run as it comes. -/
theorem windowAfter_chain {run : List α} (hsize : 0 < size)
    (hchain : run.IsChain fun x y => follows x y) :
    windowAfter size follows [] run = run.rtake size := by
  induction run using List.reverseRecOn with
  | nil => exact (List.rtake_nil size).symm
  | append_singleton items item ih =>
      obtain ⟨hitems, -, hlast⟩ := List.isChain_append.mp hchain
      have hjoined : joined follows (items.rtake size) item = items.rtake size := by
        apply if_pos
        rw [getLast?_rtake hsize, Option.all_eq_true]
        exact fun last hmem => hlast last hmem item rfl
      rw [windowAfter_concat, ih hitems]
      by_cases hshort : items.length < size
      · have hwhole : items.rtake size = items := rtake_of_length_le (Nat.le_of_lt hshort)
        rw [slide_short hjoined (by rwa [hwhole]), hwhole, rtake_of_length_le]
        rwa [List.length_append]
      · have hlength : (items.rtake size).length = size := by
          rw [length_rtake]
          omega
        rw [slide_full hjoined hlength, List.rtake, List.rtake, List.length_append, List.length_singleton,
          ← List.drop_one, ← List.drop_append_of_le_length (by omega), List.drop_drop]
        congr 1
        omega

theorem getLast?_slide (hsize : 0 < size) (window : List α) (item : α) :
    (slide size follows window item).getLast? = some item := by
  rw [slide]
  split
  · rename_i hlong
    have hkept : joined follows window item ≠ [] := by
      intro hempty
      rw [hempty, List.nil_append, List.length_singleton] at hlong
      omega
    rw [List.tail_append_of_ne_nil hkept, List.getLast?_concat]
  · exact List.getLast?_concat

theorem getLast?_windowAfter (follows : α → α → Bool) (hsize : 0 < size) (items : List α) :
    (windowAfter size follows [] items).getLast? = items.getLast? := by
  cases items using List.reverseRecOn with
  | nil => rfl
  | append_singleton items item =>
      rw [windowAfter_concat, getLast?_slide hsize, List.getLast?_concat]

/-- Nothing is left of the items before a break. -/
theorem windowAfter_broken {older run : List α} (hsize : 0 < size) (hrun : run ≠ [])
    (hbroken : Broken follows older run) :
    windowAfter size follows [] (older ++ run) = windowAfter size follows [] run := by
  obtain ⟨first, rest, rfl⟩ := List.exists_cons_of_ne_nil hrun
  have hempty : joined follows (windowAfter size follows [] older) first = [] := by
    rw [joined, getLast?_windowAfter follows hsize]
    cases hlast : older.getLast? with
    | none =>
        rw [List.getLast?_eq_none_iff] at hlast
        rw [hlast]
        rfl
    | some last =>
        apply if_neg
        rw [Option.all_some, hbroken last hlast first rfl]
        exact Bool.false_ne_true
  have hnone : joined follows [] first = ([] : List α) := (joined_cases follows [] first).elim id id
  calc windowAfter size follows [] (older ++ first :: rest)
      = windowAfter size follows (slide size follows (windowAfter size follows [] older) first) rest :=
        windowAfter_append [] older (first :: rest)
    _ = windowAfter size follows (slide size follows [] first) rest := by
        rw [slide_broken hsize hempty, slide_broken hsize hnone]

/-- **The last run.** A window holds the end of the last run. -/
theorem windowAfter_eq_rtake (follows : α → α → Bool) (hsize : 0 < size) (items : List α) :
    windowAfter size follows [] items = (lastRun follows items).rtake size := by
  by_cases hitems : items = []
  · rw [hitems]
    exact (List.rtake_nil size).symm
  · obtain ⟨older, run, rfl, hrun, hchain, hbroken⟩ := exists_lastRun follows hitems
    rw [windowAfter_broken hsize hrun hbroken, windowAfter_chain hsize hchain,
      lastRun_append hrun hchain hbroken]

/-- What the end of the last run is, and what comes before it. -/
theorem rtake_lastRun_spec (follows : α → α → Bool) (hsize : 0 < size) {items : List α}
    (hitems : items ≠ []) :
    ∃ earlier run, (lastRun follows items).rtake size = run ∧ items = earlier ++ run ∧ run ≠ [] ∧
      run.IsChain (fun x y => follows x y) ∧ run.length ≤ size ∧
        (size ≤ run.length ∨ Broken follows earlier run) := by
  obtain ⟨older, run, rfl, hrun, hchain, hbroken⟩ := exists_lastRun follows hitems
  rw [lastRun_append hrun hchain hbroken]
  by_cases hlength : run.length ≤ size
  · exact ⟨older, run, rtake_of_length_le hlength, rfl, hrun, hchain, hlength, .inr hbroken⟩
  · have htaken := @length_rtake α size run
    refine ⟨older ++ run.take (run.length - size), run.rtake size, rfl, ?_, ?_, ?_, ?_, ?_⟩
    · rw [List.append_assoc, List.rtake, List.take_append_drop]
    · intro hempty
      rw [hempty, List.length_nil] at htaken
      omega
    · exact hchain.drop _
    · omega
    · exact .inl (by omega)

/-- A run that is the whole window, or that the items before it break, is the window after it. -/
theorem windowAfter_append_run {older run : List α} (hsize : 0 < size) (hrun : run ≠ [])
    (hchain : run.IsChain fun x y => follows x y) (hlength : run.length ≤ size)
    (h : size ≤ run.length ∨ Broken follows older run) :
    windowAfter size follows [] (older ++ run) = run := by
  have halone : windowAfter size follows [] run = run := by
    rw [windowAfter_chain hsize hchain, rtake_of_length_le hlength]
  rcases h with hfull | hbroken
  · have hbound : (windowAfter size follows [] older).length ≤ size :=
      length_windowAfter_le follows older hsize (Nat.zero_le size)
    rw [windowAfter_append, windowAfter_forgets hsize hbound hfull, halone]
  · rw [windowAfter_broken hsize hrun hbroken, halone]

end IiotMonitoring
