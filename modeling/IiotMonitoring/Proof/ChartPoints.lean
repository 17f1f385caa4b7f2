import IiotMonitoring.Lib.Thinning
import IiotMonitoring.Web.TelemetryChart
import Mathlib.Data.List.Permutation

/-!
# The points of the chart

`boundedPoints` thins the rows in their order by time, where a time is what `Date` keeps of it: whole
milliseconds.
-/

namespace IiotMonitoring.Web

open AnomalyWorker (PyFloat)

/-- The points are rows at increasing places of an arrangement by time: at most the limit, the last of
them newest, all of few rows, and otherwise without large gaps. -/
structure ThinnedBy (time : TelemetryView → Int) (rows : List TelemetryView) (metric : MetricKey)
    (limit : Nat) (chronological : List TelemetryView) (places : List (Fin chronological.length)) :
    Prop where
  order : chronological.Perm rows
  sorted : chronological.Pairwise fun left right => time left ≤ time right
  increasing : places.Pairwise (· < ·)
  points : boundedPoints rows metric limit =
    places.map fun place => chartPoint metric (chronological.get place)
  count : (boundedPoints rows metric limit).length ≤ limit
  newest : rows ≠ [] → ∃ place, places.getLast? = some place ∧
    ∀ row ∈ rows, time row ≤ time (chronological.get place)
  all : rows.length ≤ limit → places = List.finRange chronological.length
  gaps : ∀ before left right after, places = before ++ left :: right :: after →
    right.val - left.val - 1 < rows.length ⌈/⌉ limit

/-- The rows as `boundedPoints` sorts them. -/
def sortedRows (rows : List TelemetryView) : List TelemetryView :=
  rows.mergeSort fun left right => getTime left ≤ getTime right

theorem sortedRows_perm (rows : List TelemetryView) : (sortedRows rows).Perm rows :=
  List.mergeSort_perm rows _

theorem getTime_trans (first second third : TelemetryView)
    (hfirst : decide (getTime first ≤ getTime second) = true)
    (hsecond : decide (getTime second ≤ getTime third) = true) :
    decide (getTime first ≤ getTime third) = true := by
  rw [decide_eq_true_iff] at hfirst hsecond ⊢
  exact hfirst.trans hsecond

theorem getTime_total (left right : TelemetryView) :
    (decide (getTime left ≤ getTime right) || decide (getTime right ≤ getTime left)) = true := by
  rw [Bool.or_eq_true, decide_eq_true_iff, decide_eq_true_iff]
  exact le_total _ _

theorem sortedRows_sorted (rows : List TelemetryView) :
    (sortedRows rows).Pairwise fun left right => getTime left ≤ getTime right :=
  (List.pairwise_mergeSort getTime_trans getTime_total rows).imp of_decide_eq_true

/-- Rows of one millisecond keep their order. -/
theorem sortedRows_stable (rows : List TelemetryView) (time : Int) :
    (sortedRows rows).filter (getTime · = time) = rows.filter (getTime · = time) := by
  have hsame : (rows.filter (getTime · = time)).Pairwise fun left right =>
      decide (getTime left ≤ getTime right) = true := by
    apply List.pairwise_of_forall_mem_list
    intro left hleft right hright
    have hleft := of_decide_eq_true (List.mem_filter.mp hleft).2
    have hright := of_decide_eq_true (List.mem_filter.mp hright).2
    exact decide_eq_true (hleft.trans hright.symm).le
  have hsub : (rows.filter (getTime · = time)).Sublist (sortedRows rows) :=
    List.sublist_mergeSort getTime_trans getTime_total hsame List.filter_sublist
  have hkept := hsub.filter (getTime · = time)
  rw [List.filter_filter] at hkept
  simp only [Bool.and_self] at hkept
  exact (hkept.eq_of_length ((sortedRows_perm rows).filter _).length_eq.symm).symm

/-- The last row of an arrangement by time is newest. -/
theorem time_le_last {time : TelemetryView → Int} {rows : List TelemetryView} {last : Nat}
    (hsorted : rows.Pairwise fun left right => time left ≤ time right) (hlast : last < rows.length)
    (hend : last = rows.length - 1) : ∀ row ∈ rows, time row ≤ time rows[last] := by
  intro row hrow
  obtain ⟨place, hplace, rfl⟩ := List.getElem_of_mem hrow
  by_cases hsame : place = last
  · subst hsame
    exact le_rfl
  · exact List.pairwise_iff_getElem.mp hsorted place last hplace hlast (by omega)

section Points

variable (rows : List TelemetryView) (metric : MetricKey) (limit : Nat)

theorem keptRows_eq :
    keptRows rows limit =
      (thinnedPlaces (sortedRows rows).length (stride (sortedRows rows).length limit) limit).map
        (sortedRows rows).get := by
  unfold keptRows
  dsimp only
  rw [← sortedRows, filter_zipIdx (sortedRows rows) fun place =>
    place % stride (sortedRows rows).length limit = 0 || place = (sortedRows rows).length - 1]
  rw [List.length_map, ← List.map_drop]
  rfl

/-- The stride is one within the limit, and else the length over the limit, rounded up. -/
theorem stride_eq {length : Nat} (hlimit : 1 ≤ limit) (hlength : 0 < length) :
    stride length limit = length ⌈/⌉ limit := by
  rw [Nat.ceilDiv_eq_add_pred_div, stride]
  apply Nat.max_eq_right
  rw [Nat.le_div_iff_mul_le (by omega)]
  omega

theorem stride_one {length : Nat} (hlimit : 1 ≤ limit) (hlength : length ≤ limit) :
    stride length limit = 1 := by
  apply Nat.max_eq_left
  rw [Nat.div_le_iff_le_mul_add_pred (by omega)]
  omega

/-- **The chart is bounded.** For every limit that is not zero, the points are thinned by the rows'
milliseconds, where the rows of one millisecond are in the order in which they came. -/
theorem boundedPoints_thinned (hlimit : 1 ≤ limit) :
    ∃ chronological places, ThinnedBy getTime rows metric limit chronological places ∧
      ∀ time, chronological.filter (getTime · = time) = rows.filter (getTime · = time) := by
  have hperm := sortedRows_perm rows
  have hpoints : boundedPoints rows metric limit =
      (thinnedPlaces (sortedRows rows).length (stride (sortedRows rows).length limit) limit).map
        fun place => chartPoint metric ((sortedRows rows).get place) := by
    rw [boundedPoints, keptRows_eq, List.map_map]
    rfl
  refine ⟨sortedRows rows, _, ⟨hperm, sortedRows_sorted rows, pairwise_thinnedPlaces, hpoints, ?_, ?_,
    ?_, ?_⟩, sortedRows_stable rows⟩
  · rw [hpoints, List.length_map]
    exact length_thinnedPlaces_le
  · intro hrows
    have hlength : 0 < (sortedRows rows).length := by
      rw [hperm.length_eq]
      exact List.length_pos_of_ne_nil hrows
    refine ⟨_, getLast?_thinnedPlaces hlimit hlength, fun row hrow => ?_⟩
    exact time_le_last (sortedRows_sorted rows) (by omega) rfl row (hperm.mem_iff.mpr hrow)
  · intro hfew
    rw [← hperm.length_eq] at hfew
    rw [stride_one limit hlimit hfew, thinnedPlaces_all hfew]
  · intro before left right after hsplit
    have hlength : 0 < (sortedRows rows).length := by
      have hplace := left.isLt
      omega
    have hpositive : 0 < stride (sortedRows rows).length limit := Nat.lt_of_lt_of_le one_pos (Nat.le_max_left _ _)
    have hgap := thinnedPlaces_gap hpositive hsplit
    rw [stride_eq limit hlimit hlength] at hgap hpositive
    rw [← hperm.length_eq]
    omega

end Points

/-! ### Two rows of one millisecond -/

def sampleView (receivedAt : Int) (temperatureC : ℚ) : TelemetryView where
  messageId := "12345678-1234-4234-8234-123456789abc"
  sequence := 1
  deviceTime := none
  receivedAt
  quality := .good
  replayed := false
  temperatureC := some (.finite temperatureC)
  vibrationRmsMps2 := none
  vibrationPeakMps2 := none
  vibrationCrestFactor := none
  currentA := none
  faultFlags := []
  anomalyScore := none
  anomalyPercentile := none
  anomalyReason := none

def earlierView : TelemetryView := sampleView 100 20

def laterView : TelemetryView := sampleView 900 21

/-- Five rows, newest first, of which two are of one millisecond. -/
def fiveViews : List TelemetryView :=
  [sampleView 4000 24, sampleView 3000 23, laterView, earlierView, sampleView (-1000) 19]

/-- Two of them are shown. -/
theorem boundedPoints_thinned_views :
    2 < fiveViews.length ∧ (boundedPoints fiveViews .temperatureC 2).length ≤ 2 ∧
      ∃ chronological places, ThinnedBy getTime fiveViews .temperatureC 2 chronological places ∧
        chronological.filter (getTime · = 0) = [laterView, earlierView] := by
  obtain ⟨chronological, places, hthinned, hstable⟩ :=
    boundedPoints_thinned fiveViews .temperatureC 2 (by decide)
  refine ⟨by decide, hthinned.count, chronological, places, hthinned, ?_⟩
  rw [hstable]
  decide

/-- Rows that arrive newest first stay so inside a millisecond. -/
theorem boundedPoints_views :
    boundedPoints [laterView, earlierView] .temperatureC 240 =
      [chartPoint .temperatureC laterView, chartPoint .temperatureC earlierView] := by
  have hsorted : sortedRows [laterView, earlierView] = [laterView, earlierView] := by
    apply List.mergeSort_of_pairwise
    decide
  rw [boundedPoints, keptRows_eq, hsorted]
  decide

/-- By their microseconds these points are not in order. -/
theorem boundedPoints_not_microseconds :
    ¬ ∃ chronological places, ThinnedBy (fun row => row.receivedAt) [laterView, earlierView]
      .temperatureC 240 chronological places := by
  rintro ⟨chronological, places, hthinned⟩
  have hpoints := hthinned.points
  rw [hthinned.all (by decide), boundedPoints_views] at hpoints
  have hpoints' : [chartPoint .temperatureC laterView, chartPoint .temperatureC earlierView] =
      chronological.map (chartPoint .temperatureC) := by
    calc _ = (List.finRange chronological.length).map
            (chartPoint .temperatureC ∘ chronological.get) := hpoints
      _ = chronological.map (chartPoint .temperatureC) := by
        rw [← List.map_map, List.map_get_finRange]
  rcases List.perm_pair.mp hthinned.order with rfl | rfl
  · exact absurd hthinned.sorted (by decide)
  · exact absurd hpoints' (by decide)

end IiotMonitoring.Web
