import IiotMonitoring.Proof.ScoringProgress
import IiotMonitoring.Web.TelemetryChart

/-!
# Markers on the chart

The worker stores a percentile on the scale from 0 to 100 and calls a row anomalous from 99 on. The chart
compares the stored percentile with 0.99.
-/

namespace IiotMonitoring.Web

open AnomalyWorker (FloatMath PyFloat TelemetryRow NdArray percentile)

/-- A row with the reference scores and the score that gave its percentile. -/
structure ScoredRow (math : FloatMath) where
  row : TelemetryRow
  reference : NdArray
  score : PyFloat
  rank : PyFloat
  nonempty : reference.items ≠ []
  computed : percentile math reference score = .ok rank
  scored : row.anomalyScore = some score ∧ row.anomalyPercentile = some rank

section Markers

variable {math : FloatMath}

def ScoredRow.view (scored : ScoredRow math) : TelemetryView := toTelemetryView scored.row

/-- `percentile >= 99.0` of `score_rows`. -/
def ScoredRow.meetsThreshold (scored : ScoredRow math) : Bool := scored.rank.atLeast 99

variable (rows : List (ScoredRow math)) (metric : MetricKey)

/-- Each kept row's point is marked exactly where the row meets the threshold. -/
def MarkersAgree : Prop :=
  ∀ (place : Nat) (scored : ScoredRow math) (point : ChartPoint), scored ∈ rows →
    (keptRows (rows.map (·.view)) defaultLimit)[place]? = some scored.view →
    (boundedPoints (rows.map (·.view)) metric defaultLimit)[place]? = some point →
    (point.anomaly = true ↔ scored.meetsThreshold = true)

variable {rows}

/-- The point of a kept row. -/
theorem boundedPoints_place {views : List TelemetryView} {limit place : Nat} {view : TelemetryView}
    (hkept : (keptRows views limit)[place]? = some view) :
    (boundedPoints views metric limit)[place]? = some (chartPoint metric view) := by
  rw [boundedPoints, List.getElem?_map, hkept, Option.map_some]

theorem ScoredRow.point_anomaly (scored : ScoredRow math) :
    (chartPoint metric scored.view).anomaly = scored.rank.atLeast markerPercentile := by
  have hpercentile : scored.view.anomalyPercentile = some scored.rank := scored.scored.2
  rw [chartPoint, hpercentile, Option.any_some]

/-- A row that meets the threshold is marked. -/
theorem ScoredRow.marked_of_meets {scored : ScoredRow math} (h : scored.meetsThreshold = true) :
    scored.rank.atLeast markerPercentile = true := by
  apply FloatNumber.atLeast_of_le _ h
  rw [markerPercentile]
  norm_num

/-- **Markers.** They agree with the threshold exactly where no kept row's percentile is from 0.99 on
and below 99. -/
theorem markersAgree_iff :
    MarkersAgree rows metric ↔
      ∀ scored ∈ rows, scored.view ∈ keptRows (rows.map (·.view)) defaultLimit →
        scored.rank.atLeast markerPercentile = true → scored.rank.atLeast 99 = true := by
  constructor
  · intro h scored hscored hkept hmarked
    obtain ⟨place, hplace⟩ := List.mem_iff_getElem?.mp hkept
    have hagrees := h place scored _ hscored hplace (boundedPoints_place metric hplace)
    rw [scored.point_anomaly] at hagrees
    exact hagrees.mp hmarked
  · intro h place scored point hscored hplace hpoint
    rw [boundedPoints_place metric hplace] at hpoint
    obtain rfl := Option.some.inj hpoint
    rw [scored.point_anomaly]
    constructor
    · exact h scored hscored (List.mem_of_getElem? hplace)
    · exact ScoredRow.marked_of_meets

end Markers

/-- A row in the middle of two reference scores. -/
def middleRow : ScoredRow AnomalyWorker.demoMath where
  row :=
    { AnomalyWorker.demoTables.demoRow 1 0 none with
      anomalyScore := some (.finite 1)
      anomalyPercentile := some (.finite 50) }
  reference := ⟨[2], [.finite 1, .finite 2]⟩
  score := .finite 1
  rank := .finite 50
  nonempty := by simp
  computed := by decide +kernel
  scored := ⟨rfl, rfl⟩

/-- It is marked as an anomaly. -/
theorem middle_marked : ¬ MarkersAgree [middleRow] .temperatureC := by
  intro h
  have hmiddle := h 0 middleRow ⟨some (.finite 40), true⟩ (List.mem_singleton_self _)
    (by decide +kernel) (by decide +kernel)
  exact absurd (hmiddle.mp rfl) (by decide)

end IiotMonitoring.Web
