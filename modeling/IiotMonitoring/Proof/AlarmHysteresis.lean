import IiotMonitoring.Firmware.Thresholds
import IiotMonitoring.Proof.AlarmLevel
import Mathlib.Tactic.Linarith
import Mathlib.Tactic.NormNum

/-!
# The gateway's level and the server's

Both sides take the same readings of one metric with the same thresholds. The gateway leaves the
critical state only below a release level of its own; the server follows the reading down to a warning
at once, and keeps the severity it has once the reading is below the warning threshold. A reading in
one of these two bands splits the levels, and no other does.
-/

namespace IiotMonitoring

/-- One metric of one device, and the thresholds both sides use. -/
structure MetricWatch where
  deviceId : String
  code : AlarmCode
  label : String
  unit : String
  thresholds : IiotThresholds ℚ

/-- A reading, and the server's clock when it arrives. -/
structure Reading where
  value : ℚ
  now : Int

/-- The server's alarm table and the gateway's state. -/
structure TwinLevels where
  db : Database
  gateway : IiotThresholdState

/-- `_apply_metric_alarm`, committed. -/
def applyMetricAlarm (format : FloatFormat) (deviceId : String) (rule : MetricRule) (db : Database) :
    Database :=
  { db with
    alarms := Database.writeAlarms db.alarms (rule.value.bind fun value =>
      rule.decide format deviceId value (db.activeAlarm deviceId rule.code)) }

namespace MetricWatch

variable (watch : MetricWatch)

def rule (reading : Reading) : MetricRule where
  code := watch.code
  label := watch.label
  unit := watch.unit
  value := some (.finite reading.value)
  warning := watch.thresholds.warning
  critical := watch.thresholds.critical
  hysteresisPercent := watch.thresholds.hysteresisPercent
  now := reading.now

def step (format : FloatFormat) (state : TwinLevels) (reading : Reading) : TwinLevels where
  db := applyMetricAlarm format watch.deviceId (watch.rule reading) state.db
  gateway := iiotThresholdUpdate watch.thresholds state.gateway (.finite reading.value) true

end MetricWatch

/-- The severity the server has for a state of the gateway. -/
def IiotThresholdState.severity : IiotThresholdState → Option Severity
  | normal => none
  | warning => some .warning
  | critical => some .critical

def MetricWatch.Agree (watch : MetricWatch) (state : TwinLevels) : Prop :=
  alarmLevel state.db.alarms watch.deviceId watch.code = state.gateway.severity

/-- The gateway is critical and the reading is below critical: where it holds the state on a reading
that is a warning, or gives it up on one that is below warning and not released. -/
def IiotThresholds.Splits (thresholds : IiotThresholds ℚ) (gateway : IiotThresholdState)
    (value : ℚ) : Prop :=
  gateway = .critical ∧ value < thresholds.critical ∧
    (thresholds.warning ≤ value ∧ thresholds.criticalClear ≤ value ∨
      value < thresholds.warning ∧ thresholds.warningClear ≤ value ∧
        value < thresholds.criticalClear)

/-! ### One reading -/

theorem warningClear_lt {thresholds : IiotThresholds ℚ}
    (hlt : thresholds.warning < thresholds.critical) (hpercent : thresholds.hysteresisPercent ≤ 25) :
    thresholds.warningClear < thresholds.criticalClear := by
  apply mul_lt_mul_of_pos_right hlt
  linarith

theorem clearBelow_rule {format : FloatFormat} (hround : ∀ x, format.round x = x)
    (watch : MetricWatch) (reading : Reading) :
    (watch.rule reading).clearBelow format = watch.thresholds.warningClear := by
  simp only [MetricRule.clearBelow, hround]
  rfl

/-- Where the levels agree, a reading splits them exactly in the two bands. -/
theorem nextLevel_eq_iff {format : FloatFormat} (hround : ∀ x, format.round x = x)
    {watch : MetricWatch} (hlt : watch.thresholds.warning < watch.thresholds.critical)
    (hpercent : watch.thresholds.hysteresisPercent ≤ 25) (gateway : IiotThresholdState)
    (reading : Reading) :
    (watch.rule reading).nextLevel format gateway.severity (.finite reading.value) =
        (iiotThresholdState watch.thresholds gateway reading.value).severity ↔
      ¬ watch.thresholds.Splits gateway reading.value := by
  have hclear := warningClear_lt hlt hpercent
  unfold MetricRule.nextLevel
  rw [clearBelow_rule hround]
  unfold MetricRule.desired iiotThresholdState IiotThresholds.Splits
  simp only [FloatNumber.atLeast_finite, FloatNumber.below_finite, decide_eq_true_eq]
  dsimp only [MetricWatch.rule]
  by_cases hcritical : watch.thresholds.critical ≤ reading.value
  · simp [hcritical, IiotThresholdState.severity]
  have hbelow := not_le.mp hcritical
  by_cases hwarning : watch.thresholds.warning ≤ reading.value
  · -- the server follows a warning reading down, the gateway holds a critical state above its release
    by_cases hhold : watch.thresholds.criticalClear ≤ reading.value
    · cases gateway <;> simp [hcritical, hbelow, hwarning, hhold, IiotThresholdState.severity]
    · cases gateway <;> simp [hcritical, hwarning, hhold, IiotThresholdState.severity]
  · have hnormal := not_le.mp hwarning
    by_cases hrelease : watch.thresholds.warningClear ≤ reading.value
    · -- not released: the server keeps its severity, the gateway goes down to warning
      by_cases hhold : watch.thresholds.criticalClear ≤ reading.value
      · cases gateway <;>
          simp [hcritical, hwarning, hrelease, hhold, IiotThresholdState.severity]
      · cases gateway <;>
          simp [hcritical, hwarning, hbelow, hnormal, hhold, not_le.mp hhold, hrelease,
            not_lt.mpr hrelease, IiotThresholdState.severity]
    · have hhold : ¬ watch.thresholds.criticalClear ≤ reading.value :=
        fun hhold => hrelease (hclear.le.trans hhold)
      cases gateway <;>
        simp [hcritical, hwarning, hrelease, hhold, not_le.mp hrelease, IiotThresholdState.severity]

/-! ### All readings -/

section Runs

variable {format : FloatFormat} {watch : MetricWatch} {state : TwinLevels}

theorem MetricWatch.step_alarmLevel (reading : Reading)
    (hsingle : SingleActive state.db.alarms watch.deviceId watch.code) :
    alarmLevel (watch.step format state reading).db.alarms watch.deviceId watch.code =
      (watch.rule reading).nextLevel format
        (alarmLevel state.db.alarms watch.deviceId watch.code) (.finite reading.value) :=
  alarmLevel_decide (.finite reading.value)
    (@decide_fits format state.db (watch.rule reading) watch.deviceId _).1 rfl hsingle hsingle

theorem MetricWatch.step_single (reading : Reading)
    (hsingle : SingleActive state.db.alarms watch.deviceId watch.code) :
    SingleActive (watch.step format state reading).db.alarms watch.deviceId watch.code :=
  hsingle.writeAlarms (@decide_fits format state.db (watch.rule reading) watch.deviceId
    (.finite reading.value)).1

theorem singleActive_of_none {alarms : List Alarm} {deviceId : String} {code : AlarmCode}
    (hnone : alarmLevel alarms deviceId code = none) : SingleActive alarms deviceId code := by
  intro left right alarm alarm' hleft hright hactive hactive'
  rw [alarmLevel, Option.map_eq_none_iff, List.find?_eq_none] at hnone
  exact absurd hactive (hnone alarm (List.mem_of_getElem? hleft))

end Runs

/-- **Where the levels agree.** From no alarm and the normal state, the gateway and the server are at
the same level after every reading exactly if no reading arrives in a band that splits them. -/
theorem alarm_levels_agree_iff (format : FloatFormat) (hround : ∀ x, format.round x = x)
    (watch : MetricWatch) (hlt : watch.thresholds.warning < watch.thresholds.critical)
    (hpercent : watch.thresholds.hysteresisPercent ≤ 25) (db : Database)
    (hnone : alarmLevel db.alarms watch.deviceId watch.code = none) (readings : List Reading) :
    StatesMeet (watch.step format) watch.Agree ⟨db, .normal⟩ readings ↔
      StepsMeet (watch.step format)
        (fun state reading => ¬ watch.thresholds.Splits state.gateway reading.value)
        ⟨db, .normal⟩ readings := by
  have hinvariant : ∀ (state : TwinLevels) (reading : Reading),
      SingleActive state.db.alarms watch.deviceId watch.code →
        SingleActive (watch.step format state reading).db.alarms watch.deviceId watch.code :=
    fun state reading hsingle => watch.step_single reading hsingle
  have hguard : ∀ (state : TwinLevels) (reading : Reading),
      SingleActive state.db.alarms watch.deviceId watch.code → watch.Agree state →
        (¬ watch.thresholds.Splits state.gateway reading.value ↔
          watch.Agree (watch.step format state reading)) := by
    intro state reading hsingle hagree
    rw [← nextLevel_eq_iff hround hlt hpercent state.gateway reading]
    unfold MetricWatch.Agree
    rw [watch.step_alarmLevel reading hsingle, hagree]
    rfl
  have hstart : watch.Agree ⟨db, .normal⟩ := hnone
  exact statesMeet_iff_stepsMeet hinvariant hguard (singleActive_of_none hnone) hstart readings

section Sample

/-- The thresholds of the gateway's own test, on both sides. -/
def sampleWatch : MetricWatch where
  deviceId := "motor-1"
  code := .temperatureThreshold
  label := "Temperature"
  unit := "deg C"
  thresholds := ⟨10, 20, 10⟩

def exactFormat : FloatFormat := ⟨id, fun _ => "22", fun _ => .number (.ofNat 22)⟩

theorem alarm_levels_agree_iff_rising :
    StatesMeet (sampleWatch.step exactFormat) sampleWatch.Agree
        ⟨⟨[], fun _ => none, fun _ => none, []⟩, .normal⟩ [⟨22, 0⟩] ↔
      StepsMeet (sampleWatch.step exactFormat)
        (fun state reading => ¬ sampleWatch.thresholds.Splits state.gateway reading.value)
        ⟨⟨[], fun _ => none, fun _ => none, []⟩, .normal⟩ [⟨22, 0⟩] := by
  apply alarm_levels_agree_iff
  · exact fun x => rfl
  · norm_num [sampleWatch]
  · norm_num [sampleWatch]
  · rfl

/-- From 22 the reading goes down to 18.5: the gateway holds the critical state, as its test has it,
and the server's alarm is a warning. -/
theorem alarm_levels_split :
    ¬ ∀ (format : FloatFormat), (∀ x, format.round x = x) → ∀ (watch : MetricWatch),
      0 ≤ watch.thresholds.warning → watch.thresholds.warning < watch.thresholds.critical →
      1 ≤ watch.thresholds.hysteresisPercent → watch.thresholds.hysteresisPercent ≤ 25 →
      ∀ (db : Database), alarmLevel db.alarms watch.deviceId watch.code = none →
      ∀ readings : List Reading,
        StatesMeet (watch.step format) watch.Agree ⟨db, .normal⟩ readings := by
  intro h
  have hlast := (h exactFormat (fun x => rfl) sampleWatch (by norm_num [sampleWatch])
    (by norm_num [sampleWatch]) (by norm_num [sampleWatch]) (by norm_num [sampleWatch])
    ⟨[], fun _ => none, fun _ => none, []⟩ rfl [⟨22, 0⟩, ⟨37 / 2, 0⟩]).last
  unfold MetricWatch.Agree at hlast
  revert hlast
  decide +kernel

end Sample

end IiotMonitoring
