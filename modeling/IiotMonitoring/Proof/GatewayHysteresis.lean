import Mathlib.Algebra.Order.Group.Abs
import IiotMonitoring.Firmware.GatewayConfig
import IiotMonitoring.Lib.Run
import IiotMonitoring.Proof.AlarmHysteresis
import IiotMonitoring.Proof.ConfigLoad

/-!
# The margin below the gateway's thresholds

Between a threshold and its release level a signal does not move the gateway's state. The release
level is the threshold times a factor below one, so that it lies below the threshold only where the
threshold is not negative, and the checks allow a temperature threshold down to -80.
-/

namespace IiotMonitoring

/-- The numbers the thresholds of a configuration stand for. -/
structure IiotThresholds.StandFor (stored : IiotThresholds CFloat) (thresholds : IiotThresholds ℚ) :
    Prop where
  warning : stored.warning.value = .finite thresholds.warning
  critical : stored.critical.value = .finite thresholds.critical
  hysteresisPercent : stored.hysteresisPercent.value = .finite thresholds.hysteresisPercent

def IiotConfig.metrics (config : IiotConfig) : List (IiotThresholds CFloat) :=
  [config.temperature, config.vibration, config.current]

/-- A value as `iiot_threshold_update` is called with it. -/
structure MetricSample where
  value : FloatNumber ℚ
  valid : Bool
  deriving DecidableEq

def MetricSample.reading? (sample : MetricSample) : Option ℚ :=
  if sample.valid then sample.value.toNumber? else none

def IiotThresholdState.rank : IiotThresholdState → Nat
  | normal => 0
  | warning => 1
  | critical => 2

namespace IiotThresholds

variable (thresholds : IiotThresholds ℚ)

def criticalRelease : ℚ :=
  thresholds.critical - thresholds.hysteresisPercent / 100 * |thresholds.critical|

def warningRelease : ℚ :=
  thresholds.warning - thresholds.hysteresisPercent / 100 * |thresholds.warning|

def update (state : IiotThresholdState) (sample : MetricSample) : IiotThresholdState :=
  iiotThresholdUpdate thresholds state sample.value sample.valid

/-- What a sample may do to the state. -/
structure StepMargin (state : IiotThresholdState) (sample : MetricSample)
    (next : IiotThresholdState) : Prop where
  leavesCritical : state = .critical → next ≠ .critical →
    ∃ reading, sample.reading? = some reading ∧ reading < thresholds.criticalRelease
  returnsNormal : state ≠ .normal → next = .normal →
    ∃ reading, sample.reading? = some reading ∧ reading < thresholds.warningRelease
  entersWarning : state = .normal → next = .warning →
    ∃ reading, sample.reading? = some reading ∧ thresholds.warning ≤ reading
  entersCritical : state ≠ .critical → next = .critical →
    ∃ reading, sample.reading? = some reading ∧ thresholds.critical ≤ reading
  invalid : sample.reading? = none → next = state

/-- Every reading among the samples is at least `low` and below `high`. -/
def StayBetween (low high : ℚ) (samples : List MetricSample) : Prop :=
  ∀ sample ∈ samples, ∀ reading, sample.reading? = some reading → low ≤ reading ∧ reading < high

/-- In the warning band the state never rises, and the normal state is neither reached nor left. -/
def WarningBandHolds (state : IiotThresholdState) (samples : List MetricSample) : Prop :=
  StayBetween thresholds.warningRelease thresholds.warning samples →
    (exec thresholds.update state samples).rank ≤ state.rank ∧
      (exec thresholds.update state samples = .normal ↔ state = .normal)

/-- In the critical band the state never falls, and the critical state is neither reached nor
left. -/
def CriticalBandHolds (state : IiotThresholdState) (samples : List MetricSample) : Prop :=
  StayBetween thresholds.criticalRelease thresholds.critical samples →
    state.rank ≤ (exec thresholds.update state samples).rank ∧
      (exec thresholds.update state samples = .critical ↔ state = .critical)

/-- The hysteresis over every run from a state. -/
structure RealMargin (start : IiotThresholdState) : Prop where
  steps : ∀ samples, StepsMeet thresholds.update
    (fun state sample => thresholds.StepMargin state sample (thresholds.update state sample))
    start samples
  warningBand : ∀ before samples,
    thresholds.WarningBandHolds (exec thresholds.update start before) samples
  criticalBand : ∀ before samples,
    thresholds.CriticalBandHolds (exec thresholds.update start before) samples

end IiotThresholds

/-! ### What the checks say -/

theorem FloatNumber.finite_of_isSome {value : FloatNumber ℚ} (h : value.toNumber?.isSome = true) :
    ∃ number, value = .finite number := by
  cases value with
  | finite number => exact ⟨number, rfl⟩
  | infinity negative => cases h
  | nan => cases h

theorem FloatNumber.finite_of_bounds {value : FloatNumber ℚ} {low high : ℚ}
    (hlow : value.atLeast low = true) (hhigh : value.atMost high = true) :
    ∃ number, value = .finite number ∧ low ≤ number ∧ number ≤ high := by
  cases value with
  | finite number => exact ⟨number, rfl, of_decide_eq_true hlow, of_decide_eq_true hhigh⟩
  | infinity negative =>
      cases negative with
      | false => cases hhigh
      | true => cases hlow
  | nan => cases hlow

theorem standFor_of_valid {stored : IiotThresholds CFloat} {minimum maximum : ℚ}
    (h : thresholdsAreValid stored minimum maximum = true) :
    ∃ thresholds : IiotThresholds ℚ, stored.StandFor thresholds ∧
      thresholds.warning < thresholds.critical ∧ 1 ≤ thresholds.hysteresisPercent ∧
      thresholds.hysteresisPercent ≤ 25 := by
  simp only [thresholdsAreValid, Bool.and_eq_true] at h
  obtain ⟨⟨⟨⟨⟨⟨hwarning, hcritical⟩, -⟩, -⟩, hless⟩, hlow⟩, hhigh⟩ := h
  obtain ⟨warning, hwarning⟩ := FloatNumber.finite_of_isSome hwarning
  obtain ⟨critical, hcritical⟩ := FloatNumber.finite_of_isSome hcritical
  obtain ⟨percent, hpercent, hlow, hhigh⟩ := FloatNumber.finite_of_bounds hlow hhigh
  rw [hwarning, hcritical] at hless
  exact ⟨⟨warning, critical, percent⟩, ⟨hwarning, hcritical, hpercent⟩, of_decide_eq_true hless,
    hlow, hhigh⟩

theorem standFor_of_metrics {config : IiotConfig} (hvalid : iiotConfigValidate config = true)
    {stored : IiotThresholds CFloat} (hstored : stored ∈ config.metrics) :
    ∃ thresholds : IiotThresholds ℚ, stored.StandFor thresholds ∧
      thresholds.warning < thresholds.critical ∧ 1 ≤ thresholds.hysteresisPercent ∧
      thresholds.hysteresisPercent ≤ 25 := by
  obtain ⟨-, -, -, -, -, -, htemperature, hvibration, hcurrent⟩ :=
    (iiotConfigValidate_iff config).mp hvalid
  simp only [IiotConfig.metrics, List.mem_cons, List.not_mem_nil, or_false] at hstored
  obtain rfl | rfl | rfl := hstored
  · exact standFor_of_valid htemperature
  · exact standFor_of_valid hvibration
  · exact standFor_of_valid hcurrent

/-! ### One sample -/

section Steps

variable {thresholds : IiotThresholds ℚ} {state : IiotThresholdState} {sample : MetricSample}

theorem update_reading {reading : ℚ} (h : sample.reading? = some reading) :
    thresholds.update state sample = iiotThresholdState thresholds state reading := by
  obtain ⟨value, valid⟩ := sample
  cases valid with
  | false => cases h
  | true =>
      cases value with
      | finite number =>
          obtain rfl : number = reading := Option.some.inj h
          rfl
      | infinity negative => cases h
      | nan => cases h

theorem update_invalid (h : sample.reading? = none) : thresholds.update state sample = state := by
  obtain ⟨value, valid⟩ := sample
  cases value with
  | finite number =>
      cases valid with
      | false => rfl
      | true => cases h
  | infinity negative => rfl
  | nan => rfl

/-- A threshold that is not negative is released at the level with the margin. -/
theorem warningClear_eq (hwarning : 0 ≤ thresholds.warning) :
    thresholds.warningClear = thresholds.warningRelease := by
  rw [IiotThresholds.warningClear, IiotThresholds.warningRelease, abs_of_nonneg hwarning]
  ring

theorem criticalClear_eq (hcritical : 0 ≤ thresholds.critical) :
    thresholds.criticalClear = thresholds.criticalRelease := by
  rw [IiotThresholds.criticalClear, IiotThresholds.criticalRelease, abs_of_nonneg hcritical]
  ring

theorem state_critical_iff {reading : ℚ} :
    iiotThresholdState thresholds state reading = .critical ↔
      thresholds.critical ≤ reading ∨ state = .critical ∧ thresholds.criticalClear ≤ reading := by
  unfold iiotThresholdState
  split_ifs <;> simp_all

theorem state_normal_iff {reading : ℚ} (hlt : thresholds.warning < thresholds.critical) :
    iiotThresholdState thresholds state reading = .normal ↔
      reading < thresholds.warning ∧
        (state = .critical → reading < thresholds.criticalClear) ∧
        (state ≠ .normal → reading < thresholds.warningClear) := by
  unfold iiotThresholdState
  split_ifs with hcritical hheld hwarning hhold
  · simp only [false_iff]
    exact fun h => absurd (h.1.trans hlt) (not_lt.mpr hcritical)
  · simp only [false_iff]
    exact fun h => absurd (h.2.1 hheld.1) (not_lt.mpr hheld.2)
  · simp only [false_iff]
    exact fun h => absurd h.1 (not_lt.mpr hwarning)
  · simp only [false_iff]
    exact fun h => absurd (h.2.2 hhold.1) (not_lt.mpr hhold.2)
  · simp only [true_iff]
    exact ⟨not_le.mp hwarning, fun h => not_le.mp fun hle => hheld ⟨h, hle⟩,
      fun h => not_le.mp fun hle => hhold ⟨h, hle⟩⟩

/-- The margin is kept by every sample where no threshold is negative. -/
theorem update_margin (hwarning : 0 ≤ thresholds.warning)
    (hlt : thresholds.warning < thresholds.critical) :
    thresholds.StepMargin state sample (thresholds.update state sample) := by
  have hcriticalClear := criticalClear_eq (hwarning.trans hlt.le)
  have hwarningClear := warningClear_eq hwarning
  cases hsample : sample.reading? with
  | none =>
      rw [update_invalid hsample]
      constructor
      · exact fun h hleft => absurd h hleft
      · exact fun hleft h => absurd h hleft
      · exact fun h hentered => absurd (h.symm.trans hentered) (by decide)
      · exact fun hleft h => absurd h hleft
      · exact fun _ => rfl
  | some reading =>
      rw [update_reading hsample]
      constructor
      · intro hstate hleft
        rw [Ne, state_critical_iff, not_or, not_and, not_le, not_le] at hleft
        refine ⟨reading, hsample, ?_⟩
        rw [← hcriticalClear]
        exact hleft.2 hstate
      · intro hleft hnormal
        refine ⟨reading, hsample, ?_⟩
        rw [← hwarningClear]
        exact ((state_normal_iff hlt).mp hnormal).2.2 hleft
      · intro hstate hentered
        refine ⟨reading, hsample, ?_⟩
        by_contra hbelow
        have hnormal : iiotThresholdState thresholds state reading = .normal := by
          rw [state_normal_iff hlt, hstate]
          exact ⟨not_le.mp hbelow, fun h => absurd h (by decide), fun h => absurd rfl h⟩
        exact absurd (hnormal.symm.trans hentered) (by decide)
      · intro hleft hentered
        refine ⟨reading, hsample, ?_⟩
        exact (state_critical_iff.mp hentered).resolve_right fun h => hleft h.1
      · intro h
        rw [hsample] at h
        cases h

theorem state_warningBand {reading : ℚ} (hlt : thresholds.warning < thresholds.critical)
    (hrelease : thresholds.warningClear ≤ reading) (hbelow : reading < thresholds.warning) :
    iiotThresholdState thresholds state reading =
      if state = .critical ∧ thresholds.criticalClear ≤ reading then .critical
      else if state ≠ .normal then .warning
      else .normal := by
  unfold iiotThresholdState
  rw [if_neg (not_le.mpr (hbelow.trans hlt)), if_neg (not_le.mpr hbelow)]
  simp only [hrelease, and_true]

theorem state_criticalBand {reading : ℚ} (hclear : thresholds.warningClear < thresholds.criticalClear)
    (hrelease : thresholds.criticalClear ≤ reading) (hbelow : reading < thresholds.critical) :
    iiotThresholdState thresholds state reading =
      if state = .critical then .critical
      else if thresholds.warning ≤ reading ∨ state ≠ .normal then .warning
      else .normal := by
  unfold iiotThresholdState
  rw [if_neg (not_le.mpr hbelow)]
  simp only [hrelease, hclear.le.trans hrelease, and_true, ite_or]

theorem update_warningBand (hwarning : 0 ≤ thresholds.warning)
    (hlt : thresholds.warning < thresholds.critical)
    (hstay : ∀ reading, sample.reading? = some reading →
      thresholds.warningRelease ≤ reading ∧ reading < thresholds.warning) :
    (thresholds.update state sample).rank ≤ state.rank ∧
      (thresholds.update state sample = .normal ↔ state = .normal) := by
  cases hsample : sample.reading? with
  | none =>
      rw [update_invalid hsample]
      exact ⟨le_rfl, Iff.rfl⟩
  | some reading =>
      obtain ⟨hrelease, hbelow⟩ := hstay reading hsample
      rw [← warningClear_eq hwarning] at hrelease
      rw [update_reading hsample, state_warningBand hlt hrelease hbelow]
      cases state with
      | normal => exact ⟨le_rfl, Iff.rfl⟩
      | warning => exact ⟨le_rfl, Iff.rfl⟩
      | critical =>
          -- a reading in both bands holds the critical state, any other gives it up
          by_cases hhold : thresholds.criticalClear ≤ reading
          · rw [if_pos ⟨rfl, hhold⟩]
            exact ⟨le_rfl, Iff.rfl⟩
          · rw [if_neg fun h => hhold h.2]
            decide

theorem update_criticalBand (hwarning : 0 ≤ thresholds.warning)
    (hlt : thresholds.warning < thresholds.critical) (hpercent : thresholds.hysteresisPercent ≤ 25)
    (hstay : ∀ reading, sample.reading? = some reading →
      thresholds.criticalRelease ≤ reading ∧ reading < thresholds.critical) :
    state.rank ≤ (thresholds.update state sample).rank ∧
      (thresholds.update state sample = .critical ↔ state = .critical) := by
  cases hsample : sample.reading? with
  | none =>
      rw [update_invalid hsample]
      exact ⟨le_rfl, Iff.rfl⟩
  | some reading =>
      obtain ⟨hrelease, hbelow⟩ := hstay reading hsample
      rw [← criticalClear_eq (hwarning.trans hlt.le)] at hrelease
      rw [update_reading hsample,
        state_criticalBand (warningClear_lt hlt hpercent) hrelease hbelow]
      cases state with
      | normal =>
          by_cases hwarned : thresholds.warning ≤ reading
          · rw [if_neg (by decide), if_pos (Or.inl hwarned)]
            decide
          · rw [if_neg (by decide), if_neg (by simp [hwarned])]
            decide
      | warning =>
          rw [if_neg (by decide), if_pos (Or.inr (by decide))]
          decide
      | critical => exact ⟨le_rfl, Iff.rfl⟩

end Steps

/-! ### Runs -/

section Runs

variable {thresholds : IiotThresholds ℚ}

theorem warningBand_holds (hwarning : 0 ≤ thresholds.warning)
    (hlt : thresholds.warning < thresholds.critical) (state : IiotThresholdState)
    (samples : List MetricSample) : thresholds.WarningBandHolds state samples := by
  intro hstay
  apply exec_related (fun before after : IiotThresholdState =>
    after.rank ≤ before.rank ∧ (after = .normal ↔ before = .normal))
  · exact fun state => ⟨le_rfl, Iff.rfl⟩
  · exact fun first second third h h' => ⟨h'.1.trans h.1, h'.2.trans h.2⟩
  · exact fun state sample hsample => update_warningBand hwarning hlt (hstay sample hsample)

theorem criticalBand_holds (hwarning : 0 ≤ thresholds.warning)
    (hlt : thresholds.warning < thresholds.critical) (hpercent : thresholds.hysteresisPercent ≤ 25)
    (state : IiotThresholdState) (samples : List MetricSample) :
    thresholds.CriticalBandHolds state samples := by
  intro hstay
  apply exec_related (fun before after : IiotThresholdState =>
    before.rank ≤ after.rank ∧ (after = .critical ↔ before = .critical))
  · exact fun state => ⟨le_rfl, Iff.rfl⟩
  · exact fun first second third h h' => ⟨h.1.trans h'.1, h'.2.trans h.2⟩
  · exact fun state sample hsample => update_criticalBand hwarning hlt hpercent (hstay sample hsample)

theorem realMargin_of_nonneg (hwarning : 0 ≤ thresholds.warning)
    (hlt : thresholds.warning < thresholds.critical) (hpercent : thresholds.hysteresisPercent ≤ 25)
    (start : IiotThresholdState) : thresholds.RealMargin start where
  steps samples := stepsMeet_of_forall (fun _ _ => update_margin hwarning hlt) start samples
  warningBand _ samples := warningBand_holds hwarning hlt _ samples
  criticalBand _ samples := criticalBand_holds hwarning hlt hpercent _ samples

/-- A negative threshold is released above itself: the reading that trips it leaves a warning, and the
next one at the release level with the margin clears it. -/
theorem trip_and_clear (hwarning : thresholds.warning < 0)
    (hlt : thresholds.warning < thresholds.critical) (hpositive : 1 ≤ thresholds.hysteresisPercent)
    (hpercent : thresholds.hysteresisPercent ≤ 25) (start : IiotThresholdState) :
    iiotThresholdState thresholds start thresholds.warning = .warning ∧
      iiotThresholdState thresholds .warning thresholds.warningRelease = .normal := by
  have hclear := warningClear_lt hlt hpercent
  have hmargin : thresholds.hysteresisPercent / 100 * thresholds.warning < 0 :=
    mul_neg_of_pos_of_neg (by linarith) hwarning
  have habove : thresholds.warning < thresholds.warningClear := by
    rw [IiotThresholds.warningClear]
    linarith
  have hrelease : thresholds.warningRelease < thresholds.warning := by
    rw [IiotThresholds.warningRelease, abs_of_neg hwarning]
    linarith
  constructor
  · unfold iiotThresholdState
    rw [if_neg (not_le.mpr hlt), if_neg fun h => absurd h.2 (not_le.mpr (habove.trans hclear)),
      if_pos le_rfl]
  · rw [state_normal_iff hlt]
    exact ⟨hrelease, fun h => absurd h (by decide), fun _ => hrelease.trans habove⟩

theorem nonneg_of_realMargin (hlt : thresholds.warning < thresholds.critical)
    (hpositive : 1 ≤ thresholds.hysteresisPercent) (hpercent : thresholds.hysteresisPercent ≤ 25)
    {start : IiotThresholdState} (h : thresholds.RealMargin start) : 0 ≤ thresholds.warning := by
  by_contra hnegative
  obtain ⟨htrip, hclear⟩ := trip_and_clear (not_le.mp hnegative) hlt hpositive hpercent start
  have hfirst : thresholds.update start ⟨.finite thresholds.warning, true⟩ = .warning := htrip
  have hsecond : thresholds.update .warning ⟨.finite thresholds.warningRelease, true⟩ = .normal := hclear
  have hsteps := (h.steps [⟨.finite thresholds.warning, true⟩,
    ⟨.finite thresholds.warningRelease, true⟩]).2.1
  rw [hfirst, hsecond] at hsteps
  obtain ⟨reading, hreading, hbelow⟩ := hsteps.returnsNormal (by decide) rfl
  obtain rfl : thresholds.warningRelease = reading := Option.some.inj hreading
  exact lt_irrefl _ hbelow

/-- **The margin.** Of a valid configuration, the thresholds of a metric keep their margin over every
run exactly if the warning threshold is not negative. -/
theorem realMargin_iff {config : IiotConfig} (hvalid : iiotConfigValidate config = true)
    {stored : IiotThresholds CFloat} (hstored : stored ∈ config.metrics) :
    ∃ thresholds, stored.StandFor thresholds ∧
      ∀ start, thresholds.RealMargin start ↔ 0 ≤ thresholds.warning := by
  obtain ⟨thresholds, hstand, hlt, hpositive, hpercent⟩ := standFor_of_metrics hvalid hstored
  refine ⟨thresholds, hstand, fun start => ⟨nonneg_of_realMargin hlt hpositive hpercent, ?_⟩⟩
  exact fun hwarning => realMargin_of_nonneg hwarning hlt hpercent start

theorem realMargin_iff_defaults :
    ∃ thresholds, iiotConfigDefaults.temperature.StandFor thresholds ∧
      ∀ start, thresholds.RealMargin start ↔ 0 ≤ thresholds.warning :=
  realMargin_iff validate_defaults_gateway (List.mem_cons_self ..)

end Runs

section ColdStore

/-- The defaults with temperature thresholds -20 and -10 and a hysteresis of 10 percent. -/
def coldStoreConfig : IiotConfig :=
  iiotConfigFinalize { iiotConfigDefaults with
    temperature := ⟨⟨0xc1a00000⟩, ⟨0xc1200000⟩, ⟨0x41200000⟩⟩ }

theorem validate_coldStore : iiotConfigValidate coldStoreConfig = true := by
  obtain ⟨hids, hmqtt, htiming, hqueue, -, hvibration, hcurrent⟩ :=
    (iiotConfigValidate_iff iiotConfigDefaults).mp validate_defaults_gateway |>.2.2
  apply (iiotConfigValidate_finalize_iff _).mpr
  exact ⟨hids, hmqtt, htiming, hqueue, by decide, hvibration, hcurrent⟩

/-- At -20 the cold store's state is a warning, and the next reading of -21 returns it to normal, above
the release level of -22. -/
theorem cold_store_toggles :
    ¬ ∀ config, iiotConfigValidate config = true → ∀ stored ∈ config.metrics,
      ∀ thresholds, stored.StandFor thresholds → ∀ start, thresholds.RealMargin start := by
  intro h
  have hstand : coldStoreConfig.temperature.StandFor ⟨-20, -10, 10⟩ :=
    ⟨by decide, by decide, by decide⟩
  have hmargin := h coldStoreConfig validate_coldStore _ (List.mem_cons_self ..) _ hstand .normal
  have hsteps := (hmargin.steps [⟨.finite (-20), true⟩, ⟨.finite (-21), true⟩]).2.1
  obtain ⟨reading, hreading, hbelow⟩ := hsteps.returnsNormal (by decide +kernel) (by decide +kernel)
  obtain rfl : (-21 : ℚ) = reading := Option.some.inj hreading
  revert hbelow
  norm_num [IiotThresholds.warningRelease]

end ColdStore

end IiotMonitoring
