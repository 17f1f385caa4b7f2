import IiotMonitoring.Lib.FloatNumber
import Mathlib.Algebra.Order.Field.Basic

/-!
# The gateway's alarm level

`iiot_threshold_update` of `iiot_core.c`, with the numbers of an ordered field for the finite floats.
-/

namespace IiotMonitoring

/-- `iiot_thresholds_t`. -/
structure IiotThresholds (K : Type) where
  warning : K
  critical : K
  hysteresisPercent : K
  deriving DecidableEq, Repr

/-- `iiot_threshold_state_t`. -/
inductive IiotThresholdState where
  | normal | warning | critical
  deriving DecidableEq, Repr

section Update

variable {K : Type} [Field K] [LinearOrder K]

def IiotThresholds.criticalClear (thresholds : IiotThresholds K) : K :=
  thresholds.critical * (1 - thresholds.hysteresisPercent / 100)

def IiotThresholds.warningClear (thresholds : IiotThresholds K) : K :=
  thresholds.warning * (1 - thresholds.hysteresisPercent / 100)

/-- `iiot_threshold_update` on a finite value. -/
def iiotThresholdState (thresholds : IiotThresholds K) (previous : IiotThresholdState) (value : K) :
    IiotThresholdState :=
  if thresholds.critical ≤ value then .critical
  else if previous = .critical ∧ thresholds.criticalClear ≤ value then .critical
  else if thresholds.warning ≤ value then .warning
  else if previous ≠ .normal ∧ thresholds.warningClear ≤ value then .warning
  else .normal

def iiotThresholdUpdate (thresholds : IiotThresholds K) (previous : IiotThresholdState)
    (value : FloatNumber K) (sampleValid : Bool) : IiotThresholdState :=
  match value with
  | .finite value => if sampleValid then iiotThresholdState thresholds previous value else previous
  | _ => previous

end Update

end IiotMonitoring
