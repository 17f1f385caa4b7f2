import IiotMonitoring.Firmware.TelemetryTasks

/-!
# Reserving sequence numbers

`gateway_next_sequence` over the NVS calls it makes, in a device whose calls may fail and whose power
may go between any two of them. `ESP_ERROR_CHECK` restarts the device on an error; the read of the mark
is not checked. A value that was set is in flash once it is committed. If the power goes before, it may
be there or not.
-/

namespace IiotMonitoring

inductive SequenceOp where
  | getU64
  | setU64 (value : UInt64)
  | commit
  deriving DecidableEq, Repr

abbrev SequenceAnswer : SequenceOp → Type
  | .getU64 => Except EspErr UInt64
  | .setU64 _ => EspErr
  | .commit => EspErr

/-- The statics `sequence_next` and `sequence_end`. -/
structure SequenceStatics where
  sequenceNext : UInt64
  sequenceEnd : UInt64
  deriving DecidableEq, Repr

/-- The statics after a boot. -/
def SequenceStatics.boot : SequenceStatics := ⟨0, 0⟩

/-- The statics leave no number to take. -/
def SequenceStatics.Exhausted (statics : SequenceStatics) : Prop :=
  statics.sequenceNext = 0 ∨ statics.sequenceNext > statics.sequenceEnd

instance (statics : SequenceStatics) : Decidable statics.Exhausted :=
  inferInstanceAs (Decidable (_ ∨ _))

/-- `sequence_next++`, and the number it was. -/
def SequenceStatics.take (statics : SequenceStatics) : UInt64 × SequenceStatics :=
  (statics.sequenceNext, { statics with sequenceNext := statics.sequenceNext + 1 })

/-- `high_water` after `nvs_get_u64`, whose result is not checked. -/
def highWaterOf : Except EspErr UInt64 → UInt64
  | .ok value => value
  | .error _ => 0

/-- `gateway_next_sequence`. The result is none where `ESP_ERROR_CHECK` restarts the device. -/
def gatewayNextSequenceProgram (statics : SequenceStatics) :
    Program SequenceOp SequenceAnswer (Option (UInt64 × SequenceStatics)) :=
  if statics.Exhausted then do
    let answer ← Program.perform SequenceOp.getU64
    let reserved : SequenceStatics :=
      { sequenceNext := highWaterOf answer + 1
        sequenceEnd := highWaterOf answer + sequenceReservation }
    let stored ← Program.perform (SequenceOp.setU64 reserved.sequenceEnd)
    if stored = .ok then
      let committed ← Program.perform SequenceOp.commit
      if committed = .ok then
        return some reserved.take
      else
        return none
    else
      return none
  else
    return some statics.take

/-! ### The device -/

/-- The key `sequence_hi`, and a value that was set and not committed yet. -/
structure SequenceFlash where
  durable : Option UInt64
  written : Option UInt64
  deriving DecidableEq, Repr

/-- What a read finds. -/
def SequenceFlash.mark (flash : SequenceFlash) : Option UInt64 := flash.written.or flash.durable

def SequenceFlash.committed (flash : SequenceFlash) : SequenceFlash := ⟨flash.mark, none⟩

/-- A call may report an error, and then a read tells nothing and a write or a commit has taken effect or
not. -/
def sequenceAnswers : (op : SequenceOp) → SequenceFlash → SequenceAnswer op → SequenceFlash → Prop
  | .getU64, flash, answer, flash' =>
      flash' = flash ∧
        (answer = (match flash.mark with | some value => .ok value | none => .error .nvsNotFound) ∨
          ∃ error, answer = .error error)
  | .setU64 value, flash, answer, flash' =>
      flash' = { flash with written := some value } ∨ (answer ≠ .ok ∧ flash' = flash)
  | .commit, flash, answer, flash' => flash' = flash.committed ∨ (answer ≠ .ok ∧ flash' = flash)

/-- What the flash may hold after the power went. -/
def SequenceFlash.Restarts (flash flash' : SequenceFlash) : Prop :=
  flash' = ⟨flash.durable, none⟩ ∨ flash' = flash.committed

/-- The device, and the numbers that were returned in its lifetime. -/
structure SequenceDevice where
  statics : SequenceStatics
  flash : SequenceFlash
  returned : List UInt64
  deriving DecidableEq, Repr

/-- A device at its first boot. -/
def SequenceDevice.fresh : SequenceDevice := ⟨.boot, ⟨none, none⟩, []⟩

/-- One call of `gateway_next_sequence` with what its NVS calls answered: it returns, or it restarts the
device, or the power goes at any point of it. -/
inductive SequenceStep : SequenceDevice → List (Program.Answered SequenceAnswer) → SequenceDevice → Prop
  | returns {device : SequenceDevice} {trace : List (Program.Answered SequenceAnswer)}
      {number : UInt64} {statics : SequenceStatics} {flash : SequenceFlash}
      (hrun : Program.Exec sequenceAnswers (gatewayNextSequenceProgram device.statics) device.flash
        trace (some (some (number, statics))) flash) :
      SequenceStep device trace ⟨statics, flash, device.returned ++ [number]⟩
  | aborts {device : SequenceDevice} {trace : List (Program.Answered SequenceAnswer)}
      {flash flash' : SequenceFlash}
      (hrun : Program.Exec sequenceAnswers (gatewayNextSequenceProgram device.statics) device.flash
        trace (some none) flash)
      (hrestart : flash.Restarts flash') :
      SequenceStep device trace ⟨.boot, flash', device.returned⟩
  | powerLoss {device : SequenceDevice} {trace : List (Program.Answered SequenceAnswer)}
      {flash flash' : SequenceFlash}
      (hrun : Program.Exec sequenceAnswers (gatewayNextSequenceProgram device.statics) device.flash
        trace none flash)
      (hrestart : flash.Restarts flash') :
      SequenceStep device trace ⟨.boot, flash', device.returned⟩

/-- No read of the mark fails while one is stored, and a block is reserved only where its last number is
below `2 ^ 64`. -/
def MarkRead (device : SequenceDevice) (trace : List (Program.Answered SequenceAnswer)) : Prop :=
  (∀ error, ⟨.getU64, .error error⟩ ∈ trace → device.flash.mark = none) ∧
    (device.statics.Exhausted →
      (device.flash.mark.getD 0).toNat + sequenceReservation.toNat < 2 ^ 64)

end IiotMonitoring
