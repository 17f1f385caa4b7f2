import IiotMonitoring.Firmware.SequenceNumbers

/-!
# Sequence numbers increase

Where the stored mark is read whenever there is one, every number returned is above all that were
returned before, across restarts and power losses. Where a read fails, the numbers start again at one.
-/

namespace IiotMonitoring

/-! ### Without failures -/

/-- A device on which every call succeeds. -/
def sequenceNvs : (op : SequenceOp) → SequenceFlash → SequenceAnswer op × SequenceFlash
  | .getU64, flash =>
      (match flash.mark with | some value => .ok value | none => .error .nvsNotFound, flash)
  | .setU64 value, flash => (.ok, { flash with written := some value })
  | .commit, flash => (.ok, flash.committed)

/-- There the program is the counter of the telemetry tasks. -/
theorem run_gatewayNextSequenceProgram (counter : SequenceCounter) :
    (gatewayNextSequenceProgram ⟨counter.sequenceNext, counter.sequenceEnd⟩).run sequenceNvs
        ⟨counter.sequenceHi, none⟩ =
      (some ((gatewayNextSequence counter).1,
        ⟨(gatewayNextSequence counter).2.sequenceNext, (gatewayNextSequence counter).2.sequenceEnd⟩),
        ⟨(gatewayNextSequence counter).2.sequenceHi, none⟩) := by
  obtain ⟨next, last, mark⟩ := counter
  by_cases hexhausted : next = 0 ∨ next > last
  · have hstatics : (⟨next, last⟩ : SequenceStatics).Exhausted := hexhausted
    rw [gatewayNextSequence, SequenceCounter.reserve, if_pos hexhausted, gatewayNextSequenceProgram,
      if_pos hstatics]
    cases mark with
    | none => rfl
    | some value => rfl
  · have hstatics : ¬ (⟨next, last⟩ : SequenceStatics).Exhausted := hexhausted
    rw [gatewayNextSequence, SequenceCounter.reserve, if_neg hexhausted, gatewayNextSequenceProgram,
      if_neg hstatics]
    rfl

/-! ### One call -/

open Program

section Call

variable {statics : SequenceStatics} {flash final : SequenceFlash}
  {trace : List (Answered SequenceAnswer)} {outcome : Option (Option (UInt64 × SequenceStatics))}

theorem exec_next_of_left (hleft : ¬ statics.Exhausted)
    (hrun : Exec sequenceAnswers (gatewayNextSequenceProgram statics) flash trace outcome final) :
    final = flash ∧ (outcome = none ∨ outcome = some (some statics.take)) := by
  rw [gatewayNextSequenceProgram, if_neg hleft] at hrun
  obtain ⟨-, hfinal, houtcome⟩ := exec_done_iff.mp hrun
  exact ⟨hfinal, houtcome⟩

/-- The flash within a call that reserves the numbers up to `last`. -/
def Reserving (flash : SequenceFlash) (last : UInt64) (final : SequenceFlash) : Prop :=
  final = flash ∨ final = { flash with written := some last } ∨ final = ⟨some last, none⟩

/-- A call that reserves was cut before it read the mark, or goes on from what it read. -/
theorem exec_next_of_exhausted (hexhausted : statics.Exhausted)
    (hrun : Exec sequenceAnswers (gatewayNextSequenceProgram statics) flash trace outcome final) :
    (outcome = none ∧ final = flash) ∨
      ∃ answer rest, trace = ⟨.getU64, answer⟩ :: rest ∧
        sequenceAnswers .getU64 flash answer flash ∧
        let reserved : SequenceStatics :=
          ⟨highWaterOf answer + 1, highWaterOf answer + sequenceReservation⟩
        Reserving flash reserved.sequenceEnd final ∧
          (outcome = none ∨ outcome = some none ∨
            outcome = some (some reserved.take) ∧ final = ⟨some reserved.sequenceEnd, none⟩) := by
  rw [gatewayNextSequenceProgram, if_pos hexhausted, perform_bind] at hrun
  rcases exec_call_iff.mp hrun with ⟨-, hcut, hfinal⟩ | ⟨answer, afterRead, rest, htrace, hread, hset⟩
  · exact .inl ⟨hcut, hfinal⟩
  obtain rfl : afterRead = flash := hread.1
  refine .inr ⟨answer, rest, htrace, hread, ?_⟩
  dsimp only at hset ⊢
  rw [perform_bind] at hset
  rcases exec_call_iff.mp hset with ⟨-, hcut, hfinal⟩ | ⟨stored, afterSet, _, -, hstored, hcommit⟩
  · exact ⟨.inl hfinal, .inl hcut⟩
  by_cases hset : stored = .ok
  · rw [if_pos hset, perform_bind] at hcommit
    obtain rfl : afterSet = { afterRead with
        written := some (highWaterOf answer + sequenceReservation) } := by
      simpa [sequenceAnswers, hset] using hstored
    rcases exec_call_iff.mp hcommit with
      ⟨-, hcut, hfinal⟩ | ⟨committed, afterCommit, _, -, hcommitted, hreturn⟩
    · exact ⟨.inr (.inl hfinal), .inl hcut⟩
    by_cases hok : committed = .ok
    · rw [if_pos hok] at hreturn
      obtain ⟨-, rfl, houtcome⟩ := exec_done_iff.mp hreturn
      obtain rfl : final = ⟨some (highWaterOf answer + sequenceReservation), none⟩ := by
        simpa [sequenceAnswers, SequenceFlash.committed, SequenceFlash.mark, hok] using hcommitted
      exact ⟨.inr (.inr rfl), houtcome.imp_right fun hvalue => .inr ⟨hvalue, rfl⟩⟩
    · rw [if_neg hok] at hreturn
      obtain ⟨-, rfl, houtcome⟩ := exec_done_iff.mp hreturn
      refine ⟨?_, houtcome.imp_right .inl⟩
      rcases hcommitted with rfl | ⟨-, rfl⟩
      · exact .inr (.inr rfl)
      · exact .inr (.inl rfl)
  · rw [if_neg hset] at hcommit
    obtain ⟨-, rfl, houtcome⟩ := exec_done_iff.mp hcommit
    refine ⟨?_, houtcome.imp_right .inl⟩
    rcases hstored with rfl | ⟨-, rfl⟩
    · exact .inr (.inl rfl)
    · exact .inl rfl

end Call

/-- With nothing left to commit, a restart leaves the flash as it was. -/
theorem SequenceFlash.Restarts.settled {flash flash' : SequenceFlash} (hsettled : flash.written = none)
    (h : flash.Restarts flash') : flash' = flash := by
  obtain ⟨durable, written⟩ := flash
  obtain rfl : written = none := hsettled
  rcases h with rfl | rfl
  · rfl
  · rfl

/-- A restart within a call that reserves leaves the old mark or the new one. -/
theorem Reserving.restarts {last : UInt64} {flash final flash' : SequenceFlash}
    (hsettled : flash.written = none) (h : Reserving flash last final)
    (hrestart : final.Restarts flash') : flash' = flash ∨ flash' = ⟨some last, none⟩ := by
  rcases h with rfl | rfl | rfl
  · exact .inl (hrestart.settled hsettled)
  · obtain ⟨durable, written⟩ := flash
    obtain rfl : written = none := hsettled
    exact hrestart
  · exact .inr (hrestart.settled rfl)

/-! ### Every run -/

/-- The numbers returned so far increase, none is above the mark, and what is left of the block is above
them and not above the mark. -/
structure SequenceDevice.Increasing (device : SequenceDevice) : Prop where
  settled : device.flash.written = none
  pairwise : device.returned.Pairwise (· < ·)
  bounded : ∀ number ∈ device.returned, number ≤ device.flash.durable.getD 0
  block : ¬ device.statics.Exhausted →
    device.statics.sequenceEnd ≤ device.flash.durable.getD 0 ∧
      ∀ number ∈ device.returned, number < device.statics.sequenceNext

theorem pairwise_append_above {numbers : List UInt64} {number : UInt64}
    (hpairwise : numbers.Pairwise (· < ·)) (habove : ∀ other ∈ numbers, other < number) :
    (numbers ++ [number]).Pairwise (· < ·) :=
  List.pairwise_append.mpr ⟨hpairwise, List.pairwise_singleton _ _, fun other hother _ hlast =>
    List.mem_singleton.mp hlast ▸ habove other hother⟩

theorem lt_succ_of_ne_zero {number : UInt64} (h : number + 1 ≠ 0) : number < number + 1 := by
  have hzero : (number + 1).toNat ≠ 0 := fun hzero => h (UInt64.toNat_inj.mp hzero)
  rw [UInt64.lt_iff_toNat_lt]
  rw [UInt64.toNat_add] at hzero ⊢
  have hbound := number.toNat_lt
  have hone : (1 : UInt64).toNat = 1 := rfl
  omega

theorem SequenceDevice.Increasing.fresh : SequenceDevice.fresh.Increasing :=
  ⟨rfl, .nil, by simp [SequenceDevice.fresh], fun hleft => absurd (.inl rfl) hleft⟩

/-- A restart that leaves the mark where it was or raises it. -/
theorem SequenceDevice.Increasing.restart {device : SequenceDevice} (h : device.Increasing)
    {flash : SequenceFlash} (hsettled : flash.written = none)
    (hmark : device.flash.durable.getD 0 ≤ flash.durable.getD 0) :
    SequenceDevice.Increasing ⟨.boot, flash, device.returned⟩ :=
  ⟨hsettled, h.pairwise, fun number hmem => UInt64.le_trans (h.bounded number hmem) hmark,
    fun hleft => absurd (.inl rfl) hleft⟩

/-- A call that takes a number of the block. -/
theorem SequenceDevice.Increasing.take {device : SequenceDevice} (h : device.Increasing)
    (hleft : ¬ device.statics.Exhausted) :
    SequenceDevice.Increasing ⟨device.statics.take.2, device.flash,
      device.returned ++ [device.statics.take.1]⟩ := by
  obtain ⟨hend, habove⟩ := h.block hleft
  have hlast : device.statics.sequenceNext ≤ device.statics.sequenceEnd :=
    UInt64.not_lt.mp fun hgt => hleft (.inr hgt)
  refine ⟨h.settled, pairwise_append_above h.pairwise habove, ?_, ?_⟩
  · intro number hmem
    rcases List.mem_append.mp hmem with hmem | hmem
    · exact h.bounded number hmem
    · rw [List.mem_singleton.mp hmem]
      exact UInt64.le_trans hlast hend
  · intro hnext
    refine ⟨hend, fun number hmem => ?_⟩
    have hsucc : device.statics.sequenceNext < device.statics.sequenceNext + 1 :=
      lt_succ_of_ne_zero fun hzero => hnext (.inl hzero)
    rcases List.mem_append.mp hmem with hmem | hmem
    · exact UInt64.lt_trans (habove number hmem) hsucc
    · rwa [List.mem_singleton.mp hmem]

/-- A call that reserves a block above the mark and takes its first number. -/
theorem SequenceDevice.Increasing.reserve {device : SequenceDevice} (h : device.Increasing)
    {highWater : UInt64} (hmark : device.flash.durable.getD 0 = highWater)
    (hroom : highWater.toNat + sequenceReservation.toNat < 2 ^ 64) :
    let reserved : SequenceStatics := ⟨highWater + 1, highWater + sequenceReservation⟩
    SequenceDevice.Increasing ⟨reserved.take.2, ⟨some reserved.sequenceEnd, none⟩,
      device.returned ++ [reserved.take.1]⟩ := by
  intro reserved
  have hreservation : sequenceReservation.toNat = 256 := rfl
  have hone : (1 : UInt64).toNat = 1 := rfl
  have hfirst : (highWater + 1).toNat = highWater.toNat + 1 := by
    rw [UInt64.toNat_add, hone, Nat.mod_eq_of_lt (by omega)]
  have hlast : (highWater + sequenceReservation).toNat = highWater.toNat + 256 := by
    rw [UInt64.toNat_add, hreservation, Nat.mod_eq_of_lt (by omega)]
  have hbounded : ∀ number ∈ device.returned, number.toNat ≤ highWater.toNat := fun number hmem =>
    UInt64.le_iff_toNat_le.mp (hmark ▸ h.bounded number hmem)
  have hmiddle : SequenceDevice.Increasing
      ⟨reserved, ⟨some reserved.sequenceEnd, none⟩, device.returned⟩ := by
    refine ⟨rfl, h.pairwise, fun number hmem => ?_, fun _ => ⟨UInt64.le_refl _, fun number hmem => ?_⟩⟩
    · refine UInt64.le_iff_toNat_le.mpr (((hbounded number hmem).trans ?_).trans_eq hlast.symm)
      omega
    · refine UInt64.lt_iff_toNat_lt.mpr ((Nat.lt_succ_of_le (hbounded number hmem)).trans_eq ?_)
      exact hfirst.symm
  refine hmiddle.take ?_
  rintro (hzero | hpast)
  · have hnext := congrArg UInt64.toNat hzero
    rw [show (reserved.sequenceNext).toNat = highWater.toNat + 1 from hfirst] at hnext
    exact absurd hnext (Nat.succ_ne_zero _)
  · have hnext := UInt64.lt_iff_toNat_lt.mp hpast
    rw [show (reserved.sequenceNext).toNat = highWater.toNat + 1 from hfirst,
      show (reserved.sequenceEnd).toNat = highWater.toNat + 256 from hlast] at hnext
    omega

/-- What a call reads, where the mark is read whenever there is one. -/
theorem highWaterOf_read {flash flash' : SequenceFlash} {answer : Except EspErr UInt64}
    (hread : sequenceAnswers .getU64 flash answer flash')
    (hmark : ∀ error, answer = .error error → flash.mark = none) :
    highWaterOf answer = flash.mark.getD 0 := by
  cases answer with
  | error error => simp [hmark error rfl, highWaterOf]
  | ok value =>
      rcases hread.2 with hvalue | ⟨error, herror⟩
      · cases hfound : flash.mark with
        | none => simp [hfound] at hvalue
        | some mark => simpa [hfound, highWaterOf] using hvalue
      · cases herror

/-- A call keeps the invariant, where it returns and where the device restarts in it or after it. -/
theorem SequenceDevice.Increasing.call {device : SequenceDevice} (h : device.Increasing)
    {trace : List (Answered SequenceAnswer)} (hread : MarkRead device trace)
    {outcome : Option (Option (UInt64 × SequenceStatics))} {final : SequenceFlash}
    (hrun : Exec sequenceAnswers (gatewayNextSequenceProgram device.statics) device.flash trace
      outcome final) :
    (∀ taken, outcome = some (some taken) →
      SequenceDevice.Increasing ⟨taken.2, final, device.returned ++ [taken.1]⟩) ∧
      ∀ flash', final.Restarts flash' →
        SequenceDevice.Increasing ⟨.boot, flash', device.returned⟩ := by
  have hmarked : device.flash.mark = device.flash.durable := by
    rw [SequenceFlash.mark, h.settled, Option.none_or]
  by_cases hexhausted : device.statics.Exhausted
  · rcases exec_next_of_exhausted hexhausted hrun with
      ⟨rfl, rfl⟩ | ⟨answer, rest, htrace, hanswer, hreserving, houtcome⟩
    · refine ⟨fun taken htaken => (by cases htaken), fun flash' hrestart => ?_⟩
      rw [hrestart.settled h.settled]
      exact h.restart h.settled (UInt64.le_refl _)
    · have hhigh : device.flash.durable.getD 0 = highWaterOf answer := by
        rw [← hmarked]
        refine (highWaterOf_read hanswer fun error herror => hread.1 error ?_).symm
        rw [htrace, herror]
        exact List.mem_cons_self
      have hroom := hread.2 hexhausted
      rw [hmarked, hhigh] at hroom
      refine ⟨fun taken htaken => ?_, fun flash' hrestart => ?_⟩
      · rcases houtcome with rfl | rfl | ⟨rfl, rfl⟩
        · cases htaken
        · cases htaken
        · cases htaken
          exact h.reserve hhigh hroom
      · rcases hreserving.restarts h.settled hrestart with rfl | rfl
        · exact h.restart h.settled (UInt64.le_refl _)
        · refine h.restart rfl (UInt64.le_iff_toNat_le.mpr ?_)
          rw [hhigh]
          change _ ≤ (highWaterOf answer + sequenceReservation).toNat
          rw [UInt64.toNat_add, Nat.mod_eq_of_lt hroom]
          exact Nat.le_add_right _ _
  · obtain ⟨rfl, houtcome⟩ := exec_next_of_left hexhausted hrun
    refine ⟨fun taken htaken => ?_, fun flash' hrestart => ?_⟩
    · rcases houtcome with rfl | rfl
      · cases htaken
      · cases htaken
        exact h.take hexhausted
    · rw [hrestart.settled h.settled]
      exact h.restart h.settled (UInt64.le_refl _)

theorem SequenceDevice.Increasing.step {device device' : SequenceDevice} (h : device.Increasing)
    {trace : List (Answered SequenceAnswer)} (hread : MarkRead device trace)
    (hstep : SequenceStep device trace device') : device'.Increasing := by
  cases hstep with
  | returns hrun => exact (h.call hread hrun).1 _ rfl
  | aborts hrun hrestart => exact (h.call hread hrun).2 _ hrestart
  | powerLoss hrun hrestart => exact (h.call hread hrun).2 _ hrestart

/-! ### The runs of the program -/

/-- **Sequence numbers increase.** In every run whose calls read the mark whenever there is one and stay
below `2 ^ 64`, with errors, restarts and power losses anywhere else, the numbers returned over the
device's lifetime increase. -/
theorem sequence_numbers_increase {traces : List (List (Answered SequenceAnswer))}
    {device : SequenceDevice}
    (hrun : Trail (fun device trace device' => SequenceStep device trace device' ∧
      MarkRead device trace) SequenceDevice.fresh traces device) :
    device.returned.Pairwise (· < ·) := by
  have hincreasing : device.Increasing :=
    hrun.invariant (fun _ device => device.Increasing) .fresh
      fun _ _ _ _ h hstep => h.step hstep.2 hstep.1
  exact hincreasing.pairwise

/-! ### Witnesses -/

/-- The calls of a read that answers `answer` and a block reserved after it. -/
def reserveTrace (answer : Except EspErr UInt64) : List (Answered SequenceAnswer) :=
  [⟨.getU64, answer⟩, ⟨.setU64 (highWaterOf answer + sequenceReservation), .ok⟩, ⟨.commit, .ok⟩]

/-- A call that reserves a block and returns. -/
theorem step_reserve {flash : SequenceFlash} {returned : List UInt64}
    {answer : Except EspErr UInt64} (hanswer : sequenceAnswers .getU64 flash answer flash) :
    SequenceStep ⟨.boot, flash, returned⟩ (reserveTrace answer)
      ⟨(SequenceStatics.take ⟨highWaterOf answer + 1, highWaterOf answer + sequenceReservation⟩).2,
        ⟨some (highWaterOf answer + sequenceReservation), none⟩,
        returned ++ [highWaterOf answer + 1]⟩ := by
  have hrun : Exec sequenceAnswers (gatewayNextSequenceProgram .boot) flash (reserveTrace answer)
      (some (some (SequenceStatics.take
        ⟨highWaterOf answer + 1, highWaterOf answer + sequenceReservation⟩)))
      ⟨some (highWaterOf answer + sequenceReservation), none⟩ := by
    rw [gatewayNextSequenceProgram, if_pos (.inl rfl)]
    exact .call hanswer (.call (.inl rfl) (.call (.inl rfl) (.done _ _)))
  exact .returns hrun

/-- The power goes while the device takes no number. -/
theorem step_powerLoss {device : SequenceDevice} (hsettled : device.flash.written = none) :
    SequenceStep device [] ⟨.boot, device.flash, device.returned⟩ := by
  obtain ⟨statics, ⟨durable, written⟩, returned⟩ := device
  obtain rfl : written = none := hsettled
  exact .powerLoss (.cut _ _) (.inl rfl)

/-- A number, a power loss, and the first number after it. -/
theorem sequence_numbers_increase_restart : ([1, 257] : List UInt64).Pairwise (· < ·) := by
  have hfirst : sequenceAnswers .getU64 ⟨none, none⟩ (.error .nvsNotFound) ⟨none, none⟩ :=
    ⟨rfl, .inl rfl⟩
  have hsecond : sequenceAnswers .getU64 ⟨some 256, none⟩ (.ok 256) ⟨some 256, none⟩ :=
    ⟨rfl, .inl rfl⟩
  exact sequence_numbers_increase (.step (.step (.step .start
    ⟨step_reserve hfirst, fun _ _ => rfl, fun _ => by decide⟩)
    ⟨step_powerLoss rfl, by simp, fun _ => by decide⟩)
    ⟨step_reserve hsecond, by simp [reserveTrace], fun _ => by decide⟩)

/-- A read that fails where 256 is stored: the number after it is 1 again. -/
theorem sequence_repeats_after_read_error :
    ∃ traces device, Trail SequenceStep SequenceDevice.fresh traces device ∧
      device.returned = [1, 1] ∧ ¬ device.returned.Pairwise (· < ·) := by
  have hfirst : sequenceAnswers .getU64 ⟨none, none⟩ (.error .nvsNotFound) ⟨none, none⟩ :=
    ⟨rfl, .inl rfl⟩
  have hsecond : sequenceAnswers .getU64 ⟨some 256, none⟩ (.error .fail) ⟨some 256, none⟩ :=
    ⟨rfl, .inr ⟨.fail, rfl⟩⟩
  exact ⟨_, _, .step (.step (.step .start (step_reserve hfirst)) (step_powerLoss rfl))
    (step_reserve hsecond), rfl, by decide⟩

end IiotMonitoring
