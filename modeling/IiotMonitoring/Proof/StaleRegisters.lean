import IiotMonitoring.Firmware.Stm32Main
import IiotMonitoring.Proof.ModbusConfig
import IiotMonitoring.Proof.Stm32Sample

/-!
# The status register and the fault register

A sample copies the stale bit of `runtime_faults` into the registers together with a status of its own.
So after a missed deadline the first sample leaves registers that contradict each other, and no other
step of the loop does.
-/

namespace IiotMonitoring

/-- The status is stale where the stale bit is set, and OK only where neither bit is set. -/
structure RegistersAgree (node : ModbusNode) : Prop where
  stale : (registers node)[4] = ModbusSensorStatus.stale.code ↔
    (registers node)[5] &&& faultSampleStale ≠ 0
  ok : (registers node)[4] = ModbusSensorStatus.ok.code →
    (registers node)[5] &&& faultAdcRange = 0 ∧ (registers node)[5] &&& faultSampleStale = 0

/-! ### The history of the registers -/

/-- Whether the registers were last written by a sample that was taken while `runtime_faults` had
`SAMPLE_STALE`, given the state before a step and whether they were so before it. -/
def sampledLate (state : Stm32Main) (late : Bool) : LoopStep → Bool
  | .interrupt _ => late
  | .sample _ _ _ =>
      if state.sampleDue then state.sampled.runtimeFaults &&& faultSampleStale ≠ 0 else late
  | .checkDeadline tick _ => if state.overdue tick then false else late
  | .serve _ _ => late

/-- A run of the loop to a state, with whether its registers were last sampled late. -/
inductive LoopRun (start : Stm32Main) : Stm32Main → Bool → Prop where
  | start : LoopRun start start false
  | step {state next : Stm32Main} {late : Bool} {step : LoopStep} (hrun : LoopRun start state late)
      (hstep : state.step step = some next) : LoopRun start next (sampledLate state late step)

/-! ### What a request changes -/

/-- The status and the faults are kept. -/
def KeepsRegisters (node node' : ModbusNode) : Prop :=
  node'.sensorStatus = node.sensorStatus ∧ node'.faultFlags = node.faultFlags

theorem KeepsRegisters.agree {node node' : ModbusNode} (h : KeepsRegisters node node') :
    RegistersAgree node' ↔ RegistersAgree node := by
  have hstatus : (registers node')[4] = (registers node)[4] := h.1
  have hfaults : (registers node')[5] = (registers node)[5] := h.2
  constructor
  · rintro ⟨hstale, hok⟩
    exact ⟨by rwa [← hstatus, ← hfaults], by rwa [← hstatus, ← hfaults]⟩
  · rintro ⟨hstale, hok⟩
    exact ⟨by rwa [hstatus, hfaults], by rwa [hstatus, hfaults]⟩

section Requests

variable (node : ModbusNode) (address function : UInt8) (capacity : Nat)

theorem exceptionResponse_keeps (exception : UInt8) :
    KeepsRegisters node (exceptionResponse node address function exception capacity).node := by
  unfold exceptionResponse
  split_ifs
  · exact ⟨rfl, rfl⟩
  · exact ⟨rfl, rfl⟩

theorem readRegisters_keeps (first quantity : UInt16) :
    KeepsRegisters node (readRegisters node address function first quantity capacity).node := by
  unfold readRegisters
  split_ifs
  · exact exceptionResponse_keeps _ _ _ _ _
  · exact exceptionResponse_keeps _ _ _ _ _
  · exact ⟨rfl, rfl⟩
  · exact ⟨rfl, rfl⟩

theorem writeRegister_keeps (request : List UInt8) (register value : UInt16) (persistOk : Bool) :
    KeepsRegisters node
      (writeRegister node request address function register value capacity persistOk).node := by
  unfold writeRegister
  dsimp only
  split_ifs
  · exact exceptionResponse_keeps _ _ _ _ _
  · exact exceptionResponse_keeps _ _ _ _ _
  · exact ⟨rfl, rfl⟩
  · exact exceptionResponse_keeps _ _ _ _ _
  · exact ⟨rfl, rfl⟩
  · exact ⟨rfl, rfl⟩

theorem handleRequest_keeps (request : List UInt8) (persistOk : Bool) :
    KeepsRegisters node (modbusNodeHandleRequest node request capacity persistOk).node := by
  unfold modbusNodeHandleRequest
  split
  · dsimp only
    split_ifs
    · exact ⟨rfl, rfl⟩
    · exact ⟨rfl, rfl⟩
    · exact readRegisters_keeps _ _ _ _ _ _
    · exact writeRegister_keeps _ _ _ _ _ _ _ _
    · exact exceptionResponse_keeps _ _ _ _ _
  · exact ⟨rfl, rfl⟩

theorem handleRequest_validates (request : List UInt8) (persistOk : Bool)
    (hvalid : modbusNodeConfigValidate node.config = true) :
    modbusNodeConfigValidate (modbusNodeHandleRequest node request capacity persistOk).node.config =
      true := by
  rcases handle_cases node request capacity persistOk with hleaves | ⟨address, value, hrange, -, -, h⟩
  · rw [hleaves.config]
    exact hvalid
  · rw [h]
    exact validate_writtenConfig hvalid hrange

end Requests

/-! ### What a sample records -/

theorem adcRange_or_stale (faults : UInt16) :
    (faults ||| faultAdcRange) &&& faultSampleStale = faults &&& faultSampleStale := by
  rw [UInt16.or_comm]
  exact or_and_of_disjoint (by decide) faults

theorem not_adcRange_and_stale (faults : UInt16) :
    (faults &&& ~~~faultAdcRange) &&& faultSampleStale = faults &&& faultSampleStale := by
  have hkept : ~~~faultAdcRange &&& faultSampleStale = faultSampleStale := by decide
  rw [UInt16.and_assoc, hkept]

theorem readAdc_stale (faults : UInt16) (adc : AdcOutcome) :
    (readAdc faults adc).faults &&& faultSampleStale = faults &&& faultSampleStale ∧
      (readAdc faults adc).status ≠ .stale := by
  cases adc with
  | startFailed => exact ⟨adcRange_or_stale faults, by simp [readAdc]⟩
  | pollFailed => exact ⟨adcRange_or_stale faults, by simp [readAdc]⟩
  | converted value =>
      unfold readAdc
      dsimp only
      split_ifs
      · exact ⟨adcRange_or_stale faults, by simp⟩
      · exact ⟨not_adcRange_and_stale faults, by simp⟩

theorem register_stale (node : ModbusNode) (adcRaw : UInt16) (temperatureCentiC : Int16)
    (status : ModbusSensorStatus) (faults : UInt16) (uptimeMs resetCount : UInt32) :
    (registers (modbusNodeSetMeasurement node adcRaw temperatureCentiC status faults uptimeMs
      resetCount))[5] &&& faultSampleStale = faults &&& faultSampleStale := by
  have hkept : (node.faultFlags &&& 1) &&& faultSampleStale = 0 := by
    rw [UInt16.and_assoc]
    exact UInt16.and_zero
  exact or_and_of_disjoint hkept faults

/-- What a sample leaves in the two registers: a status that is not stale, the stale bit as it was in
`runtime_faults`, and no range fault beside an OK. -/
structure SampleRecorded (before after : Stm32Node) : Prop where
  config : after.node.config = before.node.config
  fresh : (registers after.node)[4] ≠ ModbusSensorStatus.stale.code
  stale : (registers after.node)[5] &&& faultSampleStale = before.runtimeFaults &&& faultSampleStale
  ok : (registers after.node)[4] = ModbusSensorStatus.ok.code →
    (registers after.node)[5] &&& faultAdcRange = 0

theorem sampleFixture_records {state : Stm32Node} (adc : AdcOutcome) (sampleTick uptimeTick : UInt32)
    (hvalid : modbusNodeConfigValidate state.node.config = true) :
    ∃ next, sampleFixture state adc sampleTick uptimeTick = some next ∧ SampleRecorded state next := by
  obtain ⟨htwelve, -, hok, hfault⟩ := readAdc_spec state.runtimeFaults adc
  obtain ⟨hstale, hstatus⟩ := readAdc_stale state.runtimeFaults adc
  have hcalibrate := calibrate_eq hvalid htwelve
  have hfaults := @faults_outside_iff _
    (calibration state.node.config (readAdc state.runtimeFaults adc).adcRaw) hfault
  unfold sampleFixture
  dsimp only
  rw [hcalibrate, Option.bind_eq_bind, Option.bind_some]
  refine ⟨_, rfl, rfl, ?_, ?_, ?_⟩
  · intro hcode
    change ModbusSensorStatus.code _ = _ at hcode
    split_ifs at hcode
    · exact absurd hcode (by decide)
    · revert hcode
      cases hread : (readAdc state.runtimeFaults adc).status with
      | stale => exact absurd hread hstatus
      | ok => decide
      | outOfRange => decide
      | adcError => decide
  · rw [register_stale]
    split_ifs
    · rw [adcRange_or_stale, hstale]
    · exact hstale
  · intro hcode
    rw [register_fault]
    by_contra hraised
    exact hfaults.mp hraised (status_ok_inside hok (code_eq_ok hcode))

/-- The registers agree after a sample if and only if the stale bit was not set. -/
theorem SampleRecorded.agree {before after : Stm32Node} (h : SampleRecorded before after) :
    RegistersAgree after.node ↔ before.runtimeFaults &&& faultSampleStale = 0 := by
  constructor
  · intro hagree
    by_contra hset
    rw [← h.stale] at hset
    exact h.fresh (hagree.stale.mpr hset)
  · intro hclear
    rw [← h.stale] at hclear
    exact ⟨iff_of_false h.fresh (not_not.mpr hclear), fun hok => ⟨h.ok hok, hclear⟩⟩

/-! ### One step -/

theorem interrupt_node (state : Stm32Main) (interrupt : Interrupt) :
    (state.interrupt interrupt).sampled.node = state.sampled.node := by
  cases interrupt with
  | received buffer => rfl
  | periodElapsed => rfl
  | rxEvent buffer size =>
      unfold Stm32Main.interrupt
      dsimp only
      split_ifs
      · rfl
      · rfl
  | uartError buffer => rfl

/-- The registers agree after a missed deadline. -/
theorem overdue_agree (node : ModbusNode) (adcRaw : UInt16) (temperatureCentiC : Int16)
    (faults : UInt16) (uptimeMs resetCount : UInt32) :
    RegistersAgree (modbusNodeSetMeasurement node adcRaw temperatureCentiC .stale
      (faults ||| faultSampleStale) uptimeMs resetCount) := by
  constructor
  · apply iff_of_true
    · rfl
    · rw [register_stale, or_and_mask]
      decide
  · intro hok
    change ModbusSensorStatus.stale.code = ModbusSensorStatus.ok.code at hok
    exact absurd hok (by decide)

theorem serve_node (state : Stm32Main) (persistOk transmitOk : Bool) :
    ∃ request, (state.serve persistOk transmitOk).sampled.node = state.sampled.node ∨
      (state.serve persistOk transmitOk).sampled.node =
        (modbusNodeHandleRequest state.sampled.node request modbusNodeMaxResponse persistOk).node := by
  refine ⟨state.receiveBuffer.toList.take state.receivedLength.toNat, ?_⟩
  unfold Stm32Main.serve
  dsimp only
  split_ifs
  · exact .inr rfl
  · exact .inr rfl
  · exact .inl rfl

/-- What holds between any two steps: the configuration is valid, and the registers agree unless they
were last sampled late. -/
structure LoopInvariant (state : Stm32Main) (late : Bool) : Prop where
  config : modbusNodeConfigValidate state.sampled.node.config = true
  agree : RegistersAgree state.sampled.node ↔ late = false

/-- A node that has not been measured is OK, with at most the fallback bit. -/
theorem init_agree (stored : ModbusNodeConfig) :
    RegistersAgree (modbusNodeInit (some stored) true) := by
  have hstatus : (registers (modbusNodeInit (some stored) true))[4] = ModbusSensorStatus.ok.code := rfl
  have hfaults : (registers (modbusNodeInit (some stored) true))[5] = 0 ∨
      (registers (modbusNodeInit (some stored) true))[5] = 1 := by
    change (if ((some stored).filter modbusNodeConfigValidate).isSome then (0 : UInt16) else 1) = 0 ∨
      (if ((some stored).filter modbusNodeConfigValidate).isSome then (0 : UInt16) else 1) = 1
    split_ifs
    · exact .inl rfl
    · exact .inr rfl
  constructor
  · rw [hstatus]
    rcases hfaults with h | h
    · rw [h]
      decide
    · rw [h]
      decide
  · intro _
    rcases hfaults with h | h
    · rw [h]
      decide
    · rw [h]
      decide

namespace LoopInvariant

theorem start (stored : ModbusNodeConfig) (resetCount : UInt32) :
    LoopInvariant (Stm32Main.start stored resetCount) false where
  config := by
    change modbusNodeConfigValidate
      (((some stored).filter modbusNodeConfigValidate).getD modbusNodeConfigDefaults) = true
    cases hstored : modbusNodeConfigValidate stored with
    | true =>
        rw [Option.filter_some_pos hstored]
        exact hstored
    | false =>
        rw [Option.filter_some_neg hstored]
        exact validate_defaults
  agree := iff_of_true (init_agree stored) rfl

variable {state : Stm32Main} {late : Bool}

/-- A step that keeps the node keeps the invariant. -/
theorem of_node (h : LoopInvariant state late) {next : Stm32Main}
    (hnode : next.sampled.node = state.sampled.node) : LoopInvariant next late := by
  constructor
  · rw [hnode]
    exact h.config
  · rw [hnode]
    exact h.agree

theorem sample (h : LoopInvariant state late) (adc : AdcOutcome) (sampleTick uptimeTick : UInt32) :
    ∃ next, state.sample adc sampleTick uptimeTick = some next ∧
      LoopInvariant next (sampledLate state late (.sample adc sampleTick uptimeTick)) := by
  unfold Stm32Main.sample sampledLate
  dsimp only
  by_cases hdue : state.sampleDue = true
  · obtain ⟨sampled, hsampled, hrecorded⟩ := sampleFixture_records adc sampleTick uptimeTick h.config
    rw [if_pos hdue, if_pos hdue, hsampled]
    refine ⟨_, rfl, ?_, ?_⟩
    · change modbusNodeConfigValidate sampled.node.config = true
      rw [hrecorded.config]
      exact h.config
    · rw [decide_eq_false_iff_not, not_not]
      exact hrecorded.agree
  · rw [if_neg hdue, if_neg hdue]
    exact ⟨_, rfl, h.of_node rfl⟩

theorem checkDeadline (h : LoopInvariant state late) (tick uptimeTick : UInt32) :
    LoopInvariant (state.checkDeadline tick uptimeTick)
      (sampledLate state late (.checkDeadline tick uptimeTick)) := by
  unfold Stm32Main.checkDeadline sampledLate
  dsimp only
  by_cases hoverdue : state.overdue tick = true
  · rw [if_pos hoverdue, if_pos hoverdue]
    exact ⟨h.config, iff_of_true (overdue_agree _ _ _ _ _ _) rfl⟩
  · rw [if_neg hoverdue, if_neg hoverdue]
    exact h.of_node rfl

theorem serve (h : LoopInvariant state late) (persistOk transmitOk : Bool) :
    LoopInvariant (state.serve persistOk transmitOk) late := by
  obtain ⟨request, hsame | hhandled⟩ := serve_node state persistOk transmitOk
  · exact h.of_node hsame
  · constructor
    · rw [hhandled]
      exact handleRequest_validates _ _ _ _ h.config
    · rw [hhandled]
      exact (handleRequest_keeps _ _ _ _).agree.trans h.agree

/-- One step keeps the invariant. -/
theorem step (h : LoopInvariant state late) {step : LoopStep} {next : Stm32Main}
    (hstep : state.step step = some next) : LoopInvariant next (sampledLate state late step) := by
  cases step with
  | interrupt interrupt =>
      obtain rfl := Option.some.inj hstep
      exact h.of_node (interrupt_node state interrupt)
  | sample adc sampleTick uptimeTick =>
      obtain ⟨after, hafter, hinvariant⟩ := h.sample adc sampleTick uptimeTick
      unfold Stm32Main.step at hstep
      dsimp only at hstep
      split_ifs at hstep
      rw [hafter] at hstep
      obtain rfl := Option.some.inj hstep
      exact hinvariant
  | checkDeadline tick uptimeTick =>
      unfold Stm32Main.step at hstep
      dsimp only at hstep
      split_ifs at hstep
      obtain rfl := Option.some.inj hstep
      exact h.checkDeadline tick uptimeTick
  | serve persistOk transmitOk =>
      unfold Stm32Main.step at hstep
      dsimp only at hstep
      split_ifs at hstep
      obtain rfl := Option.some.inj hstep
      exact h.serve persistOk transmitOk

end LoopInvariant

/-! ### Runs -/

theorem LoopRun.invariant {stored : ModbusNodeConfig} {resetCount : UInt32} {state : Stm32Main}
    {late : Bool} (h : LoopRun (Stm32Main.start stored resetCount) state late) :
    LoopInvariant state late := by
  induction h with
  | start => exact LoopInvariant.start stored resetCount
  | step _ hstep ih => exact ih.step hstep

/-- No operation of a run overflows: the step that is next can always be taken. -/
theorem LoopRun.goes_on {stored : ModbusNodeConfig} {resetCount : UInt32} {state : Stm32Main}
    {late : Bool} (h : LoopRun (Stm32Main.start stored resetCount) state late) (adc : AdcOutcome)
    (sampleTick uptimeTick : UInt32) (hplace : state.place = .sampling) :
    ∃ next, state.step (.sample adc sampleTick uptimeTick) = some next := by
  obtain ⟨next, hnext, -⟩ := h.invariant.sample adc sampleTick uptimeTick
  refine ⟨next, ?_⟩
  unfold Stm32Main.step
  dsimp only
  rw [if_pos hplace]
  exact hnext

/-- The steps from a state, with whether the registers end up sampled late. -/
def takeSteps (state : Stm32Main) (late : Bool) : List LoopStep → Option (Stm32Main × Bool)
  | [] => some (state, late)
  | step :: steps => (state.step step).bind fun next => takeSteps next (sampledLate state late step) steps

theorem loopRun_takeSteps {start state final : Stm32Main} {late finalLate : Bool} {steps : List LoopStep}
    (hrun : LoopRun start state late) (hsteps : takeSteps state late steps = some (final, finalLate)) :
    LoopRun start final finalLate := by
  induction steps generalizing state late with
  | nil =>
      obtain ⟨rfl, rfl⟩ := Prod.mk.inj (Option.some.inj hsteps)
      exact hrun
  | cons step steps ih =>
      obtain ⟨next, hnext, hrest⟩ := Option.bind_eq_some_iff.mp hsteps
      exact ih (hrun.step hnext) hrest

/-- A sample, a deadline that is missed since no timer event comes, and a sample again before a
request. -/
def lateSteps : List LoopStep :=
  [.sample (.converted 2048) 0 0, .checkDeadline 0 0, .serve true true,
    .sample (.converted 2048) 0 0, .checkDeadline 501 501, .serve true true,
    .interrupt .periodElapsed, .interrupt (.rxEvent (Vector.replicate rxBufferSize 0) 8),
    .sample (.converted 2048) 600 600, .checkDeadline 600 600]

theorem takeSteps_late : ((takeSteps (Stm32Main.start modbusConfigLayout.zero 1) false lateSteps).any
    fun reached => reached.2 && reached.1.place = .serving && reached.1.frameReady) = true := by
  decide

theorem run_late : ∃ state, LoopRun (Stm32Main.start modbusConfigLayout.zero 1) state true ∧
    state.place = .serving ∧ state.frameReady = true := by
  obtain ⟨⟨state, late⟩, htaken, hreached⟩ := (Option.any_eq_true _ _).mp takeSteps_late
  simp only [Bool.and_eq_true, decide_eq_true_eq] at hreached
  obtain ⟨⟨rfl, hplace⟩, hready⟩ := hreached
  exact ⟨state, loopRun_takeSteps .start htaken, hplace, hready⟩

/-- In every state of a run, those where a request is served among them, the two registers agree if and
only if they were not last written by a sample that was taken while the stale bit was set. -/
theorem registers_agree_iff (stored : ModbusNodeConfig) (resetCount : UInt32) (state : Stm32Main)
    (late : Bool) (hrun : LoopRun (Stm32Main.start stored resetCount) state late) :
    RegistersAgree state.sampled.node ↔ late = false :=
  hrun.invariant.agree

theorem registers_agree_iff_late : ∃ state, LoopRun (Stm32Main.start modbusConfigLayout.zero 1) state true ∧
    (RegistersAgree state.sampled.node ↔ true = false) := by
  obtain ⟨state, hrun, -⟩ := run_late
  exact ⟨state, hrun, registers_agree_iff modbusConfigLayout.zero 1 state true hrun⟩

/-- A request is served from registers that contradict each other. -/
theorem served_late_disagree : ¬ ∀ (stored : ModbusNodeConfig) (resetCount : UInt32) (state : Stm32Main)
    (late : Bool), LoopRun (Stm32Main.start stored resetCount) state late → state.place = .serving →
      state.frameReady = true → RegistersAgree state.sampled.node := by
  intro h
  obtain ⟨state, hrun, hplace, hready⟩ := run_late
  have hagree := h _ _ _ _ hrun hplace hready
  exact Bool.noConfusion (hrun.invariant.agree.mp hagree)

end IiotMonitoring
