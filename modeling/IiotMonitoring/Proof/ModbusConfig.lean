import IiotMonitoring.Lib.Run
import IiotMonitoring.Proof.ModbusRequests

/-!
# The configuration over a node's life

Requests, measurements and the answers of `persist_config` come in any order. The run keeps, beside
the node, what was last persisted and how many writes were echoed.
-/

namespace IiotMonitoring

inductive ModbusEvent where
  | request (frame : List UInt8) (responseCapacity : Nat) (persistOk : Bool)
  | measurement (adcRaw : UInt16) (temperatureCentiC : Int16) (sensorStatus : ModbusSensorStatus)
    (faultFlags : UInt16) (uptimeMs resetCount : UInt32)

structure ModbusRun where
  node : ModbusNode
  lastPersisted : Option ModbusNodeConfig
  echoes : Nat

def ModbusRun.start (config : Option ModbusNodeConfig) : ModbusRun :=
  ⟨modbusNodeInit config true, none, 0⟩

/-- The event is a request that the node answers by echoing it. -/
def Echoed (node : ModbusNode) : ModbusEvent → Prop
  | .request frame responseCapacity persistOk =>
      (modbusNodeHandleRequest node frame responseCapacity persistOk).response = some frame
  | .measurement .. => False

instance (node : ModbusNode) (event : ModbusEvent) : Decidable (Echoed node event) := by
  unfold Echoed
  split <;> infer_instance

def modbusStep (run : ModbusRun) (event : ModbusEvent) : ModbusRun :=
  match event with
  | .request frame responseCapacity persistOk =>
      let handled := modbusNodeHandleRequest run.node frame responseCapacity persistOk
      { node := handled.node
        lastPersisted :=
          match handled.persisted with
          | some (config, true) => some config
          | _ => run.lastPersisted
        echoes := if Echoed run.node event then run.echoes + 1 else run.echoes }
  | .measurement adcRaw temperatureCentiC sensorStatus faultFlags uptimeMs resetCount =>
      { run with
        node := modbusNodeSetMeasurement run.node adcRaw temperatureCentiC sensorStatus faultFlags
          uptimeMs resetCount }

/-! ### Valid configurations -/

/-- The checksum covers the fields before it. -/
theorem checksum_eq (config : ModbusNodeConfig) :
    modbusNodeConfigChecksum config = iiotCrc32 (modbusConfigHeaderLayout.encode
      (config.magic, config.schemaVersion, config.structSize, config.generation,
        config.nodeAddress, config.reserved, config.calibrationOffsetCentiC.toUInt16,
        config.calibrationGainQ15)) :=
  congrArg iiotCrc32 (Layout.take_encode_pair _ _ _)

/-- A finalized configuration is valid if its settings are in range. -/
theorem validate_finalize {config : ModbusNodeConfig} (haddress : 1 ≤ config.nodeAddress)
    (haddress' : config.nodeAddress ≤ 247) (hoffset : -5000 ≤ config.calibrationOffsetCentiC)
    (hoffset' : config.calibrationOffsetCentiC ≤ 5000) (hgain : 16384 ≤ config.calibrationGainQ15) :
    modbusNodeConfigValidate (modbusNodeConfigFinalize config) = true := by
  simp [modbusNodeConfigValidate, modbusNodeConfigFinalize, checksum_eq, haddress, haddress',
    hoffset, hoffset', hgain]

theorem validate_defaults : modbusNodeConfigValidate modbusNodeConfigDefaults = true := by
  apply validate_finalize <;> decide

/-- A write in range keeps a valid configuration valid. -/
theorem validate_writtenConfig {config : ModbusNodeConfig} {address value : UInt16}
    (hvalid : modbusNodeConfigValidate config = true)
    (hrange : WriteInRange address.toNat value.toNat) :
    modbusNodeConfigValidate (writtenConfig config address value) = true := by
  simp only [modbusNodeConfigValidate, decide_eq_true_eq] at hvalid
  obtain ⟨-, -, -, haddress, haddress', hoffset, hoffset', hgain, -⟩ := hvalid
  have hvalue := (writeValueIsValid_iff hrange.writable).mpr hrange
  rcases hrange.writable with h | h | h
  · obtain rfl : address = 2 := UInt16.toNat.inj h
    simp [writeValueIsValid, UInt16.le_iff_toNat_le] at hvalue
    apply validate_finalize <;> simp [UInt8.le_iff_toNat_le, hoffset, hoffset', hgain]
    · omega
    · omega
  · obtain rfl : address = 16 := UInt16.toNat.inj h
    simp [writeValueIsValid] at hvalue
    exact validate_finalize haddress haddress' hvalue.1 hvalue.2 hgain
  · obtain rfl : address = 17 := UInt16.toNat.inj h
    simp [writeValueIsValid] at hvalue
    exact validate_finalize haddress haddress' hoffset hoffset' hvalue

/-! ### Runs -/

/-- The configuration is valid and the one last persisted, and the generation counts the echoes. -/
structure ModbusRun.Sound (initial : ModbusNodeConfig) (run : ModbusRun) : Prop where
  valid : modbusNodeConfigValidate run.node.config = true
  callback : run.node.persistConfig = true
  persisted : run.node.config = run.lastPersisted.getD initial
  generation : run.node.config.generation = initial.generation + UInt32.ofNat run.echoes

theorem sound_start (config : Option ModbusNodeConfig) :
    (ModbusRun.start config).Sound (ModbusRun.start config).node.config where
  valid := by
    simp only [ModbusRun.start, modbusNodeInit]
    cases haccepted : config.filter modbusNodeConfigValidate with
    | none => exact validate_defaults
    | some accepted => exact (Option.filter_eq_some_iff.mp haccepted).2
  callback := rfl
  persisted := rfl
  generation := by simp [ModbusRun.start]

/-- A request that leaves the configuration leaves the record of the run too. -/
theorem modbusStep_leaves {run : ModbusRun} {frame : List UInt8} {responseCapacity : Nat}
    {persistOk : Bool}
    (hleaves : LeavesConfig run.node frame responseCapacity
      (modbusNodeHandleRequest run.node frame responseCapacity persistOk)) :
    modbusStep run (.request frame responseCapacity persistOk) =
      { run with
        node := (modbusNodeHandleRequest run.node frame responseCapacity persistOk).node } := by
  have hecho : ¬ Echoed run.node (.request frame responseCapacity persistOk) := hleaves.unechoed
  simp only [modbusStep, hecho, if_false]
  split
  next config hpersisted => exact absurd hpersisted (hleaves.persisted config)
  next => rfl

/-- A write that is echoed was persisted. -/
theorem modbusStep_written {run : ModbusRun} {frame : List UInt8} {responseCapacity : Nat}
    {persistOk : Bool} {node : ModbusNode} {config : ModbusNodeConfig}
    (heq : modbusNodeHandleRequest run.node frame responseCapacity persistOk =
      ⟨node, some frame, some (config, true)⟩) :
    modbusStep run (.request frame responseCapacity persistOk) =
      ⟨node, some config, run.echoes + 1⟩ := by
  have hecho : Echoed run.node (.request frame responseCapacity persistOk) := by rw [Echoed, heq]
  simp only [modbusStep, hecho, if_true, heq]

/-- An event that is not an echoed write leaves the configuration. -/
theorem config_of_not_echoed {run : ModbusRun} {event : ModbusEvent}
    (hecho : ¬ Echoed run.node event) : (modbusStep run event).node.config = run.node.config := by
  cases event with
  | measurement => rfl
  | request frame responseCapacity persistOk =>
      rcases handle_cases run.node frame responseCapacity persistOk with
        hleaves | ⟨_, _, _, _, _, heq⟩
      · exact hleaves.config
      · refine absurd ?_ hecho
        rw [Echoed, heq]

theorem generation_of_echoed {run : ModbusRun} {event : ModbusEvent}
    (hecho : Echoed run.node event) :
    (modbusStep run event).node.config.generation = run.node.config.generation + 1 := by
  cases event with
  | measurement => exact hecho.elim
  | request frame responseCapacity persistOk =>
      rcases handle_cases run.node frame responseCapacity persistOk with
        hleaves | ⟨address, value, _, _, _, heq⟩
      · exact absurd hecho hleaves.unechoed
      · have hnode : (modbusStep run (.request frame responseCapacity persistOk)).node =
            (modbusNodeHandleRequest run.node frame responseCapacity persistOk).node := rfl
        rw [hnode, heq, writtenConfig_generation]

theorem ModbusRun.Sound.step {initial : ModbusNodeConfig} {run : ModbusRun}
    (hrun : run.Sound initial) (event : ModbusEvent) : (modbusStep run event).Sound initial := by
  cases event with
  | measurement => exact ⟨hrun.valid, hrun.callback, hrun.persisted, hrun.generation⟩
  | request frame responseCapacity persistOk =>
      rcases handle_cases run.node frame responseCapacity persistOk with
        hleaves | ⟨address, value, hrange, -, -, heq⟩
      · rw [modbusStep_leaves hleaves]
        exact ⟨hleaves.config ▸ hrun.valid, hleaves.callback.trans hrun.callback,
          hleaves.config.trans hrun.persisted,
          (congrArg ModbusNodeConfig.generation hleaves.config).trans hrun.generation⟩
      · rw [hrun.callback, if_pos rfl] at heq
        rw [modbusStep_written heq]
        refine ⟨validate_writtenConfig hrun.valid hrange, rfl, rfl, ?_⟩
        rw [writtenConfig_generation, hrun.generation, UInt32.add_assoc, UInt32.ofNat_add]
        rfl

/-- **The configuration over a run.** In every state the configuration is valid and the one last
persisted, and its generation is the initial one plus the number of echoed writes. Every step that
is not an echoed write leaves it as it was. -/
theorem modbus_config_persisted (config : Option ModbusNodeConfig) (events : List ModbusEvent) :
    StatesMeet modbusStep (ModbusRun.Sound (ModbusRun.start config).node.config)
        (ModbusRun.start config) events ∧
      StepsMeet modbusStep
        (fun run event => if Echoed run.node event then
            (modbusStep run event).node.config.generation = run.node.config.generation + 1
          else (modbusStep run event).node.config = run.node.config)
        (ModbusRun.start config) events := by
  have hstep : ∀ run event, ModbusRun.Sound (ModbusRun.start config).node.config run →
      (modbusStep run event).Sound (ModbusRun.start config).node.config :=
    fun run event hrun => hrun.step event
  refine ⟨statesMeet_of_invariant hstep (sound_start config) events, ?_⟩
  apply stepsMeet_of_forall
  intro run event
  by_cases hecho : Echoed run.node event
  · rw [if_pos hecho]
    exact generation_of_echoed hecho
  · rw [if_neg hecho]
    exact config_of_not_echoed hecho

end IiotMonitoring
