import IiotMonitoring.Firmware.ModbusFlash
import IiotMonitoring.Firmware.Stm32Node

/-!
# The main loop of the STM32

The loop of the node's `main.c` and its interrupts. A pass of the loop takes three steps, each whole,
and any interrupt may come between two steps. An interrupt inside a step does what it would before or
after the step, unless the step overwrites the fault bit it raises, and then it is bytes received.
-/

namespace IiotMonitoring

/-- `RX_BUFFER_SIZE`. -/
def rxBufferSize : Nat := 64

/-- `FAULT_SAMPLE_STALE`. -/
def faultSampleStale : UInt16 := (1 : UInt16) <<< 2

/-- `FAULT_UART`. -/
def faultUart : UInt16 := (1 : UInt16) <<< 3

/-- The step of the loop that comes next. -/
inductive LoopPlace where
  | sampling | deadline | serving
  deriving DecidableEq

/-- The static variables of `main.c`. -/
structure Stm32Main where
  sampled : Stm32Node
  receiveBuffer : Vector UInt8 rxBufferSize
  receivedLength : UInt16
  frameReady : Bool
  sampleDue : Bool
  place : LoopPlace

/-- `main` up to its loop. `stored` is what the flash page holds. -/
def Stm32Main.start (stored : ModbusNodeConfig) (resetCount : UInt32) : Stm32Main where
  sampled := ⟨modbusNodeInit (some stored) true, 0, 0, resetCount⟩
  receiveBuffer := Vector.replicate rxBufferSize 0
  receivedLength := 0
  frameReady := false
  sampleDue := true
  place := .sampling

def Stm32Main.raise (state : Stm32Main) (fault : UInt16) : Stm32Main :=
  { state with sampled.runtimeFaults := state.sampled.runtimeFaults ||| fault }

/-! ### Interrupts -/

/-- A callback, or only bytes received, and what reception has left in `receive_buffer` by then. -/
inductive Interrupt where
  | received (buffer : Vector UInt8 rxBufferSize)
  | periodElapsed
  | rxEvent (buffer : Vector UInt8 rxBufferSize) (size : UInt16)
  | uartError (buffer : Vector UInt8 rxBufferSize)

def Stm32Main.interrupt (state : Stm32Main) : Interrupt → Stm32Main
  | .received buffer => { state with receiveBuffer := buffer }
  | .periodElapsed => { state with sampleDue := true }
  | .rxEvent buffer size =>
      if size = 8 ∧ !state.frameReady then
        { state with receiveBuffer := buffer, receivedLength := size, frameReady := true }
      else { state with receiveBuffer := buffer }.raise faultUart
  | .uartError buffer => { state with receiveBuffer := buffer }.raise faultUart

/-! ### The loop -/

/-- `if (sample_due)`. -/
def Stm32Main.sample (state : Stm32Main) (adc : AdcOutcome) (sampleTick uptimeTick : UInt32) :
    Option Stm32Main :=
  if state.sampleDue then
    (sampleFixture state.sampled adc sampleTick uptimeTick).map fun sampled =>
      { state with sampled, sampleDue := false, place := .deadline }
  else some { state with place := .deadline }

/-- `HAL_GetTick() - last_sample_ms > 500U`, on 32-bit words. -/
def Stm32Main.overdue (state : Stm32Main) (tick : UInt32) : Bool :=
  tick - state.sampled.lastSampleMs > 500

/-- The check of the sampling deadline, with the two readings of `HAL_GetTick`. -/
def Stm32Main.checkDeadline (state : Stm32Main) (tick uptimeTick : UInt32) : Stm32Main :=
  if state.overdue tick then
    let node := state.sampled.node
    let faults := state.sampled.runtimeFaults ||| faultSampleStale
    { state with
      sampled := { state.sampled with
        runtimeFaults := faults
        node := modbusNodeSetMeasurement node node.adcRaw node.temperatureCentiC .stale faults uptimeTick
          state.sampled.resetCount }
      place := .serving }
  else
    { state with
      sampled := { state.sampled with
        runtimeFaults := state.sampled.runtimeFaults &&& ~~~faultSampleStale }
      place := .serving }

/-- `if (frame_ready)`. `persistOk` is what `persist_config` answers, `transmitOk` whether
`HAL_UART_Transmit` returns `HAL_OK`. -/
def Stm32Main.serve (state : Stm32Main) (persistOk transmitOk : Bool) : Stm32Main :=
  if state.frameReady then
    let request := state.receiveBuffer.toList.take state.receivedLength.toNat
    let handled := modbusNodeHandleRequest state.sampled.node request modbusNodeMaxResponse persistOk
    let served := { state with
      sampled := { state.sampled with node := handled.node }
      frameReady := false
      place := .sampling }
    if handled.response.isSome && !transmitOk then served.raise faultUart else served
  else { state with place := .sampling }

inductive LoopStep where
  | interrupt (interrupt : Interrupt)
  | sample (adc : AdcOutcome) (sampleTick uptimeTick : UInt32)
  | checkDeadline (tick uptimeTick : UInt32)
  | serve (persistOk transmitOk : Bool)

/-- `none` where the step is not next, and where a signed operation overflows. -/
def Stm32Main.step (state : Stm32Main) : LoopStep → Option Stm32Main
  | .interrupt interrupt => some (state.interrupt interrupt)
  | .sample adc sampleTick uptimeTick =>
      if state.place = .sampling then state.sample adc sampleTick uptimeTick else none
  | .checkDeadline tick uptimeTick =>
      if state.place = .deadline then some (state.checkDeadline tick uptimeTick) else none
  | .serve persistOk transmitOk =>
      if state.place = .serving then some (state.serve persistOk transmitOk) else none

end IiotMonitoring
