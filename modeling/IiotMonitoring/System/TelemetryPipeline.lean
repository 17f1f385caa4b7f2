import IiotMonitoring.Firmware.Aggregation
import IiotMonitoring.Firmware.TelemetryTasks
import IiotMonitoring.Server.CommandPayload
import IiotMonitoring.Server.Ingestor

/-!
# Telemetry from the samples to the tables

The gateway's telemetry tasks, the broker and the ingestor, side by side. The power of the gateway can
go at any point, also between the NVS calls of a critical section, and then the next boot loads what
the flash holds. No NVS call fails. The broker hands on a message it took in any order and any number of
times, or not at all. Other devices publish messages of their own, and other processes change tables.
-/

namespace IiotMonitoring

/-! ### The gateway -/

/-- The program on both sides: the configuration and the build of the gateway with its arithmetic, and
what the ingestor calls. -/
structure PipelineParts (K : Type) where
  simulation : Bool
  config : IiotConfig
  sqrtf : K → K
  convert : K → CFloat
  limits : JsonLimits
  pydantic : Pydantic
  format : FloatFormat
  storesText : String → Bool

/-- A window that the aggregation has filled, and what the task read then. -/
structure FilledWindow (K : Type) where
  samples : List (IiotSample K)
  reads : AggregationReads

/-- A running gateway. `samples` are those of the window that is being filled; no function reads them. -/
structure RunningGateway (K : Type) where
  aggregation : Aggregation K
  samples : List (IiotSample K)
  tasks : TelemetryTasks

/-- What a gateway without power keeps. -/
structure GatewayFlash where
  nvs : Nvs
  sequenceHi : Option UInt64

inductive Gateway (K : Type) where
  | off (flash : GatewayFlash)
  | running (gateway : RunningGateway K)

/-! ### The pipeline -/

/-- A message that the broker took, and the record it was written from, which nothing reads. -/
structure BrokerMessage where
  topic : List UInt8
  payload : List UInt8
  record : IiotTelemetry

/-- `publish_telemetry` wrote the message, whatever its arrays held before. -/
def BrokerMessage.Written (config : IiotConfig) (message : BrokerMessage) : Prop :=
  ∃ (payload : Memory) (topic : Vector UInt8 iiotTopicMax),
    publishTelemetry true config payload topic message.record = some (message.topic, message.payload)

/-- `filled` records the windows filled so far; no function reads it. -/
structure TelemetryPipeline (K : Type) where
  gateway : Gateway K
  broker : List BrokerMessage
  server : ServerTables
  filled : List (FilledWindow K)

inductive PipelineEvent (K : Type) where
  | collect (sample : IiotSample K)
  | fill (sample : IiotSample K) (reads : AggregationReads)
  | task (event : TelemetryEvent)
  | number
  | powerLoss
  | boot
  | deliver (message : BrokerMessage) (clock : MessageClock)
  | message (topic : Text) (payload : List UInt8) (clock : MessageClock)
  | others

section Steps

variable {K : Type} [Field K] [LinearOrder K] (parts : PipelineParts K)

/-- `handle_message` on the tables. -/
def PipelineParts.handle (clock : MessageClock) (tables : ServerTables) (topic : Text)
    (payload : List UInt8) : Handled :=
  handleMessage parts.limits parts.pydantic parts.format parts.storesText clock tables topic payload

/-- The record that the task makes of a window. -/
def PipelineParts.record (measurements : WindowMeasurements K) (reads : AggregationReads) :
    IiotTelemetry :=
  aggregatedTelemetry parts.simulation parts.config reads (measurements.stored parts.convert)

/-- The gateway as it starts on a ring that was loaded. -/
def PipelineParts.start (offline : OfflineState) (nvs : Nvs) (sequenceHi : Option UInt64) :
    RunningGateway K where
  aggregation := .start parts.config.expectedSamples
  samples := []
  tasks := .start offline nvs sequenceHi

/-- One step of a part. -/
inductive PipelineStep : TelemetryPipeline K → PipelineEvent K → TelemetryPipeline K → Prop where
  /-- A sample that does not fill the window. -/
  | collect {state : TelemetryPipeline K} {gateway : RunningGateway K} {sample : IiotSample K}
      {aggregation : Aggregation K} (hgateway : state.gateway = .running gateway)
      (hpoint : gateway.tasks.aggregation = .sampling)
      (hreceive : gateway.aggregation.receive parts.sqrtf parts.config.expectedSamples sample =
        (none, aggregation)) :
      PipelineStep state (.collect sample)
        { state with
          gateway := .running
            { gateway with aggregation := aggregation, samples := gateway.samples ++ [sample] } }
  /-- A sample that does, and the record of the window. -/
  | fill {state : TelemetryPipeline K} {gateway : RunningGateway K} {sample : IiotSample K}
      {reads : AggregationReads} {measurements : WindowMeasurements K} {aggregation : Aggregation K}
      (hgateway : state.gateway = .running gateway)
      (hpoint : gateway.tasks.aggregation = .sampling)
      (hreceive : gateway.aggregation.receive parts.sqrtf parts.config.expectedSamples sample =
        (some measurements, aggregation)) :
      PipelineStep state (.fill sample reads)
        { state with
          gateway := .running
            { aggregation := aggregation
              samples := []
              tasks := telemetryStep gateway.tasks (.aggregate (parts.record measurements reads)) }
          filled := state.filled ++ [{
            samples := gateway.samples ++ [sample]
            reads := { reads with sequence := (gatewayNextSequence gateway.tasks.sequence).1 } }] }
  /-- A step of the tasks or the link, with the messages it publishes. -/
  | task {state : TelemetryPipeline K} {gateway : RunningGateway K} {event : TelemetryEvent}
      {messages : List BrokerMessage} (hgateway : state.gateway = .running gateway)
      (hevent : ∀ telemetry, event ≠ .aggregate telemetry)
      (hpublished : (telemetryStep gateway.tasks event).published =
        gateway.tasks.published ++ messages.map BrokerMessage.record)
      (hwritten : ∀ message ∈ messages, message.Written parts.config) :
      PipelineStep state (.task event)
        { state with
          gateway := .running { gateway with tasks := telemetryStep gateway.tasks event }
          broker := state.broker ++ messages }
  /-- A health report or a threshold event takes a sequence number. -/
  | number {state : TelemetryPipeline K} {gateway : RunningGateway K}
      (hgateway : state.gateway = .running gateway) :
      PipelineStep state .number
        { state with
          gateway := .running
            { gateway with
              tasks :=
                { gateway.tasks with sequence := (gatewayNextSequence gateway.tasks.sequence).2 } } }
  /-- The power goes between two steps. -/
  | powerLoss {state : TelemetryPipeline K} {gateway : RunningGateway K}
      (hgateway : state.gateway = .running gateway) :
      PipelineStep state .powerLoss
        { state with gateway := .off ⟨gateway.tasks.nvs, gateway.tasks.sequence.sequenceHi⟩ }
  /-- It goes after a block of sequence numbers was reserved. -/
  | reserving {state : TelemetryPipeline K} {gateway : RunningGateway K}
      (hgateway : state.gateway = .running gateway) :
      PipelineStep state .powerLoss
        { state with gateway := .off ⟨gateway.tasks.nvs, gateway.tasks.sequence.reserve.sequenceHi⟩ }
  /-- It goes while a record is stored. -/
  | storing {state : TelemetryPipeline K} {gateway : RunningGateway K} {telemetry : IiotTelemetry}
      {trace : List (Program.Answered NvsAnswer)} {nvs : Nvs}
      (hgateway : state.gateway = .running gateway)
      (hpoint : gateway.tasks.aggregation = .storing telemetry ∨
        gateway.tasks.communication = .storing telemetry)
      (hrun : Program.Exec (nvsAnswers False) (gatewayOfflinePush gateway.tasks.offline telemetry)
        gateway.tasks.nvs trace none nvs) :
      PipelineStep state .powerLoss
        { state with gateway := .off ⟨nvs, gateway.tasks.sequence.sequenceHi⟩ }
  /-- It goes while a record is removed. -/
  | removing {state : TelemetryPipeline K} {gateway : RunningGateway K} {replay : IiotTelemetry}
      {trace : List (Program.Answered NvsAnswer)} {nvs : Nvs}
      (hgateway : state.gateway = .running gateway)
      (hpoint : gateway.tasks.communication = .popping replay)
      (hrun : Program.Exec (nvsAnswers False) (gatewayOfflinePop gateway.tasks.offline)
        gateway.tasks.nvs trace none nvs) :
      PipelineStep state .powerLoss
        { state with gateway := .off ⟨nvs, gateway.tasks.sequence.sequenceHi⟩ }
  /-- It goes while the ring is loaded. -/
  | loading {state : TelemetryPipeline K} {flash : GatewayFlash}
      {trace : List (Program.Answered NvsAnswer)} {nvs : Nvs} (hgateway : state.gateway = .off flash)
      (hrun : Program.Exec (nvsAnswers False)
        (gatewayOfflineLoad parts.config.offlineCapacity.toNat) flash.nvs trace none nvs) :
      PipelineStep state .powerLoss { state with gateway := .off ⟨nvs, flash.sequenceHi⟩ }
  | boot {state : TelemetryPipeline K} {flash : GatewayFlash}
      {trace : List (Program.Answered NvsAnswer)} {loaded : Bool × OfflineState} {nvs : Nvs}
      (hgateway : state.gateway = .off flash)
      (hrun : Program.Exec (nvsAnswers False)
        (gatewayOfflineLoad parts.config.offlineCapacity.toNat) flash.nvs trace (some loaded) nvs) :
      PipelineStep state .boot
        { state with gateway := .running (parts.start loaded.2 nvs flash.sequenceHi) }
  /-- The broker hands on a message of the gateway. -/
  | deliver {state : TelemetryPipeline K} {message : BrokerMessage} {clock : MessageClock}
      {topic : Text} (hmessage : message ∈ state.broker)
      (htopic : decodeUtf8 message.topic = some topic) :
      PipelineStep state (.deliver message clock)
        { state with server := (parts.handle clock state.server topic message.payload).2 }
  /-- It hands on another one. -/
  | message {state : TelemetryPipeline K} {topic : Text} {payload : List UInt8} {clock : MessageClock} :
      PipelineStep state (.message topic payload clock)
        { state with server := (parts.handle clock state.server topic payload).2 }
  /-- A process that writes no telemetry. -/
  | others {state : TelemetryPipeline K} {tables : ServerTables}
      (htelemetry : tables.db.telemetry = state.server.db.telemetry) :
      PipelineStep state .others { state with server := tables }

/-! ### Assumptions -/

/-- The device is not registered at another site. -/
def Database.AtSite (db : Database) (siteId deviceId : String) : Prop :=
  ∀ device, db.devices deviceId = some device → device.siteId = siteId

/-- The message identifier of a window is new. -/
structure TelemetryPipeline.NewIdentifier (state : TelemetryPipeline K) (reads : AggregationReads) :
    Prop where
  windows : ∀ window ∈ state.filled, uuid4 window.reads.random ≠ uuid4 reads.random
  rows : ∀ row ∈ state.server.db.telemetry, row.messageId ≠ uuid4 reads.random

/-- The numbers of the next block stay in their column. -/
def TelemetryPipeline.SequenceRoom (state : TelemetryPipeline K) : Prop :=
  ∀ gateway, state.gateway = .running gateway →
    (gateway.tasks.sequence.sequenceHi.getD 0).toNat + sequenceReservation.toNat < 2 ^ 63

/-- What the system does not see to itself: random identifiers differ, the sequence numbers stay in their
column, and no one else speaks for the device. -/
def Undisturbed (siteId deviceId : String) (state : TelemetryPipeline K) :
    PipelineEvent K → TelemetryPipeline K → Prop
  | .fill _ reads, _ => state.NewIdentifier reads ∧ state.SequenceRoom
  | .number, _ | .powerLoss, _ => state.SequenceRoom
  | .message topic payload _, _ =>
      (∀ parsed, parseTopic topic = .ok parsed → parsed.deviceId = codes deviceId →
        parsed.siteId = codes siteId ∧ parsed.kind ≠ .telemetry) ∧
      ∀ envelope, decodePayload parts.limits parts.pydantic topic payload = .ok envelope →
        ∀ window ∈ state.filled, envelope.messageId ≠ uuid4 window.reads.random
  | .others, after => after.server.db.AtSite siteId deviceId
  | _, _ => True

/-- Nothing of the device was stored yet. -/
structure TelemetryPipeline.Fresh (siteId deviceId : String) (state : TelemetryPipeline K) : Prop where
  flash : ∃ flash, state.gateway = .off flash ∧ flash.nvs "queue_meta" = none ∧
    flash.nvs "q_pending" = none
  broker : state.broker = []
  filled : state.filled = []
  messages : (state.server.db.telemetry.map (·.messageId)).Nodup
  sequences : (state.server.db.telemetry.map fun row => (row.deviceId, row.sequence)).Nodup
  rows : ∀ row ∈ state.server.db.telemetry, row.deviceId ≠ deviceId
  site : state.server.db.AtSite siteId deviceId

/-- A run in which no one else speaks for the device. -/
abbrev PipelineRun (siteId deviceId : String) (start : TelemetryPipeline K) :
    List (PipelineEvent K) → TelemetryPipeline K → Prop :=
  Trail (fun state event after =>
    PipelineStep parts state event after ∧ Undisturbed parts siteId deviceId state event after) start

end Steps

end IiotMonitoring
