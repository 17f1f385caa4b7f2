import IiotMonitoring.Lib.FloatNumber
import IiotMonitoring.Lib.Exceptions
import IiotMonitoring.Lib.Json
import IiotMonitoring.Lib.JsonParse
import IiotMonitoring.Lib.JsonReader
import IiotMonitoring.Lib.JsonReadBack
import IiotMonitoring.Lib.JsonSchema
import IiotMonitoring.Lib.TextEncoding
import IiotMonitoring.Lib.JsonText
import IiotMonitoring.Lib.Layout
import IiotMonitoring.Lib.Program
import IiotMonitoring.Lib.Ring
import IiotMonitoring.Lib.Run
import IiotMonitoring.Lib.ShiftRegister
import IiotMonitoring.Lib.SlidingWindow
import IiotMonitoring.Lib.Words
import IiotMonitoring.Lib.CText
import IiotMonitoring.Firmware.Telemetry
import IiotMonitoring.Firmware.Nvs
import IiotMonitoring.Firmware.OfflineQueue
import IiotMonitoring.Firmware.OfflineStore
import IiotMonitoring.Firmware.OfflineRun
import IiotMonitoring.Firmware.TelemetryTasks
import IiotMonitoring.Firmware.Command
import IiotMonitoring.Firmware.RelayTasks
import IiotMonitoring.Firmware.ModbusNode
import IiotMonitoring.Firmware.ModbusFlash
import IiotMonitoring.Firmware.Thresholds
import IiotMonitoring.Firmware.GatewayConfig
import IiotMonitoring.Firmware.Provisioning
import IiotMonitoring.Firmware.SequenceNumbers
import IiotMonitoring.Simulator.DeterministicNode
import IiotMonitoring.Server.Command
import IiotMonitoring.Server.Ingestion
import IiotMonitoring.Server.IngestRace
import IiotMonitoring.Server.Alarms
import IiotMonitoring.Server.Contract
import IiotMonitoring.Server.TelemetrySchema
import IiotMonitoring.Server.Ingestor
import IiotMonitoring.Worker.Features
import IiotMonitoring.Worker.SensorRules
import IiotMonitoring.Worker.Modeling
import IiotMonitoring.Worker.Artifact
import IiotMonitoring.Worker.Worker
import IiotMonitoring.Worker.Training
import IiotMonitoring.Proof.NvsRules
import IiotMonitoring.Proof.OfflineStored
import IiotMonitoring.Proof.OfflineOutcomes
import IiotMonitoring.Proof.OfflineLoad
import IiotMonitoring.Proof.OfflineRing
import IiotMonitoring.Proof.OfflineCrash
import IiotMonitoring.Proof.OfflineFaults
import IiotMonitoring.Proof.TelemetryTasks
import IiotMonitoring.Proof.TelemetryOrder
import IiotMonitoring.Proof.RelayTasks
import IiotMonitoring.Proof.CommandOnce
import IiotMonitoring.Proof.CommandAck
import IiotMonitoring.Proof.CommandRace
import IiotMonitoring.Proof.IngestAlarms
import IiotMonitoring.Proof.IngestAlone
import IiotMonitoring.Proof.IngestRace
import IiotMonitoring.Proof.ModbusRequests
import IiotMonitoring.Proof.ModbusConfig
import IiotMonitoring.Proof.ModbusFlash
import IiotMonitoring.Proof.ModbusSimulator
import IiotMonitoring.Proof.ModbusCrc
import IiotMonitoring.Proof.StoredChecksums
import IiotMonitoring.Proof.ConfigLoad
import IiotMonitoring.Proof.GatewayHysteresis
import IiotMonitoring.Proof.CommandExpiry
import IiotMonitoring.Proof.Provisioning
import IiotMonitoring.Proof.ConsoleLines
import IiotMonitoring.Proof.SequenceNumbers
import IiotMonitoring.Proof.AlarmLevel
import IiotMonitoring.Proof.AlarmHysteresis
import IiotMonitoring.Proof.IngestOnce
import IiotMonitoring.Proof.IngestReplay
import IiotMonitoring.Proof.AlarmLifecycle
import IiotMonitoring.Proof.ContractVerdicts
import IiotMonitoring.Proof.ContractFields
import IiotMonitoring.Proof.ContractAgree
import IiotMonitoring.Proof.MessageOutcomes
import IiotMonitoring.Proof.ArtifactLoad
import IiotMonitoring.Proof.ScoringCall
import IiotMonitoring.Proof.ScoringProgress
import IiotMonitoring.Proof.FeatureWindows
import IiotMonitoring.Proof.ScoringWindows
import IiotMonitoring.Proof.WorkerAlarms
import IiotMonitoring.Proof.ArtifactFaults
import IiotMonitoring.Proof.DeterministicRules
import IiotMonitoring.Lib.Firsts
import IiotMonitoring.Lib.SortedEnds
import IiotMonitoring.Proof.ScoringOutcome
import IiotMonitoring.Proof.AnomalyAlarm
import IiotMonitoring.Proof.SensorRules
import IiotMonitoring.Proof.SensorReasons
import IiotMonitoring.Proof.SensorAlarm
import IiotMonitoring.Web.TelemetryChart
import IiotMonitoring.Proof.ChartMarkers
import IiotMonitoring.Proof.MetadataFile
import IiotMonitoring.Proof.ArtifactSave
import IiotMonitoring.Proof.TrainingRuns
import IiotMonitoring.Proof.TrainingCrash
import IiotMonitoring.Proof.TrainingEffect
import IiotMonitoring.Lib.CFormat
import IiotMonitoring.Lib.Thinning
import IiotMonitoring.Lib.UrlPath
import IiotMonitoring.Firmware.Stm32Node
import IiotMonitoring.Proof.Stm32Sample
import IiotMonitoring.Firmware.ModbusPoll
import IiotMonitoring.Proof.ModbusPoll
import IiotMonitoring.Firmware.Topics
import IiotMonitoring.Server.Topics
import IiotMonitoring.Proof.Topics
import IiotMonitoring.Firmware.Network
import IiotMonitoring.Proof.NetworkStrings
import IiotMonitoring.Proof.ChartPoints
import IiotMonitoring.Server.Live
import IiotMonitoring.Proof.LiveBroadcast
import IiotMonitoring.Server.Routes
import IiotMonitoring.Web.BackendProxy
import IiotMonitoring.Proof.BackendProxy
import IiotMonitoring.Proof.FeatureRuns
import IiotMonitoring.Lib.Means
import IiotMonitoring.Firmware.SampleWindow
import IiotMonitoring.Proof.SampleWindow
import IiotMonitoring.Lib.DecimalFormat
import IiotMonitoring.Lib.JsonWritten
import IiotMonitoring.Firmware.Serialize
import IiotMonitoring.Proof.TelemetryDocument
import IiotMonitoring.Proof.Serialize
import IiotMonitoring.Firmware.Stm32Main
import IiotMonitoring.Proof.StaleRegisters
import IiotMonitoring.Lib.Uuid
import IiotMonitoring.Server.CommandPayload
import IiotMonitoring.Firmware.CJsonTree
import IiotMonitoring.Firmware.AckPublish
import IiotMonitoring.Proof.CommandTexts
import IiotMonitoring.Proof.IssuedCommand
import IiotMonitoring.Proof.PublishedAck
import IiotMonitoring.Proof.CommandExchange
import IiotMonitoring.Firmware.Aggregation
import IiotMonitoring.Proof.Aggregation
import IiotMonitoring.Proof.TelemetryAccepted
import IiotMonitoring.Proof.PublishedRecord
import IiotMonitoring.Proof.StoredMeasurements
import IiotMonitoring.Proof.TelemetryDelivery
import IiotMonitoring.Firmware.HealthReport
import IiotMonitoring.Proof.HealthReport
import IiotMonitoring.Proof.HealthShown
import IiotMonitoring.Lib.Interleaving
import IiotMonitoring.Server.Operators
import IiotMonitoring.Proof.Operators
import IiotMonitoring.Proof.OperatorAudit
import IiotMonitoring.Proof.OperatorRuns
import IiotMonitoring.Proof.OperatorReplies
import IiotMonitoring.Proof.ThresholdRace
import IiotMonitoring.Proof.OutsideCalls
import IiotMonitoring.System.TelemetryPipeline
import IiotMonitoring.Proof.PipelineGateway
import IiotMonitoring.Proof.HandledTelemetry
import IiotMonitoring.Proof.PipelineDelivery
import IiotMonitoring.Proof.PipelineOnce
import IiotMonitoring.Proof.PipelineRuns
import IiotMonitoring.Lib.Csv
import IiotMonitoring.Server.TelemetryQuery
import IiotMonitoring.Proof.TelemetryExport
import IiotMonitoring.Server.LiveAccess
import IiotMonitoring.Proof.LiveAccess
