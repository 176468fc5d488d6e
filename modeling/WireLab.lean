import WireLab.Base.Blocks
import WireLab.Base.Bytes
import WireLab.Base.Cells
import WireLab.Base.Checked
import WireLab.Base.Chunks
import WireLab.Base.Counters
import WireLab.Base.Dict
import WireLab.Base.Group
import WireLab.Base.JsonSyntax
import WireLab.Base.JsonText
import WireLab.Base.JsonTree
import WireLab.Base.Launch
import WireLab.Base.Loop
import WireLab.Base.Memory
import WireLab.Base.Numbered
import WireLab.Base.OnesComplement
import WireLab.Base.Pacing
import WireLab.Base.Parties
import WireLab.Base.Ring
import WireLab.Base.SnapshotStore
import WireLab.Base.SortMerge
import WireLab.Base.TSys
import WireLab.Base.Tally
import WireLab.Model.AnalysisPipeline
import WireLab.Model.AnomalyDetector
import WireLab.Model.Benchmark
import WireLab.Model.BenchmarkDevices
import WireLab.Model.CaptureReplay
import WireLab.Model.ControlClient
import WireLab.Model.ControlJson
import WireLab.Model.ControlJsonWriter
import WireLab.Model.ControlProtocol
import WireLab.Model.ControlServer
import WireLab.Model.ControlService
import WireLab.Model.Desktop
import WireLab.Model.DevicePacketParsers
import WireLab.Model.DeviceTrafficGenerator
import WireLab.Model.EthernetFrame
import WireLab.Model.FaultEngine
import WireLab.Model.PacketAnalysis
import WireLab.Model.PacketAnalyzer
import WireLab.Model.PacketBatch
import WireLab.Model.PacketParser
import WireLab.Model.Pcap
import WireLab.Model.PolicyEnforcer
import WireLab.Model.PolicyEngine
import WireLab.Model.ReportText
import WireLab.Model.Session
import WireLab.Model.SessionBoundary
import WireLab.Model.SessionCommands
import WireLab.Model.SessionDetail
import WireLab.Model.SessionPolicy
import WireLab.Model.SessionReport
import WireLab.Model.SessionTopology
import WireLab.Model.SessionTraffic
import WireLab.Model.StreamParser
import WireLab.Model.SwitchProcess
import WireLab.Model.SwitchSupervisor
import WireLab.Model.Topology
import WireLab.Model.TopologyController
import WireLab.Model.TopologyYaml
import WireLab.Model.TrafficGenerator
import WireLab.Model.VPort
import WireLab.Model.VSwitch
import WireLab.Logic.Accusations
import WireLab.Logic.BatchAnalysis
import WireLab.Logic.BenchmarkOperations
import WireLab.Logic.BenchmarkRuns
import WireLab.Logic.BenchmarkSlices
import WireLab.Logic.CaptureText
import WireLab.Logic.CapturedPackets
import WireLab.Logic.Connections
import WireLab.Logic.Containment
import WireLab.Logic.Conversation
import WireLab.Logic.Desktops
import WireLab.Logic.Detection
import WireLab.Logic.DeviceParsing
import WireLab.Logic.Dispatch
import WireLab.Logic.Enforcement
import WireLab.Logic.EventStream
import WireLab.Logic.FaultRuns
import WireLab.Logic.Forwarding
import WireLab.Logic.FrameJournal
import WireLab.Logic.Framing
import WireLab.Logic.GeneratedPackets
import WireLab.Logic.GroupedBatches
import WireLab.Logic.JsonScanner
import WireLab.Logic.JsonWriting
import WireLab.Logic.Lab
import WireLab.Logic.LabGates
import WireLab.Logic.LabNetwork
import WireLab.Logic.LabRuns
import WireLab.Logic.ObjectReader
import WireLab.Logic.PacketFields
import WireLab.Logic.PacketTables
import WireLab.Logic.PortCells
import WireLab.Logic.PrintedMessages
import WireLab.Logic.Publishing
import WireLab.Logic.RaisedAnomalies
import WireLab.Logic.ReplyText
import WireLab.Logic.ReportDocument
import WireLab.Logic.RequestText
import WireLab.Logic.Scripts
import WireLab.Logic.Sending
import WireLab.Logic.ServerLog
import WireLab.Logic.SessionRuns
import WireLab.Logic.Sessions
import WireLab.Logic.StreamRing
import WireLab.Logic.StreamSlots
import WireLab.Logic.SupervisorCalls
import WireLab.Logic.SupervisorGate
import WireLab.Logic.TopologyBlocks
import WireLab.Logic.TopologyLines
import WireLab.Logic.TopologyText
import WireLab.Logic.TrafficBytes
import WireLab.Logic.TrafficLedger
import WireLab.Replay.Comments
import WireLab.Replay.Judgements
import WireLab.Replay.Totals
import WireLab.Replay.Verdicts
import WireLab.Replay.WrittenCaptures
import WireLab.Theorems.AnalysedFrames
import WireLab.Theorems.Availability
import WireLab.Theorems.BenchmarkLifecycle
import WireLab.Theorems.BenchmarkReports
import WireLab.Theorems.BroadcastFlooding
import WireLab.Theorems.CaptureFormats
import WireLab.Theorems.CaptureReplay
import WireLab.Theorems.CaptureRoundTrip
import WireLab.Theorems.CaptureSafety
import WireLab.Theorems.ClosingStream
import WireLab.Theorems.Containment
import WireLab.Theorems.CopyAccounting
import WireLab.Theorems.Desktops
import WireLab.Theorems.DirtyMask
import WireLab.Theorems.EventStream
import WireLab.Theorems.ExportedReports
import WireLab.Theorems.FaultLatency
import WireLab.Theorems.FaultStore
import WireLab.Theorems.FaultTiming
import WireLab.Theorems.FirstMatch
import WireLab.Theorems.FrameForwarding
import WireLab.Theorems.FrameOrder
import WireLab.Theorems.GapFree
import WireLab.Theorems.GenuineTraffic
import WireLab.Theorems.GroupedAnalysis
import WireLab.Theorems.GrowingLeases
import WireLab.Theorems.LabNetwork
import WireLab.Theorems.LeasesAndLoads
import WireLab.Theorems.LinkLatency
import WireLab.Theorems.MacAddressText
import WireLab.Theorems.MessageFraming
import WireLab.Theorems.MirroredRows
import WireLab.Theorems.OperatorFaults
import WireLab.Theorems.OwnReplies
import WireLab.Theorems.PacedDeliveries
import WireLab.Theorems.PacketBatches
import WireLab.Theorems.ParserAgreement
import WireLab.Theorems.ParserReads
import WireLab.Theorems.PartialSends
import WireLab.Theorems.RaisedAnomalies
import WireLab.Theorems.RateConversion
import WireLab.Theorems.RateLimits
import WireLab.Theorems.Refusals
import WireLab.Theorems.RepliesAndEvents
import WireLab.Theorems.RequestGrammar
import WireLab.Theorems.RequestLimit
import WireLab.Theorems.RequestRoundTrip
import WireLab.Theorems.Reversible
import WireLab.Theorems.Revisions
import WireLab.Theorems.SavedTopology
import WireLab.Theorems.SilentCommands
import WireLab.Theorems.SimplePackets
import WireLab.Theorems.SlicedBenchmarks
import WireLab.Theorems.SlidingWindow
import WireLab.Theorems.StarTopologies
import WireLab.Theorems.StartTraffic
import WireLab.Theorems.StreamOrder
import WireLab.Theorems.SupervisedLab
import WireLab.Theorems.Supervision
import WireLab.Theorems.TargetIsolation
import WireLab.Theorems.TickConversion
import WireLab.Theorems.TighteningFaults
import WireLab.Theorems.TopologyContents
import WireLab.Theorems.TopologyEdits
import WireLab.Theorems.TrafficConservation
import WireLab.Theorems.TrafficParity
import WireLab.Theorems.TransmissionTime
