import StbEbpf.Lib.CText
import StbEbpf.Lib.Memory
import StbEbpf.Lib.Access
import StbEbpf.Lib.CStrings
import StbEbpf.Lib.Program
import StbEbpf.Lib.Slots
import StbEbpf.Lib.Pool
import StbEbpf.Lib.BoundedMap
import StbEbpf.Lib.Tally
import StbEbpf.Lib.Run
import StbEbpf.Lib.Pending
import StbEbpf.Lib.Ring
import StbEbpf.Lib.Decimal
import StbEbpf.Lib.Printf
import StbEbpf.Lib.Scanf
import StbEbpf.Lib.Words
import StbEbpf.Lib.NetworkOrder
import StbEbpf.Lib.DomainName
import StbEbpf.Lib.Padding
import StbEbpf.Lib.Float64
import StbEbpf.Lib.Utf8
import StbEbpf.Lib.GoStrings
import StbEbpf.Lib.JsonString
import StbEbpf.Lib.Json
import StbEbpf.Lib.Strconv
import StbEbpf.Lib.Calendar
import StbEbpf.Probe.Common
import StbEbpf.Probe.FlowTracker
import StbEbpf.Probe.FlowTable
import StbEbpf.Probe.FlowAccounts
import StbEbpf.Probe.FlowExpiry
import StbEbpf.Probe.Serializer
import StbEbpf.Probe.SerializerBounds
import StbEbpf.Probe.SerializerText
import StbEbpf.Probe.WireFormat
import StbEbpf.Probe.TcpClient
import StbEbpf.Probe.RequestSize
import StbEbpf.Probe.TcpFraming
import StbEbpf.Probe.TcpLink
import StbEbpf.Probe.TcpReconnect
import StbEbpf.Probe.TcpSockets
import StbEbpf.Probe.TcpBackoff
import StbEbpf.Probe.PacketParser
import StbEbpf.Probe.RawPath
import StbEbpf.Probe.RawPathSafety
import StbEbpf.Probe.FrameLayout
import StbEbpf.Probe.Frames
import StbEbpf.Probe.HeaderOffsets
import StbEbpf.Probe.Anomaly
import StbEbpf.Probe.PortScan
import StbEbpf.Probe.EventBuffer
import StbEbpf.Probe.PacketLoop
import StbEbpf.Probe.ProcNet
import StbEbpf.Probe.SocketTables
import StbEbpf.Probe.Iteration
import StbEbpf.Probe.MainLoop
import StbEbpf.Probe.DupAcks
import StbEbpf.Probe.Retransmits
import StbEbpf.Probe.Delivery
import StbEbpf.Probe.GivingUp
import StbEbpf.Protocol.Dns
import StbEbpf.Protocol.DnsNames
import StbEbpf.Protocol.DnsSafety
import StbEbpf.Protocol.DnsAnswers
import StbEbpf.Protocol.DnsTargets
import StbEbpf.Protocol.Http
import StbEbpf.Protocol.Collector
import StbEbpf.Protocol.DnsAgreement
import StbEbpf.Protocol.ProbeQueries
import StbEbpf.Protocol.HttpRequests
import StbEbpf.Protocol.ProbeHttp
import StbEbpf.Protocol.HttpMatcher
import StbEbpf.Agent.EdgeClient
import StbEbpf.Agent.EdgeCustody
import StbEbpf.Agent.EdgeRetry
import StbEbpf.Agent.Ingest
import StbEbpf.Agent.Event
import StbEbpf.Agent.Timestamp
import StbEbpf.Agent.EventCodec
import StbEbpf.Agent.ProbeIngest
import StbEbpf.Agent.BpfEvent
import StbEbpf.Agent.TraceHandlers
import StbEbpf.Agent.Analyzers
import StbEbpf.Agent.PerfHandlers
import StbEbpf.Agent.Syscalls
import StbEbpf.Agent.ProcessEvents
import StbEbpf.Agent.NetworkFlow
import StbEbpf.Protocol.Aggregation
import StbEbpf.Protocol.FlowConservation
import StbEbpf.Agent.CapturePaths
import StbEbpf.Agent.Collectors
import StbEbpf.Agent.Workers
import StbEbpf.Agent.ConfigPoll
import StbEbpf.Agent.Instances
import StbEbpf.Agent.Manager
import StbEbpf.Agent.Reload
import StbEbpf.Protocol.DnsRecords
import StbEbpf.Protocol.MySql
import StbEbpf.Probe.FrameChecks
import StbEbpf.Probe.Multicast
import StbEbpf.Probe.TcpCounters
import StbEbpf.Probe.SpikeRates
import StbEbpf.Lib.JsonText
import StbEbpf.Probe.Injection
import StbEbpf.Probe.Truncation
import StbEbpf.Protocol.MySqlRequests
import StbEbpf.Protocol.Redis
import StbEbpf.Protocol.CaptureLoop
import StbEbpf.Agent.SampleBounds
import StbEbpf.Agent.ClickHouse
import StbEbpf.Agent.MemLedger
import StbEbpf.Agent.BlockPairing
import StbEbpf.Agent.BlockTotals
import StbEbpf.Agent.SchedTrace
import StbEbpf.Lib.RingBuffer
import StbEbpf.Probe.PerfBuffer
import StbEbpf.Probe.PerfRing
import StbEbpf.Lib.Stdio
import StbEbpf.Probe.BpfElf
import StbEbpf.Lib.SlotMap
import StbEbpf.Lib.Resources
import StbEbpf.Lib.JsonNested
import StbEbpf.Probe.FlowMap
import StbEbpf.Probe.AnomalyTables
import StbEbpf.Probe.LoaderInit
import StbEbpf.Probe.RuntimeConfig
import StbEbpf.Protocol.DnsMatcher
import StbEbpf.Agent.SecurityEvents
import StbEbpf.Agent.EdgeWriters
import StbEbpf.Agent.PerfReports
