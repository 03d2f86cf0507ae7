import BbrChrome.Library.PartialRun
import BbrChrome.Library.Slots
import BbrChrome.Library.Scan
import BbrChrome.Library.Rounding
import BbrChrome.Quic.Units
import BbrChrome.Quic.Types
import BbrChrome.Quic.PacketNumberIndexedQueue
import BbrChrome.Quic.UnackedPacketMap
import BbrChrome.Congestion.RttStats
import BbrChrome.Congestion.LossAlgorithm
import BbrChrome.Congestion.SendAlgorithm
import BbrChrome.Quic.SentPacketManager
import BbrChrome.Congestion.WindowedFilter
import BbrChrome.Congestion.BandwidthSampler
import BbrChrome.Congestion.Bbr2NetworkModel
import BbrChrome.Congestion.Bbr2Sender
import BbrChrome.Congestion.BbrSender
import BbrChrome.Quic.Connection
import BbrChrome.Client.Client
import BbrChrome.Quic.MapInvariant
import BbrChrome.Congestion.LossDetection
import BbrChrome.Quic.ManagerStep
import BbrChrome.Quic.ConnectionInvariant
import BbrChrome.Quic.LookupSafety
import BbrChrome.Quic.MapAccounting
import BbrChrome.Quic.LossAlarm
import BbrChrome.Congestion.Bbr2Writes
import BbrChrome.Congestion.BbrAccounts
import BbrChrome.Quic.SamplerMirror
import BbrChrome.Quic.ByteLedger
import BbrChrome.Quic.AckCredits
import BbrChrome.Quic.SnapshotLaw
import BbrChrome.Quic.FlightRefinement
import BbrChrome.Client.ClientRun
import BbrChrome.Congestion.AckAggregation
import BbrChrome.Client.TimeoutGate
import BbrChrome.Client.WindowGate
import BbrChrome.Quic.HoleCoverage
import BbrChrome.Congestion.WindowedExtremum
import BbrChrome.Congestion.SamplerRun
import BbrChrome.Congestion.CheckedSampler
import BbrChrome.Congestion.AppLimitedPhase
import BbrChrome.Congestion.Bbr2Machine
import BbrChrome.Congestion.Bbr2Refinement
import BbrChrome.Congestion.Bbr2Run
import BbrChrome.Congestion.ProbingBounds
import BbrChrome.Congestion.CycleWindow
import BbrChrome.Congestion.ModeCoherence
import BbrChrome.Congestion.ProbeWait
import BbrChrome.Congestion.ProbeRtt
import BbrChrome.Quic.SenderRun
import BbrChrome.Quic.ProbeRttStay
import BbrChrome.Congestion.LossRecovery
import BbrChrome.Quic.RecoveryRun
import BbrChrome.Library.ByteString
import BbrChrome.Packet.Packet
import BbrChrome.Packet.RoundTrip
import BbrChrome.Client.Datagram
import BbrChrome.Client.ControlCopy
import BbrChrome.Library.FrontierMap
import BbrChrome.Quic.QueueRefinement
import BbrChrome.Common.DequeLayout
import BbrChrome.Common.DequeOperations
import BbrChrome.Common.DequeRefinement
import BbrChrome.Congestion.ModeLoop
import BbrChrome.Congestion.QueueingExit
import BbrChrome.Client.ClockRun
import BbrChrome.Congestion.CubicBytes
import BbrChrome.Congestion.TcpCubicSenderBytes
import BbrChrome.Congestion.CubicRun
import BbrChrome.Congestion.CubicWindow
import BbrChrome.Congestion.ProportionalReduction
import BbrChrome.Congestion.DelayLatch
import BbrChrome.Congestion.RttBounds
import BbrChrome.Congestion.CubicCurve
import BbrChrome.Quic.RetransmissionBackoff
import BbrChrome.Congestion.RecoveryWindow
import BbrChrome.Quic.RttSampling
import BbrChrome.Congestion.StartupGrowth
import BbrChrome.Library.LoggedSteps
import BbrChrome.Congestion.BoundWrites
import BbrChrome.Congestion.InflightCuts
import BbrChrome.Congestion.ProbeGrowth
import BbrChrome.Congestion.FullBandwidth
import BbrChrome.Congestion.SpuriousLoss
import BbrChrome.Congestion.LowerBoundReduction
import BbrChrome.Congestion.RepresentativePacket
import BbrChrome.Congestion.A0Candidates
import BbrChrome.Client.MultipleInFlight
import BbrChrome.Common.DequeCapacity
import BbrChrome.Common.DequeLifetime
import BbrChrome.Library.CharBuffer
import BbrChrome.Packet.FixedWidth
import BbrChrome.Library.Channel
import BbrChrome.Library.Emission
import BbrChrome.Library.IntervalMaximum
import BbrChrome.Session.Server
import BbrChrome.Session.Session
import BbrChrome.Session.SessionRun
import BbrChrome.Session.Fates
import BbrChrome.Quic.PacketFate
import BbrChrome.Session.OrderedNetwork
import BbrChrome.Session.ServerReports
import BbrChrome.Congestion.WindowLimits
import BbrChrome.Client.Progress
import BbrChrome.Client.Pacing
import BbrChrome.Congestion.BbrModes
import BbrChrome.Congestion.BbrModeLaws
import BbrChrome.Congestion.BbrAckClock
import BbrChrome.Congestion.BbrProbeRtt
import BbrChrome.Congestion.CubicLossEvents
import BbrChrome.Congestion.BandwidthWindow
import BbrChrome.Congestion.RefillRound
import BbrChrome.Congestion.BbrEstimates
import BbrChrome.Congestion.BbrWrites
