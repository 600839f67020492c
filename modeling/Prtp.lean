import Prtp.Library.Runs
import Prtp.Library.Alarms
import Prtp.Library.ByteMem
import Prtp.Library.ByteReader
import Prtp.Library.BoundedQueue
import Prtp.Library.Pool
import Prtp.Library.Records
import Prtp.Library.SerialNumbers
import Prtp.Library.Tally
import Prtp.Library.TimedBag
import Prtp.Library.Rings
import Prtp.Library.Histories
import Prtp.Library.Networks
import Prtp.SoftTimer
import Prtp.TimerDeadlines
import Prtp.CircBuffer
import Prtp.Stream
import Prtp.Types
import Prtp.SlotWatch
import Prtp.RtpSource
import Prtp.SourceTrial
import Prtp.MemberTable
import Prtp.SourceConflict
import Prtp.ConflictTimes
import Prtp.RtcpInterval
import Prtp.BandwidthShares
import Prtp.RtcpEncoder
import Prtp.RtcpCompound
import Prtp.RtcpReport
import Prtp.NtpTimes
import Prtp.SequenceNumbers
import Prtp.FirstAccepted
import Prtp.FractionLost
import Prtp.Rtcp
import Prtp.Rtp
import Prtp.Session
import Prtp.ReportSent
import Prtp.ReportFailures
import Prtp.RtpTransmit
import Prtp.SsrcCases
import Prtp.RtcpMessages
import Prtp.QuietChanges
import Prtp.ActRules
import Prtp.Ledger
import Prtp.SessionLedger
import Prtp.AverageSize
import Prtp.Membership
import Prtp.Frames
import Prtp.Schedule
import Prtp.SlotFrames
import Prtp.Clock
import Prtp.Deadlines
import Prtp.ReportPace
import Prtp.UniqueSsrc
import Prtp.MemberTimeouts
import Prtp.TableOrder
import Prtp.ForeignPackets
import Prtp.TxStatistics
import Prtp.ConflictEntries
import Prtp.SsrcChanges
import Prtp.TrialRuns
import Prtp.SessionDeinit
import Prtp.Deliveries
import Prtp.FirstDelivery
import Prtp.JitterOffsets
import Prtp.RtpValidity
import Prtp.RtcpReads
import Prtp.RtcpWalk
import Prtp.SdesChunks
import Prtp.ReportRoundTrip
import Prtp.ReportedLoss
import Prtp.EncoderCalls
import Prtp.EncoderFailures
import Prtp.ByeRoundTrip
import Prtp.RtpRoundTrip
import Prtp.HandedOut
import Prtp.OwnAddresses
import Prtp.Exchange
import Prtp.MemberRecords
import Prtp.Provenance
import Prtp.ReportLimits
import Prtp.KeepsReporting
import Prtp.DefinedRuns
import Prtp.Leftovers
import Prtp.LeftoverRuns
import Prtp.JitterBounds
import Prtp.TelnetReader
import Prtp.Cli
import Prtp.CliCommands
import Prtp.GenericList
import Prtp.Md5Pieces
import Prtp.IoDriver
import Prtp.Rosters
import Prtp.IoPasses
import Prtp.LinkedTables
import Prtp.CliConnections
import Prtp.ServerRuns
