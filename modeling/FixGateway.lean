import FixGateway.Protocol.Parser.Coalescing
import FixGateway.Protocol.RoundTrip
import FixGateway.Manager.SharedNumbering
import FixGateway.Common.PoolThreads
import FixGateway.Utils.RingFifo
import FixGateway.Manager.GapThreads
import FixGateway.Utils.RingAtomic
import FixGateway.Manager.HeartbeatLife
import FixGateway.Manager.SessionStates
import FixGateway.Application.InboundPipeline
import FixGateway.Network.SharedConnection
import FixGateway.Network.SenderThread
import FixGateway.Protocol.Parser.Storage
import FixGateway.Application.ChecksumReport
import FixGateway.Protocol.ChecksumVerdicts
import FixGateway.Protocol.Parser.Rejection
import FixGateway.Protocol.Parser.DecoderAgreement
import FixGateway.Protocol.Parser.Progress
import FixGateway.Protocol.Parser.Resumption
import FixGateway.Protocol.EmittedText
import FixGateway.Manager.GapRecording
import FixGateway.Manager.GapRetries
import FixGateway.Manager.FailedSends
import FixGateway.Manager.GapFill
import FixGateway.Utils.PriorityQueueEviction
import FixGateway.Protocol.IntegerFields
import FixGateway.Manager.BatchRouting
import FixGateway.Protocol.Parser.Numbers
import FixGateway.Protocol.Parser.Resynchronisation
import FixGateway.Manager.StartFailure
import FixGateway.Protocol.Parser.Moves
import FixGateway.Protocol.Parser.Statistics
import FixGateway.Application.InboundFlow
import FixGateway.Manager.SessionLink
