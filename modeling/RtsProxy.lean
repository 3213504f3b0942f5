import RtsProxy.Text.Number
import RtsProxy.Regex.Basic
import RtsProxy.Regex.Compile
import RtsProxy.Loop
import RtsProxy.Outbox
import RtsProxy.Config
import RtsProxy.Protocol.RtspParser
import RtsProxy.Protocol.RequestParser
import RtsProxy.Core.BufferPool
import RtsProxy.Handlers.ApiHandle
import RtsProxy.Protocol.RtpPipeline
import RtsProxy.Utils.StunClient
import RtsProxy.Core.SendQueue
import RtsProxy.Clients.RtspToRtsp.Patch
import RtsProxy.Clients.RtspToRtsp.Handlers
import RtsProxy.Clients.RtspToRtsp.Core
import RtsProxy.Clients.RtspToRtsp.Runs
import RtsProxy.Clients.RtspToRtsp.Changes
import RtsProxy.Clients.RtspToRtsp.Blocks
import RtsProxy.Clients.RtspToRtsp.Stream
import RtsProxy.Clients.RtspToRtsp.Token
import RtsProxy.Regex.Sound
import RtsProxy.Clients.RtspToRtsp.Exceptions
import RtsProxy.Clients.RtspToRtsp.Progress
import RtsProxy.Clients.RtspToHttp.State
import RtsProxy.Clients.RtspToHttp.Handlers
import RtsProxy.Clients.RtspToHttp.Runs
import RtsProxy.Clients.RtspToHttp.Stream
import RtsProxy.Clients.Blocks
import RtsProxy.Clients.Progress
import RtsProxy.Utils.BlacklistChecker
import RtsProxy.Handlers.MasterHandle
import RtsProxy.Clients.RtspToRtsp.Deferred
import RtsProxy.Clients.RtspToRtsp.Forwarding
import RtsProxy.Framing
import RtsProxy.Protocol.Connection
import RtsProxy.Clients.RtspToRtsp.Exchange
import RtsProxy.Clients.RtspToRtsp.Pieces
import RtsProxy.Clients.RtspToRtsp.FirstRead
import RtsProxy.Clients.RtspToRtsp.Transport
import RtsProxy.Utils.SocketHelper
import RtsProxy.Core.EpollLoop
import RtsProxy.Handlers.ClientFd
import RtsProxy.Clients.Process
import RtsProxy.Clients.Conservation
import RtsProxy.Clients.Exclusivity
import RtsProxy.Clients.RtspToRtsp.Announced
import RtsProxy.Protocol.Contents
import RtsProxy.Clients.Deframing
import RtsProxy.Clients.Alike
import RtsProxy.Text.Lines
import RtsProxy.Protocol.HeaderLines
import RtsProxy.Clients.RtspToRtsp.HeaderBlock
import RtsProxy.Clients.RtspToRtsp.ForwardedTransport
import RtsProxy.Chunks
import RtsProxy.Protocol.Stripping
import RtsProxy.Protocol.Keyframes
import RtsProxy.Clients.RtspToHttp.Payload
import RtsProxy.Clients.RtspToHttp.Requests
import RtsProxy.Clients.RtspToHttp.Handshake
import RtsProxy.Clients.RtspToHttp.Wire
import RtsProxy.Clients.RtspToRtsp.Asides
import RtsProxy.Clients.RtspToRtsp.Backlog
import RtsProxy.Clients.RtspToRtsp.Wiring
import RtsProxy.Clients.RtspToRtsp.Wakeups
import RtsProxy.Clients.RtspToRtsp.Outgoing
import RtsProxy.Clients.RtspToRtsp.Resumption
import RtsProxy.Clients.RtspToRtsp.Starting
import RtsProxy.Protocol.Target
import RtsProxy.Protocol.Route
import RtsProxy.Buffer
import RtsProxy.Protocol.PipelineBuffer
import RtsProxy.Utils.StunDecoding
import RtsProxy.Text.Passes
import RtsProxy.Utils.Patterns
import RtsProxy.Text.Replacing
import RtsProxy.Utils.Timeshift
import RtsProxy.Utils.Catchup
import RtsProxy.Clients.RtspToRtsp.Numerals
import RtsProxy.Clients.RtspToRtsp.Replacement
import RtsProxy.Clients.Urls
import RtsProxy.Utils.Cidr
import RtsProxy.Clients.RtspToHttp.Tracks
import RtsProxy.Clients.RtspToRtsp.Accounting
import RtsProxy.Protocol.Lookup
import RtsProxy.Protocol.Sections
import RtsProxy.Clients.RtspToRtsp.SetupPorts
import RtsProxy.Clients.ServerPorts
import RtsProxy.Core.SocketCtx
import RtsProxy.Text.Utf8
import RtsProxy.Json.Decode
import RtsProxy.Json.Dump
import RtsProxy.Core.Logger
import RtsProxy.Handlers.Documents
import RtsProxy.Clients.RtspToHttp.Standing
import RtsProxy.Clients.RtspToHttp.Phases
import RtsProxy.Clients.RtspToRtsp.Faults
