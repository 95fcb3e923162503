import WebBench.Lib.SizeT
import WebBench.Lib.CString
import WebBench.Lib.Search
import WebBench.Lib.HttpMessage
import WebBench.Lib.GetOpt
import WebBench.Lib.Strtol
import WebBench.Lib.Reach
import WebBench.Lib.Trace
import WebBench.Lib.Ownership
import WebBench.Lib.Lifetime
import WebBench.Lib.ForkJoin
import WebBench.Lib.Loop
import WebBench.Lib.Parties
import WebBench.Arguments
import WebBench.System
import WebBench.Connection
import WebBench.Slot
import WebBench.Account
import WebBench.Descriptors
import WebBench.Transcript
import WebBench.Cycle
import WebBench.Record
import WebBench.Operations
import WebBench.Bitmap
import WebBench.Poll.Handler
import WebBench.Poll.Engine
import WebBench.Poll.Pairing
import WebBench.Poll.Refine
import WebBench.Poll.Runs
import WebBench.Poll.Wire
import WebBench.Epoll.Handler
import WebBench.Epoll.Copy
import WebBench.Epoll.Connect
import WebBench.Epoll.Engine
import WebBench.Epoll.Refine
import WebBench.Epoll.Registration
import WebBench.Epoll.Pass
import WebBench.Epoll.Runs
import WebBench.Select.Handler
import WebBench.Select.Engine
import WebBench.Select.Refine
import WebBench.Select.Runs
import WebBench.Select.Counters
import WebBench.Select.FdBound
import WebBench.Transitions
import WebBench.ForceMode
import WebBench.Request
import WebBench.ProxyRoute
import WebBench.Select.Segments
import WebBench.SslSetup
import WebBench.SslSteps
import WebBench.Invariant
import WebBench.Ownership
import WebBench.Secrecy
import WebBench.Handshake
import WebBench.Totals
import WebBench.Epoll.Lockstep
import WebBench.Tunnel
import WebBench.Response
import WebBench.ProxyReply
import WebBench.ConnectLoop
import WebBench.Communicator.Functions
import WebBench.Communicator.Tls
import WebBench.Communicator.Receive
import WebBench.Communicator.Socket
import WebBench.Communicator.Exchange
import WebBench.Communicator.Result
import WebBench.Communicator.Resources
import WebBench.IdleSlots
import WebBench.Bench2
import WebBench.Threads
import WebBench.Options
import WebBench.Url
import WebBench.UrlBounds
import WebBench.RequestText
import WebBench.RequestEnd
import WebBench.RequestTarget
import WebBench.HostHeader
import WebBench.ProxyOption
import WebBench.Settings
import WebBench.Errno
import WebBench.IntRuns
import WebBench.Poll.LongRun
import WebBench.Overflow
import WebBench.Progress
import WebBench.Liveness
import WebBench.Epoll.Livelock
import WebBench.BodyWire
import WebBench.RequestMessage
import WebBench.RequestRead
import WebBench.Select.Invariant
import WebBench.Select.Ownership
import WebBench.Select.Watch
import WebBench.Epoll.EventOrder
import WebBench.SslContext
import WebBench.SslContextRuns
import WebBench.MainLoop
import WebBench.CommandLine
import WebBench.Communicator.Together
import WebBench.Traffic
