import FramedLink.Bytes
import FramedLink.Utf8
import FramedLink.Signal
import FramedLink.Message
import FramedLink.ConnId
import FramedLink.Log
import FramedLink.Quote
import FramedLink.Duration
import FramedLink.Binary64
import FramedLink.Binary64.Shortest
import FramedLink.Error
import FramedLink.Frame
import FramedLink.Registry
import FramedLink.Text.Codec
import FramedLink.Pipe
import FramedLink.Inbox
import FramedLink.Channel
import FramedLink.Client
import FramedLink.Server
import FramedLink.Echo
import FramedLink.Script.Peer
import FramedLink.Script.Client
import FramedLink.Script.Channel
import FramedLink.Script.Server
import FramedLink.Text.Blank
import FramedLink.Text.Case
import FramedLink.Text.Graphic
import FramedLink.Text.Letter
import FramedLink.Config.LogLevel
import FramedLink.Net.Address
import FramedLink.Config.Settings
import FramedLink.Config.Toml.Document
import FramedLink.Config.Toml.Scalar
import FramedLink.Config.Toml.Reader
import FramedLink.Config.Toml.Fields
import FramedLink.Config.Yaml.Token
import FramedLink.Config.Yaml.Token.Lexer
import FramedLink.Config.Yaml.Scalar
import FramedLink.Config.Yaml.Node
import FramedLink.Config.Yaml.Value
import FramedLink.Config.Yaml.Fields
import FramedLink.Config.Load
import FramedLink.Command
import FramedLink.Main
import FramedLink.Proofs.Wire
import FramedLink.Proofs.Payload
import FramedLink.Proofs.FrameCode
import FramedLink.Proofs.CheckOrder
import FramedLink.Proofs.Registry
import FramedLink.Proofs.Send
import FramedLink.Proofs.Threads
import FramedLink.Proofs.Threads.CloseOnce
import FramedLink.Proofs.Threads.Reader
import FramedLink.Proofs.Threads.Link
import FramedLink.Proofs.Threads.Queue
import FramedLink.Proofs.Threads.Writer
import FramedLink.Proofs.Threads.Serving
import FramedLink.Proofs.Threads.Serving.Hooks
import FramedLink.Proofs.Threads.Serving.Invariant
import FramedLink.Proofs.Threads.Serving.Reachable
import FramedLink.Proofs.Threads.Serving.Shutdown
import FramedLink.Proofs.Threads.Serving.Reuse
import FramedLink.Proofs.Threads.Receiving
import FramedLink.Proofs.Threads.Receiving.Reachable
import FramedLink.Proofs.Threads.Receiving.Order
import FramedLink.Proofs.Threads.DeliverLock
import FramedLink.Proofs.Threads.Sends
import FramedLink.Proofs.Threads.Serving.Callers
import FramedLink.Proofs.Threads.Serving.Send
import FramedLink.Proofs.EchoService
import FramedLink.Proofs.Threads.Notify
import FramedLink.Proofs.Overlay
import FramedLink.Proofs.Threads.Queue.Wakeup
import FramedLink.Proofs.Threads.ReadBuffer
