import Pinhole.Bytes
import Pinhole.Cli.Arguments
import Pinhole.Cli.Plan
import Pinhole.Cli.Run
import Pinhole.Config.Address
import Pinhole.Config.File
import Pinhole.Config.Reading
import Pinhole.Config.Settings
import Pinhole.Config.Validate
import Pinhole.Config.Writing
import Pinhole.Dns.Credentials
import Pinhole.Dns.Provider
import Pinhole.Dns.Publication
import Pinhole.Dns.Record
import Pinhole.Files
import Pinhole.Forward.Error
import Pinhole.Forward.Keepalive
import Pinhole.Forward.Launch
import Pinhole.Forward.Periodic
import Pinhole.Forward.PingPong
import Pinhole.Forward.SessionTable
import Pinhole.Forward.Splice
import Pinhole.Forward.TcpEngine
import Pinhole.Forward.Turns
import Pinhole.Forward.UdpCalls
import Pinhole.Forward.UdpEngine
import Pinhole.Log
import Pinhole.Main
import Pinhole.Net.Clock
import Pinhole.Net.Endpoint
import Pinhole.Net.Host
import Pinhole.Net.Isolated
import Pinhole.Net.SocketAddress
import Pinhole.Net.SystemError
import Pinhole.Proofs.Forward.IdleWindow
import Pinhole.Proofs.Forward.FailedCalls
import Pinhole.Proofs.Forward.Isolation
import Pinhole.Proofs.Forward.Lifetime
import Pinhole.Proofs.Forward.SessionHistory
import Pinhole.Proofs.Forward.SessionTable
import Pinhole.Proofs.Forward.Survival
import Pinhole.Proofs.Forward.Sweeping
import Pinhole.Proofs.Lookup
import Pinhole.Proofs.Net.Inbox
import Pinhole.Proofs.Stun.Attempt
import Pinhole.Proofs.Stun.Framing
import Pinhole.Proofs.Stun.Grammar
import Pinhole.Proofs.Stun.Listening
import Pinhole.Proofs.Stun.Noise
import Pinhole.Proofs.Stun.Reencoding
import Pinhole.Proofs.Stun.RoundTrip
import Pinhole.Proofs.Stun.Traffic
import Pinhole.Proofs.Supervise.History
import Pinhole.Proofs.Supervise.LookupPace
import Pinhole.Proofs.Supervise.Overtaking
import Pinhole.Proofs.Survey.Evidence
import Pinhole.Proofs.Survey.LineCourse
import Pinhole.Proofs.Survey.LineRecord
import Pinhole.Proofs.Survey.LineTraffic
import Pinhole.Proofs.Survey.NatExchange
import Pinhole.Proofs.Survey.NatVerdict
import Pinhole.Proofs.Survey.Verdict
import Pinhole.Report
import Pinhole.Stun.AddressAttribute
import Pinhole.Stun.Attempt
import Pinhole.Stun.Attribute
import Pinhole.Stun.Binding
import Pinhole.Stun.Change
import Pinhole.Stun.Error
import Pinhole.Stun.Mapping
import Pinhole.Stun.Message
import Pinhole.Stun.ProtocolError
import Pinhole.Stun.Resolve
import Pinhole.Stun.Stream
import Pinhole.Stun.TcpExchange
import Pinhole.Stun.UdpExchange
import Pinhole.Supervise.ForwardMode
import Pinhole.Supervise.Liveness
import Pinhole.Supervise.Offline
import Pinhole.Supervise.RepeatFilter
import Pinhole.Supervise.SharedMode
import Pinhole.Supervise.Supervisor
import Pinhole.Survey.Classify
import Pinhole.Survey.Loopback
import Pinhole.Survey.NatType
import Pinhole.Survey.Prober
import Pinhole.Survey.Script
import Pinhole.Survey.Tcp
import Pinhole.Survey.Udp
import Pinhole.Text.Decimal
import Pinhole.Text.Fields
import Pinhole.Text.Hex
import Pinhole.Text.Quoted
import Pinhole.Text.Unicode
import Pinhole.Toml.Bare
import Pinhole.Toml.Blank
import Pinhole.Toml.Document
import Pinhole.Toml.Key
import Pinhole.Toml.Printer
import Pinhole.Toml.Quoted
import Pinhole.Toml.Reader
import Pinhole.Toml.Tree
import Pinhole.Toml.Value
import Pinhole.Transport
import Pinhole.Proofs.Survey.ExchangeOrder
import Pinhole.Proofs.Survey.FilteringEvidence
import Pinhole.Proofs.Toml.Fields
import Pinhole.Proofs.Toml.Entries
import Pinhole.Proofs.Toml.IntegerRange
import Pinhole.Proofs.Toml.RoundTrip
import Pinhole.Proofs.Config.RoundTrip
import Pinhole.Proofs.Files
import Pinhole.Proofs.Config.Loading
import Pinhole.Proofs.Forward.ConnectionRouting
import Pinhole.Proofs.Net.Elapsing
import Pinhole.Proofs.Supervise.Hosting
import Pinhole.Proofs.Supervise.MeasuredPort
import Pinhole.Proofs.Supervise.Rhythm
import Pinhole.Proofs.Stun.AddressScan
import Pinhole.Proofs.Stun.AddressDelivery
import Pinhole.Proofs.Stun.WholeDatagrams
import Pinhole.Proofs.Survey.InboundTest
import Pinhole.Proofs.Survey.SecondEndpoint
import Pinhole.Proofs.Text.Cutting
import Pinhole.Proofs.Text.Numerals
import Pinhole.Proofs.Text.LowerCase
import Pinhole.Proofs.Config.EndpointText
import Pinhole.Proofs.Config.Startup
import Pinhole.Proofs.Forward.Splicing
import Pinhole.Proofs.Forward.KeepalivePace
import Pinhole.Proofs.Supervise.RepeatRuns
import Pinhole.Proofs.Forward.ReadingTurns
import Pinhole.Proofs.Dns.Retries
import Pinhole.Proofs.Toml.Sheets
import Pinhole.Proofs.Toml.Pages
import Pinhole.Proofs.Config.Overlay
import Pinhole.Proofs.Forward.TimerSpacing
import Pinhole.Proofs.Forward.MissedPings
import Pinhole.Proofs.Forward.TaskCourses
