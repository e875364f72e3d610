import ProxyGateway.CommandLine
import ProxyGateway.Config
import ProxyGateway.Control.Answer
import ProxyGateway.Control.Message
import ProxyGateway.Control.Resource
import ProxyGateway.Credentials
import ProxyGateway.Digest
import ProxyGateway.Dispatch
import ProxyGateway.Dns
import ProxyGateway.Engine.Basic
import ProxyGateway.Engine.Connect
import ProxyGateway.Engine.Time
import ProxyGateway.Error
import ProxyGateway.Fields
import ProxyGateway.Flow
import ProxyGateway.Gateway
import ProxyGateway.Http.Framing
import ProxyGateway.Http.Head
import ProxyGateway.Http.MediaType
import ProxyGateway.Inbound.Listener
import ProxyGateway.Inbound.Mixed
import ProxyGateway.Inbound.Request
import ProxyGateway.Inbound.Socks
import ProxyGateway.Json.Basic
import ProxyGateway.Json.Form
import ProxyGateway.Json.Reader
import ProxyGateway.Json.Yaml
import ProxyGateway.Main
import ProxyGateway.Net.Address
import ProxyGateway.Net.Buffered
import ProxyGateway.Net.Exchange
import ProxyGateway.Net.HostPort
import ProxyGateway.Net.Ip
import ProxyGateway.Number.Basic
import ProxyGateway.Number.Double
import ProxyGateway.Number.Shortest
import ProxyGateway.Outbound.Dialer
import ProxyGateway.Outbound.HttpConnect
import ProxyGateway.Outbound.Peer
import ProxyGateway.Outbound.Socks
import ProxyGateway.Pool.Basic
import ProxyGateway.Pool.Queue
import ProxyGateway.Probe.Basic
import ProxyGateway.Probe.Measure
import ProxyGateway.Probe.Target
import ProxyGateway.Proofs.Control.Rules
import ProxyGateway.Proofs.Dispatch.Contract
import ProxyGateway.Proofs.Dispatch.Lessons
import ProxyGateway.Proofs.Dispatch.Steering
import ProxyGateway.Proofs.Dispatch.Traffic
import ProxyGateway.Proofs.Engine.Agenda
import ProxyGateway.Proofs.Engine.Chores
import ProxyGateway.Proofs.Engine.Course
import ProxyGateway.Proofs.Engine.Moves
import ProxyGateway.Proofs.Fields
import ProxyGateway.Proofs.Http.Boundary
import ProxyGateway.Proofs.Http.Head
import ProxyGateway.Proofs.Http.Lines
import ProxyGateway.Proofs.Http.Response
import ProxyGateway.Proofs.Http.Written
import ProxyGateway.Proofs.Identity.Complete
import ProxyGateway.Proofs.Identity.Tree
import ProxyGateway.Proofs.Inbound.Access
import ProxyGateway.Proofs.Inbound.Agreement
import ProxyGateway.Proofs.Inbound.Forwarded
import ProxyGateway.Proofs.Inbound.Framing
import ProxyGateway.Proofs.Inbound.Handshake
import ProxyGateway.Proofs.Inbound.Line
import ProxyGateway.Proofs.Inbound.Pieces
import ProxyGateway.Proofs.Inbound.Request
import ProxyGateway.Proofs.Json.Object
import ProxyGateway.Proofs.Json.Quoted
import ProxyGateway.Proofs.Net.Exchange
import ProxyGateway.Proofs.Net.HostPort
import ProxyGateway.Proofs.Net.Reading
import ProxyGateway.Proofs.Net.Talk
import ProxyGateway.Proofs.Net.Wire
import ProxyGateway.Proofs.Net.WireForm
import ProxyGateway.Proofs.Number.Written
import ProxyGateway.Proofs.Outbound.HttpRequest
import ProxyGateway.Proofs.Outbound.HttpTalk
import ProxyGateway.Proofs.Outbound.OwnReply
import ProxyGateway.Proofs.Outbound.SocksTalk
import ProxyGateway.Proofs.Pool.Arrivals
import ProxyGateway.Proofs.Pool.Choice
import ProxyGateway.Proofs.Pool.FirstChecks
import ProxyGateway.Proofs.Pool.Ranking
import ProxyGateway.Proofs.Pool.Roster
import ProxyGateway.Proofs.Pool.Run
import ProxyGateway.Proofs.Pool.Twins
import ProxyGateway.Proofs.Proxy.Adapter
import ProxyGateway.Proofs.Proxy.Normalized
import ProxyGateway.Proofs.Proxy.Record
import ProxyGateway.Proofs.Rule.Export
import ProxyGateway.Proofs.Rule.Fingerprint
import ProxyGateway.Proofs.Rule.Lookup
import ProxyGateway.Proofs.Rule.Reload
import ProxyGateway.Proofs.ShareLink.Basic
import ProxyGateway.Proofs.ShareLink.Carried
import ProxyGateway.Proofs.ShareLink.Credentials
import ProxyGateway.Proofs.ShareLink.Export
import ProxyGateway.Proofs.ShareLink.Options
import ProxyGateway.Proofs.ShareLink.Shadowsocks
import ProxyGateway.Proofs.ShareLink.ShadowsocksR
import ProxyGateway.Proofs.ShareLink.Spelling
import ProxyGateway.Proofs.ShareLink.Trojan
import ProxyGateway.Proofs.ShareLink.Vmess
import ProxyGateway.Proofs.ShareLink.Wrapped
import ProxyGateway.Proofs.Speed
import ProxyGateway.Proofs.Store.Disk
import ProxyGateway.Proofs.Store.Durable
import ProxyGateway.Proofs.Store.Restart
import ProxyGateway.Proofs.Store.Ticks
import ProxyGateway.Proofs.Subscription.Register
import ProxyGateway.Proofs.Subscription.Update
import ProxyGateway.Proofs.Text.Base64
import ProxyGateway.Proofs.Text.Commas
import ProxyGateway.Proofs.Text.Numeral
import ProxyGateway.Proofs.Text.Trim
import ProxyGateway.Proofs.Text.Utf8
import ProxyGateway.Proofs.Url.Form
import ProxyGateway.Proofs.Url.Target
import ProxyGateway.Proofs.Url.Written
import ProxyGateway.Proofs.Yaml.Document
import ProxyGateway.Proxy.Adapter
import ProxyGateway.Proxy.Identity
import ProxyGateway.Proxy.Kind
import ProxyGateway.Proxy.Metrics
import ProxyGateway.Proxy.Record
import ProxyGateway.Rule.Basic
import ProxyGateway.Rule.Table
import ProxyGateway.ShareLink.Basic
import ProxyGateway.ShareLink.Reader
import ProxyGateway.ShareLink.Shadowsocks
import ProxyGateway.ShareLink.ShadowsocksR
import ProxyGateway.ShareLink.Trojan
import ProxyGateway.ShareLink.Vless
import ProxyGateway.ShareLink.Vmess
import ProxyGateway.Speed
import ProxyGateway.Store.Basic
import ProxyGateway.Store.Disk
import ProxyGateway.Store.Rules
import ProxyGateway.Store.Session
import ProxyGateway.Subscription
import ProxyGateway.Subscription.Provider
import ProxyGateway.Text.Ascii
import ProxyGateway.Text.Base64
import ProxyGateway.Text.Blank
import ProxyGateway.Text.Cut
import ProxyGateway.Text.Numeral
import ProxyGateway.Text.Utf8
import ProxyGateway.Tls
import ProxyGateway.Unicode.Composition
import ProxyGateway.Unicode.Mapping
import ProxyGateway.Unicode.Normal
import ProxyGateway.Unicode.Printable
import ProxyGateway.Unicode.Quoted
import ProxyGateway.Unicode.Shape
import ProxyGateway.Unicode.Table
import ProxyGateway.Url.Basic
import ProxyGateway.Url.Domain
import ProxyGateway.Url.Form
import ProxyGateway.Url.Percent
import ProxyGateway.Url.Punycode
import ProxyGateway.Yaml.Basic
import ProxyGateway.Yaml.Decode
import ProxyGateway.Yaml.Node
import ProxyGateway.Yaml.Printer
import ProxyGateway.Yaml.Scalar
import ProxyGateway.Yaml.Token
