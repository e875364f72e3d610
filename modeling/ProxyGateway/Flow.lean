import ProxyGateway.Net.HostPort

namespace ProxyGateway

inductive Network where
  | tcp
  | udp
deriving DecidableEq, Repr

def Network.toText : Network → String
  | .tcp => "TCP"
  | .udp => "UDP"

inductive FlowKind where
  | http
  | connect
  | socks5
  | inner
deriving DecidableEq, Repr

def FlowKind.toText : FlowKind → String
  | .http => "HTTP"
  | .connect => "HTTPS"
  | .socks5 => "SOCKS5"
  | .inner => "Inner"

structure Flow where
  network : Network
  kind : FlowKind
  sourceIp : Net.Ip
  sourcePort : UInt16
  ip : Option Net.Ip
  port : UInt16
  host : String
deriving DecidableEq, Repr

namespace Flow

def new (network : Network) (kind : FlowKind) : Flow :=
  ⟨network, kind, .v4 .unspecified, 0, none, 0, ""⟩

def unbracket (host : String) : String := Text.trimEndOf [']'] (Text.trimStartOf ['['] host)

/-- A literal becomes the address, anything else the name. -/
def withDestination (f : Flow) (host : String) : Flow :=
  match Net.readIp (unbracket host) with
  | some ip => { f with ip := some ip }
  | none => { f with host }

def resolved (f : Flow) : Bool := f.ip.isSome

/-- The name if there is one, else the address. -/
def destination (f : Flow) : String :=
  if f.host ≠ "" then f.host
  else match f.ip with
    | some ip => ip.toText
    | none => ""

def remoteAddress (f : Flow) : String :=
  if f.host ≠ "" then f.host ++ ":" ++ Text.decimal f.port.toNat
  else match f.ip with
    | some ip => (Net.SocketAddress.mk ip f.port).toText
    | none => "0.0.0.0:" ++ Text.decimal f.port.toNat

def valid (f : Flow) : Bool := 0 < f.port && (f.host != "" || f.ip.isSome)

def toText (f : Flow) : String :=
  "[" ++ f.network.toText ++ "] " ++ f.sourceIp.toText ++ ":" ++ Text.decimal f.sourcePort.toNat ++
    " --> " ++ f.remoteAddress

end Flow

end ProxyGateway
