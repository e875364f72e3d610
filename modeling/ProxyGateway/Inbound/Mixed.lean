import ProxyGateway.Flow
import ProxyGateway.Inbound.Request
import ProxyGateway.Inbound.Socks

namespace ProxyGateway.Inbound

open Net (Exchange Address)

structure Accepted where
  flow : Flow
  /-- What the stream of the client yields before the bytes that are still unread. -/
  replay : Bytes

def established : Bytes := Bytes.ofText "HTTP/1.1 200 Connection established\r\n\r\n"

def authenticationRequired : Bytes :=
  Bytes.ofText ("HTTP/1.1 407 Proxy Authentication Required\r\n" ++
    "Proxy-Authenticate: Basic realm=\"nico\"\r\nConnection: close\r\n\r\n")

def badRequest : Bytes := Bytes.ofText "HTTP/1.1 400 Bad Request\r\nConnection: close\r\n\r\n"

def withSource (source : Net.SocketAddress) (f : Flow) : Flow :=
  { f with sourceIp := source.ip, sourcePort := source.port }

def acceptSocks (users : List Credentials) (source : Net.SocketAddress) : Exchange Accepted := do
  let (address, port) ← Socks.handshake users
  Exchange.write (Socks.reply Socks.succeeded)
  let f := { withSource source (Flow.new .tcp .socks5) with port }
  match address with
  | .domain host => pure ⟨{ f with host }, []⟩
  | .literal ip => pure ⟨{ f with ip := some ip }, []⟩

/-- Receives bytes until they hold a whole head, for which `room` more bytes may come. Each read
offers all of the room; a buffer that grows up to the limit ends with the same head and rest. -/
def receiveHead (room : Nat) (got : Bytes) : Exchange (Bytes × Bytes) :=
  match Http.headEnd got with
  | some n => pure (got.take n, got.drop n)
  | none =>
    match room with
    | 0 => do
      Exchange.write badRequest
      .fail (.protocol "HTTP header too large")
    | room + 1 => .receiveSome (room + 1) (.protocol "Unexpected EOF") fun more =>
      receiveHead (room - (more.length - 1)) (got ++ more)
termination_by room

def refusal : Error → Bytes
  | .auth _ => authenticationRequired
  | _ => badRequest

def acceptHttp (users : List Credentials) (source : Net.SocketAddress) : Exchange Accepted := do
  let (head, body) ← receiveHead maxHead []
  match ProxyRequest.ofHead users head with
  | .error e =>
    Exchange.write (refusal e)
    .fail e
  | .ok r =>
    let flow (kind : FlowKind) :=
      { withSource source (Flow.new .tcp kind) with port := r.port }.withDestination r.host
    match r.forward with
    | none =>
      Exchange.write established
      pure ⟨flow .connect, body⟩
    | some head => pure ⟨flow .http, head ++ body⟩

/-- Lets a client in whose first byte tells which protocol it speaks. -/
def accept (users : List Credentials) (source : Net.SocketAddress) : Exchange Accepted :=
  .peek (.protocol "Unexpected EOF") fun b =>
    if b = Socks.version then acceptSocks users source else acceptHttp users source

end ProxyGateway.Inbound
