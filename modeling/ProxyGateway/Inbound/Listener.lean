import ProxyGateway.Inbound.Mixed
import ProxyGateway.Net.Buffered
/-!
The listener on the mixed port: it is started once, and runs until it is stopped. A client that it
lets in is handed on as a flow and a line; the line yields what is replayed, then what the
handshake had read ahead, and then what the socket still gives.
-/
namespace ProxyGateway.Inbound

open Net (Buffered)
open Net.Exchange (Stream readSocket)

inductive Listener where
  | bound
  | running
  | stopped
deriving DecidableEq, Repr

namespace Listener

def name : String := "Mixed"

def isRunning (l : Listener) : Bool := l == running

def start (l : Listener) : Except Error Listener :=
  if l = bound then .ok running else .error (.internal "mixed listener already started")

def stop (_ : Listener) : Listener := stopped

end Listener

/-- A socket with bytes in front of it, of which the first `position` have been read. -/
structure Line where
  replay : Bytes
  position : Nat
  socket : Stream

namespace Line

/-- Hands over a socket; what is replayed and what was read ahead of the socket come first. -/
def handOver (b : Buffered) (replay : Bytes) : Line := ⟨replay ++ b.ahead, 0, b.socket⟩

def read (room : Nat) (l : Line) : Bytes × Line :=
  if l.position < l.replay.length then
    let part := (l.replay.drop l.position).take room
    (part, { l with position := l.position + part.length })
  else
    let (part, socket) := readSocket room l.socket
    (part, { l with socket })

def reads : (rooms : List Nat) → Line → List Bytes × Line
  | [], l => ([], l)
  | room :: rooms, l =>
    let (part, l) := l.read room
    let (parts, l) := reads rooms l
    (part :: parts, l)

end Line

structure Connection where
  flow : Flow
  line : Line

structure Visit where
  result : Except Error Connection
  reply : Bytes

/-- Serves a client up to the end of the handshake; its bytes come in these pieces, and no more. -/
def visit (users : List Credentials) (source : Net.SocketAddress) (socket : Stream) : Visit :=
  let s := (accept users source).settle (.ofSocket socket)
  ⟨s.result.map fun a => ⟨a.flow, .handOver s.left a.replay⟩, s.sent⟩

end ProxyGateway.Inbound
