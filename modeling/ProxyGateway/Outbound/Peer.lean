import ProxyGateway.Error
/-!
What stands behind an adapter, as far as time can tell: how long it takes to open a line, whether
one is opened at all, and what is sent on it when. All times are in milliseconds.
-/
namespace ProxyGateway.Outbound

inductive Answer where
  | accept
  | refuse
  | silence
deriving DecidableEq, Repr

structure Piece where
  wait : Nat
  bytes : Bytes
deriving DecidableEq, Repr

structure Peer where
  latency : Nat
  answer : Answer
  pieces : List Piece
  /-- Whether the line stays open after the last piece. -/
  holds : Bool
deriving DecidableEq, Repr

structure Arrival where
  time : Nat
  bytes : Bytes
deriving DecidableEq, Repr

/-- An open line: what arrives on it when, and when it ends. Times count from its opening. -/
structure Line where
  heard : Bool
  arrivals : List Arrival
  ends : Option Nat
deriving DecidableEq, Repr

def Line.dead : Line := ⟨false, [], some 0⟩

def arrivalsFrom (start : Nat) : List Piece → List Arrival
  | [] => []
  | p :: rest => ⟨start + p.wait, p.bytes⟩ :: arrivalsFrom (start + p.wait) rest

def Peer.span (p : Peer) : Nat := p.pieces.foldr (fun piece n => piece.wait + n) 0

/-- The line that a peer opens. It sends once it has been spoken to, which is at once. -/
def Peer.line (p : Peer) : Line :=
  ⟨true, arrivalsFrom 0 p.pieces, if p.holds then none else some p.span⟩

structure Call where
  took : Nat
  /-- Whether the peer has answered; a call may also end for lack of an answer. -/
  answered : Bool
  result : Except Error Line

def refused : Error := .connection "Connection refused"

def Peer.call (p : Peer) (limit : Nat) (timedOut : Error) : Call :=
  if p.latency ≤ limit then
    match p.answer with
    | .accept => ⟨p.latency, true, .ok p.line⟩
    | .refuse => ⟨p.latency, true, .error refused⟩
    | .silence => ⟨limit, false, .error timedOut⟩
  else ⟨limit, false, .error timedOut⟩

end ProxyGateway.Outbound
