import ProxyGateway.Net.Exchange
/-!
A socket that is read through a buffer. What was read ahead is taken first, and a read with room
for a whole buffer goes straight to the socket. An exchange can run against such a socket, and what
is in the buffer at its end is still there for whoever reads on.
-/
namespace ProxyGateway.Net

namespace Exchange

def readSocket (room : Nat) (socket : Stream) : Bytes × Stream :=
  (takeSome socket room).getD ([], [])

end Exchange

open Exchange (Stream readSocket)

structure Buffered where
  /-- What was read of the socket and not taken yet. -/
  ahead : Bytes
  socket : Stream

namespace Buffered

def capacity : Nat := 8192

def ofSocket (socket : Stream) : Buffered := ⟨[], socket⟩

/-- Reads ahead where nothing is left of the last read. -/
def fill (b : Buffered) : Buffered :=
  if b.ahead = [] then
    let (ahead, socket) := readSocket capacity b.socket
    ⟨ahead, socket⟩
  else b

def read (room : Nat) (b : Buffered) : Bytes × Buffered :=
  if b.ahead = [] ∧ capacity ≤ room then
    let (part, socket) := readSocket room b.socket
    (part, ⟨[], socket⟩)
  else
    let b := b.fill
    (b.ahead.take room, { b with ahead := b.ahead.drop room })

def readExactly : (count : Nat) → Buffered → Option (Bytes × Buffered)
  | 0, b => some ([], b)
  | count + 1, b =>
    match b.read (count + 1) with
    | ([], _) => none
    | (byte :: part, b) =>
      (readExactly (count - part.length) b).map fun (more, b) => (byte :: part ++ more, b)
termination_by count => count

end Buffered

namespace Exchange

structure Settled (α : Type) where
  result : Except Error α
  sent : Bytes
  left : Buffered

def settle : Exchange α → Buffered → Settled α
  | finish r, b => ⟨r, [], b⟩
  | send bytes next, b =>
    let s := next.settle b
    { s with sent := bytes ++ s.sent }
  | receive n e next, b =>
    match b.readExactly n with
    | some (block, b) => (next block).settle b
    | none => ⟨.error e, [], ⟨[], []⟩⟩
  | receiveSome n e next, b =>
    match b.read n with
    | ([], _) => ⟨.error e, [], ⟨[], []⟩⟩
    | (byte :: part, b) => (next (byte :: part)).settle b
  | peek e next, b =>
    let b := b.fill
    match b.ahead with
    | byte :: _ => (next byte).settle b
    | [] => ⟨.error e, [], ⟨[], []⟩⟩

end Exchange

end ProxyGateway.Net
