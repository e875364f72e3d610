import ProxyGateway.Error
/-!
An exchange of bytes with a peer, as a value: what is written, what is waited for and how it ends.
An exchange runs against a stream that arrives in pieces of any size; what it wrote, what it
concluded and what it left unread are the outcome.
-/
namespace ProxyGateway.Net

inductive Exchange (α : Type) where
  | finish (result : Except Error α)
  | send (bytes : Bytes) (next : Exchange α)
  /-- Waits for exactly `count` bytes; `ended` is the failure when the stream ends before. -/
  | receive (count : Nat) (ended : Error) (next : Bytes → Exchange α)
  /-- Waits for at least one byte and takes at most `room` of those that are there. -/
  | receiveSome (room : Nat) (ended : Error) (next : Bytes → Exchange α)
  | peek (ended : Error) (next : UInt8 → Exchange α)

namespace Exchange

protected def bind (x : Exchange α) (f : α → Exchange β) : Exchange β :=
  match x with
  | finish (.ok a) => f a
  | finish (.error e) => finish (.error e)
  | send b next => send b (next.bind f)
  | receive n e next => receive n e fun b => (next b).bind f
  | receiveSome n e next => receiveSome n e fun b => (next b).bind f
  | peek e next => peek e fun b => (next b).bind f

instance : Monad Exchange where
  pure a := finish (.ok a)
  bind := Exchange.bind

def fail (e : Error) : Exchange α := finish (.error e)

def write (b : Bytes) : Exchange Unit := send b (pure ())

def block (count : Nat) : Exchange Bytes := receive count .earlyEnd pure

def ofExcept (r : Except Error α) : Exchange α := finish r

def byte : Exchange UInt8 :=
  receive 1 .unexpectedEnd fun
    | [b] => pure b
    | _ => fail .unexpectedEnd

def sized : Exchange Bytes := do
  let n ← byte
  block n.toNat

/-- The pieces in which a stream arrives. -/
abbrev Stream := List Bytes

def takeExactly : Stream → (count : Nat) → Option (Bytes × Stream)
  | s, 0 => some ([], s)
  | [], _ + 1 => none
  | p :: s, n + 1 =>
    if p.length ≤ n + 1 then
      (takeExactly s (n + 1 - p.length)).map fun (b, rest) => (p ++ b, rest)
    else some (p.take (n + 1), p.drop (n + 1) :: s)

/-- Takes what the next piece that is not empty holds, up to `room` bytes. -/
def takeSome : Stream → (room : Nat) → Option (Bytes × Stream)
  | [], _ => none
  | [] :: s, room => takeSome s room
  | p :: s, room =>
    if p.length ≤ room then some (p, s) else some (p.take room, p.drop room :: s)

structure Outcome (α : Type) where
  result : Except Error α
  sent : Bytes
  left : Stream

/-- Runs an exchange against a stream that ends after its last piece. -/
def run : Exchange α → Stream → Outcome α
  | finish r, s => ⟨r, [], s⟩
  | send b next, s =>
    let o := next.run s
    { o with sent := b ++ o.sent }
  | receive n e next, s =>
    match takeExactly s n with
    | some (b, rest) => (next b).run rest
    | none => ⟨.error e, [], []⟩
  | receiveSome n e next, s =>
    match takeSome s n with
    | some (b, rest) => (next b).run rest
    | none => ⟨.error e, [], []⟩
  | peek e next, s =>
    match s.flatten with
    | b :: _ => (next b).run s
    | [] => ⟨.error e, [], []⟩

end Exchange

end ProxyGateway.Net
