import ProxyGateway.Pool.Basic
/-!
The work that waits for the upkeep of the pool: first checks of new nodes, and clean-ups. The queue
holds a bounded number of requests; those that find it full wait behind it for room, in their
order. The upkeep takes everything that is queued in one pass.
-/
namespace ProxyGateway

inductive Chore where
  | check (node : Node)
  | cleanUp

structure ChoreQueue where
  queued : List Chore
  /-- Requests that found the queue full. -/
  outside : List Chore

namespace ChoreQueue

def capacity : Nat := 10

def empty : ChoreQueue := ⟨[], []⟩

instance : Inhabited ChoreQueue := ⟨empty⟩

def isEmpty (q : ChoreQueue) : Bool := q.queued.isEmpty && q.outside.isEmpty

def push (q : ChoreQueue) (c : Chore) : ChoreQueue :=
  if q.queued.length < capacity then { q with queued := q.queued ++ [c] }
  else { q with outside := q.outside ++ [c] }

def refill (q : ChoreQueue) : ChoreQueue :=
  let room := capacity - q.queued.length
  ⟨q.queued ++ q.outside.take room, q.outside.drop room⟩

/-- Takes what is queued; what waits outside comes in only after that. -/
def take (q : ChoreQueue) : List Chore × ChoreQueue :=
  (q.queued, (⟨[], q.outside⟩ : ChoreQueue).refill)

end ChoreQueue

namespace Chore

def nodes (cs : List Chore) : List Node :=
  cs.filterMap fun
    | check n => some n
    | cleanUp => none

/-- Several clean-ups are one. -/
def asksCleanUp (cs : List Chore) : Bool :=
  cs.any fun
    | check _ => false
    | cleanUp => true

end Chore

end ProxyGateway
