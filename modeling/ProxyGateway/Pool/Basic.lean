import ProxyGateway.Proxy.Adapter
/-!
The pool: every adapter that was registered, and those of them that were alive when the pool was
last ranked. A ranking puts the shorter delay first and, among equal delays, the greater speed;
adapters that are equal in both keep their places.
-/
namespace ProxyGateway

/-- An adapter in the pool. Two registrations of one proxy are two nodes, and their numbers tell
them apart. -/
structure Node where
  number : Nat
  adapter : Adapter

namespace Node

def identity (n : Node) : String := n.adapter.identity

/-- The order of a ranking. Speeds stand in the total order of their bit patterns, so that every
two nodes can be compared. -/
def before (a b : Node) : Bool :=
  a.adapter.delay < b.adapter.delay ||
    (a.adapter.delay == b.adapter.delay &&
      decide (b.adapter.speed.rank ≤ a.adapter.speed.rank))

end Node

structure Pool where
  /-- Every node, as the last ranking and the registrations since then have put them. -/
  all : List Node
  /-- The numbers of the nodes that were alive at the last ranking, in its order. -/
  alive : List Nat
  next : Nat

namespace Pool

def empty : Pool := ⟨[], [], 0⟩

instance : Inhabited Pool := ⟨empty⟩

def unchecked (a : Adapter) : Adapter :=
  ((a.store Adapter.delayKey (.num (.whole 0))).store Adapter.speedKey (.num (.whole 0))).store
    Adapter.speedTextKey (.str "wait")

/-- Whether a node of this identity is alive or has yet to be checked. -/
def hasLiveTwin (p : Pool) (identity : String) : Bool :=
  p.all.any fun n => n.identity == identity && !n.adapter.knownDead

/-- Registers an adapter at the end of the pool, unless it has a live twin there. -/
def add (p : Pool) (a : Adapter) : Pool × Option Node :=
  if p.hasLiveTwin a.identity then (p, none)
  else
    let n := ⟨p.next, unchecked a⟩
    ({ p with all := p.all ++ [n], next := p.next + 1 }, some n)

def update (p : Pool) (number : Nat) (f : Adapter → Adapter) : Pool :=
  { p with all := p.all.map fun n =>
      if n.number = number then { n with adapter := f n.adapter } else n }

def renewAlive (p : Pool) : Pool :=
  { p with alive := (p.all.filter (·.adapter.alive)).map (·.number) }

def sort (p : Pool) : Pool := { p with all := p.all.mergeSort Node.before }.renewAlive

def cleanUp (p : Pool) : Pool := { p with all := p.all.filter (!·.adapter.knownDead) }.sort

def remove (p : Pool) (identity : String) : Pool × Bool :=
  ({ p with all := p.all.filter (·.identity != identity) }.renewAlive,
    p.all.any (·.identity == identity))

def find? (p : Pool) (identity : String) : Option Node := p.all.find? (·.identity == identity)

def node? (p : Pool) (number : Nat) : Option Node := p.all.find? (·.number == number)

def aliveNodes (p : Pool) : List Node := p.alive.filterMap p.node?

def best? (p : Pool) : Option Node := p.aliveNodes.head?

end Pool

end ProxyGateway
