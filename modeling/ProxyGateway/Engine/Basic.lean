import ProxyGateway.Config
import ProxyGateway.Dispatch
import ProxyGateway.Outbound.Dialer
import ProxyGateway.Pool.Queue
import ProxyGateway.Probe.Measure
import ProxyGateway.ShareLink.Reader
/-!
The engine: the pool, the rules, the work that waits, and the time. What will happen stands on an
agenda in the order of time; what has happened and can be told stands in the notices.
-/
namespace ProxyGateway

inductive Notice where
  | dialed (address : String) (kind : FlowKind) (remote : String)
  | heard (address : String) (bytes : Bytes)
  | registered (name : String)
  | checked (name : String) (millis : Option Nat)

/-- What a round of the upkeep, or a check of every node on request, is for. -/
inductive Round where
  | delays
  | speeds
  | chores (cleans : Bool)

inductive Happening where
  | notice (n : Notice)
  | moved
  | delayed (node : Node) (start : Nat) (worked : Bool)
  | sampled (node : Node) (start : Nat) (size : Option Nat)
  | checkedAll
  | roundOver (cleans : Bool)

structure Appointment where
  time : Nat
  what : Happening

/-- Appointments in the order of time; those of one time stand in the order of their making. -/
abbrev Agenda := List Appointment

/-- Puts an appointment behind all that are not later. -/
def Agenda.add (a : Appointment) : Agenda → Agenda
  | [] => [a]
  | b :: rest => if b.time ≤ a.time then b :: Agenda.add a rest else a :: b :: rest

structure Schedule where
  delays : Nat
  speeds : Nat
deriving DecidableEq, Repr

/-- The upkeep of the pool: rounds of checks, one at a time. -/
inductive Upkeep where
  | off
  | fresh
  | idle (due : Schedule)
  | busy (due : Schedule)
  | ended
deriving DecidableEq, Repr

structure Engine where
  probe : ProbeSettings
  resolves : Bool
  /-- The peers behind the adapters, by the addresses of their records. -/
  peers : List (String × Outbound.Peer)
  pool : Pool
  rules : RuleTable
  stored : List RuleInfo
  chores : ChoreQueue
  upkeep : Upkeep
  dispatchers : Nat
  now : Nat
  /-- The time as the probes know it: their watch is set when a peer moves and when a stretch of
  time is over. -/
  noticed : Nat
  agenda : Agenda
  /-- The last notice stands first. -/
  notices : List Notice

namespace Engine

def new (probe : ProbeSettings) (resolves : Bool) (peers : List (String × Outbound.Peer))
    (stored : List RuleInfo) : Engine where
  probe := probe
  resolves := resolves
  peers := peers
  pool := .empty
  rules := .ofInfos stored
  stored := stored
  chores := .empty
  upkeep := .off
  dispatchers := 0
  now := 0
  noticed := 0
  agenda := []
  notices := []

def tell (e : Engine) (n : Notice) : Engine := { e with notices := n :: e.notices }

def takeNotices (e : Engine) : List Notice × Engine :=
  (e.notices.reverse, { e with notices := [] })

def notice (e : Engine) : Engine := { e with noticed := e.now }

def schedule (e : Engine) (wait : Nat) (what : Happening) : Engine :=
  { e with agenda := e.agenda.add ⟨e.now + wait, what⟩ }

/-- Queues work for the upkeep; when it is over nobody will do the work. -/
def ask (e : Engine) (c : Chore) : Engine :=
  if e.upkeep = .ended then e else { e with chores := e.chores.push c }

def register (e : Engine) (a : Adapter) : Engine × Bool :=
  let (pool, added) := e.pool.add a
  let e := { e with pool }.tell (.registered a.name)
  match added with
  | some n => (e.ask (.check n), true)
  | none => (e, false)

def registerRecord (e : Engine) (r : ProxyRecord) : Except Error (Engine × Bool) :=
  (Adapter.ofRecord r).map e.register

def registerLink (e : Engine) (link : String) : Except Error (Engine × Bool) := do
  e.registerRecord (← ShareLink.read link)

def registerMapping (e : Engine) (m : Yaml.Mapping) : Except Error (Engine × Bool) := do
  e.registerRecord (← ProxyRecord.ofMapping m)

/-- Registers records in turn, leaving out those that make no adapter; says how many were new. -/
def registerAll (e : Engine) : List ProxyRecord → Engine × Nat
  | [] => (e, 0)
  | r :: rest =>
    match e.registerRecord r with
    | .error _ => e.registerAll rest
    | .ok (e, added) =>
      let (e, n) := e.registerAll rest
      (e, if added then n + 1 else n)

def registerLinks (e : Engine) (content : String) : Engine × Nat :=
  e.registerAll ((ShareLink.readAll content).filterMap (·.toOption))

def cleanUp (e : Engine) : Engine := e.ask .cleanUp

def sort (e : Engine) : Engine := { e with pool := e.pool.sort }

def remove (e : Engine) (identity : String) : Engine × Bool :=
  let (pool, removed) := e.pool.remove identity
  ({ e with pool }, removed)

def addRule (e : Engine) (r : Rule) : Engine × Bool :=
  let (rules, added) := e.rules.add r
  ({ e with rules }, added)

def removeRule (e : Engine) (key : String) : Engine × Option RuleInfo :=
  let (rules, removed) := e.rules.remove key
  ({ e with rules }, removed)

def storeRules (e : Engine) : Engine := { e with stored := e.rules.infos }

end Engine

end ProxyGateway
