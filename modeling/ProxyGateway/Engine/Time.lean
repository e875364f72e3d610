import ProxyGateway.Engine.Basic
import ProxyGateway.Probe.Basic
/-!
How time passes in the engine. Probes run side by side: each is planned when it starts, and its
steps happen in the order of time among everything else. The upkeep does one round after the other;
of what is due it takes the delays first, then the speeds, then the work in the queue.
-/
namespace ProxyGateway.Engine

def millis (seconds : Nat) : Nat := seconds * 1000

def peer? (e : Engine) (a : Adapter) : Option Outbound.Peer := e.peers.lookup a.record.address

def dialTimedOut (f : Flow) (a : Adapter) : Error :=
  .timeout ("dial " ++ f.remoteAddress ++ " via " ++ a.name ++ " timed out")

/-- Calls through an adapter: its peer, or, where it has none, a network where nobody listens. -/
def call (e : Engine) (a : Adapter) (f : Flow) : Outbound.Call :=
  match e.peer? a with
  | some p => p.call (millis e.probe.dialTimeout) (dialTimedOut f a)
  | none =>
    match Outbound.Dialer.ofRecord a.record a.name with
    | .ok d => d.callAlone f
    | .error err => ⟨0, false, .error err⟩

/-- What a call shows while it lasts; a peer that answers at once moves at once. -/
def placeCall (e : Engine) (a : Adapter) (f : Flow) (c : Outbound.Call) : Engine :=
  let e := if (e.peer? a).isSome then e.tell (.dialed a.record.address f.kind f.remoteAddress) else e
  if !c.answered then e
  else if c.took = 0 then e.notice
  else e.schedule c.took .moved

def timesUntil (closed : Nat) : List Outbound.Arrival → List Nat
  | [] => []
  | a :: rest => if a.time ≤ closed then a.time :: timesUntil closed rest else [a.time]

def placeMoves (e : Engine) (opens : Nat) (times : List Nat) : Engine :=
  times.foldl (fun (e : Engine) time => e.schedule (opens + time) .moved) e

def placeProbe (e : Engine) (a : Adapter) (t : Probe.Target) (c : Outbound.Call)
    (p : Probe.Course) : Engine :=
  match c.result with
  | .ok line =>
    if p.heard then
      (e.schedule c.took (.notice (.heard a.record.address (Bytes.ofText t.request)))).placeMoves
        c.took (timesUntil (p.took - c.took) line.arrivals)
    else e
  | .error _ => e

/-- The engine with a check under way, how long the check takes, and whether it will work. -/
structure Started where
  engine : Engine
  took : Nat
  works : Bool

/-- Starts a probe; without a target it is over at once. -/
def startProbe (e : Engine) (a : Adapter) (url : String) (aim : Probe.Aim) (limit : Nat) :
    Engine × Nat × Option Nat :=
  match Probe.Target.ofText url with
  | .error _ => (e, 0, none)
  | .ok t =>
    let c := e.call a t.flow
    let p := aim.run t c limit
    ((e.placeCall a t.flow c).placeProbe a t c p, p.took, p.result)

def startDelay (e : Engine) (n : Node) : Started :=
  let start := e.noticed
  let (e, took, result) :=
    e.startProbe n.adapter e.probe.delayUrl .delay (millis e.probe.timeout)
  ⟨e.schedule took (.delayed n start result.isSome), took, result.isSome⟩

def startSpeed (e : Engine) (n : Node) : Started :=
  let start := e.noticed
  let (e, took, result) := e.startProbe n.adapter e.probe.speedUrl (.speed e.probe.speedSample)
    (millis e.probe.speedTimeout)
  ⟨e.schedule took (.sampled n start result), took, result.isSome⟩

/-- Starts a check of many nodes; it is over when the last of them is. -/
def startAll (start : Engine → Node → Started) (e : Engine) (ns : List Node) : Started :=
  ns.foldl (fun (s : Started) n =>
    let t := start s.engine n
    ⟨t.engine, max s.took t.took, s.works && t.works⟩) ⟨e, 0, true⟩

def measure (e : Engine) (n : Node) (m : Measurement) : Engine :=
  { e with pool := e.pool.update n.number m.apply }

def elapsed (e : Engine) (start : Nat) : Nat := e.noticed - start

/-- The end of a round: the nodes are ranked, the dead ones dropped before if that was asked for. -/
def finishRound (e : Engine) (cleans : Bool) : Engine :=
  { e with pool := if cleans then e.pool.cleanUp else e.pool.sort }

def happen (e : Engine) : Happening → Engine
  | .notice n => e.tell n
  | .moved => e.notice
  | .delayed n start worked =>
    let result := if worked then some (e.elapsed start) else none
    (e.measure n (.delay result)).tell (.checked n.adapter.name result)
  | .sampled n start size => e.measure n (.speed size (e.elapsed start * 1000000))
  | .checkedAll => e.finishRound false
  | .roundOver cleans =>
    let e := e.finishRound cleans
    match e.upkeep with
    | .busy due => { e with upkeep := .idle due }
    | _ => e

/-- How late a round may be and keep to its schedule. -/
def tolerance : Nat := 5

/-- When the round after one that was due is due: a period after that, or after now if it was
late. -/
def nextDue (due period now : Nat) : Nat :=
  if due + tolerance < now then now + period else due + period

def startRound (e : Engine) (due : Schedule) (r : Round) (ns : List Node) : Engine :=
  let e := { e with upkeep := .busy due }
  match r with
  | .delays =>
    let s := startAll startDelay e ns
    s.engine.schedule s.took (.roundOver false)
  | .speeds =>
    let s := startAll startSpeed e ns
    s.engine.schedule s.took (.roundOver false)
  | .chores cleans =>
    let s := startAll startDelay e ns
    s.engine.schedule s.took (.roundOver cleans)

def startDue? (e : Engine) (due : Schedule) : Option Engine :=
  if due.delays ≤ e.now then
    let next := nextDue due.delays (millis e.probe.delayInterval) e.now
    some (e.startRound { due with delays := next } .delays e.pool.all)
  else if due.speeds ≤ e.now then
    let next := nextDue due.speeds (millis e.probe.speedInterval) e.now
    some (e.startRound { due with speeds := next } .speeds e.pool.all)
  else if e.chores.isEmpty then none
  else
    let (cs, chores) := e.chores.take
    some ({ e with chores }.startRound due (.chores (Chore.asksCleanUp cs)) (Chore.nodes cs))

def wake? (e : Engine) : Option Engine :=
  match e.upkeep with
  | .fresh =>
    let due : Schedule :=
      ⟨e.now + millis e.probe.delayInterval, e.now + millis e.probe.speedInterval⟩
    some { e with upkeep := .idle due }
  | .idle due => e.startDue? due
  | _ => none

def nextRound? (e : Engine) : Option Nat :=
  match e.upkeep with
  | .idle due => some (min due.delays due.speeds)
  | _ => none

/-- The next thing that happens up to a time: something on the agenda comes before a round that is
due at the same time. -/
def step? (e : Engine) (last : Nat) : Option Engine :=
  match e.wake? with
  | some e => some e
  | none =>
    let round := e.nextRound?.filter (· ≤ last)
    match e.agenda.head?.filter (·.time ≤ last), round with
    | some a, some time =>
      if time < a.time then some { e with now := max e.now time } else some (keep a)
    | some a, none => some (keep a)
    | none, some time => some { e with now := max e.now time }
    | none, none => none
where
  keep (a : Appointment) : Engine :=
    { e with agenda := e.agenda.tail, now := max e.now a.time }.happen a.what

def probeSteps (e : Engine) : Nat :=
  4 + (e.peers.map fun p => p.2.pieces.length).foldl max 0

/-- More steps than can happen within a span: a round of either kind once a second, one for each
pass through the queue, and in each of them a probe of every node. -/
def stepsWithin (e : Engine) (span : Nat) : Nat :=
  let rounds := 2 * (span / 1000 + 2) + e.chores.queued.length + e.chores.outside.length + 2
  let nodes := e.pool.all.length + ChoreQueue.capacity
  e.agenda.length + rounds * (3 + nodes * e.probeSteps)

def runSteps (last : Nat) : Nat → Engine → Engine
  | 0, e => e
  | fuel + 1, e =>
    match e.step? last with
    | some e => runSteps last fuel e
    | none => e

def pass (e : Engine) (span : Nat) : Engine :=
  let last := e.now + span
  ({ runSteps last (e.stepsWithin span) e with now := last }).notice

/-- Starts the upkeep, which can be done once. -/
def start (e : Engine) : Except Error Engine :=
  if e.upkeep = .off then .ok { e with upkeep := .fresh }
  else .error (.internal "pool loop already started")

def serve (e : Engine) : Engine := { e with dispatchers := e.dispatchers + 1 }

def roundEnd? (e : Engine) : Option Nat :=
  match e.upkeep with
  | .busy _ => e.agenda.findSome? fun a =>
    match a.what with
    | .roundOver _ => some a.time
    | _ => none
  | _ => none

/-- Ends the upkeep after the round it is busy with, and all dispatchers; says how many tasks were
ended. -/
def stop (e : Engine) : Engine × Nat :=
  let e := match e.roundEnd? with
    | some time => e.pass (time - e.now)
    | none => e
  let loops := if e.upkeep = .off ∨ e.upkeep = .ended then 0 else 1
  let upkeep := if e.upkeep = .off then Upkeep.off else .ended
  ({ e with upkeep, dispatchers := 0, chores := if loops = 0 then e.chores else .empty },
    loops + e.dispatchers)

def checkDelay (e : Engine) (n : Node) : Engine × Option Nat :=
  let s := e.startDelay n
  (s.engine.pass s.took, if s.works then some s.took else none)

def checkSpeed (e : Engine) (n : Node) : Engine :=
  let s := e.startSpeed n
  s.engine.pass s.took

def checkAll (start : Engine → Node → Started) (e : Engine) : Engine :=
  let s := startAll start e e.pool.all
  (s.engine.schedule s.took .checkedAll).pass s.took

def checkAllDelays : Engine → Engine := checkAll startDelay

def checkAllSpeeds : Engine → Engine := checkAll startSpeed

end ProxyGateway.Engine
