import ProxyGateway.Dns
import ProxyGateway.Engine.Time

namespace ProxyGateway.Engine

open Outbound (Arrival Call Line)

/-- The flow with its address filled in. No server for names is ever reached from here. -/
def resolve (e : Engine) (f : Flow) : Flow :=
  if e.resolves then Dispatch.resolve (Dns.resolve fun _ => none) f else f

def callCandidate (e : Engine) (f : Flow) : Candidate → Call
  | .direct => Outbound.Dialer.plainDirect.callAlone f
  | .reject => Outbound.Dialer.plainReject.callAlone f
  | .node n => e.call n.adapter f

/-- Lets the time of a call pass. A call that is over at once leaves no room for anything else. -/
def passCall (e : Engine) (f : Flow) (c : Candidate) : Engine :=
  let call := e.callCandidate f c
  let e := match c with
    | .node n => e.placeCall n.adapter f call
    | _ => e
  if call.took = 0 then e else e.pass call.took

structure Joined where
  through : Candidate
  line : Line

def dial (e : Engine) (f : Flow) (c : Candidate) : Except Error Joined :=
  (e.callCandidate f c).result.map fun line => ⟨c, line⟩

def connect (e : Engine) (f : Flow) : Engine × Except Error Joined :=
  let f := e.resolve f
  let route := e.rules.route f
  let atFirst := e.pool.aliveNodes
  let afterFirst := match Dispatch.pick route atFirst with
    | some first => e.passCall f first
    | none => e
  let attempt := Dispatch.connect route atFirst afterFirst.pool.aliveNodes (e.dial f)
  let e := attempt.dialed.tail.foldl (fun (e : Engine) c => e.passCall f c) afterFirst
  let e := match attempt.takeover with
    | some o => { e with rules := Dispatch.learn e.rules f o }
    | none => e
  (e, attempt.result)

structure Relayed where
  got : Bytes
  ended : Bool
deriving DecidableEq, Repr

def patience : Nat := 3000

/-- What comes to a client that stays until `deadline`, and until when it stays in the end. Every
piece makes it stay longer. -/
def relay (ends : Option Nat) (deadline : Nat) : List Arrival → Relayed × Nat
  | [] =>
    match ends with
    | some time => if time < deadline then (⟨[], true⟩, time) else (⟨[], false⟩, deadline)
    | none => (⟨[], false⟩, deadline)
  | a :: rest =>
    if a.time < deadline then
      let next := if a.bytes = [] then deadline else a.time + patience
      let (r, time) := relay ends next rest
      ({ r with got := a.bytes ++ r.got }, time)
    else (⟨[], false⟩, deadline)

def tellHeard (e : Engine) (j : Joined) (data : Bytes) : Engine :=
  match j.through with
  | .node n =>
    if j.line.heard ∧ data ≠ [] then e.tell (.heard n.adapter.record.address data) else e
  | _ => e

/-- Handles a client that sends `data` and no more. A client that gets no line sees the end as soon
as that is clear, if it still waits by then. -/
def handle (e : Engine) (f : Flow) (data : Bytes) : Engine × Relayed :=
  let start := e.now
  let (e, result) := e.connect f
  match result with
  | .error _ => (e, ⟨[], e.now - start < patience⟩)
  | .ok joined =>
    let deadline := patience - (e.now - start)
    let (relayed, time) := relay joined.line.ends deadline joined.line.arrivals
    let e := (e.tellHeard joined data).placeMoves 0 (timesUntil time joined.line.arrivals)
    (e.pass time, relayed)

end ProxyGateway.Engine
