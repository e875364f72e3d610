import ProxyGateway.Http.Framing
import ProxyGateway.Outbound.Peer
import ProxyGateway.Probe.Target
import ProxyGateway.Tls

namespace ProxyGateway.Probe

open Outbound (Arrival Line Call)

inductive Awaited (α : Type) where
  | never
  | comes (time : Nat) (result : Option α)

def Awaited.before (limit : Nat) : Awaited α → Nat × Option α
  | never => (limit, none)
  | comes time result => if time < limit then (time, result) else (limit, none)

structure Opening where
  head : Http.ResponseHead
  framing : Http.Framing
  rest : Bytes
  later : List Arrival

/-- Waits for a head; `got` has come already, and `ends` tells when nothing more will. -/
def awaitHead (ends : Option Nat) (got : Bytes) : List Arrival → Awaited Opening
  | [] =>
    match ends with
    | some time => .comes time none
    | none => .never
  | a :: later =>
    let got := got ++ a.bytes
    match Http.headStep Http.maxHeaders (got.length + 1) got with
    | .unfinished => awaitHead ends got later
    | .broken => .comes a.time none
    | .complete head framing rest => .comes a.time (some ⟨head, framing, rest, later⟩)

def countRuns (sample read : Nat) : List Bytes → Nat
  | [] => read
  | run :: rest => if sample ≤ read then read else countRuns sample (read + run.length) rest

/-- A sample of a size; nothing is no sample. -/
def sampled (read : Nat) : Option Nat := if read = 0 then none else some read

inductive BodyProgress where
  | done (result : Option Nat)
  | onward (place : Http.BodyPlace) (read : Nat)

def takePiece (sample : Nat) (place : Http.BodyPlace) (read : Nat) (piece : Bytes) :
    BodyProgress :=
  let (runs, step) := place.feed piece
  let read := countRuns sample read runs
  if sample ≤ read then .done (sampled read)
  else match step with
    | .complete => .done (sampled read)
    | .broken => .done none
    | .more place => .onward place read

def awaitBody (sample : Nat) (ends : Option Nat) (place : Http.BodyPlace) (read : Nat) :
    List Arrival → Awaited Nat
  | [] =>
    match ends with
    | some time => .comes time (if place.mayClose then sampled read else none)
    | none => .never
  | a :: later =>
    match takePiece sample place read a.bytes with
    | .done result => .comes a.time result
    | .onward place read => awaitBody sample ends place read later

inductive Aim where
  | delay
  | speed (sample : Nat)

/-- Waits for what a probe looks for; for a delay the number of bytes is nought. -/
def Aim.await (aim : Aim) (line : Line) : Awaited Nat :=
  match awaitHead line.ends [] line.arrivals with
  | .never => .never
  | .comes time none => .comes time none
  | .comes time (some o) =>
    match aim with
    | .delay => .comes time (some 0)
    | .speed sample =>
      if o.head.code < 200 ∨ 300 ≤ o.head.code then .comes time none
      else match takePiece sample (.ofFraming o.framing) 0 o.rest with
        | .done result => .comes time result
        | .onward place read => awaitBody sample line.ends place read o.later

structure Course where
  heard : Bool
  took : Nat
  result : Option Nat

/-- Probes over a call. A secure line is never made, as no peer speaks its protocol; a name that
no secure line can be asked for fails at once. -/
def Aim.run (aim : Aim) (t : Target) (call : Call) (limit : Nat) : Course :=
  if limit ≤ call.took then ⟨false, limit, none⟩
  else match call.result with
    | .error _ => ⟨false, call.took, none⟩
    | .ok line =>
      if t.secure then
        ⟨false, if line.heard ∧ Tls.isServerName t.host then limit else call.took, none⟩
      else
        let (time, result) := (aim.await line).before (limit - call.took)
        ⟨line.heard, call.took + time, result⟩

end ProxyGateway.Probe
