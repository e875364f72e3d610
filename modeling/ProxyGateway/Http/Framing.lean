import ProxyGateway.Http.Head
import ProxyGateway.Text.Ascii
import ProxyGateway.Text.Blank
import ProxyGateway.Text.Numeral
/-!
The body of a response: how its head announces where it ends, and the body read as its bytes come.
What is read of a piece is told as the runs of body bytes in it.
-/
namespace ProxyGateway.Http

def ResponseHead.values (h : ResponseHead) (name : String) : List Bytes :=
  (h.headers.filter (·.key == Bytes.ofText name)).map (·.value)

def maxLength : Nat := 18446744073709551613

def lengthOf? (s : List Char) : Option Nat :=
  (Text.digits 10 (Text.trimChars s)).filter (· ≤ 18446744073709551615)

def lengths? (values : List Bytes) : Option (List Nat) := do
  let texts ← values.mapM fun v =>
    if v.all (fun b => b == tab || (32 ≤ b && b < 127)) then Text.Utf8.decode? v else none
  (texts.flatMap fun t => Text.splitAll ',' t.toList).mapM lengthOf?

def endsChunked (values : List Bytes) : Bool :=
  match values.getLast?.bind Text.Utf8.decode? with
  | some text =>
    let parts := Text.splitAll ',' text.toList
    ((parts.getLast?.map fun p => Text.lower (String.ofList (Text.trimChars p))).getD "") ==
      "chunked"
  | none => false

inductive Framing where
  | sized (length : Nat)
  | chunked
  | untilClose
deriving DecidableEq, Repr

/-- The framing that a head announces; none where it contradicts itself. -/
def Framing.ofHead? (h : ResponseHead) : Option Framing :=
  if h.code = 101 ∨ h.code = 204 ∨ h.code = 304 then some (.sized 0)
  else match h.values "transfer-encoding", h.values "content-length" with
    | [], [] => some .untilClose
    | [], lengths =>
      match lengths? lengths with
      | some (n :: rest) => if rest.all (· == n) ∧ n ≤ maxLength then some (.sized n) else none
      | _ => none
    | encodings, _ =>
      if h.version = 0 then none
      else if endsChunked encodings then some .chunked
      else some .untilClose

inductive ChunkPlace where
  | start
  | size (n : Nat)
  | gap (n : Nat)
  | extension (n : Nat)
  | sizeEnd (n : Nat)
  /-- `left + 1` bytes of the chunk are missing. -/
  | inside (left : Nat)
  | chunkEnd
  | chunkEndLf
  /-- In a line behind the last chunk; `lines` holds what has been read of such lines, backwards. -/
  | trailer (lines : Bytes)
  | trailerLf (lines : Bytes)
  | trailerStart (lines : Bytes)
  | lastLf (lines : Bytes)

inductive BodyPlace where
  | sized (left : Nat)
  | chunked (place : ChunkPlace)
  | untilClose

inductive BodyStep where
  | more (place : BodyPlace)
  | complete
  | broken

def pushDigit (n : Nat) (b : UInt8) : Option Nat := do
  let d ← Text.digitValue 16 (Char.ofNat b.toNat)
  let m := n * 16 + d
  if m < 18446744073709551616 then some m else none

/-- Header lines behind the last chunk, if there are any, have to be well-formed. -/
def trailerHolds (lines : Bytes) : Bool :=
  lines.isEmpty || ((takeHeaders lines.length (lines.reverse ++ crlf)).toOption).isSome

def closeRun (run : Bytes) : List Bytes := if run = [] then [] else [run.reverse]

/-- Reads on in a chunked body; `run` holds the bytes of the run that is open, backwards. -/
def feedChunks (place : ChunkPlace) (run : Bytes) : Bytes → List Bytes × BodyStep
  | [] => (closeRun run, .more (.chunked place))
  | b :: rest =>
    match place with
    | .start =>
      match pushDigit 0 b with
      | some n => feedChunks (.size n) run rest
      | none => (closeRun run, .broken)
    | .size n =>
      match pushDigit n b with
      | some m => feedChunks (.size m) run rest
      | none =>
        if isGap b then feedChunks (.gap n) run rest
        else if b = 0x3B then feedChunks (.extension n) run rest
        else if b = cr then feedChunks (.sizeEnd n) run rest
        else (closeRun run, .broken)
    | .gap n =>
      if isGap b then feedChunks (.gap n) run rest
      else if b = 0x3B then feedChunks (.extension n) run rest
      else if b = cr then feedChunks (.sizeEnd n) run rest
      else (closeRun run, .broken)
    | .extension n =>
      if b = cr then feedChunks (.sizeEnd n) run rest
      else if b = lf then (closeRun run, .broken)
      else feedChunks (.extension n) run rest
    | .sizeEnd n =>
      if b ≠ lf then (closeRun run, .broken)
      else match n with
        | 0 => feedChunks (.trailerStart []) run rest
        | left + 1 => feedChunks (.inside left) run rest
    | .inside 0 =>
      let (runs, step) := feedChunks .chunkEnd [] rest
      ((b :: run).reverse :: runs, step)
    | .inside (left + 1) => feedChunks (.inside left) (b :: run) rest
    | .chunkEnd =>
      if b = cr then feedChunks .chunkEndLf run rest else (closeRun run, .broken)
    | .chunkEndLf =>
      if b = lf then feedChunks .start run rest else (closeRun run, .broken)
    | .trailer lines =>
      if b = cr then feedChunks (.trailerLf (b :: lines)) run rest
      else feedChunks (.trailer (b :: lines)) run rest
    | .trailerLf lines =>
      if b = lf then feedChunks (.trailerStart (b :: lines)) run rest
      else (closeRun run, .broken)
    | .trailerStart lines =>
      if b = cr then feedChunks (.lastLf lines) run rest
      else feedChunks (.trailer (b :: lines)) run rest
    | .lastLf lines =>
      (closeRun run, if b = lf ∧ trailerHolds lines then .complete else .broken)

namespace BodyPlace

def ofFraming : Framing → BodyPlace
  | .sized n => sized n
  | .chunked => chunked .start
  | .untilClose => untilClose

/-- Reads a piece; what stands behind the end of the body is no part of it. -/
def feed (place : BodyPlace) (piece : Bytes) : List Bytes × BodyStep :=
  let whole (b : Bytes) := if b = [] then [] else [b]
  match place with
  | sized left =>
    if left ≤ piece.length then (whole (piece.take left), .complete)
    else (whole piece, .more (sized (left - piece.length)))
  | chunked place => feedChunks place [] piece
  | untilClose => (whole piece, .more untilClose)

def mayClose : BodyPlace → Bool
  | untilClose => true
  | _ => false

end BodyPlace

inductive HeadStep where
  | unfinished
  | broken
  | complete (head : ResponseHead) (framing : Framing) (rest : Bytes)

def isInterim (code : Nat) : Bool := 100 ≤ code && code < 200 && code != 101

/-- Reads the head of a response with at most `room` header lines; interim responses are skipped.
`fuel` bounds their number. -/
def headStep (room : Nat) : (fuel : Nat) → Bytes → HeadStep
  | 0, _ => .unfinished
  | fuel + 1, got =>
    match takeResponse room got with
    | .error .unfinished => .unfinished
    | .error (.malformed _) => .broken
    | .ok (head, rest) =>
      if head.code < 100 then .broken
      else if isInterim head.code then headStep room fuel rest
      else match Framing.ofHead? head with
        | some framing => .complete head framing rest
        | none => .broken

structure Response where
  head : ResponseHead
  body : Bytes

def maxHeaders : Nat := 100

/-- The body in the rest of a stream that ends behind these bytes, if it is whole. -/
def Framing.bodyOf? (framing : Framing) (rest : Bytes) : Option Bytes :=
  match (BodyPlace.ofFraming framing).feed rest with
  | (runs, .complete) => some runs.flatten
  | (runs, .more place) => if place.mayClose then some runs.flatten else none
  | (_, .broken) => none

end ProxyGateway.Http
