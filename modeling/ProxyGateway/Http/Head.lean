import ProxyGateway.Text.Cut
import ProxyGateway.Text.Utf8
/-!
The head of an HTTP message: a first line and header lines up to an empty one. A line ends in CRLF
or in a bare LF, and empty lines may stand before the first one. A head that is cut short is told
from one that is malformed.
-/
namespace ProxyGateway.Http

inductive Flaw where
  | headerName
  | headerValue
  | newLine
  | status
  | token
  | tooManyHeaders
  | version
deriving DecidableEq, Repr

def Flaw.message : Flaw → String
  | .headerName => "invalid header name"
  | .headerValue => "invalid header value"
  | .newLine => "invalid new line"
  | .status => "invalid response status"
  | .token => "invalid token"
  | .tooManyHeaders => "too many headers"
  | .version => "invalid HTTP version"

inductive Stop where
  | unfinished
  | malformed (flaw : Flaw)
deriving DecidableEq, Repr

def cr : UInt8 := 13

def lf : UInt8 := 10

def space : UInt8 := 32

def tab : UInt8 := 9

def colon : UInt8 := 58

def crlf : Bytes := [cr, lf]

/-- The end of a head whose lines end in CRLF. -/
def headMark : Bytes := [cr, lf, cr, lf]

/-- The length of the head at the start of some bytes, its mark included. -/
def headEnd (s : Bytes) : Option Nat :=
  (Text.cutWord headMark s).map fun (head, _) => head.length + 4

def isAlphanumeric (b : UInt8) : Bool :=
  (48 ≤ b && b ≤ 57) || (65 ≤ b && b ≤ 90) || (97 ≤ b && b ≤ 122)

def isToken (b : UInt8) : Bool :=
  isAlphanumeric b || [33, 35, 36, 37, 38, 39, 42, 43, 45, 46, 94, 95, 96, 124, 126].contains b

/-- The bytes of a request target: all that can be seen, and everything outside ASCII. -/
def isTarget (b : UInt8) : Bool := 33 ≤ b && b != 127

def isValue (b : UInt8) : Bool := b == tab || (32 ≤ b && b != 127)

def isGap (b : UInt8) : Bool := b == space || b == tab

def skipEmptyLines : Bytes → Except Stop Bytes
  | [] => .error .unfinished
  | [b] =>
    if b = cr then .error .unfinished
    else if b = lf then .error .unfinished
    else .ok [b]
  | b :: c :: rest =>
    if b = cr then if c = lf then skipEmptyLines rest else .error (.malformed .newLine)
    else if b = lf then skipEmptyLines (c :: rest)
    else .ok (b :: c :: rest)

def takeLineEnd (flaw : Flaw) : Bytes → Except Stop Bytes
  | [] => .error .unfinished
  | b :: rest =>
    if b = lf then .ok rest
    else if b = cr then
      match rest with
      | [] => .error .unfinished
      | c :: rest => if c = lf then .ok rest else .error (.malformed flaw)
    else .error (.malformed flaw)

/-- Reads bytes of a class up to a delimiter behind them. -/
def takeUntil (delimiter : UInt8) (inClass : UInt8 → Bool) (flaw : Flaw) (s : Bytes) :
    Except Stop (Bytes × Bytes) :=
  match s.dropWhile inClass with
  | [] => .error .unfinished
  | b :: rest =>
    if b = delimiter ∧ s.takeWhile inClass ≠ [] then .ok (s.takeWhile inClass, rest)
    else .error (.malformed flaw)

/-- The minor version behind `HTTP/1.`. -/
def takeVersion (s : Bytes) : Except Stop (Nat × Bytes) :=
  match Text.stripStart (Bytes.ofText "HTTP/1.") s with
  | some (d :: rest) =>
    if d = 48 then .ok (0, rest)
    else if d = 49 then .ok (1, rest)
    else .error (.malformed .version)
  | some [] => .error .unfinished
  | none =>
    if s.length < 8 ∧ (Text.stripStart s (Bytes.ofText "HTTP/1.")).isSome then .error .unfinished
    else .error (.malformed .version)

structure Header where
  name : Bytes
  value : Bytes
deriving DecidableEq, Repr

def Header.key (h : Header) : Bytes :=
  h.name.map fun b => if 65 ≤ b ∧ b ≤ 90 then b + 32 else b

/-- One header line; blanks around the value are no part of it. -/
def takeHeader (s : Bytes) : Except Stop (Header × Bytes) := do
  let (name, rest) ← takeUntil colon isToken .headerName s
  let rest := rest.dropWhile isGap
  let value := rest.takeWhile isValue
  let rest ← takeLineEnd .headerValue (rest.drop value.length)
  pure (⟨name, (value.reverse.dropWhile isGap).reverse⟩, rest)

/-- The header lines, of which there may be `room`, up to the empty line behind them. -/
def takeHeaders : (room : Nat) → Bytes → Except Stop (List Header × Bytes)
  | room, s => do
    match s with
    | [] => throw .unfinished
    | b :: _ =>
      if b = cr ∨ b = lf then
        let rest ← takeLineEnd .newLine s
        pure ([], rest)
      else
        let (h, rest) ← takeHeader s
        match room with
        | 0 => throw (.malformed .tooManyHeaders)
        | room + 1 =>
          let (hs, rest) ← takeHeaders room rest
          pure (h :: hs, rest)

structure RequestHead where
  method : Bytes
  target : String
  headers : List Header
deriving DecidableEq, Repr

def takeRequest (room : Nat) (s : Bytes) : Except Stop (RequestHead × Bytes) := do
  let s ← skipEmptyLines s
  let (method, s) ← takeUntil space isToken .token s
  let (target, s) ← takeUntil space isTarget .token s
  let some target := Text.Utf8.decode? target | throw (.malformed .token)
  let (_, s) ← takeVersion s
  let s ← takeLineEnd .newLine s
  let (headers, s) ← takeHeaders room s
  pure (⟨method, target, headers⟩, s)

structure ResponseHead where
  version : Nat
  code : Nat
  reason : String
  headers : List Header

def takeDigit : Bytes → Except Stop (Nat × Bytes)
  | [] => .error .unfinished
  | b :: rest =>
    if 48 ≤ b ∧ b ≤ 57 then .ok (b.toNat - 48, rest) else .error (.malformed .status)

/-- The words behind the status; outside ASCII they count as none. -/
def takeReason (s : Bytes) : Except Stop (String × Bytes) :=
  match s with
  | b :: rest =>
    if b = space then do
      let words := rest.takeWhile isValue
      let rest ← takeLineEnd .status (rest.drop words.length)
      let text := if words.any (128 ≤ ·) then "" else Text.Utf8.repair words
      pure (text, rest)
    else (takeLineEnd .status s).map fun rest => ("", rest)
  | [] => .error .unfinished

def takeResponse (room : Nat) (s : Bytes) : Except Stop (ResponseHead × Bytes) := do
  let s ← skipEmptyLines s
  let (version, s) ← takeVersion s
  let s ← match s with
    | b :: rest => if b = space then pure rest else throw (.malformed .version)
    | [] => throw .unfinished
  let (a, s) ← takeDigit s
  let (b, s) ← takeDigit s
  let (c, s) ← takeDigit s
  let (reason, s) ← takeReason s
  let (headers, s) ← takeHeaders room s
  pure (⟨version, a * 100 + b * 10 + c, reason, headers⟩, s)

end ProxyGateway.Http
