import ProxyGateway.Json.Basic
/-!
Reading JSON. A text is one value with white space around it; nesting is limited, a name that is
repeated keeps its last value, and a number too large for a word is read as a real one.
-/
namespace ProxyGateway.Json

/-- What is wrong with a text, and how many characters were left there. -/
structure Flaw where
  what : String
  left : Nat

def refuse (what : String) (s : List Char) : Except Flaw α := .error ⟨what, s.length⟩

def isSpace (c : Char) : Bool := c == ' ' || c == '\n' || c == '\t' || c == '\r'

def skipSpace (s : List Char) : List Char := s.dropWhile isSpace

def isDigit (c : Char) : Bool := '0' ≤ c && c ≤ '9'

def power10 (n : Nat) : Float := Float.ofScientific 1 false n

/-- A significand scaled by a power of ten in one step, or in steps of `10 ^ 308` downwards; none
where it grows beyond all numbers. -/
def scale (x : Float) (exponent : Int) : Nat → Option Float
  | 0 => some 0
  | fuel + 1 =>
    if exponent.natAbs ≤ 308 then
      if 0 ≤ exponent then
        let y := x * power10 exponent.natAbs
        if y.isInf then none else some y
      else some (x / power10 exponent.natAbs)
    else if x == 0 then some x
    else if 0 ≤ exponent then none
    else scale (x / power10 308) (exponent + 308) fuel

/-- The digits of a significand that fit an unsigned word, and how many did not. -/
def takeDigits (n : Nat) : List Char → Nat × Nat
  | [] => (n, 0)
  | c :: rest =>
    let m := n * 10 + (c.toNat - 48)
    if m < 18446744073709551616 then takeDigits m rest else (n, rest.length + 1)

structure Exponent where
  minus : Bool
  size : Nat

def takeExponent (s : List Char) : Except Flaw (Option Exponent × List Char) :=
  match s with
  | c :: rest =>
    if c = 'e' ∨ c = 'E' then
      let (minus, rest) := match rest with
        | '-' :: r => (true, r)
        | '+' :: r => (false, r)
        | r => (false, r)
      let ds := rest.takeWhile isDigit
      if ds = [] then refuse "invalid number" rest
      else .ok (some ⟨minus, digitsValue ds⟩, rest.drop ds.length)
    else .ok (none, s)
  | [] => .ok (none, s)

def takeFraction (s : List Char) : Except Flaw (Option (List Char) × List Char) :=
  match s with
  | '.' :: rest =>
    let ds := rest.takeWhile isDigit
    if ds = [] then refuse "invalid number" rest else .ok (some ds, rest.drop ds.length)
  | _ => .ok (none, s)

def realNumber (minus : Bool) (significand : Nat) (exponent : Int) : Option Number :=
  (scale (Float.ofNat significand) exponent 100).map fun x =>
    .real (Double.ofFloat (if minus then -x else x))

def wholeNumber (minus : Bool) (n : Nat) : Number :=
  if minus then
    if n = 0 ∨ n > 9223372036854775808 then .real (Double.ofFloat (-(Float.ofNat n)))
    else .whole (-(n : Int))
  else .whole n

/-- An exponent that no number can carry makes an error of a large number and zero of a small. -/
def applyExponent (minus : Bool) (significand : Nat) (shift : Int) (e : Exponent) : Option Number :=
  if e.size > 2147483647 then
    if significand ≠ 0 ∧ !e.minus then none else realNumber minus 0 0
  else realNumber minus significand (if e.minus then shift - e.size else shift + e.size)

def readNumber (start : List Char) : Except Flaw (Json × List Char) := do
  let (minus, s) := match start with
    | '-' :: r => (true, r)
    | r => (false, r)
  let ds := s.takeWhile isDigit
  if ds = [] ∨ (ds.head? = some '0' ∧ ds.length > 1) then refuse "invalid number" s
  else
    let (whole, dropped) := takeDigits 0 ds
    let (fraction, s) ← takeFraction (s.drop ds.length)
    let (exponent, s) ← takeExponent s
    let number := match fraction, exponent with
      | none, none =>
        if dropped = 0 then some (wholeNumber minus whole) else realNumber minus whole dropped
      | none, some e => applyExponent minus whole dropped e
      | some f, e =>
        let (n, left) := takeDigits whole f
        let shift : Int := dropped - (f.length - left : Nat)
        match e with
        | none => realNumber minus n shift
        | some e => applyExponent minus n shift e
    match number with
    | some n => pure (.num n, s)
    | none => refuse "number out of range" s

def takeHex4 (s : List Char) : Option (Nat × List Char) :=
  match s with
  | a :: b :: c :: d :: rest => (Text.digits 16 [a, b, c, d]).map (·, rest)
  | _ => none

def readUnicode (s : List Char) : Except Flaw (Char × List Char) :=
  match takeHex4 s with
  | none => refuse "invalid escape" s
  | some (n, rest) =>
    if 0xDC00 ≤ n ∧ n ≤ 0xDFFF then refuse "lone leading surrogate in hex escape" s
    else if 0xD800 ≤ n ∧ n ≤ 0xDBFF then
      match rest with
      | '\\' :: 'u' :: rest' =>
        match takeHex4 rest' with
        | some (m, rest'') =>
          if 0xDC00 ≤ m ∧ m ≤ 0xDFFF then
            .ok (Char.ofNat ((n - 0xD800) * 1024 + (m - 0xDC00) + 0x10000), rest'')
          else refuse "lone leading surrogate in hex escape" rest'
        | none => refuse "invalid escape" rest'
      | _ => refuse "unexpected end of hex escape" rest
    else .ok (Char.ofNat n, rest)

def simpleEscape : Char → Option Char
  | '"' => some '"'
  | '\\' => some '\\'
  | '/' => some '/'
  | 'b' => some (Char.ofNat 8)
  | 'f' => some (Char.ofNat 12)
  | 'n' => some '\n'
  | 'r' => some '\r'
  | 't' => some '\t'
  | _ => none

/-- The rest of a text after its opening quote; `fuel` bounds the number of characters. -/
def readQuoted : (fuel : Nat) → List Char → List Char → Except Flaw (String × List Char)
  | 0, _, s => refuse "EOF while parsing a string" s
  | fuel + 1, acc, s =>
    match s with
    | [] => refuse "EOF while parsing a string" s
    | '"' :: rest => .ok (String.ofList acc.reverse, rest)
    | '\\' :: 'u' :: rest => do
      let (c, rest) ← readUnicode rest
      readQuoted fuel (c :: acc) rest
    | '\\' :: e :: rest =>
      match simpleEscape e with
      | some c => readQuoted fuel (c :: acc) rest
      | none => refuse "invalid escape" rest
    | c :: rest =>
      if c.toNat < 32 ∨ c = '\\' then refuse "control character found while parsing a string" s
      else readQuoted fuel (c :: acc) rest

def readText (s : List Char) : Except Flaw (String × List Char) := readQuoted (s.length + 1) [] s

def readWord (word : String) (value : Json) (s : List Char) : Except Flaw (Json × List Char) :=
  if word.toList.isPrefixOf s then .ok (value, s.drop word.length) else refuse "expected ident" s

mutual

/-- One value without white space before it; `depth` is how much deeper it may nest. -/
def readValue : (fuel depth : Nat) → List Char → Except Flaw (Json × List Char)
  | 0, _, s => refuse "expected value" s
  | fuel + 1, depth, s =>
    match s with
    | 'n' :: _ => readWord "null" .null s
    | 't' :: _ => readWord "true" (.bool true) s
    | 'f' :: _ => readWord "false" (.bool false) s
    | '"' :: rest => (readText rest).map fun (t, rest) => (.str t, rest)
    | '[' :: rest =>
      if depth ≤ 1 then refuse "recursion limit exceeded" s
      else match skipSpace rest with
        | ']' :: rest => .ok (.arr [], rest)
        | rest => (readItems fuel (depth - 1) rest).map fun (xs, rest) => (.arr xs, rest)
    | '\x7b' :: rest =>
      if depth ≤ 1 then refuse "recursion limit exceeded" s
      else match skipSpace rest with
        | '\x7d' :: rest => .ok (.obj [], rest)
        | rest => (readMembers fuel (depth - 1) rest).map fun (ms, rest) => (ofMembers ms, rest)
    | c :: _ => if c = '-' ∨ isDigit c then readNumber s else refuse "expected value" s
    | [] => refuse "EOF while parsing a value" s

def readItems : (fuel depth : Nat) → List Char → Except Flaw ((List Json) × List Char)
  | 0, _, s => refuse "EOF while parsing a list" s
  | fuel + 1, depth, s => do
    let (j, rest) ← readValue fuel depth (skipSpace s)
    match skipSpace rest with
    | ',' :: rest =>
      let (js, rest) ← readItems fuel depth rest
      pure (j :: js, rest)
    | ']' :: rest => pure ([j], rest)
    | rest => refuse "expected comma or bracket" rest

def readMembers : (fuel depth : Nat) → List Char → Except Flaw ((List (String × Json)) × List Char)
  | 0, _, s => refuse "EOF while parsing an object" s
  | fuel + 1, depth, s => do
    match skipSpace s with
    | '"' :: rest =>
      let (k, rest) ← readText rest
      match skipSpace rest with
      | ':' :: rest =>
        let (v, rest) ← readValue fuel depth (skipSpace rest)
        match skipSpace rest with
        | ',' :: rest =>
          let (ms, rest) ← readMembers fuel depth rest
          pure ((k, v) :: ms, rest)
        | '\x7d' :: rest => pure ([(k, v)], rest)
        | rest => refuse "expected comma or brace" rest
      | rest => refuse "expected colon" rest
    | rest => refuse "key must be a string" rest

end

def place (text : List Char) (left : Nat) : Nat × Nat :=
  let before := text.take (text.length - left)
  (before.count '\n' + 1, (before.reverse.takeWhile (· != '\n')).length)

def read (text : String) : Except String Json :=
  let s := text.toList
  let shown (f : Flaw) : String :=
    let (line, column) := place s f.left
    f.what ++ " at line " ++ Text.decimal line ++ " column " ++ Text.decimal column
  match readValue (s.length + 1) 128 (skipSpace s) with
  | .error f => .error (shown f)
  | .ok (j, rest) =>
    match skipSpace rest with
    | [] => .ok j
    | rest => .error (shown ⟨"trailing characters", rest.length⟩)

end ProxyGateway.Json
