import ProxyGateway.Yaml.Basic

namespace ProxyGateway.Yaml

inductive Plain where
  | null
  | bool (b : Bool)
  | whole (n : Int)
  /-- A whole number of more than sixty-four bits, which no value holds. -/
  | tooLarge
  | real (d : Double)
  | text

def isNullWord (s : String) : Bool := ["null", "Null", "NULL", "~"].contains s

def boolWord? (s : String) : Option Bool :=
  if ["true", "True", "TRUE"].contains s then some true
  else if ["false", "False", "FALSE"].contains s then some false
  else none

def signed (s : List Char) : Bool :=
  match s with
  | '+' :: _ | '-' :: _ => true
  | _ => false

/-- A leading zero with more digits after it, which makes a text and not a number. -/
def zeroLed (s : List Char) : Bool :=
  let body := match s with
    | '-' :: r | '+' :: r => r
    | r => r
  match body with
  | '0' :: c :: rest => (c :: rest).all fun c => '0' ≤ c && c ≤ '9'
  | _ => false

def magnitude? (s : List Char) : Option Nat :=
  match s with
  | '0' :: 'x' :: rest => Text.digits 16 rest
  | '0' :: 'o' :: rest => Text.digits 8 rest
  | '0' :: 'b' :: rest => Text.digits 2 rest
  | _ => Text.digits 10 s

/-- A whole number that fits `size` bits: without a sign or with a plus sign all of them, with a
minus sign half. -/
def whole? (size : Nat) (s : List Char) : Option Int :=
  if zeroLed s then none
  else match s with
    | '-' :: rest =>
      match magnitude? rest with
      | some n => if n ≤ Nat.pow 2 (size - 1) then some (-(n : Int)) else none
      | none => none
    | '+' :: rest => unsigned rest
    | _ => unsigned s
where
  unsigned (s : List Char) : Option Int :=
    match magnitude? s with
    | some n => if n < Nat.pow 2 size then some n else none
    | none => none

def real? (s : List Char) : Option Double :=
  let body := match s with
    | '+' :: r => r
    | r => r
  if body.length < s.length ∧ signed body then none
  else if [".inf", ".Inf", ".INF"].contains (String.ofList body) then some Double.infinity
  else if ["-.inf", "-.Inf", "-.INF"].contains (String.ofList s) then some Double.infinity.negate
  else if [".nan", ".NaN", ".NAN"].contains (String.ofList s) then some Double.nan
  else match readDouble body with
    | some d => if d.isFinite then some d else none
    | none => none

def plain (s : String) : Plain :=
  let cs := s.toList
  if s = "" ∨ isNullWord s then .null
  else match boolWord? s with
    | some b => .bool b
    | none =>
      match whole? 64 cs with
      | some n => .whole n
      | none =>
        if (whole? 128 cs).isSome then .tooLarge
        else if zeroLed cs then .text
        else match real? cs with
          | some d => .real d
          | none => .text

end ProxyGateway.Yaml
