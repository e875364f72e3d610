import ProxyGateway.Number.Double
import ProxyGateway.Text.Numeral
/-!
Decimal texts of double-precision numbers. The shortest text has the fewest digits that read back
as the number, and of those the nearest; a text with a fixed number of places is the exact value
rounded to them, a half going to the even neighbour.
-/
namespace ProxyGateway

structure Decimal where
  digits : Nat
  exponent : Int
deriving DecidableEq, Repr

namespace Decimal

structure Quotient where
  num : Nat
  den : Nat

def Quotient.scale2 (m : Nat) (q : Int) : Quotient :=
  if 0 ≤ q then ⟨m * Nat.pow 2 q.toNat, 1⟩ else ⟨m, Nat.pow 2 (-q).toNat⟩

def Quotient.over10 (r : Quotient) (e : Int) : Quotient :=
  if 0 ≤ e then ⟨r.num, r.den * Nat.pow 10 e.toNat⟩
  else ⟨r.num * Nat.pow 10 (-e).toNat, r.den⟩

def Quotient.raise (r : Quotient) : Nat → Int → Int
  | 0, k => k
  | fuel + 1, k =>
    let s := r.over10 (k + 1)
    if s.den ≤ s.num then r.raise fuel (k + 1) else k

def Quotient.log10 (r : Quotient) : Int :=
  r.raise 4 (((Nat.log2 r.num : Int) - (Nat.log2 r.den : Int) - 1) * 30103 / 100000 - 1)

def within (low high : Quotient) (closed : Bool) (n : Nat) (e : Int) : Bool :=
  let l := low.over10 e
  let h := high.over10 e
  if closed then l.num ≤ n * l.den && n * h.den ≤ h.num
  else l.num < n * l.den && n * h.den < h.num

/-- The nearer of the grid points `n` and `n + 1` that lie in the interval. -/
def pick (value low high : Quotient) (closed : Bool) (e : Int) : Option Nat :=
  let v := value.over10 e
  let n := v.num / v.den
  match within low high closed n e, within low high closed (n + 1) e with
  | true, true =>
    let rest := 2 * (v.num % v.den)
    if rest < v.den then some n
    else if v.den < rest then some (n + 1)
    else if n % 2 = 0 then some n else some (n + 1)
  | true, false => some n
  | false, true => some (n + 1)
  | false, false => none

/-- Tries ever finer grids, from one significant digit on. -/
def search (value low high : Quotient) (closed : Bool) (top : Int) : Nat → Nat → Decimal
  | 0, count =>
    let e := top - count
    let v := value.over10 e
    ⟨v.num / v.den, e⟩
  | fuel + 1, count =>
    let e := top - count
    match pick value low high closed e with
    | some n => ⟨n, e⟩
    | none => search value low high closed top fuel (count + 1)

def trimZeros : Nat → Decimal → Decimal
  | 0, d => d
  | fuel + 1, d =>
    if d.digits ≠ 0 ∧ d.digits % 10 = 0 then trimZeros fuel ⟨d.digits / 10, d.exponent + 1⟩ else d

/-- The shortest decimal that reads back as a finite positive number. -/
def shortest (d : Double) : Decimal :=
  let (m, q) := d.parts
  let value := Quotient.scale2 (4 * m) (q - 2)
  let below := if d.fractionBits = 0 ∧ 1 < d.exponentBits then 4 * m - 1 else 4 * m - 2
  let low := Quotient.scale2 below (q - 2)
  let high := Quotient.scale2 (4 * m + 2) (q - 2)
  trimZeros 20 (search value low high (m % 2 == 0) value.log10 17 0)

/-- Where the positional notation of a number ends and how the others are written. -/
structure Layout where
  /-- Numbers below `10 ^ maxPoint` are written without an exponent. -/
  maxPoint : Int
  /-- Numbers from `10 ^ minPoint` on are written without an exponent. -/
  minPoint : Int
  plus : Bool

def zeros (n : Int) : List Char := List.replicate n.toNat '0'

/-- A point stands in every positional text; an exponent has no padding. -/
def layOut (l : Layout) (d : Decimal) : List Char :=
  let ds := Text.numeral 10 d.digits
  let point : Int := ds.length + d.exponent
  if 0 ≤ d.exponent ∧ point ≤ l.maxPoint then ds ++ zeros d.exponent ++ ['.', '0']
  else if 0 < point ∧ point ≤ l.maxPoint then ds.take point.toNat ++ '.' :: ds.drop point.toNat
  else if l.minPoint < point ∧ point ≤ 0 then '0' :: '.' :: zeros (-point) ++ ds
  else
    let sign := if l.plus ∧ 1 < point then ['+'] else []
    let exponent := sign ++ (Text.decimalInt (point - 1)).toList
    match ds with
    | [c] => c :: 'e' :: exponent
    | c :: cs => c :: '.' :: cs ++ 'e' :: exponent
    | [] => exponent

end Decimal

def Double.shortText (l : Decimal.Layout) (d : Double) : String :=
  let sign := if d.negative then ['-'] else []
  let body :=
    if d.parts.1 = 0 then ['0', '.', '0'] else Decimal.layOut l (Decimal.shortest d)
  String.ofList (sign ++ body)

def roundHalfEven (num den : Nat) : Nat :=
  let n := num / den
  let rest := 2 * (num % den)
  if rest < den then n else if den < rest then n + 1 else if n % 2 = 0 then n else n + 1

def Double.fixedText (places : Nat) (d : Double) : String :=
  let (m, q) := d.parts
  let r := Decimal.Quotient.scale2 m q
  let n := roundHalfEven (r.num * Nat.pow 10 places) r.den
  let ds := Text.numeral 10 n
  let ds := List.replicate (places + 1 - ds.length) '0' ++ ds
  let sign := if d.negative then ['-'] else []
  String.ofList (sign ++ ds.take (ds.length - places) ++ '.' :: ds.drop (ds.length - places))

/-- The number nearest to `digits * 10 ^ exponent`; too large a one is infinite. -/
def Double.ofDecimal (d : Decimal) : Double :=
  let size : Int := (Nat.log2 d.digits : Int) * 30103 / 100000 + d.exponent
  if d.digits = 0 then Double.zero
  else if size > 330 then Double.infinity
  else if size < -360 then Double.zero
  else if 0 ≤ d.exponent then Double.ofFloat (Float.ofScientific d.digits false d.exponent.toNat)
  else Double.ofFloat (Float.ofScientific d.digits true (-d.exponent).toNat)

def spanDigits (s : List Char) : List Char × List Char :=
  s.span fun c => '0' ≤ c && c ≤ '9'

def digitsValue (ds : List Char) : Nat := ds.foldl (fun n c => n * 10 + (c.toNat - 48)) 0

def readExponent (s : List Char) : Option Int :=
  match s with
  | [] => some 0
  | c :: rest =>
    if c = 'e' ∨ c = 'E' then
      let (minus, rest) := match rest with
        | '-' :: r => (true, r)
        | '+' :: r => (false, r)
        | r => (false, r)
      match spanDigits rest with
      | ([], _) => none
      | (ds, []) => some (if minus then -(digitsValue ds : Int) else digitsValue ds)
      | _ => none
    else none

/-- Digits with an optional point and exponent; a point alone is no number. -/
def readMagnitude (s : List Char) : Option Double :=
  let (whole, rest) := spanDigits s
  let (fraction, rest) := match rest with
    | '.' :: r => spanDigits r
    | r => ([], r)
  if whole = [] ∧ fraction = [] then none
  else (readExponent rest).map fun e =>
    Double.ofDecimal ⟨digitsValue (whole ++ fraction), e - fraction.length⟩

def lowerAscii (s : List Char) : List Char :=
  s.map fun c => if 'A' ≤ c ∧ c ≤ 'Z' then Char.ofNat (c.toNat + 32) else c

def readDouble (s : List Char) : Option Double :=
  let (minus, body) := match s with
    | '-' :: r => (true, r)
    | '+' :: r => (false, r)
    | r => (false, r)
  let size :=
    match String.ofList (lowerAscii body) with
    | "inf" | "infinity" => some Double.infinity
    | "nan" => some Double.nan
    | _ => readMagnitude body
  if minus then size.map Double.negate else size

end ProxyGateway
