/-!
Punycode: a label with characters outside ASCII as a text of ASCII letters and digits. The ASCII
characters come first; the others are inserted in ascending order, each by a number that says how
far on and where.
-/
namespace ProxyGateway.Url.Punycode

def digitChar (d : Nat) : Char :=
  if d < 26 then Char.ofNat (97 + d) else Char.ofNat (22 + d)

def digitValue (c : Char) : Option Nat :=
  let n := c.toNat
  if 97 ≤ n ∧ n ≤ 122 then some (n - 97)
  else if 65 ≤ n ∧ n ≤ 90 then some (n - 65)
  else if 48 ≤ n ∧ n ≤ 57 then some (n - 22)
  else none

def threshold (k bias : Nat) : Nat :=
  if k ≤ bias then 1 else if bias + 26 ≤ k then 26 else k - bias

def adaptLoop : (fuel : Nat) → (delta k : Nat) → Nat
  | 0, delta, k => k + 36 * delta / (delta + 38)
  | fuel + 1, delta, k =>
    if delta > 455 then adaptLoop fuel (delta / 35) (k + 36) else k + 36 * delta / (delta + 38)

def adapt (delta count : Nat) (first : Bool) : Nat :=
  let d := if first then delta / 700 else delta / 2
  adaptLoop 32 (d + d / count) 0

/-- A number in digits of growing weight. -/
def encodeNumber (bias : Nat) : (fuel : Nat) → (q k : Nat) → List Char
  | 0, _, _ => []
  | fuel + 1, q, k =>
    let t := threshold k bias
    if q < t then [digitChar q]
    else digitChar (t + (q - t) % (36 - t)) :: encodeNumber bias fuel ((q - t) / (36 - t)) (k + 36)

structure Progress where
  delta : Nat
  bias : Nat
  handled : Nat
  out : List Char

def encodePoint (basic n : Nat) (p : Progress) : List Nat → Progress
  | [] => p
  | c :: rest =>
    if c < n then encodePoint basic n { p with delta := p.delta + 1 } rest
    else if c = n then
      let digits := encodeNumber p.bias 64 p.delta 36
      let bias := adapt p.delta (p.handled + 1) (p.handled == basic)
      encodePoint basic n ⟨0, bias, p.handled + 1, p.out ++ digits⟩ rest
    else encodePoint basic n p rest

def encodeLoop (basic : Nat) (points : List Nat) : (fuel : Nat) → (n : Nat) → Progress → List Char
  | 0, _, p => p.out
  | fuel + 1, n, p =>
    match (points.filter (n ≤ ·)).min? with
    | none => p.out
    | some m =>
      let p := { p with delta := p.delta + (m - n) * (p.handled + 1) }
      let p := encodePoint basic m p points
      encodeLoop basic points fuel (m + 1) { p with delta := p.delta + 1 }

def encode (s : List Char) : List Char :=
  let basic := s.filter (·.toNat < 128)
  let start := if basic = [] then [] else basic ++ ['-']
  encodeLoop basic.length (s.map Char.toNat) (s.length + 1) 128
    ⟨0, 72, basic.length, start⟩

/-- Reads one number: its value and what follows it. -/
def decodeNumber (bias : Nat) : List Char → (acc weight k : Nat) → Option (Nat × List Char)
  | [], _, _, _ => none
  | c :: rest, acc, weight, k =>
    match digitValue c with
    | none => none
    | some d =>
      let acc := acc + d * weight
      let t := threshold k bias
      if acc ≥ 4294967296 then none
      else if d < t then some (acc, rest)
      else decodeNumber bias rest acc (weight * (36 - t)) (k + 36)

def decodeLoop : (fuel : Nat) → List Char → (n i bias : Nat) → List Nat → Option (List Nat)
  | _, [], _, _, _, out => some out
  | 0, _, _, _, _, _ => none
  | fuel + 1, s, n, i, bias, out =>
    match decodeNumber bias s 0 1 36 with
    | none => none
    | some (delta, rest) =>
      let count := out.length + 1
      let j := i + delta
      let n := n + j / count
      let place := j % count
      if n > 0x10FFFF ∨ (0xD800 ≤ n ∧ n ≤ 0xDFFF) then none
      else
        decodeLoop fuel rest n (place + 1) (adapt delta count (i == 0))
          (out.take place ++ n :: out.drop place)

/-- Splits off the ASCII characters before the last hyphen. -/
def splitBasic (s : List Char) : List Char × List Char :=
  let tail := (s.reverse.takeWhile (· ≠ '-')).reverse
  if tail.length = s.length then ([], s) else (s.take (s.length - tail.length - 1), tail)

def decode (s : List Char) : Option (List Char) :=
  let (basic, rest) := splitBasic s
  if basic.any (128 ≤ ·.toNat) then none
  else (decodeLoop (rest.length + 1) rest 128 0 72 (basic.map Char.toNat)).map
    (·.map Char.ofNat)

end ProxyGateway.Url.Punycode
