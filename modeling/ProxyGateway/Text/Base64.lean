import ProxyGateway.Text.Utf8
/-!
Base64: three bytes as four letters. Two alphabets are in use, which differ in their last two
letters, and the last group may be filled up with equals signs. Reading takes every text that
writing produces, in either alphabet and with or without the filling, and nothing else.
-/
namespace ProxyGateway.Text.Base64

/-- The letters for sixty-two and sixty-three. -/
structure Alphabet where
  sixtyTwo : Char
  sixtyThree : Char
deriving DecidableEq, Repr

def standard : Alphabet := ⟨'+', '/'⟩

def urlSafe : Alphabet := ⟨'-', '_'⟩

namespace Alphabet

def letter (a : Alphabet) (n : Nat) : Char :=
  if n < 26 then Char.ofNat (65 + n)
  else if n < 52 then Char.ofNat (71 + n)
  else if n < 62 then Char.ofNat (n - 4)
  else if n = 62 then a.sixtyTwo
  else a.sixtyThree

def value? (a : Alphabet) (c : Char) : Option Nat :=
  let n := c.toNat
  if 65 ≤ n ∧ n ≤ 90 then some (n - 65)
  else if 97 ≤ n ∧ n ≤ 122 then some (n - 71)
  else if 48 ≤ n ∧ n ≤ 57 then some (n + 4)
  else if c = a.sixtyTwo then some 62
  else if c = a.sixtyThree then some 63
  else none

end Alphabet

/-- The filling of a group that is `count` letters short. -/
def filling (filled : Bool) (count : Nat) : List Char :=
  if filled then List.replicate count '=' else []

def encode (a : Alphabet) (filled : Bool) : Bytes → List Char
  | [] => []
  | [x] =>
    [a.letter (x.toNat / 4), a.letter (x.toNat % 4 * 16)] ++ filling filled 2
  | [x, y] =>
    [a.letter (x.toNat / 4), a.letter (x.toNat % 4 * 16 + y.toNat / 16),
      a.letter (y.toNat % 16 * 4)] ++ filling filled 1
  | x :: y :: z :: rest =>
    a.letter (x.toNat / 4) :: a.letter (x.toNat % 4 * 16 + y.toNat / 16) ::
      a.letter (y.toNat % 16 * 4 + z.toNat / 64) :: a.letter (z.toNat % 64) ::
      encode a filled rest

/-- The byte of two letters; the bits that are left over have to be zero. -/
def pair? (a : Alphabet) (c d : Char) : Option Bytes := do
  let p ← a.value? c
  let q ← a.value? d
  if q % 16 = 0 then some [UInt8.ofNat (p * 4 + q / 16)] else none

def triple? (a : Alphabet) (c d e : Char) : Option Bytes := do
  let p ← a.value? c
  let q ← a.value? d
  let r ← a.value? e
  if r % 4 = 0 then some [UInt8.ofNat (p * 4 + q / 16), UInt8.ofNat (q % 16 * 16 + r / 4)]
  else none

def quad? (a : Alphabet) (c d e f : Char) : Option Bytes := do
  let p ← a.value? c
  let q ← a.value? d
  let r ← a.value? e
  let s ← a.value? f
  some [UInt8.ofNat (p * 4 + q / 16), UInt8.ofNat (q % 16 * 16 + r / 4),
    UInt8.ofNat (r % 4 * 64 + s)]

/-- The bytes of a text in one alphabet, where the last group is filled up or never is. -/
def decode (a : Alphabet) (filled : Bool) : List Char → Option Bytes
  | [] => some []
  | [c, d] => if filled then none else pair? a c d
  | [c, d, e] => if filled then none else triple? a c d e
  | [c, d, e, f] =>
    if filled ∧ f = '=' then if e = '=' then pair? a c d else triple? a c d e
    else quad? a c d e f
  | c :: d :: e :: f :: rest => do
    let group ← quad? a c d e f
    let tail ← decode a filled rest
    some (group ++ tail)
  | _ => none

def decodeAny (s : List Char) : Option Bytes :=
  (decode standard true s).or ((decode urlSafe true s).or
    ((decode standard false s).or (decode urlSafe false s)))

end ProxyGateway.Text.Base64
