/-!
Double-precision numbers as their sixty-four bits, so that equality is decidable and the order of
bit patterns can be stated; the arithmetic is that of the machine. Main statement: a whole number
of sixteen bits is the same after it has been a double-precision one.
-/
namespace ProxyGateway

structure Double where
  bits : UInt64
deriving DecidableEq, Repr

namespace Double

def ofFloat (x : Float) : Double := ⟨x.toBits⟩

def toFloat (d : Double) : Float := Float.ofBits d.bits

instance : Inhabited Double := ⟨⟨0⟩⟩

def zero : Double := ⟨0⟩

/-- The bits of a positive whole number that fits the fifty-three of a number: its highest bit is
the one that is not written. -/
def exactBits (n : Nat) : Nat :=
  (n.log2 + 1022) * 4503599627370496 + n * Nat.pow 2 (52 - n.log2)

def ofNat (n : Nat) : Double :=
  if n = 0 then zero
  else if n < 9007199254740992 then ⟨UInt64.ofNat (exactBits n)⟩
  else ofFloat (Float.ofScientific n false 0)

def nan : Double := ⟨0x7FF8000000000000⟩

def infinity : Double := ⟨0x7FF0000000000000⟩

def negative (d : Double) : Bool := d.bits >>> 63 == 1

def negate (d : Double) : Double := ⟨d.bits ^^^ 0x8000000000000000⟩

def ofInt (n : Int) : Double :=
  match n with
  | .ofNat m => ofNat m
  | .negSucc m => (ofNat (m + 1)).negate

def exponentBits (d : Double) : Nat := ((d.bits >>> 52) &&& 0x7FF).toNat

def fractionBits (d : Double) : Nat := (d.bits &&& 0xFFFFFFFFFFFFF).toNat

def isFinite (d : Double) : Bool := d.exponentBits != 2047

def isNaN (d : Double) : Bool := d.exponentBits == 2047 && d.fractionBits != 0

/-- The size of a finite number as a whole number times a power of two. -/
def parts (d : Double) : Nat × Int :=
  if d.exponentBits = 0 then (d.fractionBits, -1074)
  else (d.fractionBits + 4503599627370496, (d.exponentBits : Int) - 1075)

/-- The whole part of a number that is not negative, at most the greatest word; nought for a
negative one and for what is no number. -/
def toWord (d : Double) : UInt16 :=
  if d.isNaN || d.negative then 0
  else if !d.isFinite then 65535
  else
    let (m, q) := d.parts
    let n := if 0 ≤ q then m * Nat.pow 2 (min q.toNat 16) else m / Nat.pow 2 (-q).toNat
    if n < 65535 then UInt16.ofNat n else 65535

/-- Equality of numbers: the two zeros are one number, and so are all that are no number. -/
def same (a b : Double) : Bool := a.isNaN && b.isNaN || a.toFloat == b.toFloat

/-- The place of a bit pattern in the total order: negative patterns backwards, then the others. -/
def rank (d : Double) : Int :=
  if d.negative then -((d.bits.toNat : Int) - 9223372036854775808) - 1 else d.bits.toNat

theorem log2_le {n : Nat} (small : n < 9007199254740992) : n.log2 ≤ 52 := by
  by_cases none : n = 0
  · subst none; decide
  · exact Nat.le_of_lt_succ ((Nat.log2_lt none).2 small)

/-- The highest bit of the number stands fifty-two places from the end. -/
theorem exactBits_size {n : Nat} (positive : n ≠ 0) (small : n < 9007199254740992) :
    4503599627370496 ≤ n * Nat.pow 2 (52 - n.log2) ∧
      n * Nat.pow 2 (52 - n.log2) < 9007199254740992 := by
  have room := log2_le small
  have low : 2 ^ n.log2 ≤ n := Nat.log2_self_le positive
  have high : n < 2 ^ (n.log2 + 1) := Nat.lt_log2_self
  have filled : 2 ^ n.log2 * 2 ^ (52 - n.log2) = 4503599627370496 := by
    rw [← Nat.pow_add, Nat.add_sub_cancel' room]
  rw [Nat.pow_succ] at high
  change _ ≤ n * 2 ^ (52 - n.log2) ∧ n * 2 ^ (52 - n.log2) < _
  constructor
  · rw [← filled]
    exact Nat.mul_le_mul_right _ low
  · have scaled := Nat.mul_lt_mul_of_pos_right high (Nat.two_pow_pos (52 - n.log2))
    rw [Nat.mul_right_comm, filled] at scaled
    exact scaled

theorem exactBits_toNat {n : Nat} (positive : n ≠ 0) (small : n < 9007199254740992) :
    (UInt64.ofNat (exactBits n)).toNat = exactBits n := by
  have room := log2_le small
  have size := exactBits_size positive small
  rw [UInt64.toNat_ofNat', Nat.mod_eq_of_lt]
  unfold exactBits
  omega

theorem exponentBits_exact {n : Nat} (positive : n ≠ 0) (small : n < 9007199254740992) :
    exponentBits ⟨UInt64.ofNat (exactBits n)⟩ = n.log2 + 1023 := by
  have room := log2_le small
  have size := exactBits_size positive small
  have shifted : (UInt64.ofNat (exactBits n) >>> 52).toNat = exactBits n / 4503599627370496 := by
    rw [UInt64.toNat_shiftRight, exactBits_toNat positive small, Nat.shiftRight_eq_div_pow]
    rfl
  unfold exponentBits
  rw [UInt64.toNat_and, shifted, show (0x7FF : UInt64).toNat = 2 ^ 11 - 1 from rfl,
    Nat.and_two_pow_sub_one_eq_mod]
  unfold exactBits
  omega

theorem fractionBits_exact {n : Nat} (positive : n ≠ 0) (small : n < 9007199254740992) :
    fractionBits ⟨UInt64.ofNat (exactBits n)⟩ + 4503599627370496 =
      n * Nat.pow 2 (52 - n.log2) := by
  have size := exactBits_size positive small
  unfold fractionBits
  rw [UInt64.toNat_and, exactBits_toNat positive small,
    show (0xFFFFFFFFFFFFF : UInt64).toNat = 2 ^ 52 - 1 from rfl, Nat.and_two_pow_sub_one_eq_mod]
  unfold exactBits
  omega

theorem negative_exact {n : Nat} (positive : n ≠ 0) (small : n < 9007199254740992) :
    negative ⟨UInt64.ofNat (exactBits n)⟩ = false := by
  have room := log2_le small
  have size := exactBits_size positive small
  unfold negative
  rw [beq_eq_false_iff_ne, ne_eq, ← UInt64.toNat_inj, UInt64.toNat_shiftRight,
    exactBits_toNat positive small, Nat.shiftRight_eq_div_pow]
  change ¬ exactBits n / 2 ^ 63 = 1
  unfold exactBits
  omega

theorem toWord_zero : zero.toWord = 0 := by
  have parts_zero : zero.parts = (0, -1074) := rfl
  have number : zero.isNaN = false := rfl
  have finite : zero.isFinite = true := rfl
  have sign : zero.negative = false := rfl
  have below : ¬ (0 : Int) ≤ -1074 := by decide
  simp only [toWord, number, finite, sign, parts_zero, below, if_false, Bool.or_self,
    Bool.not_true, Bool.false_eq_true, Nat.zero_div]
  rfl

/-- The whole part of a number that is finite, not negative and small. -/
theorem toWord_of_parts {d : Double} {m : Nat} {q : Int} (finite : d.exponentBits ≠ 2047)
    (sign : d.negative = false) (in_parts : d.parts = (m, q)) (scaled : q ≤ 0)
    (small : m / Nat.pow 2 (-q).toNat < 65536) :
    d.toWord = UInt16.ofNat (m / Nat.pow 2 (-q).toNat) := by
  have number : d.isNaN = false := by rw [isNaN, beq_false_of_ne finite, Bool.false_and]
  have ends : d.isFinite = true := bne_iff_ne.2 finite
  have whole : (if 0 ≤ q then m * Nat.pow 2 (min q.toNat 16) else m / Nat.pow 2 (-q).toNat) =
      m / Nat.pow 2 (-q).toNat := by
    split
    · obtain rfl : q = 0 := by omega
      exact (Nat.mul_one m).trans (Nat.div_one m).symm
    · rfl
  simp only [toWord, number, sign, ends, in_parts, whole, Bool.or_self, Bool.not_true,
    Bool.false_eq_true, if_false]
  split
  · rfl
  · rw [show m / Nat.pow 2 (-q).toNat = 65535 by omega]
    rfl

theorem parts_exact {n : Nat} (positive : n ≠ 0) (small : n < 9007199254740992) :
    parts ⟨UInt64.ofNat (exactBits n)⟩ = (n * Nat.pow 2 (52 - n.log2), (n.log2 : Int) - 52) := by
  have exponent := exponentBits_exact positive small
  have fraction := fractionBits_exact positive small
  rw [parts, if_neg (by omega), fraction, exponent]
  exact congrArg (Prod.mk _) (by omega)

/-- A whole number of sixteen bits comes back. -/
theorem toWord_ofNat {n : Nat} (small : n < 65536) : (ofNat n).toWord = UInt16.ofNat n := by
  by_cases none : n = 0
  · subst none
    exact toWord_zero
  have fits : n < 9007199254740992 := Nat.lt_trans small (by decide)
  have room := log2_le fits
  have exponent := exponentBits_exact none fits
  have whole : n * Nat.pow 2 (52 - n.log2) / Nat.pow 2 (-((n.log2 : Int) - 52)).toNat = n := by
    rw [show (-((n.log2 : Int) - 52)).toNat = 52 - n.log2 by omega]
    exact Nat.mul_div_cancel n (Nat.two_pow_pos _)
  have word := toWord_of_parts (by omega) (negative_exact none fits) (parts_exact none fits)
    (by omega) (by rwa [whole])
  rw [whole] at word
  rw [ofNat, if_neg none, if_pos fits, word]

end Double

end ProxyGateway
