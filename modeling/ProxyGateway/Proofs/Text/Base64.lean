import ProxyGateway.Proofs.Text.Utf8
import ProxyGateway.Text.Base64

namespace ProxyGateway.Text.Base64

namespace Alphabet

/-- The last two letters are none of the others, and the filling is no letter. -/
structure Lawful (a : Alphabet) : Prop where
  two : a.value? a.sixtyTwo = some 62
  three : a.value? a.sixtyThree = some 63
  filling : a.value? '=' = none

theorem lawful_standard : Lawful standard := ⟨by decide, by decide, by decide⟩

theorem lawful_urlSafe : Lawful urlSafe := ⟨by decide, by decide, by decide⟩

variable {a : Alphabet}

theorem value?_letter (lawful : a.Lawful) {n : Nat} (small : n < 64) :
    a.value? (a.letter n) = some n := by
  unfold letter
  split
  · have code : (Char.ofNat (65 + n)).toNat = 65 + n := toNat_charOfNat (.inl (by omega))
    unfold value?
    simp only [code]
    rw [if_pos (by omega), Nat.add_sub_cancel_left]
  split
  · have code : (Char.ofNat (71 + n)).toNat = 71 + n := toNat_charOfNat (.inl (by omega))
    unfold value?
    simp only [code]
    rw [if_neg (by omega), if_pos (by omega), Nat.add_sub_cancel_left]
  split
  · have code : (Char.ofNat (n - 4)).toNat = n - 4 := toNat_charOfNat (.inl (by omega))
    unfold value?
    simp only [code]
    rw [if_neg (by omega), if_neg (by omega), if_pos (by omega), Nat.sub_add_cancel (by omega)]
  split
  · rename_i two
    rw [lawful.two, two]
  · have three : n = 63 := by omega
    rw [lawful.three, three]

theorem letter_of_value? {c : Char} {n : Nat} (value : a.value? c = some n) :
    n < 64 ∧ a.letter n = c := by
  unfold value? at value
  simp only at value
  split at value
  · cases value
    refine ⟨by omega, ?_⟩
    rw [letter, if_pos (by omega), Nat.add_sub_cancel' (by omega), Char.ofNat_toNat]
  split at value
  · cases value
    refine ⟨by omega, ?_⟩
    rw [letter, if_neg (by omega), if_pos (by omega), Nat.add_sub_cancel' (by omega),
      Char.ofNat_toNat]
  split at value
  · cases value
    refine ⟨by omega, ?_⟩
    rw [letter, if_neg (by omega), if_neg (by omega), if_pos (by omega), Nat.add_sub_cancel,
      Char.ofNat_toNat]
  split at value
  · rename_i two
    cases value
    exact ⟨by decide, two.symm⟩
  split at value
  · rename_i three
    cases value
    exact ⟨by decide, three.symm⟩
  · cases value

theorem letter_ne_filling (lawful : a.Lawful) {n : Nat} (small : n < 64) : a.letter n ≠ '=' := by
  intro same
  have value := value?_letter lawful small
  rw [same, lawful.filling] at value
  cases value

end Alphabet

open Alphabet

variable {a : Alphabet}

theorem pair?_letters (lawful : a.Lawful) (x : UInt8) :
    pair? a (a.letter (x.toNat / 4)) (a.letter (x.toNat % 4 * 16)) = some [x] := by
  have bound := x.toNat_lt
  simp only [pair?, value?_letter lawful (show x.toNat / 4 < 64 by omega),
    value?_letter lawful (show x.toNat % 4 * 16 < 64 by omega), Option.bind_eq_bind,
    Option.bind_some]
  rw [if_pos (by omega), Utf8.byte_eq (a := x) (by omega)]

theorem triple?_letters (lawful : a.Lawful) (x y : UInt8) :
    triple? a (a.letter (x.toNat / 4)) (a.letter (x.toNat % 4 * 16 + y.toNat / 16))
      (a.letter (y.toNat % 16 * 4)) = some [x, y] := by
  have bound_x := x.toNat_lt
  have bound_y := y.toNat_lt
  simp only [triple?, value?_letter lawful (show x.toNat / 4 < 64 by omega),
    value?_letter lawful (show x.toNat % 4 * 16 + y.toNat / 16 < 64 by omega),
    value?_letter lawful (show y.toNat % 16 * 4 < 64 by omega), Option.bind_eq_bind,
    Option.bind_some]
  rw [if_pos (by omega), Utf8.byte_eq (a := x) (by omega), Utf8.byte_eq (a := y) (by omega)]

theorem quad?_letters (lawful : a.Lawful) (x y z : UInt8) :
    quad? a (a.letter (x.toNat / 4)) (a.letter (x.toNat % 4 * 16 + y.toNat / 16))
      (a.letter (y.toNat % 16 * 4 + z.toNat / 64)) (a.letter (z.toNat % 64)) = some [x, y, z] := by
  have bound_x := x.toNat_lt
  have bound_y := y.toNat_lt
  have bound_z := z.toNat_lt
  simp only [quad?, value?_letter lawful (show x.toNat / 4 < 64 by omega),
    value?_letter lawful (show x.toNat % 4 * 16 + y.toNat / 16 < 64 by omega),
    value?_letter lawful (show y.toNat % 16 * 4 + z.toNat / 64 < 64 by omega),
    value?_letter lawful (show z.toNat % 64 < 64 by omega), Option.bind_eq_bind, Option.bind_some]
  rw [Utf8.byte_eq (a := x) (by omega), Utf8.byte_eq (a := y) (by omega),
    Utf8.byte_eq (a := z) (by omega)]

theorem letters_of_pair? {c d : Char} {b : Bytes} (read : pair? a c d = some b) :
    ∃ x : UInt8, b = [x] ∧ a.letter (x.toNat / 4) = c ∧ a.letter (x.toNat % 4 * 16) = d := by
  unfold pair? at read
  simp only [Option.bind_eq_bind, Option.bind_eq_some_iff] at read
  obtain ⟨p, first, q, second, read⟩ := read
  obtain ⟨small_p, rfl⟩ := letter_of_value? first
  obtain ⟨small_q, rfl⟩ := letter_of_value? second
  split at read
  · rename_i no_rest
    cases read
    have code : (UInt8.ofNat (p * 4 + q / 16)).toNat = p * 4 + q / 16 :=
      Utf8.toNat_byte (by omega)
    refine ⟨_, rfl, congrArg a.letter ?_, congrArg a.letter ?_⟩ <;> omega
  · cases read

theorem letters_of_triple? {c d e : Char} {b : Bytes} (read : triple? a c d e = some b) :
    ∃ x y : UInt8, b = [x, y] ∧ a.letter (x.toNat / 4) = c ∧
      a.letter (x.toNat % 4 * 16 + y.toNat / 16) = d ∧ a.letter (y.toNat % 16 * 4) = e := by
  unfold triple? at read
  simp only [Option.bind_eq_bind, Option.bind_eq_some_iff] at read
  obtain ⟨p, first, q, second, r, third, read⟩ := read
  obtain ⟨small_p, rfl⟩ := letter_of_value? first
  obtain ⟨small_q, rfl⟩ := letter_of_value? second
  obtain ⟨small_r, rfl⟩ := letter_of_value? third
  split at read
  · rename_i no_rest
    cases read
    have code_x : (UInt8.ofNat (p * 4 + q / 16)).toNat = p * 4 + q / 16 :=
      Utf8.toNat_byte (by omega)
    have code_y : (UInt8.ofNat (q % 16 * 16 + r / 4)).toNat = q % 16 * 16 + r / 4 :=
      Utf8.toNat_byte (by omega)
    refine ⟨_, _, rfl, congrArg a.letter ?_, congrArg a.letter ?_, congrArg a.letter ?_⟩ <;> omega
  · cases read

theorem letters_of_quad? {c d e f : Char} {b : Bytes} (read : quad? a c d e f = some b) :
    ∃ x y z : UInt8, b = [x, y, z] ∧ a.letter (x.toNat / 4) = c ∧
      a.letter (x.toNat % 4 * 16 + y.toNat / 16) = d ∧
      a.letter (y.toNat % 16 * 4 + z.toNat / 64) = e ∧ a.letter (z.toNat % 64) = f := by
  unfold quad? at read
  simp only [Option.bind_eq_bind, Option.bind_eq_some_iff] at read
  obtain ⟨p, first, q, second, r, third, s, fourth, read⟩ := read
  obtain ⟨small_p, rfl⟩ := letter_of_value? first
  obtain ⟨small_q, rfl⟩ := letter_of_value? second
  obtain ⟨small_r, rfl⟩ := letter_of_value? third
  obtain ⟨small_s, rfl⟩ := letter_of_value? fourth
  cases read
  have code_x : (UInt8.ofNat (p * 4 + q / 16)).toNat = p * 4 + q / 16 :=
    Utf8.toNat_byte (by omega)
  have code_y : (UInt8.ofNat (q % 16 * 16 + r / 4)).toNat = q % 16 * 16 + r / 4 :=
    Utf8.toNat_byte (by omega)
  have code_z : (UInt8.ofNat (r % 4 * 64 + s)).toNat = r % 4 * 64 + s :=
    Utf8.toNat_byte (by omega)
  refine ⟨_, _, _, rfl, congrArg a.letter ?_, congrArg a.letter ?_, congrArg a.letter ?_,
    congrArg a.letter ?_⟩ <;> omega

theorem decode_encode (lawful : a.Lawful) (filled : Bool) (b : Bytes) :
    decode a filled (encode a filled b) = some b := by
  fun_induction encode a filled b with
  | case1 => rfl
  | case2 x =>
    cases filled with
    | false => exact pair?_letters lawful x
    | true => exact pair?_letters lawful x
  | case3 x y =>
    have small : y.toNat % 16 * 4 < 64 := by omega
    cases filled with
    | false => exact triple?_letters lawful x y
    | true =>
      simp only [filling, if_true, List.replicate_one, List.cons_append, List.nil_append, decode,
        true_and]
      rw [if_neg (letter_ne_filling lawful small)]
      exact triple?_letters lawful x y
  | case4 x y z rest ih =>
    have small : z.toNat % 64 < 64 := by omega
    cases more : encode a filled rest with
    | nil =>
      rw [more] at ih
      cases ih
      simp only [decode]
      rw [if_neg (by simp [letter_ne_filling lawful small])]
      exact quad?_letters lawful x y z
    | cons g gs =>
      rw [more] at ih
      simp only [decode, quad?_letters lawful, ih]
      rfl

theorem encode_of_decode {filled : Bool} {s : List Char} {b : Bytes}
    (read : decode a filled s = some b) : s = encode a filled b := by
  fun_induction decode a filled s generalizing b with
  | case1 =>
    cases read
    rfl
  | case2 => cases read
  | case3 c d unfilled =>
    obtain ⟨x, rfl, rfl, rfl⟩ := letters_of_pair? read
    simp [encode, filling, unfilled]
  | case4 => cases read
  | case5 c d e unfilled =>
    obtain ⟨x, y, rfl, rfl, rfl, rfl⟩ := letters_of_triple? read
    simp [encode, filling, unfilled]
  | case6 c d f fills =>
    obtain ⟨x, rfl, rfl, rfl⟩ := letters_of_pair? read
    simp [encode, filling, fills]
  | case7 c d e f fills =>
    obtain ⟨x, y, rfl, rfl, rfl, rfl⟩ := letters_of_triple? read
    simp [encode, filling, fills]
  | case8 c d e f unfilled =>
    obtain ⟨x, y, z, rfl, rfl, rfl, rfl, rfl⟩ := letters_of_quad? read
    rfl
  | case9 c d e f rest _ ih =>
    simp only [Option.bind_eq_bind, Option.bind_eq_some_iff, Option.some.injEq] at read
    obtain ⟨group, first, tail, others, rfl⟩ := read
    obtain ⟨x, y, z, rfl, rfl, rfl, rfl, rfl⟩ := letters_of_quad? first
    rw [ih others]
    rfl
  | case10 => cases read

theorem decode_eq_some (lawful : a.Lawful) {filled : Bool} {s : List Char} {b : Bytes} :
    decode a filled s = some b ↔ s = encode a filled b := by
  constructor
  · exact encode_of_decode
  · rintro rfl
    exact decode_encode lawful filled b

theorem letter_of_mem_encode {filled : Bool} {b : Bytes} {c : Char}
    (member : c ∈ encode a filled b) : c = '=' ∨ ∃ n < 64, c = a.letter n := by
  have fill {count : Nat} (inside : c ∈ filling filled count) : c = '=' := by
    unfold filling at inside
    split at inside
    · exact List.eq_of_mem_replicate inside
    · cases inside
  have small (x : UInt8) : x.toNat / 4 < 64 := by
    have bound := x.toNat_lt
    omega
  fun_induction encode a filled b with
  | case1 => cases member
  | case2 x =>
    simp only [List.mem_append, List.mem_cons, List.not_mem_nil, or_false] at member
    obtain (rfl | rfl) | inside := member
    · exact .inr ⟨_, small x, rfl⟩
    · exact .inr ⟨_, by omega, rfl⟩
    · exact .inl (fill inside)
  | case3 x y =>
    have bound := y.toNat_lt
    simp only [List.mem_append, List.mem_cons, List.not_mem_nil, or_false] at member
    obtain (rfl | rfl | rfl) | inside := member
    · exact .inr ⟨_, small x, rfl⟩
    · exact .inr ⟨_, by omega, rfl⟩
    · exact .inr ⟨_, by omega, rfl⟩
    · exact .inl (fill inside)
  | case4 x y z rest ih =>
    have bound := y.toNat_lt
    have bound' := z.toNat_lt
    simp only [List.mem_cons] at member
    obtain rfl | rfl | rfl | rfl | inside := member
    · exact .inr ⟨_, small x, rfl⟩
    · exact .inr ⟨_, by omega, rfl⟩
    · exact .inr ⟨_, by omega, rfl⟩
    · exact .inr ⟨_, by omega, rfl⟩
    · exact ih inside

structure Form where
  urlSafe : Bool
  filled : Bool
deriving DecidableEq, Repr

namespace Form

def alphabet (f : Form) : Alphabet := if f.urlSafe then Base64.urlSafe else Base64.standard

def write (f : Form) (b : Bytes) : List Char := encode f.alphabet f.filled b

theorem lawful (f : Form) : f.alphabet.Lawful := by
  unfold alphabet
  split
  · exact lawful_urlSafe
  · exact lawful_standard

end Form

/-- The letter of the standard alphabet for the same number. -/
def standardLetter (c : Char) : Char := if c = '-' then '+' else if c = '_' then '/' else c

/-- A text in the standard alphabet and without its filling. -/
def bared (s : List Char) : List Char := (s.filter (· ≠ '=')).map standardLetter

theorem standardLetter_letter (f : Form) {n : Nat} (small : n < 64) :
    standardLetter (f.alphabet.letter n) = standard.letter n := by
  have all : ∀ n < 64, standardLetter (Base64.urlSafe.letter n) = standard.letter n ∧
      standardLetter (standard.letter n) = standard.letter n := by decide
  unfold Form.alphabet
  split
  · exact (all n small).1
  · exact (all n small).2

theorem bared_letter (f : Form) {n : Nat} (small : n < 64) (s : List Char) :
    bared (f.alphabet.letter n :: s) = standard.letter n :: bared s := by
  have stays := letter_ne_filling f.lawful small
  simp [bared, stays, standardLetter_letter f small]

theorem bared_filling (filled : Bool) (count : Nat) : bared (filling filled count) = [] := by
  cases filled <;> simp [bared, filling]

/-- The forms of some bytes differ in two letters and the filling. -/
theorem bared_write (f : Form) (b : Bytes) : bared (f.write b) = encode standard false b := by
  have small (x : UInt8) : x.toNat / 4 < 64 := by
    have bound := x.toNat_lt
    omega
  unfold Form.write
  fun_induction encode f.alphabet f.filled b with
  | case1 => rfl
  | case2 x =>
    simp only [List.cons_append, List.nil_append]
    rw [bared_letter f (small x), bared_letter f (by omega), bared_filling]
    rfl
  | case3 x y =>
    have bound := y.toNat_lt
    simp only [List.cons_append, List.nil_append]
    rw [bared_letter f (small x), bared_letter f (by omega), bared_letter f (by omega),
      bared_filling]
    rfl
  | case4 x y z rest ih =>
    have bound := y.toNat_lt
    have bound' := z.toNat_lt
    rw [bared_letter f (small x), bared_letter f (by omega), bared_letter f (by omega),
      bared_letter f (by omega), ih]
    rfl

/-- No text is a form of two different byte strings. -/
theorem Form.write_inj {f g : Form} {b c : Bytes} (same : f.write b = g.write c) : b = c := by
  have bare := congrArg bared same
  rw [bared_write, bared_write] at bare
  have read := decode_encode lawful_standard false b
  rw [bare, decode_encode lawful_standard] at read
  exact (Option.some.inj read).symm

theorem decodeAny_eq_some {s : List Char} {b : Bytes} :
    decodeAny s = some b ↔ ∃ f : Form, s = f.write b := by
  have reads (f : Form) (c : Bytes) : decode f.alphabet f.filled s = some c ↔ s = f.write c :=
    decode_eq_some f.lawful
  have sound {c : Bytes} (read : decodeAny s = some c) : ∃ f : Form, s = f.write c := by
    simp only [decodeAny, Option.or_eq_some_iff] at read
    obtain one | ⟨_, one | ⟨_, one | ⟨_, one⟩⟩⟩ := read
    · exact ⟨⟨false, true⟩, (reads ⟨false, true⟩ c).1 one⟩
    · exact ⟨⟨true, true⟩, (reads ⟨true, true⟩ c).1 one⟩
    · exact ⟨⟨false, false⟩, (reads ⟨false, false⟩ c).1 one⟩
    · exact ⟨⟨true, false⟩, (reads ⟨true, false⟩ c).1 one⟩
  refine ⟨sound, ?_⟩
  rintro ⟨f, rfl⟩
  have own : decode f.alphabet f.filled (f.write b) = some b := (reads f b).2 rfl
  cases read : decodeAny (f.write b) with
  | some c =>
    obtain ⟨g, same⟩ := sound read
    rw [Form.write_inj same]
  | none =>
    simp only [decodeAny, Option.or_eq_none_iff] at read
    obtain ⟨one, two, three, four⟩ := read
    obtain ⟨_ | _, _ | _⟩ := f
    · cases three.symm.trans own
    · cases one.symm.trans own
    · cases four.symm.trans own
    · cases two.symm.trans own

end ProxyGateway.Text.Base64
