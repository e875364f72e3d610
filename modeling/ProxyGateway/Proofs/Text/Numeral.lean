import ProxyGateway.Text.Numeral

namespace ProxyGateway.Text

theorem numeral_of_lt {base n : Nat} (small : n < base) : numeral base n = [n.digitChar] :=
  Nat.toDigits_of_lt_base small

theorem numeral_of_le {base n : Nat} (two : 1 < base) (large : base ≤ n) :
    numeral base n = numeral base (n / base) ++ [(n % base).digitChar] :=
  Nat.toDigits_of_base_le two large

theorem numeral_ne_nil (base n : Nat) : numeral base n ≠ [] := Nat.toDigits_ne_nil

theorem isDigit_of_mem_numeral {n : Nat} {c : Char} (member : c ∈ numeral 10 n) : c.isDigit :=
  Nat.isDigit_of_mem_toDigits (by decide) (by decide) member

theorem digitValue_digitChar :
    ∀ base ≤ 16, ∀ d < base, digitValue base d.digitChar = some d := by decide

theorem digits_concat {base : Nat} {s : List Char} (some_digits : s ≠ []) (c : Char) :
    digits base (s ++ [c]) =
      (digits base s).bind fun n => (digitValue base c).map (n * base + ·) := by
  cases s with
  | nil => exact absurd rfl some_digits
  | cons first rest => simp only [digits, List.cons_append, List.foldl_append, List.foldl_cons,
      List.foldl_nil]

theorem digits_numeral {base : Nat} (two : 1 < base) (sixteen : base ≤ 16) (n : Nat) :
    digits base (numeral base n) = some n := by
  induction n using Nat.strongRecOn with
  | _ n ih =>
    by_cases small : n < base
    · simp [numeral_of_lt small, digits, digitValue_digitChar base sixteen n small]
    · have large : base ≤ n := Nat.not_lt.1 small
      have shorter : n / base < n := Nat.div_lt_self (by omega) two
      have last : n % base < base := Nat.mod_lt _ (by omega)
      rw [numeral_of_le two large, digits_concat (numeral_ne_nil _ _), ih _ shorter,
        digitValue_digitChar base sixteen _ last]
      simp [Nat.div_add_mod']

/-- A text with a value is made of digits. -/
theorem digitValue_isSome_of_digits {base n : Nat} {s : List Char} (read : digits base s = some n) :
    s ≠ [] ∧ ∀ c ∈ s, (digitValue base c).isSome := by
  let push (acc : Option Nat) (c : Char) : Option Nat :=
    acc.bind fun n => (digitValue base c).map (n * base + ·)
  have stuck (s : List Char) : s.foldl push none = none := by
    induction s with
    | nil => rfl
    | cons c s ih => exact ih
  have all (s : List Char) (acc : Option Nat) (done : s.foldl push acc = some n) :
      ∀ c ∈ s, (digitValue base c).isSome := by
    induction s generalizing acc with
    | nil => nofun
    | cons d s ih =>
      intro c member
      rw [List.foldl_cons] at done
      obtain rfl | among := List.mem_cons.1 member
      · cases value : digitValue base c with
        | some v => rfl
        | none =>
          have lost : push acc c = none := by
            cases acc with
            | none => rfl
            | some m => simp only [push, value, Option.bind_some, Option.map_none]
          rw [lost, stuck] at done
          cases done
      · exact ih _ done c among
  cases s with
  | nil => cases read
  | cons c s => exact ⟨nofun, all (c :: s) (some 0) read⟩

theorem digitValue_isSome_of_mem_numeral {base : Nat} (two : 1 < base) (sixteen : base ≤ 16)
    {n : Nat} {c : Char} (member : c ∈ numeral base n) : (digitValue base c).isSome := by
  induction n using Nat.strongRecOn with
  | _ n ih =>
    by_cases small : n < base
    · rw [numeral_of_lt small, List.mem_singleton] at member
      rw [member, digitValue_digitChar base sixteen n small]
      rfl
    · have large : base ≤ n := Nat.not_lt.1 small
      have shorter : n / base < n := Nat.div_lt_self (by omega) two
      have last : n % base < base := Nat.mod_lt _ (by omega)
      rw [numeral_of_le two large, List.mem_append, List.mem_singleton] at member
      rcases member with earlier | rfl
      · exact ih _ shorter earlier
      · rw [digitValue_digitChar base sixteen _ last]
        rfl

theorem decimal_toList (n : Nat) : (decimal n).toList = numeral 10 n := String.toList_ofList

theorem decimal_inj {m n : Nat} (same : decimal m = decimal n) : m = n := by
  have numerals : numeral 10 m = numeral 10 n := by
    rw [← decimal_toList, ← decimal_toList, same]
  have read := digits_numeral (by decide : 1 < 10) (by decide) m
  rw [numerals, digits_numeral (by decide) (by decide)] at read
  exact (Option.some.inj read).symm

/-- A numeral has no sign in front of it. -/
theorem readNat_numeral {bound n : Nat} (small : n < bound) :
    readNat bound (numeral 10 n) = some n := by
  have read := digits_numeral (by decide : 1 < 10) (by decide) n
  cases written : numeral 10 n with
  | nil => exact absurd written (numeral_ne_nil 10 n)
  | cons c rest =>
    have digit : c.isDigit := isDigit_of_mem_numeral (n := n) (by simp [written])
    have unsigned : c ≠ '+' := by
      rintro rfl
      exact absurd digit (by decide)
    rw [written] at read
    unfold readNat
    split
    · rename_i plus
      exact absurd (List.cons.inj plus).1 unsigned
    · simp [read, small]

theorem readNat_lt {bound n : Nat} {s : List Char} (read : readNat bound s = some n) : n < bound := by
  obtain ⟨m, _, small⟩ := Option.bind_eq_some_iff.1 read
  split at small
  · obtain rfl := Option.some.inj small
    assumption
  · cases small

theorem readInt_range {bound : Nat} (positive : 0 < bound) {n : Int} {s : List Char}
    (read : readInt bound s = some n) : -bound ≤ n ∧ n < bound := by
  unfold readInt at read
  split at read
  · obtain ⟨m, _, small⟩ := Option.bind_eq_some_iff.1 read
    split at small
    · obtain rfl := Option.some.inj small
      omega
    · cases small
  · obtain ⟨m, of_digits, rfl⟩ := Option.map_eq_some_iff.1 read
    have small : (Int.ofNat m) < bound := Int.ofNat_lt.2 (readNat_lt of_digits)
    have natural : 0 ≤ Int.ofNat m := Int.natCast_nonneg m
    exact ⟨by omega, small⟩

theorem readInt_decimalInt {bound : Nat} {n : Int} (range : -bound ≤ n ∧ n < bound) :
    readInt bound (decimalInt n).toList = some n := by
  cases n with
  | ofNat m =>
    have unsigned : ∀ rest, numeral 10 m ≠ '-' :: rest := by
      intro rest written
      have digit : '-'.isDigit := isDigit_of_mem_numeral (n := m) (by simp [written])
      exact absurd digit (by decide)
    rw [decimalInt, decimal_toList, readInt]
    · rw [readNat_numeral (Int.ofNat_lt.1 range.2)]
      rfl
    · exact unsigned
  | negSucc m =>
    have chars : (decimalInt (.negSucc m)).toList = '-' :: numeral 10 (m + 1) := by
      rw [decimalInt, String.toList_append, decimal_toList]
      rfl
    rw [chars, readInt, digits_numeral (by decide) (by decide), Option.bind_some, if_pos (by omega)]
    rfl

theorem readPort_decimal (p : UInt16) : readPort (decimal p.toNat) = some p := by
  rw [readPort, decimal_toList, readNat_numeral p.toNat_lt]
  simp

theorem not_mem_hex {c : Char} (other : ∀ n < 16, digitChar n ≠ c) (bytes : List UInt8) :
    c ∉ (hex bytes).toList := by
  rw [hex, String.toList_ofList]
  intro member
  obtain ⟨b, _, digit⟩ := List.mem_flatMap.1 member
  have size := b.toNat_lt
  simp only [List.mem_cons, List.not_mem_nil, or_false] at digit
  obtain high | low := digit
  · exact other (b.toNat / 16) (by omega) high.symm
  · exact other (b.toNat % 16) (by omega) low.symm

end ProxyGateway.Text
