import ProxyGateway.Json.Reader

namespace ProxyGateway.Json

theorem hexDigits4_control : ∀ n < 32, ∃ a b c d,
    hexDigits4 n = [a, b, c, d] ∧ Text.digits 16 [a, b, c, d] = some n := by
  have all : ∀ n < 32, (hexDigits4 n).length = 4 ∧ Text.digits 16 (hexDigits4 n) = some n := by
    decide
  intro n control
  obtain ⟨four, value⟩ := all n control
  match written : hexDigits4 n, four with
  | [a, b, c, d], _ => exact ⟨a, b, c, d, rfl, written ▸ value⟩

theorem readUnicode_control {n : Nat} (control : n < 32) (rest : List Char) :
    readUnicode (hexDigits4 n ++ rest) = .ok (Char.ofNat n, rest) := by
  obtain ⟨a, b, c, d, written, value⟩ := hexDigits4_control n control
  have low : ¬ (0xDC00 ≤ n ∧ n ≤ 0xDFFF) := by omega
  have high : ¬ (0xD800 ≤ n ∧ n ≤ 0xDBFF) := by omega
  simp [readUnicode, written, takeHex4, value, low, high]

theorem readQuoted_escapeChar (fuel : Nat) (acc rest : List Char) (c : Char) :
    readQuoted (fuel + 1) acc (escapeChar c ++ rest) = readQuoted fuel (c :: acc) rest := by
  unfold escapeChar
  split
  · simp [readQuoted, simpleEscape, *]
  split
  · simp [readQuoted, simpleEscape, *]
  split
  · simp [readQuoted, simpleEscape, *]
  split
  · simp [readQuoted, simpleEscape, *]
  split
  · simp [readQuoted, simpleEscape, *]
  split
  · rename_i backspace
    have same : c = Char.ofNat 8 := by rw [← backspace, Char.ofNat_toNat]
    simp [readQuoted, simpleEscape, same]
  split
  · rename_i feed
    have same : c = Char.ofNat 12 := by rw [← feed, Char.ofNat_toNat]
    simp [readQuoted, simpleEscape, same]
  split
  · rename_i control
    simp [readQuoted, readUnicode_control control]
    rfl
  · rename_i quote backslash _ _ _ _ _ printable
    simp only [List.cons_append, List.nil_append]
    rw [readQuoted]
    · simp [printable, backslash]
    all_goals simp_all

theorem length_le_flatMap_escapeChar (s : List Char) :
    s.length ≤ (s.flatMap escapeChar).length := by
  have filled : ∀ c, 1 ≤ (escapeChar c).length := by
    intro c
    unfold escapeChar
    repeat' split
    all_goals simp
  induction s with
  | nil => simp
  | cons c s ih =>
    have one := filled c
    simp only [List.flatMap_cons, List.length_cons, List.length_append]
    omega

theorem readQuoted_quoted (s acc rest : List Char) {fuel : Nat} (enough : s.length < fuel) :
    readQuoted fuel acc (s.flatMap escapeChar ++ '"' :: rest) =
      .ok (String.ofList (acc.reverse ++ s), rest) := by
  induction s generalizing acc fuel with
  | nil =>
    obtain ⟨fuel, rfl⟩ := Nat.exists_eq_add_of_lt enough
    simp [readQuoted]
  | cons c s ih =>
    cases fuel with
    | zero => exact absurd enough (Nat.not_lt_zero _)
    | succ fuel =>
      rw [List.flatMap_cons, List.append_assoc, readQuoted_escapeChar,
        ih _ (Nat.lt_of_succ_lt_succ enough)]
      simp

/-- A quoted text is read as itself, whatever stands behind it. -/
theorem readText_quoted (s rest : List Char) :
    readText (s.flatMap escapeChar ++ '"' :: rest) = .ok (String.ofList s, rest) := by
  have enough : s.length < (s.flatMap escapeChar ++ '"' :: rest).length + 1 := by
    have shorter := length_le_flatMap_escapeChar s
    simp only [List.length_append]
    omega
  simpa [readText] using readQuoted_quoted s [] rest enough

theorem quote_toList (s : String) : (quote s).toList = quoteChars s.toList :=
  String.toList_ofList

/-- Two quoted texts with anything behind them agree only if they agree part by part. -/
theorem quote_append_inj {s t : String} {r r' : List Char}
    (same : (quote s).toList ++ r = (quote t).toList ++ r') : s = t ∧ r = r' := by
  have bodies : s.toList.flatMap escapeChar ++ '"' :: r = t.toList.flatMap escapeChar ++ '"' :: r' :=
    by simpa [quote_toList, quoteChars] using same
  have read := readText_quoted s.toList r
  rw [bodies, readText_quoted] at read
  simpa [eq_comm] using read

end ProxyGateway.Json
