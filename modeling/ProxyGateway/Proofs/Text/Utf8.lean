import ProxyGateway.Error
import ProxyGateway.Text.Ascii
import ProxyGateway.Text.Utf8

namespace ProxyGateway.Text.Utf8

theorem isTail_iff {b : UInt8} : isTail b ↔ 128 ≤ b.toNat ∧ b.toNat ≤ 191 := by
  simp [isTail, UInt8.le_iff_toNat_le]

/-- The lead bytes with fewer successors are those of the shortest and the longest sequences and
that of the surrogates. -/
theorem mayFollow_of {a b : UInt8} (tail : 128 ≤ b.toNat ∧ b.toNat ≤ 191)
    (after_e0 : a.toNat = 0xE0 → 0xA0 ≤ b.toNat) (after_ed : a.toNat = 0xED → b.toNat ≤ 0x9F)
    (after_f0 : a.toNat = 0xF0 → 0x90 ≤ b.toNat) (after_f4 : a.toNat = 0xF4 → b.toNat ≤ 0x8F) :
    mayFollow a b := by
  unfold mayFollow
  simp only [beq_iff_eq, ← UInt8.toNat_inj]
  split
  · rename_i lead
    simpa [UInt8.le_iff_toNat_le] using ⟨after_e0 lead, tail.2⟩
  split
  · rename_i lead
    simpa [UInt8.le_iff_toNat_le] using ⟨tail.1, after_ed lead⟩
  split
  · rename_i lead
    simpa [UInt8.le_iff_toNat_le] using ⟨after_f0 lead, tail.2⟩
  split
  · rename_i lead
    simpa [UInt8.le_iff_toNat_le] using ⟨tail.1, after_f4 lead⟩
  · exact isTail_iff.2 tail

theorem pieces_one {a : UInt8} (ascii : a.toNat < 128) (rest : Bytes) :
    pieces (a :: rest) = .char (Char.ofNat a.toNat) :: pieces rest := by
  have small : a < 0x80 := UInt8.lt_iff_toNat_lt.2 ascii
  rw [pieces.eq_def]
  simp [small]

theorem lead_outside {a : UInt8} {low high : UInt8}
    (outside : a.toNat < low.toNat ∨ high.toNat < a.toNat) : ¬ (low ≤ a ∧ a ≤ high) := by
  rw [UInt8.le_iff_toNat_le, UInt8.le_iff_toNat_le]
  omega

theorem lead_large {a : UInt8} (large : 0x80 ≤ a.toNat) : ¬ a < 0x80 :=
  fun small => absurd (UInt8.lt_iff_toNat_lt.1 small) (Nat.not_lt.2 large)

theorem pieces_two {a b : UInt8} (lead : 0xC2 ≤ a.toNat ∧ a.toNat ≤ 0xDF) (tail : isTail b)
    (rest : Bytes) : pieces (a :: b :: rest) = .char (scalar2 a b) :: pieces rest := by
  have large : ¬ a < 0x80 := lead_large (by omega)
  have two : 0xC2 ≤ a ∧ a ≤ 0xDF := by simpa [UInt8.le_iff_toNat_le] using lead
  rw [pieces.eq_def]
  simp [large, two, tail]

theorem pieces_three {a b c : UInt8} (lead : 0xE0 ≤ a.toNat ∧ a.toNat ≤ 0xEF)
    (follows : mayFollow a b) (tail : isTail c) (rest : Bytes) :
    pieces (a :: b :: c :: rest) = .char (scalar3 a b c) :: pieces rest := by
  have large : ¬ a < 0x80 := lead_large (by omega)
  have two : ¬ (0xC2 ≤ a ∧ a ≤ 0xDF) := lead_outside (.inr (Nat.lt_of_lt_of_le (by decide) lead.1))
  have three : 0xE0 ≤ a ∧ a ≤ 0xEF := by simpa [UInt8.le_iff_toNat_le] using lead
  rw [pieces.eq_def]
  simp only [large, two, three, follows, tail, and_self, if_true, if_false]

theorem pieces_four {a b c d : UInt8} (lead : 0xF0 ≤ a.toNat ∧ a.toNat ≤ 0xF4)
    (follows : mayFollow a b) (tail : isTail c) (last : isTail d) (rest : Bytes) :
    pieces (a :: b :: c :: d :: rest) = .char (scalar4 a b c d) :: pieces rest := by
  have large : ¬ a < 0x80 := lead_large (by omega)
  have two : ¬ (0xC2 ≤ a ∧ a ≤ 0xDF) := lead_outside (.inr (Nat.lt_of_lt_of_le (by decide) lead.1))
  have three : ¬ (0xE0 ≤ a ∧ a ≤ 0xEF) :=
    lead_outside (.inr (Nat.lt_of_lt_of_le (by decide) lead.1))
  have four : 0xF0 ≤ a ∧ a ≤ 0xF4 := by simpa [UInt8.le_iff_toNat_le] using lead
  rw [pieces.eq_def]
  simp only [large, two, three, four, follows, tail, last, and_self, if_true, if_false]

theorem toNat_byte {n : Nat} (small : n < 256) : (UInt8.ofNat n).toNat = n := by
  rw [UInt8.toNat_ofNat', Nat.mod_eq_of_lt small]

theorem isTail_byte (n : Nat) : isTail (UInt8.ofNat (n % 64 + 128)) := by
  rw [isTail_iff, toNat_byte (by omega)]
  omega

theorem char_range (c : Char) : c.toNat < 0xD800 ∨ 0xDFFF < c.toNat ∧ c.toNat < 0x110000 :=
  c.valid

theorem char_eq (c : Char) {n : Nat} (same : n = c.toNat) : Char.ofNat n = c := by
  rw [same, Char.ofNat_toNat]

theorem pieces_encode (c : Char) (rest : Bytes) :
    pieces (String.utf8EncodeChar c ++ rest) = .char c :: pieces rest := by
  have range := char_range c
  have value : c.val.toNat = c.toNat := rfl
  unfold String.utf8EncodeChar
  simp only [value]
  split
  · rename_i one
    have lead := toNat_byte (by omega : c.toNat < 256)
    rw [List.cons_append, List.nil_append, pieces_one (by omega), lead, Char.ofNat_toNat]
  split
  · rename_i two
    have lead := toNat_byte (by omega : c.toNat / 64 % 32 + 192 < 256)
    have tail := toNat_byte (by omega : c.toNat % 64 + 128 < 256)
    rw [List.cons_append, List.cons_append, List.nil_append,
      pieces_two (by omega) (isTail_byte _), scalar2, lead, tail, char_eq c (by omega)]
  split
  · rename_i three
    have lead := toNat_byte (by omega : c.toNat / 4096 % 16 + 224 < 256)
    have next := toNat_byte (by omega : c.toNat / 64 % 64 + 128 < 256)
    have tail := toNat_byte (by omega : c.toNat % 64 + 128 < 256)
    have follows : mayFollow (UInt8.ofNat (c.toNat / 4096 % 16 + 224))
        (UInt8.ofNat (c.toNat / 64 % 64 + 128)) := by
      apply mayFollow_of <;> rw [next] <;> omega
    rw [List.cons_append, List.cons_append, List.cons_append, List.nil_append,
      pieces_three (by omega) follows (isTail_byte _), scalar3, lead, next, tail,
      char_eq c (by omega)]
  · rename_i four
    have lead := toNat_byte (by omega : c.toNat / 262144 % 8 + 240 < 256)
    have next := toNat_byte (by omega : c.toNat / 4096 % 64 + 128 < 256)
    have third := toNat_byte (by omega : c.toNat / 64 % 64 + 128 < 256)
    have tail := toNat_byte (by omega : c.toNat % 64 + 128 < 256)
    have follows : mayFollow (UInt8.ofNat (c.toNat / 262144 % 8 + 240))
        (UInt8.ofNat (c.toNat / 4096 % 64 + 128)) := by
      apply mayFollow_of <;> rw [next] <;> omega
    rw [List.cons_append, List.cons_append, List.cons_append, List.cons_append, List.nil_append,
      pieces_four (by omega) follows (isTail_byte _) (isTail_byte _), scalar4, lead, next, third,
      tail, char_eq c (by omega)]

theorem gather_chars (index : Nat) (s : List Char) : gather index (s.map .char) = .ok s := by
  induction s generalizing index with
  | nil => rfl
  | cons c s ih => rw [List.map_cons, gather, ih, Except.map]

theorem pieces_chars (s : List Char) : pieces (encode s) = s.map .char := by
  induction s with
  | nil => rfl
  | cons c s ih =>
    rw [encode, List.flatMap_cons, pieces_encode, ← encode, ih, List.map_cons]

theorem decode_ofText (s : String) : decode? (Bytes.ofText s) = some s := by
  rw [decode?, decode, Bytes.ofText, pieces_chars, gather_chars, Except.map, String.ofList_toList]
  rfl

theorem mayFollow_bounds {a b : UInt8} (follows : mayFollow a b) :
    (128 ≤ b.toNat ∧ b.toNat ≤ 191) ∧ (a.toNat = 0xE0 → 0xA0 ≤ b.toNat) ∧
      (a.toNat = 0xED → b.toNat ≤ 0x9F) ∧ (a.toNat = 0xF0 → 0x90 ≤ b.toNat) ∧
      (a.toNat = 0xF4 → b.toNat ≤ 0x8F) := by
  unfold mayFollow isTail at follows
  simp only [beq_iff_eq, ← UInt8.toNat_inj, UInt8.reduceToNat] at follows
  split at follows
  · simp only [Bool.and_eq_true, decide_eq_true_eq, UInt8.le_iff_toNat_le,
      UInt8.reduceToNat] at follows
    omega
  split at follows
  · simp only [Bool.and_eq_true, decide_eq_true_eq, UInt8.le_iff_toNat_le,
      UInt8.reduceToNat] at follows
    omega
  split at follows
  · simp only [Bool.and_eq_true, decide_eq_true_eq, UInt8.le_iff_toNat_le,
      UInt8.reduceToNat] at follows
    omega
  split at follows
  · simp only [Bool.and_eq_true, decide_eq_true_eq, UInt8.le_iff_toNat_le,
      UInt8.reduceToNat] at follows
    omega
  · simp only [Bool.and_eq_true, decide_eq_true_eq, UInt8.le_iff_toNat_le,
      UInt8.reduceToNat] at follows
    omega

theorem byte_eq {n : Nat} {a : UInt8} (same : n = a.toNat) : UInt8.ofNat n = a := by
  rw [same, UInt8.ofNat_toNat]

theorem encode_one {a : UInt8} (ascii : a.toNat < 128) :
    String.utf8EncodeChar (Char.ofNat a.toNat) = [a] := by
  have value : (Char.ofNat a.toNat).val.toNat = a.toNat := toNat_charOfNat (.inl (by omega))
  unfold String.utf8EncodeChar
  simp only [value]
  rw [if_pos (by omega), UInt8.ofNat_toNat]

theorem encode_ascii {c : Char} (ascii : c.toNat < 128) :
    String.utf8EncodeChar c = [UInt8.ofNat c.toNat] := by
  have value := toNat_byte (Nat.lt_trans ascii (by decide : 128 < 256))
  have one := encode_one (a := UInt8.ofNat c.toNat) (by omega)
  rwa [value, Char.ofNat_toNat] at one

theorem encode_two {a b : UInt8} (lead : 0xC2 ≤ a.toNat ∧ a.toNat ≤ 0xDF) (tail : isTail b) :
    String.utf8EncodeChar (scalar2 a b) = [a, b] := by
  rw [isTail_iff] at tail
  have value : (scalar2 a b).val.toNat = (a.toNat - 0xC0) * 64 + (b.toNat - 0x80) :=
    toNat_charOfNat (.inl (by omega))
  unfold String.utf8EncodeChar
  simp only [value]
  rw [if_neg (by omega), if_pos (by omega), byte_eq (a := a) (by omega), byte_eq (a := b) (by omega)]

theorem encode_three {a b c : UInt8} (lead : 0xE0 ≤ a.toNat ∧ a.toNat ≤ 0xEF)
    (follows : mayFollow a b) (tail : isTail c) :
    String.utf8EncodeChar (scalar3 a b c) = [a, b, c] := by
  rw [isTail_iff] at tail
  obtain ⟨next, after_e0, after_ed, _, _⟩ := mayFollow_bounds follows
  have value : (scalar3 a b c).val.toNat =
      (a.toNat - 0xE0) * 4096 + (b.toNat - 0x80) * 64 + (c.toNat - 0x80) := by
    refine toNat_charOfNat ?_
    unfold Nat.isValidChar
    omega
  unfold String.utf8EncodeChar
  simp only [value]
  rw [if_neg (by omega), if_neg (by omega), if_pos (by omega), byte_eq (a := a) (by omega),
    byte_eq (a := b) (by omega), byte_eq (a := c) (by omega)]

theorem encode_four {a b c d : UInt8} (lead : 0xF0 ≤ a.toNat ∧ a.toNat ≤ 0xF4)
    (follows : mayFollow a b) (tail : isTail c) (last : isTail d) :
    String.utf8EncodeChar (scalar4 a b c d) = [a, b, c, d] := by
  rw [isTail_iff] at tail last
  obtain ⟨next, _, _, after_f0, after_f4⟩ := mayFollow_bounds follows
  have value : (scalar4 a b c d).val.toNat = (a.toNat - 0xF0) * 262144 +
      (b.toNat - 0x80) * 4096 + (c.toNat - 0x80) * 64 + (d.toNat - 0x80) := by
    refine toNat_charOfNat ?_
    unfold Nat.isValidChar
    omega
  unfold String.utf8EncodeChar
  simp only [value]
  rw [if_neg (by omega), if_neg (by omega), if_neg (by omega), byte_eq (a := a) (by omega),
    byte_eq (a := b) (by omega), byte_eq (a := c) (by omega), byte_eq (a := d) (by omega)]

theorem encode_of_gather_cons {index : Nat} {c : Char} {rest : List Piece} {s : List Char}
    {front back : Bytes} (whole : gather index (.char c :: rest) = .ok s)
    (bytes : String.utf8EncodeChar c = front)
    (behind : ∀ {index : Nat} {s : List Char}, gather index rest = .ok s → encode s = back) :
    encode s = front ++ back := by
  obtain ⟨tail, others, rfl⟩ := map_eq_ok.1 whole
  rw [encode, List.flatMap_cons, bytes, ← encode, behind others]

theorem encode_of_gather {b : Bytes} {index : Nat} {s : List Char}
    (whole : gather index (pieces b) = .ok s) : encode s = b := by
  fun_induction pieces b generalizing index s with
  | case1 =>
    cases whole
    rfl
  | case2 a rest small ih =>
    exact encode_of_gather_cons whole (encode_one (UInt8.lt_iff_toNat_lt.1 small)) ih
  | case4 a _ two b rest tail ih =>
    have lead : 0xC2 ≤ a.toNat ∧ a.toNat ≤ 0xDF := by simpa [UInt8.le_iff_toNat_le] using two
    exact encode_of_gather_cons whole (encode_two lead tail) ih
  | case8 a _ _ three b follows c rest tail ih =>
    have lead : 0xE0 ≤ a.toNat ∧ a.toNat ≤ 0xEF := by simpa [UInt8.le_iff_toNat_le] using three
    exact encode_of_gather_cons whole (encode_three lead follows tail) ih
  | case14 a _ _ _ four b follows c tail d rest last ih =>
    have lead : 0xF0 ≤ a.toNat ∧ a.toNat ≤ 0xF4 := by simpa [UInt8.le_iff_toNat_le] using four
    exact encode_of_gather_cons whole (encode_four lead follows tail last) ih
  | case3 => cases whole
  | case5 => cases whole
  | case6 => cases whole
  | case7 => cases whole
  | case9 => cases whole
  | case10 => cases whole
  | case11 => cases whole
  | case12 => cases whole
  | case13 => cases whole
  | case15 => cases whole
  | case16 => cases whole
  | case17 => cases whole
  | case18 => cases whole

/-- Exactly the bytes of a text are decoded to it. -/
theorem decode_eq_some {b : Bytes} {s : String} : decode? b = some s ↔ b = Bytes.ofText s := by
  constructor
  · intro read
    unfold decode? decode at read
    cases whole : gather 0 (pieces b) with
    | error flaw =>
      rw [whole] at read
      cases read
    | ok chars =>
      rw [whole] at read
      cases read
      rw [Bytes.ofText, String.toList_ofList, encode_of_gather whole]
  · rintro rfl
    exact decode_ofText s

theorem ofText_inj {s t : String} (same : Bytes.ofText s = Bytes.ofText t) : s = t := by
  have read := decode_ofText s
  rw [same, decode_ofText] at read
  exact (Option.some.inj read).symm

theorem decode_eq_ok {b : Bytes} {s : String} : decode b = .ok s ↔ b = Bytes.ofText s := by
  rw [← decode_eq_some, decode?]
  cases decode b with
  | error flaw => simp [Except.toOption]
  | ok t => simp [Except.toOption]

/-- A character outside ASCII has no byte of ASCII. -/
theorem encode_large {c : Char} (outside : 128 ≤ c.toNat) :
    ∀ b ∈ String.utf8EncodeChar c, 128 ≤ b.toNat := by
  have range : c.val.toNat < 0x110000 := by
    obtain low | high := char_range c
    · exact Nat.lt_trans low (by decide)
    · exact high.2
  have large : 128 ≤ c.val.toNat := outside
  intro b member
  unfold String.utf8EncodeChar at member
  simp only at member
  split at member
  · omega
  split at member
  · simp only [List.mem_cons, List.not_mem_nil, or_false] at member
    rcases member with rfl | rfl <;> rw [toNat_byte (by omega)] <;> omega
  split at member
  · simp only [List.mem_cons, List.not_mem_nil, or_false] at member
    rcases member with rfl | rfl | rfl <;> rw [toNat_byte (by omega)] <;> omega
  · simp only [List.mem_cons, List.not_mem_nil, or_false] at member
    rcases member with rfl | rfl | rfl | rfl <;> rw [toNat_byte (by omega)] <;> omega

theorem ofText_append (s t : String) : Bytes.ofText (s ++ t) = Bytes.ofText s ++ Bytes.ofText t := by
  unfold Bytes.ofText encode
  rw [String.toList_append, List.flatMap_append]

/-- A byte of ASCII stands for its character, and for no part of another. -/
theorem mem_ofText_ascii {b : UInt8} (ascii : b.toNat < 128) {s : String} :
    b ∈ Bytes.ofText s ↔ Char.ofNat b.toNat ∈ s.toList := by
  unfold Bytes.ofText encode
  rw [List.mem_flatMap]
  constructor
  · rintro ⟨c, member, inside⟩
    by_cases small : c.toNat < 128
    · rw [encode_ascii small, List.mem_singleton] at inside
      rw [inside, toNat_byte (Nat.lt_trans small (by decide)), Char.ofNat_toNat]
      exact member
    · have large := encode_large (Nat.le_of_not_lt small) b inside
      omega
  · intro member
    exact ⟨_, member, by rw [encode_one ascii]; exact List.mem_singleton_self b⟩

end ProxyGateway.Text.Utf8
