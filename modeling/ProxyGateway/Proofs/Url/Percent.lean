import ProxyGateway.Proofs.Text.Numeral
import ProxyGateway.Proofs.Text.Utf8
import ProxyGateway.Text.Blank
import ProxyGateway.Url.Percent

namespace ProxyGateway.Url

open Text (digitValue)
open Text.Utf8 (encode)

theorem digitValue_upperHexChar :
    ∀ n < 16, digitValue 16 (upperHexChar n) = some n ∧ isWord (upperHexChar n) := by decide

theorem ascii_of_isWord {c : Char} (word : isWord c) : c.toNat < 128 := by
  simp only [isWord, Bool.or_eq_true, Bool.and_eq_true, decide_eq_true_eq] at word
  obtain (⟨_, high⟩ | ⟨_, high⟩) | ⟨_, high⟩ := word
  all_goals exact Nat.lt_of_le_of_lt (Char.le_def.1 high) (by decide)

theorem ascii_induction (P : Char → Prop) (all : ∀ n < 128, P (Char.ofNat n)) {c : Char}
    (ascii : c.toNat < 128) : P c := by
  have one := all c.toNat ascii
  rwa [Char.ofNat_toNat] at one

theorem encode_append (s t : List Char) : encode (s ++ t) = encode s ++ encode t :=
  List.flatMap_append

theorem encode_cons_ascii {c : Char} (ascii : c.toNat < 128) (s : List Char) :
    encode (c :: s) = UInt8.ofNat c.toNat :: encode s := by
  rw [encode, List.flatMap_cons, Text.Utf8.encode_ascii ascii]
  rfl

section unescape

variable {inSet : Char → Bool}

theorem unescape_other {b : UInt8} (other : b ≠ 0x25) (rest : Bytes) :
    unescape (b :: rest) = b :: unescape rest :=
  (unescape.eq_def (b :: rest)).trans (if_neg other)

theorem unescape_escapeByte (b : UInt8) (rest : Bytes) :
    unescape (encode (escapeByte b) ++ rest) = b :: unescape rest := by
  have bound := b.toNat_lt
  obtain ⟨high, high_word⟩ := digitValue_upperHexChar (b.toNat / 16) (by omega)
  obtain ⟨low, low_word⟩ := digitValue_upperHexChar (b.toNat % 16) (by omega)
  have code {c : Char} (word : isWord c) : Char.ofNat (UInt8.ofNat c.toNat).toNat = c := by
    have ascii := ascii_of_isWord word
    rw [Text.Utf8.toNat_byte (Nat.lt_trans ascii (by decide)), Char.ofNat_toNat]
  rw [escapeByte, encode_cons_ascii (by decide), encode_cons_ascii (ascii_of_isWord high_word),
    encode_cons_ascii (ascii_of_isWord low_word)]
  have percent : UInt8.ofNat '%'.toNat = 0x25 := rfl
  simp only [List.cons_append, encode, List.flatMap_nil, List.nil_append]
  rw [unescape, if_pos percent]
  simp only [code high_word, code low_word, high, low]
  rw [Text.Utf8.byte_eq (a := b) (by omega)]

theorem unescape_escapeBytes (bytes rest : Bytes) :
    unescape (encode (bytes.flatMap escapeByte) ++ rest) = bytes ++ unescape rest := by
  induction bytes with
  | nil => rfl
  | cons b bytes ih =>
    rw [List.flatMap_cons, encode_append, List.append_assoc, unescape_escapeByte, ih,
      List.cons_append]

theorem unescape_bytes {bytes : Bytes} (plain : ∀ b ∈ bytes, b ≠ 0x25) (rest : Bytes) :
    unescape (bytes ++ rest) = bytes ++ unescape rest := by
  induction bytes with
  | nil => rfl
  | cons b bytes ih =>
    rw [List.forall_mem_cons] at plain
    rw [List.cons_append, unescape_other plain.1, ih plain.2, List.cons_append]

theorem no_percent_byte {c : Char} (other : c ≠ '%') : ∀ b ∈ String.utf8EncodeChar c, b ≠ 0x25 := by
  rintro b member rfl
  by_cases small : c.toNat < 128
  · rw [Text.Utf8.encode_ascii small, List.mem_singleton] at member
    have code : c.toNat = 37 := by
      rw [← Text.Utf8.toNat_byte (Nat.lt_trans small (by decide)), ← member]
      rfl
    exact other (by rw [← Char.ofNat_toNat c, code])
  · exact absurd (Text.Utf8.encode_large (Nat.le_of_not_lt small) _ member) (by decide)

/-- Escapes are undone if the percent sign was escaped too. -/
theorem unescape_escape (percent : inSet '%' = true) (s : List Char) (rest : Bytes) :
    unescape (encode (escape inSet s) ++ rest) = encode s ++ unescape rest := by
  induction s with
  | nil => rfl
  | cons c s ih =>
    have step : escape inSet (c :: s) =
        (if inSet c then (String.utf8EncodeChar c).flatMap escapeByte else [c]) ++ escape inSet s :=
      rfl
    have bytes : encode (c :: s) = String.utf8EncodeChar c ++ encode s := rfl
    rw [step, encode_append, List.append_assoc, bytes, List.append_assoc]
    split
    · rw [unescape_escapeBytes, ih]
    · rename_i free
      have other : c ≠ '%' := by
        rintro rfl
        exact free percent
      have single : encode [c] = String.utf8EncodeChar c := List.append_nil _
      rw [single, unescape_bytes (no_percent_byte other), ih]

/-- A text as one part of a link, with the characters of the set escaped. -/
def segment (inSet : Char → Bool) (s : String) : String := String.ofList (escape inSet s.toList)

theorem decodeComponent_segment (percent : inSet '%' = true) (s : String) :
    decodeComponent (segment inSet s) = .ok s := by
  have all := unescape_escape percent s.toList []
  rw [List.append_nil, show unescape [] = [] from rfl, List.append_nil] at all
  rw [decodeComponent, Bytes.ofText, segment, String.toList_ofList, all]
  exact Text.Utf8.decode_eq_ok.2 rfl

theorem segment_eq_empty {s : String} (percent : inSet '%' = true) (nothing : segment inSet s = "") :
    s = "" := by
  have read := decodeComponent_segment percent s
  rw [nothing] at read
  exact (Except.ok.inj read).symm

end unescape

theorem encodeComponent_toList (s : String) :
    (encodeComponent s).toList = escape (fun c => !isUnreserved c) s.toList := String.toList_ofList

theorem unescape_component (s : String) (rest : Bytes) :
    unescape (Bytes.ofText (encodeComponent s) ++ rest) = Bytes.ofText s ++ unescape rest := by
  rw [Bytes.ofText, encodeComponent_toList]
  exact unescape_escape rfl s.toList rest

/-- A component is decoded to the text that it was made of. -/
theorem decodeComponent_encodeComponent (s : String) :
    decodeComponent (encodeComponent s) = .ok s :=
  @decodeComponent_segment (fun c => !isUnreserved c) rfl s

theorem encodeComponent_eq_empty {s : String} (nothing : encodeComponent s = "") : s = "" :=
  @segment_eq_empty (fun c => !isUnreserved c) s rfl nothing

/-- A character of an escaped text stands for itself or belongs to an escape. -/
theorem of_mem_escape {inSet : Char → Bool} {s : List Char} {c : Char}
    (member : c ∈ escape inSet s) : c = '%' ∨ isWord c ∨ c ∈ s ∧ inSet c = false := by
  obtain ⟨d, among, inside⟩ := List.mem_flatMap.1 member
  split at inside
  · obtain ⟨b, _, inside⟩ := List.mem_flatMap.1 inside
    have bound := b.toNat_lt
    simp only [escapeByte, List.mem_cons, List.not_mem_nil, or_false] at inside
    obtain rfl | rfl | rfl := inside
    · exact .inl rfl
    · exact .inr (.inl (digitValue_upperHexChar _ (by omega)).2)
    · exact .inr (.inl (digitValue_upperHexChar _ (by omega)).2)
  · rename_i free
    obtain rfl := List.mem_singleton.1 inside
    exact .inr (.inr ⟨among, Bool.not_eq_true _ ▸ free⟩)

theorem escape_eq_self {inSet : Char → Bool} {s : List Char} (free : ∀ c ∈ s, inSet c = false) :
    escape inSet s = s := by
  induction s with
  | nil => rfl
  | cons c s ih =>
    rw [List.forall_mem_cons] at free
    have step : escape inSet (c :: s) =
        (if inSet c then (String.utf8EncodeChar c).flatMap escapeByte else [c]) ++ escape inSet s :=
      rfl
    rw [step, ih free.2, if_neg (by rw [free.1]; exact Bool.false_ne_true), List.singleton_append]

def InComponent (c : Char) : Prop := c = '%' ∨ isUnreserved c

instance (c : Char) : Decidable (InComponent c) := inferInstanceAs (Decidable (_ ∨ _))

theorem inComponent_of_isWord {c : Char} (word : isWord c) : InComponent c := by
  simp [InComponent, isUnreserved, word]

theorem inComponent {s : String} {c : Char} (member : c ∈ (encodeComponent s).toList) :
    InComponent c := by
  rw [encodeComponent_toList] at member
  obtain percent | word | ⟨_, free⟩ := of_mem_escape member
  · exact .inl percent
  · exact inComponent_of_isWord word
  · exact .inr (by simpa using free)

theorem InComponent.ascii {c : Char} (inside : InComponent c) : c.toNat < 128 := by
  obtain rfl | free := inside
  · decide
  · simp only [isUnreserved, Bool.or_eq_true, beq_iff_eq] at free
    obtain (((word | rfl) | rfl) | rfl) | rfl := free
    · exact ascii_of_isWord word
    all_goals decide

/-- No other part of a link has anything to escape in a component. -/
theorem InComponent.free {c : Char} (inside : InComponent c) :
    inUserinfo c = false ∧ inFragment c = false ∧ Text.isBlank c = false := by
  have all : ∀ n < 128, InComponent (Char.ofNat n) → inUserinfo (Char.ofNat n) = false ∧
      inFragment (Char.ofNat n) = false ∧ Text.isBlank (Char.ofNat n) = false := by decide
  exact ascii_induction (fun c => InComponent c → inUserinfo c = false ∧ inFragment c = false ∧
    Text.isBlank c = false) all inside.ascii inside

section seals

/-- Escaping the characters of the set keeps a text inside one segment of a path. -/
structure Seals (inSet : Char → Bool) : Prop where
  percent : inSet '%' = true
  slash : inSet '/' = true
  path : ∀ c, inPath c = true → inSet c = true

theorem seals_component : Seals fun c => !isUnreserved c := by
  refine ⟨rfl, rfl, fun c inside => ?_⟩
  have all : ∀ n < 128, inPath (Char.ofNat n) = true → isUnreserved (Char.ofNat n) = false := by
    decide
  by_cases ascii : c.toNat < 128
  · rw [ascii_induction (fun c => inPath c = true → isUnreserved c = false) all ascii inside]
    rfl
  · cases free : isUnreserved c with
    | false => rfl
    | true => exact absurd (InComponent.ascii (.inr free)) ascii

theorem apart_of_mem_segment {inSet : Char → Bool} (seals : Seals inSet) {s : String} {c : Char}
    (member : c ∈ (segment inSet s).toList) : c ≠ '/' ∧ c ≠ '?' ∧ c ≠ '#' := by
  rw [segment, String.toList_ofList] at member
  obtain rfl | word | ⟨_, free⟩ := of_mem_escape member
  · decide
  · refine ⟨?_, ?_, ?_⟩ <;> rintro rfl <;> exact absurd word (by decide)
  · refine ⟨?_, ?_, ?_⟩ <;> rintro rfl
    · exact Bool.false_ne_true (free.symm.trans seals.slash)
    · exact Bool.false_ne_true (free.symm.trans (seals.path _ rfl))
    · exact Bool.false_ne_true (free.symm.trans (seals.path _ rfl))

end seals

section holdsEscape

def isHex (b : UInt8) : Bool := (digitValue 16 (Char.ofNat b.toNat)).isSome

/-- Whether a percent sign stands somewhere in front of two hexadecimal digits. -/
def holdsEscape : Bytes → Bool
  | a :: b :: c :: rest => a == 0x25 && isHex b && isHex c || holdsEscape (b :: c :: rest)
  | _ => false

theorem holdsEscape_cons {a : UInt8} {rest : Bytes}
    (other : ∀ b c tail, a = 0x25 → rest = b :: c :: tail → ¬ (isHex b ∧ isHex c)) :
    holdsEscape (a :: rest) = holdsEscape rest := by
  match rest with
  | [] => rfl
  | [b] => rfl
  | b :: c :: tail =>
    rw [holdsEscape]
    have no_escape : (a == 0x25 && isHex b && isHex c) = false := by
      have none := other b c tail
      simp_all
    rw [no_escape, Bool.false_or]

/-- No escape reaches over a byte that is none of its own. -/
theorem holdsEscape_append {mark : UInt8} (other : mark ≠ 0x25) (no_digit : isHex mark = false)
    (front rest : Bytes) :
    holdsEscape (front ++ mark :: rest) = (holdsEscape front || holdsEscape rest) := by
  have marked : holdsEscape (mark :: rest) = holdsEscape rest :=
    holdsEscape_cons fun _ _ _ same => absurd same other
  induction front with
  | nil => exact marked
  | cons a front ih =>
    match front with
    | b :: c :: tail =>
      rw [List.cons_append] at ih
      rw [holdsEscape, List.cons_append, List.cons_append, List.cons_append, holdsEscape,
        Bool.or_assoc]
      exact congrArg _ ih
    | [b] =>
      refine (holdsEscape_cons fun _ c tail _ same => ?_).trans ih
      obtain ⟨_, same⟩ := List.cons.inj same
      obtain ⟨rfl, _⟩ := List.cons.inj same
      simp [no_digit]
    | [] =>
      refine (holdsEscape_cons fun b _ tail _ same => ?_).trans ih
      obtain ⟨rfl, _⟩ := List.cons.inj same
      simp [no_digit]

theorem length_unescape_le (b : Bytes) : (unescape b).length ≤ b.length := by
  fun_induction unescape b <;> grind

/-- Undoing escapes leaves exactly those bytes as they are that hold none. -/
theorem unescape_eq_self_iff {b : Bytes} : unescape b = b ↔ holdsEscape b = false := by
  fun_induction unescape b with
  | case1 => simp [holdsEscape]
  | case2 b c rest x y low high _ =>
    refine iff_of_false (fun same => ?_) ?_
    · have shorter := length_unescape_le rest
      have lengths := congrArg List.length same
      simp only [List.length_cons] at lengths
      omega
    · simp [holdsEscape, isHex, high, low]
  | case3 b c rest no_digits ih =>
    have no_escape : (isHex b && isHex c) = false := Bool.eq_false_iff.2 fun digits => by
      simp only [isHex, Bool.and_eq_true, Option.isSome_iff_exists] at digits
      obtain ⟨⟨x, high⟩, y, low⟩ := digits
      exact no_digits x y high low
    simp [ih, holdsEscape, no_escape]
  | case4 b ih => simp [ih, holdsEscape]
  | case5 => simp [holdsEscape]
  | case6 a rest other ih =>
    rw [List.cons.injEq, holdsEscape_cons fun _ _ _ same => absurd same other]
    simp [ih]

/-- A text stands for itself if it holds no escape. -/
theorem decodeComponent_eq_self_iff {s : String} :
    decodeComponent s = .ok s ↔ holdsEscape (Bytes.ofText s) = false := by
  rw [decodeComponent, Text.Utf8.decode_eq_ok, unescape_eq_self_iff]

end holdsEscape

end ProxyGateway.Url
