import ProxyGateway.Proofs.Url.Percent
import ProxyGateway.Proofs.Url.Target
import ProxyGateway.Url.Form

namespace ProxyGateway.Text

section split

variable {α : Type} [DecidableEq α] {sep : α} {part : List α}

theorem splitAll_whole (free : sep ∉ part) : splitAll sep part = [part] := by
  induction part with
  | nil => rfl
  | cons c part ih =>
    rw [List.mem_cons, not_or] at free
    rw [splitAll, if_neg (Ne.symm free.1), ih free.2]

theorem splitAll_front (free : sep ∉ part) (rest : List α) :
    splitAll sep (part ++ sep :: rest) = part :: splitAll sep rest := by
  induction part with
  | nil => rw [List.nil_append, splitAll, if_pos rfl]
  | cons c part ih =>
    rw [List.mem_cons, not_or] at free
    rw [List.cons_append, splitAll, if_neg (Ne.symm free.1), ih free.2]

theorem splitAll_intercalate {parts : List (List α)} (some : parts ≠ [])
    (free : ∀ part ∈ parts, sep ∉ part) : splitAll sep ([sep].intercalate parts) = parts := by
  induction parts with
  | nil => exact absurd rfl some
  | cons part parts ih =>
    rw [List.forall_mem_cons] at free
    cases parts with
    | nil =>
      rw [List.intercalate_singleton]
      exact splitAll_whole free.1
    | cons next parts =>
      rw [List.intercalate_cons_cons, List.append_assoc, List.singleton_append,
        splitAll_front free.1, ih (by simp) free.2]

end split

theorem Utf8.encode_intercalate (sep : List Char) (parts : List (List Char)) :
    Utf8.encode (sep.intercalate parts) =
      (Utf8.encode sep).intercalate (parts.map Utf8.encode) := by
  induction parts with
  | nil => rfl
  | cons part parts ih =>
    cases parts with
    | nil => rw [List.map_singleton, List.intercalate_singleton, List.intercalate_singleton]
    | cons next parts =>
      rw [List.map_cons, List.map_cons, List.intercalate_cons_cons, List.intercalate_cons_cons,
        ← List.map_cons, ← ih, Url.encode_append, Url.encode_append]

end ProxyGateway.Text

namespace ProxyGateway.Url.Form

open Text.Utf8 (encode)

def InPart (c : Char) : Prop := c = '%' ∨ c = '+' ∨ isPlain c

instance (c : Char) : Decidable (InPart c) := inferInstanceAs (Decidable (_ ∨ _ ∨ _))

def encodeChar (c : Char) : List Char :=
  if c = ' ' then ['+'] else escape (fun x => !isPlain x) [c]

theorem encodePart_toList (s : String) : (encodePart s).toList = s.toList.flatMap encodeChar :=
  String.toList_ofList

/-- A plus sign is written for a blank alone. -/
theorem of_mem_encodeChar {c d : Char} (member : d ∈ encodeChar c) :
    InPart d ∧ (c ≠ ' ' → d ≠ '+') := by
  unfold encodeChar at member
  split at member
  · rename_i blank
    obtain rfl := List.mem_singleton.1 member
    exact ⟨.inr (.inl rfl), fun other => absurd blank other⟩
  · have plain : d = '%' ∨ isPlain d := by
      obtain percent | word | ⟨_, free⟩ := of_mem_escape member
      · exact .inl percent
      · exact .inr (by simp [isPlain, word])
      · exact .inr (by simpa using free)
    refine ⟨plain.imp_right .inr, fun _ => ?_⟩
    rintro rfl
    exact absurd plain (by decide)

theorem inPart {s : String} {c : Char} (member : c ∈ (encodePart s).toList) : InPart c := by
  rw [encodePart_toList] at member
  obtain ⟨d, _, inside⟩ := List.mem_flatMap.1 member
  exact (of_mem_encodeChar inside).1

def plusToBlank (b : UInt8) : UInt8 := if b = 0x2B then 0x20 else b

theorem unescape_encodeChar (c : Char) (rest : Bytes) :
    unescape ((encode (encodeChar c)).map plusToBlank ++ rest) =
      String.utf8EncodeChar c ++ unescape rest := by
  by_cases blank : c = ' '
  · subst blank
    have one : (encode (encodeChar ' ')).map plusToBlank = [0x20] := by decide
    rw [one, List.singleton_append, unescape_other (by decide)]
    rfl
  · have no_plus : ∀ b ∈ encode (encodeChar c), plusToBlank b = b := by
      intro b member
      refine if_neg ?_
      rintro rfl
      have plus : (0x2B : UInt8) ∈ Bytes.ofText (String.ofList (encodeChar c)) := by
        rw [Bytes.ofText, String.toList_ofList]
        exact member
      rw [Text.Utf8.mem_ofText_ascii (by decide), String.toList_ofList] at plus
      exact (of_mem_encodeChar plus).2 blank rfl
    have escaped : encodeChar c = escape (fun x => !isPlain x) [c] := if_neg blank
    have single : encode [c] = String.utf8EncodeChar c := List.append_nil _
    rw [List.map_congr_left no_plus, List.map_id', escaped, unescape_escape rfl, single]

theorem unescape_part (s : List Char) :
    unescape ((encode (s.flatMap encodeChar)).map plusToBlank) = encode s := by
  induction s with
  | nil => rfl
  | cons c s ih =>
    rw [List.flatMap_cons, encode_append, List.map_append, unescape_encodeChar, ih]
    rfl

theorem repair_ofText (s : String) : Text.Utf8.repair (Bytes.ofText s) = s := by
  rw [Text.Utf8.repair, Bytes.ofText, Text.Utf8.pieces_chars, List.map_map]
  exact (congrArg String.ofList (List.map_id s.toList)).trans String.ofList_toList

theorem decodePart_encodePart (s : String) : decodePart (Bytes.ofText (encodePart s)) = s := by
  have plain := unescape_part s.toList
  rw [← encodePart_toList] at plain
  exact (congrArg Text.Utf8.repair plain).trans (repair_ofText s)

structure Says (s : String) (pair : String × String) : Prop where
  whole : 0x26 ∉ Bytes.ofText s
  parts : ∃ k v, Text.cutFirst 0x3D (Bytes.ofText s) = some (k, v) ∧
    decodePart k = pair.1 ∧ decodePart v = pair.2

theorem ofText_joined (texts : List String) :
    Bytes.ofText ("&".intercalate texts) = [0x26].intercalate (texts.map Bytes.ofText) := by
  have ampersand : encode "&".toList = [0x26] := by decide
  rw [Bytes.ofText, String.toList_intercalate, Text.Utf8.encode_intercalate, ampersand,
    List.map_map]
  rfl

theorem read_joined {text : String × String → String} {pairs : List (String × String)}
    (told : ∀ pair ∈ pairs, Says (text pair) pair) :
    read ("&".intercalate (pairs.map text)) = pairs := by
  cases pairs with
  | nil => rfl
  | cons first rest =>
    have parts : Text.splitAll 0x26 (Bytes.ofText ("&".intercalate ((first :: rest).map text))) =
        ((first :: rest).map text).map Bytes.ofText := by
      rw [ofText_joined]
      refine Text.splitAll_intercalate (by simp) fun part member => ?_
      simp only [List.mem_map, exists_exists_and_eq_and] at member
      obtain ⟨pair, among, rfl⟩ := member
      exact (told pair among).whole
    have filled : ∀ part ∈ ((first :: rest).map text).map Bytes.ofText,
        decide (part ≠ []) = true := by
      intro part member
      simp only [List.mem_map, exists_exists_and_eq_and] at member
      obtain ⟨pair, among, rfl⟩ := member
      obtain ⟨k, v, cut, _⟩ := (told pair among).parts
      refine decide_eq_true fun nothing => ?_
      rw [nothing] at cut
      cases cut
    rw [read, parts, List.filter_eq_self.2 filled, List.map_map, List.map_map]
    refine (List.map_congr_left fun pair among => ?_).trans (List.map_id _)
    obtain ⟨k, v, cut, name, value⟩ := (told pair among).parts
    simp only [Function.comp_apply, cut, name, value, id_eq]

def pairText (pair : String × String) : String := encodePart pair.1 ++ "=" ++ encodePart pair.2

theorem write_eq (pairs : List (String × String)) :
    write pairs = "&".intercalate (pairs.map pairText) := rfl

theorem not_mem_ofText {s : String} {b : UInt8} (ascii : b.toNat < 128)
    (other : Char.ofNat b.toNat ∉ s.toList) : b ∉ Bytes.ofText s := by
  rwa [Text.Utf8.mem_ofText_ascii ascii]

theorem says_parts {k v : String} {pair : String × String}
    (name : '&' ∉ k.toList ∧ '=' ∉ k.toList) (value : '&' ∉ v.toList)
    (of_name : decodePart (Bytes.ofText k) = pair.1)
    (of_value : decodePart (Bytes.ofText v) = pair.2) : Says (k ++ "=" ++ v) pair := by
  have parts : Bytes.ofText (k ++ "=" ++ v) = Bytes.ofText k ++ 0x3D :: Bytes.ofText v := by
    have equals : Bytes.ofText "=" = [0x3D] := by decide
    rw [Text.Utf8.ofText_append, Text.Utf8.ofText_append, equals, List.append_assoc,
      List.singleton_append]
  refine ⟨?_, Bytes.ofText k, Bytes.ofText v, ?_, of_name, of_value⟩
  · rw [parts, List.mem_append, List.mem_cons, not_or, not_or]
    exact ⟨not_mem_ofText (by decide) name.1, by decide, not_mem_ofText (by decide) value⟩
  · exact Text.cutFirst_eq_some.2 ⟨parts, not_mem_ofText (by decide) name.2⟩

theorem says_pairText (pair : String × String) : Says (pairText pair) pair := by
  have free (s : String) (c : Char) (other : ¬ InPart c) : c ∉ (encodePart s).toList :=
    fun member => other (inPart member)
  exact says_parts ⟨free _ '&' (by decide), free _ '=' (by decide)⟩ (free _ '&' (by decide))
    (decodePart_encodePart pair.1) (decodePart_encodePart pair.2)

/-- What is written as pairs is read as the pairs. -/
theorem read_write (pairs : List (String × String)) : read (write pairs) = pairs := by
  rw [write_eq]
  exact read_joined fun pair _ => says_pairText pair

theorem decodePart_plain {s : String} (no_escape : '%' ∉ s.toList) (no_plus : '+' ∉ s.toList) :
    decodePart (Bytes.ofText s) = s := by
  have percent : ∀ b ∈ Bytes.ofText s, b ≠ 0x25 := by
    rintro b member rfl
    exact not_mem_ofText (by decide) no_escape member
  have plus : ∀ b ∈ Bytes.ofText s, plusToBlank b = b := by
    intro b member
    refine if_neg ?_
    rintro rfl
    exact not_mem_ofText (by decide) no_plus member
  have kept : unescape ((Bytes.ofText s).map plusToBlank) = Bytes.ofText s := by
    rw [List.map_congr_left plus, List.map_id']
    simpa [unescape] using unescape_bytes percent []
  exact (congrArg Text.Utf8.repair kept).trans (repair_ofText s)

theorem of_mem_write {pairs : List (String × String)} {c : Char} (member : c ∈ (write pairs).toList) :
    InPart c ∨ c = '=' ∨ c = '&' := by
  rw [write_eq, String.toList_intercalate] at member
  obtain mark | ⟨part, among, inside⟩ := mem_intercalate member
  · exact .inr (.inr (List.mem_singleton.1 mark))
  · rw [List.map_map] at among
    obtain ⟨pair, _, rfl⟩ := List.mem_map.1 among
    rw [Function.comp_apply, pairText, String.toList_append, String.toList_append] at inside
    obtain (name | equals) | value := by simpa only [List.mem_append] using inside
    · exact .inl (inPart name)
    · exact .inr (.inl (List.mem_singleton.1 equals))
    · exact .inl (inPart value)

/-- A query takes written pairs as they are. -/
theorem free_of_mem_write {pairs : List (String × String)} {c : Char}
    (member : c ∈ (write pairs).toList) :
    inQuery c = false ∧ Text.isBlank c = false ∧ c.toNat < 128 := by
  have known := of_mem_write member
  have ascii : c.toNat < 128 := by
    obtain (rfl | rfl | plain) | rfl | rfl := known
    · decide
    · decide
    · simp only [isPlain, Bool.or_eq_true, beq_iff_eq] at plain
      obtain (((word | rfl) | rfl) | rfl) | rfl := plain
      · exact ascii_of_isWord word
      all_goals decide
    · decide
    · decide
  have all : ∀ n < 128, (InPart (Char.ofNat n) ∨ Char.ofNat n = '=' ∨ Char.ofNat n = '&') →
      inQuery (Char.ofNat n) = false ∧ Text.isBlank (Char.ofNat n) = false := by decide
  obtain ⟨query, blank⟩ := ascii_induction (fun c => (InPart c ∨ c = '=' ∨ c = '&') →
    inQuery c = false ∧ Text.isBlank c = false) all ascii known
  exact ⟨query, blank, ascii⟩

end ProxyGateway.Url.Form
