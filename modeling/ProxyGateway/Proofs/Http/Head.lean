import Mathlib.Data.List.TakeWhile
import ProxyGateway.Error
import ProxyGateway.Http.Head
import ProxyGateway.Proofs.Text.Utf8

namespace ProxyGateway.Http

/-- The line ends that are written. -/
def Strict (e : Bytes) : Prop := e = crlf

/-- The line ends that are read. -/
def Lax (e : Bytes) : Prop := e = crlf ∨ e = [lf]

inductive EmptyLines (Ends : Bytes → Prop) : Bytes → Prop where
  | nil : EmptyLines Ends []
  | cons {e lines : Bytes} (first : Ends e) (others : EmptyLines Ends lines) :
      EmptyLines Ends (e ++ lines)

def IsWord (inClass : UInt8 → Bool) (word : Bytes) : Prop := word ≠ [] ∧ ∀ b ∈ word, inClass b

def IsGap (gap : Bytes) : Prop := ∀ b ∈ gap, isGap b

/-- A header that can stand in a line: no gap belongs to the value at either end. -/
structure Header.WellFormed (h : Header) : Prop where
  name : IsWord isToken h.name
  value : ∀ b ∈ h.value, isValue b
  first : ∀ b ∈ h.value.head?, isGap b = false
  last : ∀ b ∈ h.value.getLast?, isGap b = false

instance (inClass : UInt8 → Bool) (word : Bytes) : Decidable (IsWord inClass word) :=
  decidable_of_iff (word ≠ [] ∧ word.all inClass) (and_congr_right' List.all_eq_true)

theorem Header.wellFormed_iff {h : Header} : h.WellFormed ↔ IsWord isToken h.name ∧
    h.value.all isValue ∧ h.value.head?.all (!isGap ·) ∧ h.value.getLast?.all (!isGap ·) := by
  simp only [List.all_eq_true, Option.all_eq_true, Bool.not_eq_true']
  constructor
  · rintro ⟨name, value, first, last⟩
    exact ⟨name, value, first, last⟩
  · rintro ⟨name, value, first, last⟩
    exact ⟨name, value, first, last⟩

instance (h : Header) : Decidable h.WellFormed := decidable_of_iff _ Header.wellFormed_iff.symm

inductive HeaderLine (Ends : Bytes → Prop) (h : Header) : Bytes → Prop where
  | line {before after e : Bytes} (fine : h.WellFormed) (lead : IsGap before)
      (trail : IsGap after) (ends : Ends e) :
      HeaderLine Ends h (h.name ++ colon :: (before ++ (h.value ++ (after ++ e))))

inductive HeaderLines (Ends : Bytes → Prop) : List Header → Bytes → Prop where
  | last {e : Bytes} (ends : Ends e) : HeaderLines Ends [] e
  | line {h : Header} {hs : List Header} {line lines : Bytes} (first : HeaderLine Ends h line)
      (others : HeaderLines Ends hs lines) : HeaderLines Ends (h :: hs) (line ++ lines)

def versionStart : Bytes := Bytes.ofText "HTTP/1."

inductive RequestLine (method : Bytes) (target : String) : Bytes → Prop where
  | line {minor : UInt8} (named : IsWord isToken method)
      (aimed : IsWord isTarget (Bytes.ofText target)) (version : minor = 48 ∨ minor = 49) :
      RequestLine method target
        (method ++ space :: (Bytes.ofText target ++ space :: (versionStart ++ [minor])))

inductive HeadText (Ends : Bytes → Prop) (head : RequestHead) : Bytes → Prop where
  | text {line e lines : Bytes} (first : RequestLine head.method head.target line) (ends : Ends e)
      (others : HeaderLines Ends head.headers lines) : HeadText Ends head (line ++ (e ++ lines))

theorem not_special_of_token {b : UInt8} (token : isToken b) :
    b ≠ cr ∧ b ≠ lf ∧ isGap b = false := by
  refine ⟨?_, ?_, ?_⟩
  · rintro rfl
    revert token
    decide
  · rintro rfl
    revert token
    decide
  · by_contra gap
    simp only [isGap, Bool.not_eq_false, Bool.or_eq_true, beq_iff_eq] at gap
    obtain rfl | rfl := gap
    · revert token
      decide
    · revert token
      decide

theorem isValue_of_isGap {b : UInt8} (gap : isGap b) : isValue b := by
  simp only [isGap, Bool.or_eq_true, beq_iff_eq] at gap
  obtain rfl | rfl := gap
  · decide
  · decide

theorem Lax.stops {e : Bytes} (ends : Lax e) (inClass : UInt8 → Bool) (no_cr : inClass cr = false)
    (no_lf : inClass lf = false) (rest : Bytes) :
    ∀ b ∈ (e ++ rest).head?, inClass b = false := by
  obtain rfl | rfl := ends
  · rintro b ⟨⟩
    exact no_cr
  · rintro b ⟨⟩
    exact no_lf

theorem takeWhile_front {inClass : UInt8 → Bool} {front back : Bytes}
    (all : ∀ b ∈ front, inClass b) (stops : ∀ b ∈ back.head?, inClass b = false) :
    (front ++ back).takeWhile inClass = front ∧ (front ++ back).dropWhile inClass = back := by
  rw [List.takeWhile_append_of_pos all, List.dropWhile_append_of_pos all]
  cases back with
  | nil => exact ⟨List.append_nil front, rfl⟩
  | cons b back =>
    have outside := stops b rfl
    rw [List.takeWhile_cons_of_neg (by simp [outside]), List.dropWhile_cons_of_neg (by simp [outside]),
      List.append_nil]
    exact ⟨rfl, rfl⟩

theorem takeUntil_eq_ok {delimiter : UInt8} {inClass : UInt8 → Bool} {flaw : Flaw}
    {s word rest : Bytes} (outside : inClass delimiter = false) :
    takeUntil delimiter inClass flaw s = .ok (word, rest) ↔
      IsWord inClass word ∧ s = word ++ delimiter :: rest := by
  unfold takeUntil
  constructor
  · intro read
    cases behind : s.dropWhile inClass with
    | nil =>
      rw [behind] at read
      cases read
    | cons b tail =>
      rw [behind] at read
      simp only at read
      split at read
      · rename_i found
        cases read
        obtain ⟨rfl, some⟩ := found
        refine ⟨⟨some, fun b member => List.mem_takeWhile_imp member⟩, ?_⟩
        rw [← behind, List.takeWhile_append_dropWhile]
      · cases read
  · rintro ⟨⟨some, all⟩, rfl⟩
    have stops : ∀ b ∈ (delimiter :: rest).head?, inClass b = false := by
      rintro b ⟨⟩
      exact outside
    obtain ⟨taken, dropped⟩ := takeWhile_front all stops
    rw [dropped, taken]
    exact if_pos ⟨rfl, some⟩

theorem takeLineEnd_eq_ok {flaw : Flaw} {s rest : Bytes} :
    takeLineEnd flaw s = .ok rest ↔ ∃ e, Lax e ∧ s = e ++ rest := by
  constructor
  · fun_cases takeLineEnd flaw s with
    | case1 => nofun
    | case2 =>
      rintro ⟨⟩
      exact ⟨[lf], .inr rfl, rfl⟩
    | case3 => nofun
    | case4 =>
      rintro ⟨⟩
      exact ⟨crlf, .inl rfl, rfl⟩
    | case5 => nofun
    | case6 => nofun
  · rintro ⟨e, rfl | rfl, rfl⟩
    · rfl
    · rfl

theorem takeVersion_eq_ok {s rest : Bytes} :
    (∃ minor, takeVersion s = .ok (minor, rest)) ↔
      ∃ minor : UInt8, (minor = 48 ∨ minor = 49) ∧ s = versionStart ++ minor :: rest := by
  constructor
  · rintro ⟨_, read⟩
    revert read
    fun_cases takeVersion s with
    | case1 _ behind =>
      rintro ⟨⟩
      exact ⟨48, .inl rfl, Text.stripStart_eq_some.1 behind⟩
    | case2 _ _ behind =>
      rintro ⟨⟩
      exact ⟨49, .inr rfl, Text.stripStart_eq_some.1 ‹_›⟩
    | case3 => nofun
    | case4 => nofun
    | case5 => nofun
    | case6 => nofun
  · rintro ⟨minor, version, rfl⟩
    have behind : Text.stripStart (Bytes.ofText "HTTP/1.") (versionStart ++ minor :: rest) =
        some (minor :: rest) := Text.stripStart_eq_some.2 rfl
    unfold takeVersion
    rw [behind]
    obtain rfl | rfl := version
    · exact ⟨0, rfl⟩
    · exact ⟨1, rfl⟩

theorem skipEmptyLines_eq_ok {s rest : Bytes} :
    skipEmptyLines s = .ok rest ↔ (∃ b ∈ rest.head?, b ≠ cr ∧ b ≠ lf) ∧
      ∃ lines, EmptyLines Lax lines ∧ s = lines ++ rest := by
  constructor
  · fun_induction skipEmptyLines s with
    | case1 => nofun
    | case2 => nofun
    | case3 => nofun
    | case4 b other other' =>
      rintro ⟨⟩
      exact ⟨⟨b, rfl, other, other'⟩, [], .nil, rfl⟩
    | case5 tail ih =>
      intro read
      obtain ⟨first, lines, empty, rfl⟩ := ih read
      exact ⟨first, crlf ++ lines, .cons (.inl rfl) empty, rfl⟩
    | case6 => nofun
    | case7 c tail _ ih =>
      intro read
      obtain ⟨first, lines, empty, split⟩ := ih read
      refine ⟨first, [lf] ++ lines, .cons (.inr rfl) empty, ?_⟩
      rw [split, List.append_assoc, List.singleton_append]
    | case8 b c tail other other' =>
      rintro ⟨⟩
      exact ⟨⟨b, rfl, other, other'⟩, [], .nil, rfl⟩
  · rintro ⟨⟨b, first, other, other'⟩, lines, empty, rfl⟩
    induction empty with
    | nil =>
      cases rest with
      | nil => cases first
      | cons b' tail =>
        cases first
        cases tail with
        | nil => simp [skipEmptyLines, other, other']
        | cons c tail => simp [skipEmptyLines, other, other']
    | cons ends others ih =>
      rename_i e lines
      obtain rfl | rfl := ends
      · exact ih
      · have more : lines ++ rest ≠ [] := by
          intro nothing
          rw [(List.append_eq_nil_iff.1 nothing).2] at first
          cases first
        obtain ⟨c, tail, split⟩ := List.exists_cons_of_ne_nil more
        rw [List.append_assoc, split, List.singleton_append, skipEmptyLines.eq_3,
          if_neg (by decide), if_pos rfl, ← split, ih]

theorem head_dropWhile {inClass : UInt8 → Bool} {s : Bytes} :
    ∀ b ∈ (s.dropWhile inClass).head?, inClass b = false := by
  intro b first
  have stops := List.head?_dropWhile_not inClass s
  rw [Option.mem_def.1 first] at stops
  simpa using stops

theorem drop_takeWhile (inClass : UInt8 → Bool) (s : Bytes) :
    s.drop (s.takeWhile inClass).length = s.dropWhile inClass := by
  calc s.drop (s.takeWhile inClass).length
      = (s.takeWhile inClass ++ s.dropWhile inClass).drop (s.takeWhile inClass).length := by
        rw [List.takeWhile_append_dropWhile]
    _ = s.dropWhile inClass := List.drop_left

theorem value_split {s t value : Bytes} (start : s.dropWhile isGap = t)
    (trimmed : ((t.takeWhile isValue).reverse.dropWhile isGap).reverse = value) :
    (∀ b ∈ value, isValue b) ∧ (∀ b ∈ value.head?, isGap b = false) ∧
      (∀ b ∈ value.getLast?, isGap b = false) ∧
      ∃ before after, IsGap before ∧ IsGap after ∧
        s = before ++ (value ++ (after ++ t.dropWhile isValue)) := by
  obtain ⟨after, trail, cut⟩ : ∃ after, IsGap after ∧ t.takeWhile isValue = value ++ after := by
    refine ⟨((t.takeWhile isValue).reverse.takeWhile isGap).reverse, ?_, ?_⟩
    · intro b member
      exact List.mem_takeWhile_imp (List.mem_reverse.1 member)
    · rw [← trimmed, ← List.reverse_append, List.takeWhile_append_dropWhile, List.reverse_reverse]
  refine ⟨?_, ?_, ?_, s.takeWhile isGap, after, fun b => List.mem_takeWhile_imp, trail, ?_⟩
  · intro b member
    have taken : b ∈ t.takeWhile isValue := cut ▸ List.mem_append_left _ member
    exact List.mem_takeWhile_imp taken
  · intro b first
    obtain ⟨rest, split⟩ : value <+: t :=
      List.IsPrefix.trans ⟨after, cut.symm⟩ (List.takeWhile_prefix isValue)
    apply head_dropWhile (s := s)
    rw [start, ← split, List.head?_append, Option.mem_def.1 first]
    rfl
  · rw [← trimmed, List.getLast?_reverse]
    exact head_dropWhile
  · calc s = s.takeWhile isGap ++ t := by rw [← start, List.takeWhile_append_dropWhile]
      _ = s.takeWhile isGap ++ (t.takeWhile isValue ++ t.dropWhile isValue) := by
        rw [List.takeWhile_append_dropWhile]
      _ = s.takeWhile isGap ++ (value ++ (after ++ t.dropWhile isValue)) := by
        rw [cut, List.append_assoc]

theorem value_read {before value after e rest : Bytes} (lead : IsGap before)
    (legal : ∀ b ∈ value, isValue b) (first : ∀ b ∈ value.head?, isGap b = false)
    (last : ∀ b ∈ value.getLast?, isGap b = false) (trail : IsGap after) (ends : Lax e) :
    let t := (before ++ (value ++ (after ++ (e ++ rest)))).dropWhile isGap
    ((t.takeWhile isValue).reverse.dropWhile isGap).reverse = value ∧
      t.dropWhile isValue = e ++ rest := by
  have after_gap := ends.stops isGap (by decide) (by decide) rest
  have after_value := ends.stops isValue (by decide) (by decide) rest
  cases value with
  | nil =>
    have gaps : IsGap (before ++ after) := by
      intro b member
      exact (List.mem_append.1 member).elim (lead b) (trail b)
    have start := (takeWhile_front gaps after_gap).2
    rw [List.append_assoc] at start
    have nothing_legal : ∀ b ∈ ([] : Bytes), isValue b := nofun
    obtain ⟨nothing, behind⟩ := takeWhile_front nothing_legal after_value
    rw [List.nil_append] at nothing behind
    intro t
    have t_eq : t = e ++ rest := start
    rw [t_eq, nothing, behind]
    exact ⟨rfl, rfl⟩
  | cons v vs =>
    have no_gap : ∀ b ∈ ((v :: vs) ++ (after ++ (e ++ rest))).head?, isGap b = false := by
      rintro b ⟨⟩
      exact first _ rfl
    have start := (takeWhile_front lead no_gap).2
    have words : ∀ b ∈ (v :: vs) ++ after, isValue b := by
      intro b member
      exact (List.mem_append.1 member).elim (legal b) fun gap => isValue_of_isGap (trail b gap)
    obtain ⟨taken, behind⟩ := takeWhile_front words after_value
    rw [List.append_assoc] at taken behind
    intro t
    have t_eq : t = (v :: vs) ++ (after ++ (e ++ rest)) := start
    rw [t_eq, taken, behind]
    have stops : ∀ b ∈ (v :: vs).reverse.head?, isGap b = false := by rwa [List.head?_reverse]
    have trail' : ∀ b ∈ after.reverse, isGap b := fun b member => trail b (List.mem_reverse.1 member)
    rw [List.reverse_append, (takeWhile_front trail' stops).2, List.reverse_reverse]
    exact ⟨rfl, rfl⟩

theorem takeHeader_eq_ok {s rest : Bytes} {h : Header} :
    takeHeader s = .ok (h, rest) ↔ ∃ line, HeaderLine Lax h line ∧ s = line ++ rest := by
  unfold takeHeader
  simp only [drop_takeWhile]
  constructor
  · intro whole
    obtain ⟨⟨name, behind⟩, first, second⟩ := bind_eq_ok.1 whole
    obtain ⟨named, rfl⟩ := (takeUntil_eq_ok (by decide)).1 first
    obtain ⟨tail, ending, same⟩ := bind_eq_ok.1 second
    cases same
    obtain ⟨e, ends, behind_value⟩ := takeLineEnd_eq_ok.1 ending
    obtain ⟨legal, head, last, before, after, lead, trail, split⟩ :=
      value_split (s := behind) rfl rfl
    rw [behind_value] at split
    refine ⟨_, .line ⟨named, legal, head, last⟩ lead trail ends, ?_⟩
    refine (congrArg (name ++ colon :: ·) split).trans ?_
    simp only [List.append_assoc, List.cons_append]
  · rintro ⟨line, ⟨fine, lead, trail, ends⟩, rfl⟩
    rename_i before after e
    obtain ⟨value, behind⟩ : _ ∧ _ = e ++ rest :=
      value_read lead fine.value fine.first fine.last trail ends
    have first : takeUntil colon isToken .headerName (h.name ++
        colon :: (before ++ (h.value ++ (after ++ e))) ++ rest) =
          .ok (h.name, before ++ (h.value ++ (after ++ (e ++ rest)))) := by
      rw [takeUntil_eq_ok (by decide)]
      exact ⟨fine.name, by simp only [List.append_assoc, List.cons_append]⟩
    rw [first]
    change (takeLineEnd _ _ >>= _) = _
    rw [behind, takeLineEnd_eq_ok.2 ⟨e, ends, rfl⟩, value]
    rfl

theorem HeaderLine.head {Ends : Bytes → Prop} {h : Header} {line : Bytes}
    (text : HeaderLine Ends h line) : ∃ b rest, line = b :: rest ∧ isToken b := by
  cases text with
  | line fine =>
    obtain ⟨some, token⟩ := fine.name
    obtain ⟨b, rest, name⟩ := List.exists_cons_of_ne_nil some
    exact ⟨b, _, by rw [name, List.cons_append], token b (name ▸ List.mem_cons_self)⟩

theorem takeHeaders_eq_ok {room : Nat} {s rest : Bytes} {hs : List Header} :
    takeHeaders room s = .ok (hs, rest) ↔
      hs.length ≤ room ∧ ∃ lines, HeaderLines Lax hs lines ∧ s = lines ++ rest := by
  constructor
  · intro whole
    fun_induction takeHeaders room s generalizing hs rest with
    | case1 => cases whole
    | case2 =>
      obtain ⟨tail, ending, same⟩ := bind_eq_ok.1 whole
      cases same
      obtain ⟨e, ends, split⟩ := takeLineEnd_eq_ok.1 ending
      exact ⟨Nat.zero_le _, e, .last ends, split⟩
    | case3 room b tail _ ih =>
      obtain ⟨⟨h, behind⟩, first, more⟩ := bind_eq_ok.1 whole
      obtain ⟨line, text, split⟩ := takeHeader_eq_ok.1 first
      cases room with
      | zero => cases more
      | succ room =>
        obtain ⟨⟨others, last⟩, next, same⟩ := bind_eq_ok.1 more
        cases same
        obtain ⟨fits, lines, texts, rfl⟩ := ih behind next
        refine ⟨Nat.succ_le_succ fits, line ++ lines, .line text texts, ?_⟩
        rw [split, List.append_assoc]
  · rintro ⟨fits, lines, texts, rfl⟩
    induction texts generalizing room with
    | last ends =>
      rename_i e
      have ending : takeLineEnd .newLine (e ++ rest) = .ok rest :=
        takeLineEnd_eq_ok.2 ⟨e, ends, rfl⟩
      unfold takeHeaders
      obtain rfl | rfl := ends
      · exact congrArg (· >>= _) ending
      · exact congrArg (· >>= _) ending
    | line text texts ih =>
      rename_i h hs line lines
      obtain ⟨room, rfl⟩ := Nat.exists_eq_add_one.2 (Nat.lt_of_lt_of_le (Nat.succ_pos _) fits)
      obtain ⟨b, tail, start, token⟩ := text.head
      obtain ⟨no_cr, no_lf, _⟩ := not_special_of_token token
      have first : takeHeader (line ++ (lines ++ rest)) = .ok (h, lines ++ rest) :=
        takeHeader_eq_ok.2 ⟨line, text, rfl⟩
      have next := ih (Nat.le_of_succ_le_succ fits)
      unfold takeHeaders
      rw [List.append_assoc]
      simp only [start, List.cons_append] at first ⊢
      rw [if_neg (by simp [no_cr, no_lf]), first]
      change (takeHeaders room (lines ++ rest) >>= _) = _
      rw [next]
      rfl

theorem RequestLine.head {method : Bytes} {target : String} {line : Bytes}
    (text : RequestLine method target line) : ∃ b rest, line = b :: rest ∧ isToken b := by
  cases text with
  | line named =>
    obtain ⟨some, token⟩ := named
    obtain ⟨b, rest, name⟩ := List.exists_cons_of_ne_nil some
    exact ⟨b, _, by rw [name, List.cons_append], token b (name ▸ List.mem_cons_self)⟩

/-- Empty lines, and then a head with so many headers at most: that is what is read. -/
theorem takeRequest_eq_ok {room : Nat} {s rest : Bytes} {head : RequestHead} :
    takeRequest room s = .ok (head, rest) ↔ head.headers.length ≤ room ∧
      ∃ lines text, EmptyLines Lax lines ∧ HeadText Lax head text ∧ s = lines ++ (text ++ rest) := by
  unfold takeRequest
  constructor
  · intro whole
    obtain ⟨start, skipped, whole₁⟩ := bind_eq_ok.1 whole
    obtain ⟨_, lines, empty, split⟩ := skipEmptyLines_eq_ok.1 skipped
    obtain ⟨⟨method, behind⟩, first, whole₂⟩ := bind_eq_ok.1 whole₁
    obtain ⟨named, rfl⟩ := (takeUntil_eq_ok (by decide)).1 first
    obtain ⟨⟨target, behind⟩, second, whole₃⟩ := bind_eq_ok.1 whole₂
    obtain ⟨aimed, rfl⟩ := (takeUntil_eq_ok (by decide)).1 second
    dsimp only at whole₃
    split at whole₃
    · rename_i target' decoded
      obtain rfl := Text.Utf8.decode_eq_some.1 decoded
      obtain ⟨⟨minor, behind⟩, version, whole₄⟩ := bind_eq_ok.1 whole₃
      obtain ⟨digit, known, rfl⟩ := takeVersion_eq_ok.1 ⟨minor, version⟩
      obtain ⟨behind, ending, whole₅⟩ := bind_eq_ok.1 whole₄
      obtain ⟨e, ends, rfl⟩ := takeLineEnd_eq_ok.1 ending
      obtain ⟨⟨headers, behind⟩, others, same⟩ := bind_eq_ok.1 whole₅
      obtain ⟨fits, texts, headers_text, rfl⟩ := takeHeaders_eq_ok.1 others
      cases same
      refine ⟨fits, lines, _, empty, .text (.line named aimed known) ends headers_text, ?_⟩
      rw [split]
      simp only [List.append_assoc, List.cons_append, List.nil_append]
    · cases whole₃
  · rintro ⟨fits, lines, text, empty, ⟨first, ends, headers_text⟩, rfl⟩
    rename_i line e texts
    obtain ⟨b, tail, start, token⟩ := first.head
    obtain ⟨no_cr, no_lf, _⟩ := not_special_of_token token
    have skipped : skipEmptyLines (lines ++ (line ++ (e ++ texts) ++ rest)) =
        .ok (line ++ (e ++ texts) ++ rest) := by
      rw [skipEmptyLines_eq_ok]
      refine ⟨⟨b, ?_, no_cr, no_lf⟩, lines, empty, rfl⟩
      rw [start]
      rfl
    rw [skipped]
    cases first with
    | line named aimed known =>
      rename_i minor
      have method (t : Bytes) :
          takeUntil space isToken .token (head.method ++ space :: t) = .ok (head.method, t) :=
        (takeUntil_eq_ok (by decide)).2 ⟨named, rfl⟩
      have target (t : Bytes) : takeUntil space isTarget .token
          (Bytes.ofText head.target ++ space :: t) = .ok (Bytes.ofText head.target, t) :=
        (takeUntil_eq_ok (by decide)).2 ⟨aimed, rfl⟩
      obtain ⟨digit, version⟩ := takeVersion_eq_ok.2 ⟨minor, known, rfl⟩
      have ending : takeLineEnd .newLine (e ++ (texts ++ rest)) = .ok (texts ++ rest) :=
        takeLineEnd_eq_ok.2 ⟨e, ends, rfl⟩
      have others : takeHeaders room (texts ++ rest) = .ok (head.headers, rest) :=
        takeHeaders_eq_ok.2 ⟨fits, texts, headers_text, rfl⟩
      simp only [List.append_assoc, List.cons_append, List.nil_append]
      change (takeUntil _ _ _ _ >>= _) = _
      rw [method]
      change (takeUntil _ _ _ _ >>= _) = _
      rw [target]
      simp only [bind, Except.bind, Text.Utf8.decode_ofText]
      change (takeVersion _ >>= _) = _
      rw [version]
      change (takeLineEnd _ _ >>= _) = _
      rw [ending]
      change (takeHeaders _ _ >>= _) = _
      rw [others]
      rfl

section more

variable {room : Nat} {s rest : Bytes} {head : RequestHead}

theorem suffix_of_takeRequest (read : takeRequest room s = .ok (head, rest)) : rest <:+ s := by
  obtain ⟨_, lines, text, _, _, rfl⟩ := takeRequest_eq_ok.1 read
  exact ⟨lines ++ text, List.append_assoc ..⟩

/-- What comes behind a head is left as it is. -/
theorem takeRequest_append (read : takeRequest room s = .ok (head, rest)) (more : Bytes) :
    takeRequest room (s ++ more) = .ok (head, rest ++ more) := by
  obtain ⟨fits, lines, text, empty, whole, rfl⟩ := takeRequest_eq_ok.1 read
  refine takeRequest_eq_ok.2 ⟨fits, lines, text, empty, whole, ?_⟩
  simp only [List.append_assoc]

end more

end ProxyGateway.Http
