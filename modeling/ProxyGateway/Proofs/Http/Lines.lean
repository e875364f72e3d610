import ProxyGateway.Proofs.Http.Boundary

namespace ProxyGateway.Http

def closed (lines : List Bytes) : Bytes := lines.flatMap (· ++ crlf) ++ crlf

/-- These are all the lines of a text, and its first mark is its end. -/
structure OneHead (lines : List Bytes) (text : Bytes) : Prop where
  whole : text = closed lines
  cut : ∀ line ∈ lines, ¬ crlf <:+: line
  ends : headEnd text = some text.length

/-- A line that is not empty and whose first byte ends no line. -/
def Starts (line : Bytes) : Prop := ∃ b rest, line = b :: rest ∧ b ≠ cr

/-- In front of a line end no mark begins within a line. -/
theorem headEnd_words {words : Bytes} (cut : ¬ crlf <:+: words) (s : Bytes) :
    headEnd (words ++ (crlf ++ s)) = (headEnd (crlf ++ s)).map (words.length + ·) := by
  induction words with
  | nil => simp
  | cons b words ih =>
    have no_mark : ¬ headMark <+: b :: (words ++ (crlf ++ s)) := by
      rintro ⟨rest, start⟩
      obtain ⟨rfl, behind⟩ := List.cons.inj start
      cases words with
      | nil => exact absurd (List.cons.inj behind).1 (by decide)
      | cons c words =>
        obtain ⟨rfl, _⟩ := List.cons.inj behind
        exact cut ⟨[], words, rfl⟩
    rw [List.cons_append, headEnd_cons no_mark,
      ih fun inside => cut (List.infix_cons inside), Option.map_map]
    congr 1
    funext n
    simp only [Function.comp_apply, List.length_cons]
    omega

theorem headEnd_closed {lines : List Bytes} (start : ∀ line ∈ lines, Starts line)
    (cut : ∀ line ∈ lines, ¬ crlf <:+: line) (rest : Bytes) :
    headEnd (crlf ++ (closed lines ++ rest)) = some (2 + (closed lines).length) := by
  induction lines with
  | nil => exact headEnd_mark rest
  | cons line lines ih =>
    obtain ⟨b, tail, same, other⟩ := start line List.mem_cons_self
    have split : closed (line :: lines) ++ rest = line ++ (crlf ++ (closed lines ++ rest)) := by
      simp only [closed, List.flatMap_cons, List.append_assoc]
    have ends := ih (fun l member => start l (List.mem_cons_of_mem _ member))
      (fun l member => cut l (List.mem_cons_of_mem _ member))
    have words := headEnd_words (cut line List.mem_cons_self) (closed lines ++ rest)
    rw [ends, Option.map_some, same, List.cons_append] at words
    have size : (closed (line :: lines)).length = line.length + (2 + (closed lines).length) := by
      simp only [closed, List.flatMap_cons, List.length_append, show crlf.length = 2 from rfl]
      omega
    rw [size, split, same, List.cons_append, headEnd_line other, words, Option.map_some]

/-- Lines that start as lines make one head exactly where none holds a line end. -/
theorem oneHead_iff {lines : List Bytes} (some : lines ≠ [])
    (start : ∀ line ∈ lines, Starts line) :
    OneHead lines (closed lines) ↔ ∀ line ∈ lines, ¬ crlf <:+: line := by
  refine ⟨OneHead.cut, fun cut => ⟨rfl, cut, ?_⟩⟩
  obtain ⟨line, others, rfl⟩ := List.exists_cons_of_ne_nil some
  have words := headEnd_words (cut line List.mem_cons_self) (closed others ++ [])
  rw [headEnd_closed (fun l member => start l (List.mem_cons_of_mem _ member))
    (fun l member => cut l (List.mem_cons_of_mem _ member)), List.append_nil] at words
  have split : closed (line :: others) = line ++ (crlf ++ closed others) := by
    simp only [closed, List.flatMap_cons, List.append_assoc]
  rw [split, words, Option.map_some, List.length_append, List.length_append]
  rfl

section pairs

variable {x y : UInt8} {words : Bytes}

theorem pair_infix_front (without : x ∉ words) (s : Bytes) :
    [x, y] <:+: words ++ s ↔ [x, y] <:+: s := by
  refine ⟨fun inside => ?_, fun inside => inside.trans (List.suffix_append _ _).isInfix⟩
  induction words with
  | nil => exact inside
  | cons b words ih =>
    rw [List.cons_append] at inside
    obtain ⟨rest, start⟩ | inside := List.infix_cons_iff.1 inside
    · obtain ⟨rfl, _⟩ := List.cons.inj start
      exact absurd List.mem_cons_self without
    · exact ih (fun member => without (List.mem_cons_of_mem _ member)) inside

theorem pair_infix_back (without : y ∉ words) (s : Bytes) :
    [x, y] <:+: s ++ words ↔ [x, y] <:+: s := by
  have front : [y, x] <:+: words.reverse ++ s.reverse ↔ [y, x] <:+: s.reverse :=
    pair_infix_front (fun member => without (List.mem_reverse.1 member)) s.reverse
  rw [← List.reverse_infix, List.reverse_append]
  exact front.trans (List.reverse_infix : [x, y].reverse <:+: s.reverse ↔ [x, y] <:+: s)

theorem no_crlf {words : Bytes} (no_cr : cr ∉ words) : ¬ crlf <:+: words :=
  fun inside => no_cr (inside.mem List.mem_cons_self)

theorem crlf_infix_middle {front back : Bytes} (no_cr : cr ∉ front) (no_lf : lf ∉ back)
    (s : Bytes) : crlf <:+: front ++ (s ++ back) ↔ crlf <:+: s := by
  rw [crlf, pair_infix_front no_cr, pair_infix_back no_lf]

end pairs

def pushByte (b : UInt8) : List Bytes × Bytes → List Bytes × Bytes
  | (line :: lines, tail) => ((b :: line) :: lines, tail)
  | ([], tail) => ([], b :: tail)

/-- The lines of a text, without the CRLF that ends each, and what stands behind the last. -/
def cutLines : Bytes → List Bytes × Bytes
  | [] => ([], [])
  | [b] => ([], [b])
  | b :: c :: s =>
    if b = cr ∧ c = lf then ([] :: (cutLines s).1, (cutLines s).2) else pushByte b (cutLines (c :: s))

theorem cutLines_line {line : Bytes} (cut : ¬ crlf <:+: line) (s : Bytes) :
    cutLines (line ++ (crlf ++ s)) = (line :: (cutLines s).1, (cutLines s).2) := by
  induction line with
  | nil => exact if_pos ⟨rfl, rfl⟩
  | cons b line ih =>
    have behind := ih fun inside => cut (List.infix_cons inside)
    cases line with
    | nil =>
      have other : ¬ (b = cr ∧ cr = lf) := fun ends => absurd ends.2 (by decide)
      change (if b = cr ∧ cr = lf then _ else pushByte b (cutLines (crlf ++ s))) = _
      rw [if_neg other]
      exact congrArg (pushByte b) behind
    | cons c line =>
      have other : ¬ (b = cr ∧ c = lf) := by
        rintro ⟨rfl, rfl⟩
        exact cut ⟨[], line, rfl⟩
      change (if b = cr ∧ c = lf then _ else pushByte b (cutLines (c :: line ++ (crlf ++ s)))) = _
      rw [if_neg other, behind]
      rfl

theorem cutLines_closed {lines : List Bytes} (cut : ∀ line ∈ lines, ¬ crlf <:+: line) :
    cutLines (closed lines) = (lines ++ [[]], []) := by
  induction lines with
  | nil => rfl
  | cons line lines ih =>
    have split : closed (line :: lines) = line ++ (crlf ++ closed lines) := by
      simp only [closed, List.flatMap_cons, List.append_assoc]
    rw [split, cutLines_line (cut line List.mem_cons_self),
      ih fun l member => cut l (List.mem_cons_of_mem _ member)]
    rfl

/-- What a line says in front of its first colon, in small letters. -/
def lineKey (line : Bytes) : Bytes := Header.key ⟨line.takeWhile (· != colon), []⟩

end ProxyGateway.Http
