import ProxyGateway.Proofs.Http.Boundary

namespace ProxyGateway.Http

def Solid (b : UInt8) : Prop := b ≠ cr ∧ b ≠ lf

theorem not_solid_of_mem_mark {b : UInt8} (member : b ∈ headMark) : ¬ Solid b := by
  rintro ⟨not_cr, not_lf⟩
  simp only [headMark, List.mem_cons, List.not_mem_nil, or_false] at member
  obtain rfl | rfl | rfl | rfl := member
  · exact not_cr rfl
  · exact not_lf rfl
  · exact not_cr rfl
  · exact not_lf rfl

section suffix

variable {front rest : Bytes}

/-- A mark at the end is behind all that ends in a solid byte. -/
theorem mark_behind (front : Bytes) (mark : headMark <:+ front ++ rest)
    (solid : ∀ b ∈ front.getLast?, Solid b) : headMark <:+ rest := by
  obtain whole | part := List.suffix_or_suffix_of_suffix mark (List.suffix_append front rest)
  · exact whole
  · obtain ⟨start, split⟩ := part
    obtain ⟨more, same⟩ := mark
    rw [← split, ← List.append_assoc] at same
    have ends := congrArg List.getLast? (List.append_cancel_right same)
    cases last : start.getLast? with
    | none =>
      rw [List.getLast?_eq_none_iff.1 last, List.nil_append] at split
      exact split ▸ List.suffix_refl headMark
    | some b =>
      rw [List.getLast?_append, last, Option.some_or] at ends
      have member : b ∈ headMark := by
        rw [← split]
        exact List.mem_append_left _ (List.mem_of_getLast? last)
      exact absurd (solid b ends.symm) (not_solid_of_mem_mark member)

/-- A mark at the end does not begin in front of a solid byte. -/
theorem mark_of_solid (mark : headMark <:+ front ++ rest) {b : UInt8} (first : b ∈ rest.head?)
    (solid : Solid b) : headMark <:+ rest := by
  obtain whole | part := List.suffix_or_suffix_of_suffix mark (List.suffix_append front rest)
  · exact whole
  · have member : b ∈ headMark := part.subset (List.mem_of_head? first)
    exact absurd solid (not_solid_of_mem_mark member)

/-- What is left of the lines of a head: the empty line, or lines with a mark at their end. -/
def Closes (s : Bytes) : Prop := s = crlf ∨ headMark <:+ s

theorem Lax.getLast {e : Bytes} (ends : Lax e) : e.getLast? = some lf := by
  obtain rfl | rfl := ends
  · rfl
  · rfl

theorem closes_of_lineEnd {e : Bytes} (mark : headMark <:+ e ++ rest) (ends : Lax e) :
    Closes rest := by
  obtain whole | part := List.suffix_or_suffix_of_suffix mark (List.suffix_append e rest)
  · exact .inr whole
  · obtain ⟨start, split⟩ := part
    obtain ⟨more, same⟩ := mark
    rw [← split, ← List.append_assoc] at same
    have whole := List.append_cancel_right same
    have last := congrArg List.getLast? whole
    rw [ends.getLast, List.getLast?_append] at last
    have short : start.length ≤ 2 := by
      have sizes := congrArg List.length whole
      rw [List.length_append] at sizes
      obtain rfl | rfl := ends
      · rw [show crlf.length = 2 from rfl] at sizes
        omega
      · rw [List.length_singleton] at sizes
        omega
    match start, short with
    | [], _ =>
      rw [List.nil_append] at split
      exact .inr (split ▸ List.suffix_refl headMark)
    | [a], _ =>
      obtain ⟨rfl, _⟩ := List.cons.inj split
      cases last
    | [a, b], _ =>
      obtain ⟨_, behind⟩ := List.cons.inj split
      exact .inl (List.cons.inj behind).2

end suffix

/-- A reader that has come to a result of which something is known, or has found a flaw. -/
inductive Decided (After : α → Prop) : Except Stop α → Prop where
  | read {a : α} (after : After a) : Decided After (.ok a)
  | refused {flaw : Flaw} : Decided After (.error (.malformed flaw))

theorem Decided.bind {First : α → Prop} {Second : β → Prop} {x : Except Stop α}
    {f : α → Except Stop β} (first : Decided First x)
    (second : ∀ a, First a → Decided Second (f a)) : Decided Second (x >>= f) := by
  cases first with
  | read after => exact second _ after
  | refused => exact .refused

theorem Decided.not_unfinished {After : α → Prop} {x : Except Stop α} (decided : Decided After x) :
    x ≠ .error .unfinished := by
  cases decided with
  | read => nofun
  | refused => nofun

section readers

variable {s : Bytes}

theorem cr_mem_of_mark (mark : headMark <:+ s) : cr ∈ s := mark.subset List.mem_cons_self

theorem mark_tail {b : UInt8} (mark : headMark <:+ b :: s) (solid : Solid b) : headMark <:+ s := by
  apply mark_behind [b] mark
  rintro c ⟨⟩
  exact solid

theorem mark_dropWhile {inClass : UInt8 → Bool} (solid : ∀ b, inClass b → Solid b)
    (mark : headMark <:+ s) : headMark <:+ s.dropWhile inClass := by
  apply mark_behind (s.takeWhile inClass)
  · rwa [List.takeWhile_append_dropWhile]
  · intro b last
    exact solid b (List.mem_takeWhile_imp (List.mem_of_getLast? last))

theorem solid_of_isToken {b : UInt8} (token : isToken b) : Solid b :=
  ⟨(not_special_of_token token).1, (not_special_of_token token).2.1⟩

theorem solid_of_isValue {b : UInt8} (legal : isValue b) : Solid b := by
  constructor
  · exact not_cr_of_isValue legal
  · rintro rfl
    revert legal
    decide

theorem solid_of_isGap {b : UInt8} (gap : isGap b) : Solid b :=
  solid_of_isValue (isValue_of_isGap gap)

theorem decided_emptyLine {flaw : Flaw} (closes : Closes s) :
    Decided (fun _ => True) (takeLineEnd flaw s) := by
  have long : 2 ≤ s.length := by
    obtain rfl | mark := closes
    · exact Nat.le_refl 2
    · exact Nat.le_trans (by decide) mark.length_le
  fun_cases takeLineEnd flaw s with
  | case1 => cases long
  | case2 => exact .read trivial
  | case3 => exact absurd long (by decide)
  | case4 => exact .read trivial
  | case5 => exact .refused
  | case6 => exact .refused

theorem decided_lineEnd {flaw : Flaw} (mark : headMark <:+ s) :
    Decided Closes (takeLineEnd flaw s) := by
  have decided : Decided (fun _ => True) (takeLineEnd flaw s) := decided_emptyLine (.inr mark)
  cases ended : takeLineEnd flaw s with
  | error stop =>
    rw [ended] at decided
    cases decided
    exact .refused
  | ok rest =>
    obtain ⟨e, ends, rfl⟩ := takeLineEnd_eq_ok.1 ended
    exact .read (closes_of_lineEnd mark ends)

theorem decided_headerName (mark : headMark <:+ s) :
    Decided (fun found => headMark <:+ found.2) (takeUntil colon isToken .headerName s) := by
  have behind := mark_dropWhile (fun _ => solid_of_isToken) mark
  unfold takeUntil
  split
  · rename_i nothing
    rw [nothing] at behind
    cases behind.length_le
  · rename_i b rest split
    split
    · rename_i here
      rw [split, here.1] at behind
      exact .read (mark_tail behind ⟨by decide, by decide⟩)
    · exact .refused

theorem decided_header (mark : headMark <:+ s) :
    Decided (fun found => Closes found.2) (takeHeader s) := by
  unfold takeHeader
  simp only [drop_takeWhile]
  refine (decided_headerName mark).bind ?_
  rintro ⟨name, rest⟩ mark
  have behind := mark_dropWhile (fun _ => solid_of_isValue)
    (mark_dropWhile (fun _ => solid_of_isGap) mark)
  refine (decided_lineEnd behind).bind ?_
  intro rest closes
  exact .read closes

theorem decided_headers {room : Nat} (closes : Closes s) :
    Decided (fun _ => True) (takeHeaders room s) := by
  fun_induction takeHeaders room s with
  | case1 =>
    obtain none | mark := closes
    · cases none
    · cases mark.length_le
  | case2 room b tail =>
    refine (decided_emptyLine closes).bind ?_
    intro rest _
    exact .read trivial
  | case3 room b tail other ih =>
    have mark : headMark <:+ b :: tail := by
      obtain last | mark := closes
      · obtain ⟨rfl, _⟩ := List.cons.inj last
        exact absurd (.inl rfl) other
      · exact mark
    refine (decided_header mark).bind ?_
    rintro ⟨h, rest⟩ closes
    cases room with
    | zero => exact .refused
    | succ room =>
      refine (ih rest closes).bind ?_
      rintro ⟨hs, rest⟩ _
      exact .read trivial

theorem decided_version (mark : headMark <:+ s) :
    Decided (fun found => headMark <:+ found.2) (takeVersion s) := by
  have no_cr : cr ∉ Bytes.ofText "HTTP/1." := by decide
  have behind {d : UInt8} {rest : Bytes} (digit : Solid d)
      (words : Text.stripStart (Bytes.ofText "HTTP/1.") s = some (d :: rest)) :
      headMark <:+ rest := by
    rw [Text.stripStart_eq_some] at words
    rw [words] at mark
    refine mark_tail (mark_behind _ mark ?_) digit
    rintro b ⟨⟩
    exact ⟨by decide, by decide⟩
  fun_cases takeVersion s with
  | case1 rest words => exact .read (behind ⟨by decide, by decide⟩ words)
  | case2 rest words => exact .read (behind ⟨by decide, by decide⟩ words)
  | case3 => exact .refused
  | case4 words =>
    rw [Text.stripStart_eq_some, List.append_nil] at words
    rw [← words] at no_cr
    exact absurd (cr_mem_of_mark mark) no_cr
  | case5 _ part =>
    obtain ⟨more, whole⟩ := Option.isSome_iff_exists.1 part.2
    rw [Text.stripStart_eq_some.1 whole] at no_cr
    exact absurd (List.mem_append_left more (cr_mem_of_mark mark)) no_cr
  | case6 => exact .refused

theorem decided_digit (mark : headMark <:+ s) :
    Decided (fun found => headMark <:+ found.2) (takeDigit s) := by
  fun_cases takeDigit s with
  | case1 => cases mark.length_le
  | case2 b tail digit =>
    refine .read (mark_tail mark ⟨?_, ?_⟩)
    · rintro rfl
      exact absurd digit.1 (by decide)
    · rintro rfl
      exact absurd digit.1 (by decide)
  | case3 => exact .refused

theorem decided_reason (mark : headMark <:+ s) :
    Decided (fun found => Closes found.2) (takeReason s) := by
  cases s with
  | nil => cases mark.length_le
  | cons b tail =>
    unfold takeReason
    dsimp only
    split
    · rename_i blank
      rw [blank] at mark
      rw [drop_takeWhile]
      have behind := mark_dropWhile (fun _ => solid_of_isValue)
        (mark_tail mark ⟨by decide, by decide⟩)
      refine (decided_lineEnd behind).bind ?_
      intro rest closes
      exact .read closes
    · exact (decided_lineEnd mark).bind fun rest closes => .read closes

theorem skipEmptyLines_unfinished (stopped : skipEmptyLines s = .error .unfinished) :
    ∃ lines rest, EmptyLines Lax lines ∧ s = lines ++ rest ∧ (rest = [] ∨ rest = [cr]) := by
  revert stopped
  fun_induction skipEmptyLines s with
  | case1 => exact fun _ => ⟨[], [], .nil, rfl, .inl rfl⟩
  | case2 => exact fun _ => ⟨[], [cr], .nil, rfl, .inr rfl⟩
  | case3 =>
    have bare : EmptyLines Lax ([lf] ++ []) := .cons (.inr rfl) .nil
    exact fun _ => ⟨[lf], [], bare, rfl, .inl rfl⟩
  | case4 =>
    intro stopped
    cases stopped
  | case5 tail ih =>
    intro stopped
    obtain ⟨lines, rest, empty, rfl, short⟩ := ih stopped
    exact ⟨crlf ++ lines, rest, .cons (.inl rfl) empty, rfl, short⟩
  | case6 =>
    intro stopped
    cases stopped
  | case7 c tail _ ih =>
    intro stopped
    obtain ⟨lines, rest, empty, split, short⟩ := ih stopped
    refine ⟨[lf] ++ lines, rest, .cons (.inr rfl) empty, ?_, short⟩
    rw [split, List.append_assoc, List.singleton_append]
  | case8 =>
    intro stopped
    cases stopped

/-- The reader asks for more of a whole head only where there is nothing in it but line ends. -/
theorem emptyLines_of_unfinished {room : Nat} (mark : headMark <:+ s)
    (stopped : takeResponse room s = .error .unfinished) : EmptyLines Lax s := by
  cases skipped : skipEmptyLines s with
  | error stop =>
    unfold takeResponse at stopped
    rw [skipped] at stopped
    cases stopped
    obtain ⟨lines, rest, empty, rfl, rfl | rfl⟩ := skipEmptyLines_unfinished skipped
    · rwa [List.append_nil]
    · have last := mark.getLast (by decide)
      rw [List.getLast_concat] at last
      cases last
  | ok t =>
    obtain ⟨⟨b, first, solid⟩, lines, _, rfl⟩ := skipEmptyLines_eq_ok.1 skipped
    have begun := mark_of_solid mark first solid
    refine absurd stopped (Decided.not_unfinished (?_ : Decided (fun _ => True) _))
    unfold takeResponse
    rw [skipped]
    refine (decided_version begun).bind ?_
    rintro ⟨version, s⟩ mark
    cases s with
    | nil => cases mark.length_le
    | cons b s =>
      dsimp only
      split
      · rename_i blank
        rw [blank] at mark
        refine (decided_digit (mark_tail mark ⟨by decide, by decide⟩)).bind ?_
        rintro ⟨hundreds, s⟩ mark
        refine (decided_digit mark).bind ?_
        rintro ⟨tens, s⟩ mark
        refine (decided_digit mark).bind ?_
        rintro ⟨ones, s⟩ mark
        refine (decided_reason mark).bind ?_
        rintro ⟨reason, s⟩ closes
        refine (decided_headers closes).bind ?_
        rintro ⟨headers, s⟩ _
        exact .read trivial
      · exact .refused

end readers

end ProxyGateway.Http
