import ProxyGateway.Proofs.Http.Head

namespace ProxyGateway.Http

/-- The end is that of the shortest start that ends in the mark. -/
theorem headEnd_eq_some {s : Bytes} {n : Nat} :
    headEnd s = some n ↔ n ≤ s.length ∧ headMark <:+ s.take n ∧
      ∀ m < n, ¬ headMark <:+ s.take m := by
  unfold headEnd
  simp only [Option.map_eq_some_iff, Prod.exists]
  constructor
  · rintro ⟨front, back, cut, rfl⟩
    obtain ⟨split, least⟩ := Text.cutWord_eq_some.1 cut
    have size : s.length = front.length + 4 + back.length := by
      rw [split, List.length_append, List.length_append]
      exact (Nat.add_assoc ..).symm
    have start : s.take (front.length + 4) = front ++ headMark := by
      rw [split, ← List.append_assoc]
      exact List.take_left' (by rw [List.length_append]; rfl)
    refine ⟨by omega, ⟨front, start.symm⟩, ?_⟩
    rintro m before ⟨front', start'⟩
    have other : s = front' ++ (headMark ++ s.drop m) := by
      rw [← List.append_assoc, start', List.take_append_drop]
    have longer := least front' (s.drop m) other
    have room := congrArg List.length start'
    rw [List.length_append, List.length_take, show headMark.length = 4 from rfl] at room
    omega
  · rintro ⟨fits, ⟨front, start⟩, least⟩
    have size := congrArg List.length start
    rw [List.length_append, List.length_take, show headMark.length = 4 from rfl] at size
    refine ⟨front, s.drop n, Text.cutWord_eq_some.2 ⟨?_, ?_⟩, by omega⟩
    · rw [← List.append_assoc, start, List.take_append_drop]
    · intro front' back' other
      by_contra shorter
      refine least (front'.length + 4) (by omega) ⟨front', ?_⟩
      rw [other, ← List.append_assoc]
      exact (List.take_left' (by rw [List.length_append]; rfl)).symm

theorem exists_headEnd {s : Bytes} {m : Nat} (fits : m ≤ s.length) (mark : headMark <:+ s.take m) :
    ∃ n ≤ m, headEnd s = some n := by
  induction m using Nat.strongRecOn with
  | _ m ih =>
    by_cases first : ∀ k < m, ¬ headMark <:+ s.take k
    · exact ⟨m, Nat.le_refl m, headEnd_eq_some.2 ⟨fits, mark, first⟩⟩
    · obtain ⟨k, before, earlier⟩ : ∃ k, k < m ∧ headMark <:+ s.take k := by
        simpa using first
      obtain ⟨n, least, found⟩ := ih k before (by omega) earlier
      exact ⟨n, by omega, found⟩

theorem headEnd_pos {s : Bytes} {n : Nat} (found : headEnd s = some n) : 0 < n := by
  obtain ⟨_, mark, _⟩ := headEnd_eq_some.1 found
  have long := mark.length_le
  rw [List.length_take, show headMark.length = 4 from rfl] at long
  omega

/-- Only the bytes up to the end decide where it is. -/
theorem headEnd_congr {s t : Bytes} {n : Nat} (found : headEnd s = some n)
    (same : s.take n = t.take n) (fits : n ≤ t.length) : headEnd t = some n := by
  obtain ⟨_, mark, least⟩ := headEnd_eq_some.1 found
  refine headEnd_eq_some.2 ⟨fits, same ▸ mark, ?_⟩
  intro m before
  have same' : t.take m = s.take m := by
    rw [← Nat.min_eq_left (Nat.le_of_lt before), ← List.take_take, ← List.take_take, same]
  rw [same']
  exact least m before

theorem headEnd_append {s : Bytes} {n : Nat} (found : headEnd s = some n) (more : Bytes) :
    headEnd (s ++ more) = some n := by
  have fits := (headEnd_eq_some.1 found).1
  refine headEnd_congr found (List.take_append_of_le_length fits).symm ?_
  rw [List.length_append]
  omega

theorem headEnd_cons {b : UInt8} {s : Bytes} (no_mark : ¬ headMark <+: b :: s) :
    headEnd (b :: s) = (headEnd s).map (· + 1) := by
  have none_here : Text.stripStart headMark (b :: s) = none := by
    rw [Option.eq_none_iff_forall_ne_some]
    intro rest stripped
    exact no_mark ⟨rest, (Text.stripStart_eq_some.1 stripped).symm⟩
  unfold headEnd
  rw [Text.cutWord, none_here]
  cases Text.cutWord headMark s with
  | none => rfl
  | some parts => exact congrArg some (Nat.add_right_comm parts.1.length 1 4)

theorem headEnd_cons_of_ne {b : UInt8} (other : b ≠ cr) (s : Bytes) :
    headEnd (b :: s) = (headEnd s).map (· + 1) := by
  apply headEnd_cons
  rintro ⟨rest, start⟩
  exact other (List.cons.inj start).1.symm

theorem headEnd_front {front : Bytes} (no_cr : cr ∉ front) (s : Bytes) :
    headEnd (front ++ s) = (headEnd s).map (front.length + ·) := by
  induction front with
  | nil => simp
  | cons b front ih =>
    have other : b ≠ cr := fun same => no_cr (same ▸ List.mem_cons_self)
    have no_cr' : cr ∉ front := fun member => no_cr (List.mem_cons_of_mem b member)
    rw [List.cons_append, headEnd_cons_of_ne other, ih no_cr', Option.map_map]
    congr 1
    funext n
    simp only [Function.comp_apply, List.length_cons]
    omega

/-- A line end with another line behind it is no mark. -/
theorem headEnd_line {b : UInt8} (other : b ≠ cr) (s : Bytes) :
    headEnd (crlf ++ b :: s) = (headEnd (b :: s)).map (2 + ·) := by
  have no_mark : ¬ headMark <+: cr :: lf :: b :: s := by
    rintro ⟨rest, start⟩
    obtain ⟨same, _⟩ := List.cons.inj (List.cons.inj (List.cons.inj start).2).2
    exact other same.symm
  change headEnd (cr :: lf :: b :: s) = _
  rw [headEnd_cons no_mark, headEnd_cons_of_ne (by decide), Option.map_map]
  congr 1
  funext n
  simp only [Function.comp_apply]
  omega

theorem headEnd_mark (s : Bytes) : headEnd (crlf ++ (crlf ++ s)) = some 4 := by
  have whole : Text.cutWord headMark (headMark ++ s) = some ([], s) := by
    rw [Text.cutWord_eq_some]
    exact ⟨rfl, fun _ _ _ => Nat.zero_le _⟩
  change headEnd (headMark ++ s) = some 4
  rw [headEnd, whole]
  rfl

theorem not_cr_of_isValue {b : UInt8} (legal : isValue b) : b ≠ cr := by
  rintro rfl
  revert legal
  decide

theorem HeaderLine.parts {Ends : Bytes → Prop} {h : Header} {line : Bytes}
    (text : HeaderLine Ends h line) : ∃ words e, line = words ++ e ∧ cr ∉ words ∧ Ends e := by
  cases text with
  | line fine lead trail ends =>
    rename_i before after e
    refine ⟨h.name ++ colon :: (before ++ (h.value ++ after)), e, ?_, ?_, ends⟩
    · simp only [List.append_assoc, List.cons_append]
    · intro member
      simp only [List.mem_append, List.mem_cons] at member
      obtain named | same | gap | legal | gap := member
      · exact (not_special_of_token (fine.name.2 _ named)).1 rfl
      · revert same
        decide
      · exact not_cr_of_isValue (isValue_of_isGap (lead _ gap)) rfl
      · exact not_cr_of_isValue (fine.value _ legal) rfl
      · exact not_cr_of_isValue (isValue_of_isGap (trail _ gap)) rfl

theorem RequestLine.no_cr {method : Bytes} {target : String} {line : Bytes}
    (text : RequestLine method target line) : cr ∉ line := by
  cases text with
  | line named aimed version =>
    intro member
    simp only [List.mem_append, List.mem_cons, List.not_mem_nil, or_false] at member
    obtain word | same | word | same | start | same := member
    · exact (not_special_of_token (named.2 _ word)).1 rfl
    · revert same
      decide
    · have legal := aimed.2 _ word
      revert legal
      decide
    · revert same
      decide
    · revert start
      decide
    · obtain rfl | rfl := version
      · cases same
      · cases same

theorem headEnd_headerLines {hs : List Header} {lines : Bytes} (texts : HeaderLines Strict hs lines)
    (rest : Bytes) : headEnd (crlf ++ (lines ++ rest)) = some (2 + lines.length) := by
  induction texts with
  | last ends =>
    rw [Strict] at ends
    rw [ends]
    exact headEnd_mark rest
  | line first others ih =>
    rename_i h hs line lines
    obtain ⟨b, tail, start, token⟩ := first.head
    obtain ⟨words, e, split, no_cr, ends⟩ := first.parts
    rw [Strict] at ends
    subst ends
    calc headEnd (crlf ++ (line ++ lines ++ rest))
        = (headEnd (line ++ lines ++ rest)).map (2 + ·) := by
          rw [start, List.cons_append, List.cons_append]
          exact headEnd_line (not_special_of_token token).1 _
      _ = ((headEnd (crlf ++ (lines ++ rest))).map (words.length + ·)).map (2 + ·) := by
          rw [← headEnd_front no_cr, split]
          simp only [List.append_assoc]
      _ = some (2 + (line ++ lines).length) := by
          rw [ih, split]
          simp only [Option.map_some, List.length_append, show crlf.length = 2 from rfl]
          congr 1
          omega

/-- A head whose lines all end in CRLF ends where it is looked for. -/
theorem headEnd_strict {head : RequestHead} {text : Bytes} (whole : HeadText Strict head text)
    (rest : Bytes) : headEnd (text ++ rest) = some text.length := by
  cases whole with
  | text first ends others =>
    rename_i line e lines
    rw [Strict] at ends
    subst ends
    rw [List.append_assoc, List.append_assoc, headEnd_front first.no_cr,
      headEnd_headerLines others rest]
    simp only [Option.map_some, List.length_append, show crlf.length = 2 from rfl]

end ProxyGateway.Http
