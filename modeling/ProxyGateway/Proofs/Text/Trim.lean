import Mathlib.Data.List.TakeWhile
import ProxyGateway.Flow
import ProxyGateway.Text.Ascii
import ProxyGateway.Text.Blank

namespace ProxyGateway.Text

theorem dropStart_eq_self {p : Char → Bool} {s : List Char}
    (keeps : ∀ c ∈ s.head?, p c = false) : dropStart p s = s := by
  cases s with
  | nil => rfl
  | cons c s =>
    have first := keeps c rfl
    rw [dropStart, List.dropWhile_cons_of_neg (by simp [first])]

theorem dropEnd_eq_self {p : Char → Bool} {s : List Char}
    (keeps : ∀ c ∈ s.getLast?, p c = false) : dropEnd p s = s := by
  have reversed : dropStart p s.reverse = s.reverse := dropStart_eq_self (by simpa using keeps)
  rw [dropStart] at reversed
  rw [dropEnd, reversed, List.reverse_reverse]

theorem dropEnd_append_cons {p : Char → Bool} {c : Char} (stays : p c = false) (s rest : List Char) :
    dropEnd p (s ++ c :: rest) = s ++ c :: dropEnd p rest := by
  have kept : (c :: s.reverse).dropWhile p = c :: s.reverse :=
    List.dropWhile_cons_of_neg (by simp [stays])
  unfold dropEnd
  rw [List.reverse_append, List.reverse_cons, List.append_assoc, List.singleton_append,
    List.dropWhile_append, kept]
  split
  · rename_i nothing
    simp [List.isEmpty_iff.1 nothing]
  · simp

theorem dropEnd_append_cut (p : Char → Bool) (s : List Char) :
    ∃ cut, s = dropEnd p s ++ cut ∧ ∀ c ∈ cut, p c := by
  refine ⟨(s.reverse.takeWhile p).reverse, ?_, fun c member => ?_⟩
  · rw [dropEnd, ← List.reverse_append, List.takeWhile_append_dropWhile, List.reverse_reverse]
  · exact List.mem_takeWhile_imp (List.mem_reverse.1 member)

theorem dropEnd_append {p : Char → Bool} {cut : List Char} (all : ∀ c ∈ cut, p c) (s : List Char) :
    dropEnd p (s ++ cut) = dropEnd p s := by
  rw [dropEnd, List.reverse_append, List.dropWhile_append_of_pos (by simpa using all), dropEnd]

theorem dropEnds_append {p : Char → Bool} {front middle cut : List Char} (all : ∀ c ∈ front, p c)
    (stays : ∀ c ∈ middle, p c = false) (all' : ∀ c ∈ cut, p c) :
    dropEnd p (dropStart p (front ++ (middle ++ cut))) = middle := by
  rw [dropStart, List.dropWhile_append_of_pos all]
  cases middle with
  | nil =>
    rw [List.nil_append, List.dropWhile_eq_nil_iff.2 all']
    rfl
  | cons c middle =>
    rw [List.cons_append, List.dropWhile_cons_of_neg (by simp [stays c List.mem_cons_self]),
      ← List.cons_append, dropEnd_append all']
    exact dropEnd_eq_self fun d last => stays d (List.mem_of_mem_getLast? last)

/-- White space behind a text makes no difference to it when it is trimmed. -/
theorem trimChars_append_blank (s : List Char) {tail : List Char} (blank : ∀ c ∈ tail, isBlank c) :
    trimChars (s ++ tail) = trimChars s := by
  unfold trimChars dropStart
  by_cases nothing : s.dropWhile isBlank = []
  · have all : ∀ c ∈ s, isBlank c := List.dropWhile_eq_nil_iff.1 nothing
    have none : (s ++ tail).dropWhile isBlank = [] := by
      rw [List.dropWhile_append_of_pos all]
      exact List.dropWhile_eq_nil_iff.2 blank
    rw [none, nothing]
  · rw [List.dropWhile_append, if_neg (by simpa using nothing), dropEnd_append blank]

theorem trimChars_dropEnd {p : Char → Bool} (blanks : ∀ c, p c → isBlank c) (s : List Char) :
    trimChars (dropEnd p s) = trimChars s := by
  obtain ⟨cut, whole, all⟩ := dropEnd_append_cut p s
  calc trimChars (dropEnd p s)
    _ = trimChars (dropEnd p s ++ cut) :=
      (trimChars_append_blank _ fun c member => blanks c (all c member)).symm
    _ = trimChars s := congrArg trimChars whole.symm

theorem trim_eq_self {s : String} (first : ∀ c ∈ s.toList.head?, isBlank c = false)
    (last : ∀ c ∈ s.toList.getLast?, isBlank c = false) : trim s = s := by
  rw [trim, trimChars, dropStart_eq_self first, dropEnd_eq_self last, String.ofList_toList]

theorem trim_trim (s : String) : trim (trim s) = trim s := by
  apply trim_eq_self
  · intro c first
    rw [trim, String.toList_ofList] at first
    exact head_trimChars first
  · intro c last
    rw [trim, String.toList_ofList] at last
    exact getLast_trimChars last

theorem trimEndOf_eq_self {cs : List Char} {s : String} (last : ∀ c ∈ s.toList.getLast?, c ∉ cs) :
    trimEndOf cs s = s := by
  rw [trimEndOf, dropEnd_eq_self, String.ofList_toList]
  intro c at_end
  simpa using last c at_end

theorem trimEndOf_trimEndOf (cs : List Char) (s : String) :
    trimEndOf cs (trimEndOf cs s) = trimEndOf cs s := by
  apply trimEndOf_eq_self
  intro c at_end
  rw [trimEndOf, String.toList_ofList] at at_end
  simpa using getLast_dropEnd at_end

theorem mem_dropStart {p : Char → Bool} {s : List Char} {c : Char} (member : c ∈ s)
    (stays : p c = false) : c ∈ dropStart p s := by
  rw [← List.takeWhile_append_dropWhile (p := p) (l := s), List.mem_append] at member
  rcases member with dropped | kept
  · rw [List.mem_takeWhile_imp dropped] at stays
    cases stays
  · exact kept

theorem mem_dropEnd {p : Char → Bool} {s : List Char} {c : Char} (member : c ∈ s)
    (stays : p c = false) : c ∈ dropEnd p s :=
  List.mem_reverse.2 (mem_dropStart (List.mem_reverse.2 member) stays)

theorem trim_ne_empty {s : String} {c : Char} (member : c ∈ s.toList) (solid : isBlank c = false) :
    trim s ≠ "" := by
  have kept : c ∈ (trim s).toList := by
    rw [trim, String.toList_ofList]
    exact mem_dropEnd (mem_dropStart member solid) solid
  intro nothing
  rw [nothing] at kept
  cases kept

theorem isBlank_lowerChar (c : Char) : isBlank (lowerChar c) = isBlank c := by
  unfold lowerChar
  by_cases capital : 'A' ≤ c ∧ c ≤ 'Z'
  · have low : 65 ≤ c.toNat := capital.1
    have high : c.toNat ≤ 90 := capital.2
    have small : (Char.ofNat (c.toNat + 32)).toNat = c.toNat + 32 :=
      toNat_charOfNat (.inl (by omega))
    have blank_small : isBlank (Char.ofNat (c.toNat + 32)) = false := by
      simp only [isBlank, small, Bool.or_eq_false_iff, Bool.and_eq_false_iff, decide_eq_false_iff_not,
        beq_eq_false_iff_ne]
      omega
    have blank_capital : isBlank c = false := by
      simp only [isBlank, Bool.or_eq_false_iff, Bool.and_eq_false_iff, decide_eq_false_iff_not,
        beq_eq_false_iff_ne]
      omega
    rw [if_pos capital, blank_small, blank_capital]
  · rw [if_neg capital]

theorem trim_lower_trim (s : String) : trim (lower (trim s)) = lower (trim s) := by
  have chars : (lower (trim s)).toList = (trimChars s.toList).map lowerChar := by
    rw [lower_toList, trim, String.toList_ofList]
  apply trim_eq_self
  · intro c first
    rw [chars, List.head?_map] at first
    obtain ⟨d, d_first, rfl⟩ := Option.map_eq_some_iff.1 first
    rw [isBlank_lowerChar, head_trimChars d_first]
  · intro c last
    rw [chars, List.getLast?_map] at last
    obtain ⟨d, d_last, rfl⟩ := Option.map_eq_some_iff.1 last
    rw [isBlank_lowerChar, getLast_trimChars d_last]

theorem lower_eq_empty {s : String} (nothing : lower s = "") : s = "" := by
  have chars := congrArg String.toList nothing
  rw [lower_toList] at chars
  exact String.toList_eq_nil_iff.1 (List.map_eq_nil_iff.1 chars)

def Bare (s : String) : Prop := ∀ c ∈ s.toList, isBlank c = false ∧ c ≠ '[' ∧ c ≠ ']'

theorem Bare.trim {s : String} (bare : Bare s) : trim s = s :=
  trim_eq_self (fun c first => (bare c (List.mem_of_mem_head? first)).1)
    fun c last => (bare c (List.mem_of_mem_getLast? last)).1

theorem Bare.unbracket {s : String} (bare : Bare s) : Flow.unbracket s = s := by
  have opened : trimStartOf ['['] s = s := by
    rw [trimStartOf, dropStart_eq_self, String.ofList_toList]
    intro c first
    simpa using (bare c (List.mem_of_mem_head? first)).2.1
  have closed : trimEndOf [']'] s = s := by
    rw [trimEndOf, dropEnd_eq_self, String.ofList_toList]
    intro c last
    simpa using (bare c (List.mem_of_mem_getLast? last)).2.2
  rw [Flow.unbracket, opened, closed]

end ProxyGateway.Text
