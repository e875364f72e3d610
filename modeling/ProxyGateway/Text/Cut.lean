namespace ProxyGateway.Text

def cutFirst [DecidableEq α] (sep : α) : List α → Option (List α × List α)
  | [] => none
  | c :: rest =>
    if c = sep then some ([], rest)
    else (cutFirst sep rest).map fun (a, b) => (c :: a, b)

def cutLast [DecidableEq α] (sep : α) : List α → Option (List α × List α)
  | [] => none
  | c :: rest =>
    match cutLast sep rest with
    | some (a, b) => some (c :: a, b)
    | none => if c = sep then some ([], rest) else none

/-- The rest of a list that starts with `word`. -/
def stripStart [DecidableEq α] : (word s : List α) → Option (List α)
  | [], s => some s
  | _ :: _, [] => none
  | w :: ws, c :: cs => if w = c then stripStart ws cs else none

def cutWord [DecidableEq α] (word : List α) : List α → Option (List α × List α)
  | [] => if word = [] then some ([], []) else none
  | c :: rest =>
    match stripStart word (c :: rest) with
    | some tail => some ([], tail)
    | none => (cutWord word rest).map fun (a, b) => (c :: a, b)

/-- All the parts between the places of `sep`; a text without one is its own single part. -/
def splitAll [DecidableEq α] (sep : α) : List α → List (List α)
  | [] => [[]]
  | c :: rest =>
    if c = sep then [] :: splitAll sep rest
    else match splitAll sep rest with
      | [] => [[c]]
      | part :: parts => (c :: part) :: parts

theorem cutFirst_eq_none [DecidableEq α] {sep : α} {s : List α} :
    cutFirst sep s = none ↔ sep ∉ s := by
  induction s with
  | nil => simp [cutFirst]
  | cons c rest ih =>
    by_cases h : c = sep
    · simp [cutFirst, h]
    · simp [cutFirst, h, ih, Ne.symm h]

theorem cutFirst_eq_some [DecidableEq α] {sep : α} {s a b : List α} :
    cutFirst sep s = some (a, b) ↔ s = a ++ sep :: b ∧ sep ∉ a := by
  induction s generalizing a with
  | nil => simp [cutFirst]
  | cons c rest ih =>
    by_cases h : c = sep
    · subst h
      cases a with
      | nil => simp [cutFirst, eq_comm]
      | cons x xs => simp [cutFirst]; intro hx; simp [hx]
    · cases a with
      | nil => simp [cutFirst, h]
      | cons x xs =>
        simp only [cutFirst, h, if_false, Option.map_eq_some_iff, Prod.mk.injEq, Prod.exists,
          List.cons.injEq, List.cons_append, List.mem_cons, not_or]
        constructor
        · rintro ⟨u, v, huv, ⟨rfl, rfl⟩, rfl⟩
          obtain ⟨rfl, hu⟩ := ih.1 huv
          exact ⟨⟨rfl, rfl⟩, Ne.symm h, hu⟩
        · rintro ⟨⟨rfl, rfl⟩, _, hu⟩
          exact ⟨xs, b, ih.2 ⟨rfl, hu⟩, ⟨rfl, rfl⟩, rfl⟩

theorem cutLast_eq_none [DecidableEq α] {sep : α} {s : List α} :
    cutLast sep s = none ↔ sep ∉ s := by
  induction s with
  | nil => simp [cutLast]
  | cons c rest ih =>
    cases hr : cutLast sep rest with
    | none =>
      have hn := ih.1 hr
      by_cases h : c = sep
      · simp [cutLast, hr, h]
      · simp [cutLast, hr, h, hn, Ne.symm h]
    | some ab =>
      have hm : sep ∈ rest := by
        apply Classical.byContradiction
        intro hn
        rw [ih.2 hn] at hr
        cases hr
      simp [cutLast, hr, hm]

theorem cutLast_eq_some [DecidableEq α] {sep : α} {s a b : List α} :
    cutLast sep s = some (a, b) ↔ s = a ++ sep :: b ∧ sep ∉ b := by
  induction s generalizing a with
  | nil => simp [cutLast]
  | cons c rest ih =>
    cases hr : cutLast sep rest with
    | none =>
      have hn := cutLast_eq_none.1 hr
      cases a with
      | nil =>
        by_cases h : c = sep
        · subst h
          simp only [cutLast, hr, if_true, Option.some.injEq, Prod.mk.injEq, true_and,
            List.nil_append, List.cons.injEq]
          constructor
          · rintro rfl; exact ⟨rfl, hn⟩
          · rintro ⟨rfl, _⟩; rfl
        · simp [cutLast, hr, h]
      | cons x xs =>
        constructor
        · intro h; by_cases hc : c = sep <;> simp [cutLast, hr, hc] at h
        · rintro ⟨h, _⟩
          simp only [List.cons_append, List.cons.injEq] at h
          rw [h.2] at hn; simp at hn
    | some ab =>
      obtain ⟨u, v⟩ := ab
      simp only [cutLast, hr, Option.some.injEq, Prod.mk.injEq]
      have hm : sep ∈ rest := by
        apply Classical.byContradiction
        intro hn
        rw [cutLast_eq_none.2 hn] at hr
        cases hr
      cases a with
      | nil =>
        simp only [reduceCtorEq, false_and, List.nil_append, List.cons.injEq, false_iff, not_and]
        rintro ⟨_, rfl⟩ hb
        exact hb hm
      | cons x xs =>
        have step : (u = xs ∧ v = b) ↔ rest = xs ++ sep :: b ∧ sep ∉ b := by
          rw [← ih, hr]; simp
        simp only [List.cons.injEq, List.cons_append, and_assoc, step]

theorem stripStart_eq_some [DecidableEq α] {word s t : List α} :
    stripStart word s = some t ↔ s = word ++ t := by
  induction word generalizing s with
  | nil => simp [stripStart, eq_comm]
  | cons w ws ih =>
    cases s with
    | nil => simp [stripStart]
    | cons c cs =>
      by_cases h : w = c
      · simp [stripStart, h, ih]
      · simp [stripStart, h, eq_comm]

theorem stripStart_eq_none [DecidableEq α] {word s : List α} :
    stripStart word s = none ↔ ¬ word <+: s := by
  constructor
  · rintro none ⟨rest, rfl⟩
    rw [stripStart_eq_some.2 rfl] at none
    cases none
  · intro no_start
    cases first : stripStart word s with
    | none => rfl
    | some rest => exact absurd ⟨rest, (stripStart_eq_some.1 first).symm⟩ no_start

theorem cutWord_eq_none [DecidableEq α] {word s : List α} :
    cutWord word s = none ↔ ¬ word <:+: s := by
  induction s with
  | nil => simp [cutWord]
  | cons c rest ih =>
    rw [List.infix_cons_iff, not_or, ← ih, ← stripStart_eq_none]
    cases first : stripStart word (c :: rest) <;> simp [cutWord, first]

/-- The first place of a word is the one with the least in front of it. -/
theorem cutWord_eq_some [DecidableEq α] {word s a b : List α} :
    cutWord word s = some (a, b) ↔ s = a ++ (word ++ b) ∧
      ∀ a' b', s = a' ++ (word ++ b') → a.length ≤ a'.length := by
  induction s generalizing a with
  | nil =>
    unfold cutWord
    split
    · rename_i nothing
      subst nothing
      simp only [Option.some.injEq, Prod.mk.injEq, List.nil_append, List.nil_eq,
        List.append_eq_nil_iff]
      constructor
      · rintro ⟨rfl, rfl⟩
        exact ⟨⟨rfl, rfl⟩, fun _ _ _ => Nat.zero_le _⟩
      · rintro ⟨⟨rfl, rfl⟩, _⟩
        exact ⟨rfl, rfl⟩
    · rename_i some
      simp [some]
  | cons c rest ih =>
    unfold cutWord
    cases first : stripStart word (c :: rest) with
    | some tail =>
      have start := stripStart_eq_some.1 first
      simp only [Option.some.injEq, Prod.mk.injEq]
      constructor
      · rintro ⟨rfl, rfl⟩
        exact ⟨start, fun _ _ _ => Nat.zero_le _⟩
      · rintro ⟨split, least⟩
        have nothing : a = [] := List.length_eq_zero_iff.1 (Nat.le_zero.1 (least [] tail start))
        subst nothing
        refine ⟨rfl, ?_⟩
        rw [start] at split
        exact List.append_cancel_left split
    | none =>
      have no_start : ∀ tail, c :: rest ≠ word ++ tail := by
        intro tail start
        rw [stripStart_eq_some.2 start] at first
        cases first
      simp only [Option.map_eq_some_iff, Prod.exists, Prod.mk.injEq]
      constructor
      · rintro ⟨a, b, found, rfl, rfl⟩
        obtain ⟨split, least⟩ := ih.1 found
        refine ⟨by rw [split, List.cons_append], ?_⟩
        intro a' b' other
        cases a' with
        | nil => exact absurd other (no_start b')
        | cons c' a' =>
          obtain ⟨_, other⟩ := List.cons.inj other
          exact Nat.succ_le_succ (least a' b' other)
      · rintro ⟨split, least⟩
        cases a with
        | nil => exact absurd split (no_start b)
        | cons c' a =>
          obtain ⟨rfl, behind⟩ := List.cons.inj split
          refine ⟨a, b, ih.2 ⟨behind, ?_⟩, rfl, rfl⟩
          intro a' b' other
          exact Nat.le_of_succ_le_succ (least (c :: a') b' (by rw [other, List.cons_append]))

end ProxyGateway.Text
