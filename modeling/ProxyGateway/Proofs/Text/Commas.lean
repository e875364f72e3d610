namespace ProxyGateway.Text

def Separates (c : Char) : Prop := c ∈ [',', ']', '\x7d']

/-- No word goes on with these characters. -/
def Ends (r : List Char) : Prop := ∀ c ∈ r.head?, Separates c

def Opens (w : List Char) : Prop := ∃ c rest, w = c :: rest ∧ ¬ Separates c

/-- The words of the two differ, and neither starts the other, or the two are one. -/
def Apart (word : α → List Char) (x y : α) : Prop :=
  ∀ r r', Ends r → Ends r' → word x ++ r = word y ++ r' → x = y ∧ r = r'

theorem ends_nil : Ends [] := by simp [Ends]

theorem ends_cons {c : Char} (separates : Separates c) (r : List Char) : Ends (c :: r) := by
  simpa [Ends] using separates

/-- Words without separators agree only as a whole. -/
theorem append_ends_inj {w w' r r' : List Char} (whole : ∀ c ∈ w, ¬ Separates c)
    (whole' : ∀ c ∈ w', ¬ Separates c) (ends : Ends r) (ends' : Ends r')
    (same : w ++ r = w' ++ r') : w = w' ∧ r = r' := by
  induction w generalizing w' with
  | nil =>
    cases w' with
    | nil => exact ⟨rfl, same⟩
    | cons c w' =>
      rw [List.nil_append] at same
      exact absurd (ends c (same ▸ rfl)) (whole' c (by simp))
  | cons c w ih =>
    cases w' with
    | nil =>
      rw [List.nil_append] at same
      exact absurd (ends' c (same ▸ rfl)) (whole c (by simp))
    | cons c' w' =>
      rw [List.forall_mem_cons] at whole whole'
      obtain ⟨rfl, rest⟩ := List.cons.inj same
      obtain ⟨rfl, rfl⟩ := ih whole.2 whole'.2 rest
      exact ⟨rfl, rfl⟩

theorem Opens.ne_cons {w : List Char} (opens : Opens w) {c : Char} (separates : Separates c)
    (r r' : List Char) : w ++ r ≠ c :: r' := by
  obtain ⟨d, rest, rfl, opened⟩ := opens
  intro same
  exact opened ((List.cons.inj same).1 ▸ separates)

section

variable {α : Type} {word : α → List Char} {close : Char}

def behind (word : α → List Char) (close : Char) (xs : List α) (r : List Char) : List Char :=
  xs.flatMap (fun x => ',' :: word x) ++ close :: r

theorem behind_cons (x : α) (xs : List α) (r : List Char) :
    behind word close (x :: xs) r = ',' :: (word x ++ behind word close xs r) := by
  simp [behind]

theorem intercalate_cons (x : α) (xs : List α) (r : List Char) :
    [','].intercalate ((x :: xs).map word) ++ close :: r = word x ++ behind word close xs r := by
  induction xs generalizing x with
  | nil => simp [behind]
  | cons y xs ih =>
    rw [List.map_cons, List.map_cons, List.intercalate_cons_cons, ← List.map_cons, behind_cons,
      ← ih y]
    simp

theorem ends_behind (closes : Separates close) (xs : List α) (r : List Char) :
    Ends (behind word close xs r) := by
  cases xs with
  | nil => exact ends_cons closes r
  | cons x xs =>
    rw [behind_cons]
    exact ends_cons (by simp [Separates]) _

theorem behind_inj (closes : Separates close) (bracket : close ≠ ',') {xs ys : List α}
    (apart : ∀ x ∈ xs, ∀ y ∈ ys, Apart word x y) {r r' : List Char}
    (same : behind word close xs r = behind word close ys r') : xs = ys ∧ r = r' := by
  induction xs generalizing ys with
  | nil =>
    cases ys with
    | nil => exact ⟨rfl, (List.cons.inj same).2⟩
    | cons y ys =>
      rw [behind_cons] at same
      exact absurd (List.cons.inj same).1 bracket
  | cons x xs ih =>
    cases ys with
    | nil =>
      rw [behind_cons] at same
      exact absurd (List.cons.inj same).1.symm bracket
    | cons y ys =>
      rw [behind_cons, behind_cons] at same
      obtain ⟨rfl, rest⟩ := apart x (by simp) y (by simp) _ _ (ends_behind closes xs r)
        (ends_behind closes ys r') (List.cons.inj same).2
      have later : ∀ x ∈ xs, ∀ y ∈ ys, Apart word x y := fun x mx y my =>
        apart x (List.mem_cons_of_mem _ mx) y (List.mem_cons_of_mem _ my)
      obtain ⟨rfl, rfl⟩ := ih later rest
      exact ⟨rfl, rfl⟩

/-- Two lists with the same closing bracket agree word by word or not at all. -/
theorem intercalate_inj (closes : Separates close) (bracket : close ≠ ',') {xs ys : List α}
    (opens_left : ∀ x ∈ xs, Opens (word x)) (opens_right : ∀ y ∈ ys, Opens (word y))
    (apart : ∀ x ∈ xs, ∀ y ∈ ys, Apart word x y) {r r' : List Char}
    (same : [','].intercalate (xs.map word) ++ close :: r =
      [','].intercalate (ys.map word) ++ close :: r') : xs = ys ∧ r = r' := by
  cases xs with
  | nil =>
    cases ys with
    | nil => exact ⟨rfl, by simpa using same⟩
    | cons y ys =>
      rw [intercalate_cons] at same
      exact absurd same.symm ((opens_right y (by simp)).ne_cons closes _ _)
  | cons x xs =>
    cases ys with
    | nil =>
      rw [intercalate_cons] at same
      exact absurd same ((opens_left x (by simp)).ne_cons closes _ _)
    | cons y ys =>
      rw [intercalate_cons, intercalate_cons] at same
      have rests : behind word close (x :: xs) r = behind word close (y :: ys) r' := by
        rw [behind_cons, behind_cons, same]
      exact behind_inj closes bracket apart rests

end

end ProxyGateway.Text
