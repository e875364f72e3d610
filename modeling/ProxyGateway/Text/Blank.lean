namespace ProxyGateway.Text

/-- The characters with the Unicode property White_Space. -/
def isBlank (c : Char) : Bool :=
  let n := c.toNat
  (9 ≤ n && n ≤ 13) || n == 0x20 || n == 0x85 || n == 0xA0 || n == 0x1680 ||
    (0x2000 ≤ n && n ≤ 0x200A) || n == 0x2028 || n == 0x2029 || n == 0x202F || n == 0x205F ||
    n == 0x3000

def dropStart (p : Char → Bool) (s : List Char) : List Char := s.dropWhile p

def dropEnd (p : Char → Bool) (s : List Char) : List Char := (s.reverse.dropWhile p).reverse

def trimChars (s : List Char) : List Char := dropEnd isBlank (dropStart isBlank s)

def trim (s : String) : String := String.ofList (trimChars s.toList)

def trimStartOf (cs : List Char) (s : String) : String :=
  String.ofList (dropStart (cs.contains ·) s.toList)

def trimEndOf (cs : List Char) (s : String) : String :=
  String.ofList (dropEnd (cs.contains ·) s.toList)

theorem head_dropStart {p : Char → Bool} {s : List Char} {c : Char}
    (h : (dropStart p s).head? = some c) : p c = false := by
  induction s with
  | nil => simp [dropStart] at h
  | cons a s ih =>
    unfold dropStart at h ih
    by_cases ha : p a = true
    · rw [List.dropWhile_cons_of_pos ha] at h
      exact ih h
    · rw [List.dropWhile_cons_of_neg ha] at h
      obtain rfl : a = c := by simpa using h
      simpa using ha

theorem getLast_dropEnd {p : Char → Bool} {s : List Char} {c : Char}
    (h : (dropEnd p s).getLast? = some c) : p c = false := by
  apply head_dropStart (s := s.reverse)
  simpa [dropEnd, dropStart] using h

theorem dropEnd_isPrefix (p : Char → Bool) (s : List Char) : dropEnd p s <+: s := by
  rw [← List.reverse_suffix, dropEnd, List.reverse_reverse]
  exact List.dropWhile_suffix p

theorem head_trimChars {s : List Char} {c : Char} (h : (trimChars s).head? = some c) :
    isBlank c = false := by
  obtain ⟨rest, hrest⟩ := dropEnd_isPrefix isBlank (dropStart isBlank s)
  apply head_dropStart (s := s)
  rw [← hrest, List.head?_append, show (dropEnd isBlank (dropStart isBlank s)).head? = some c from h]
  rfl

theorem getLast_trimChars {s : List Char} {c : Char} (h : (trimChars s).getLast? = some c) :
    isBlank c = false :=
  getLast_dropEnd h

end ProxyGateway.Text
