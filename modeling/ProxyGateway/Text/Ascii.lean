namespace ProxyGateway.Text

def lowerChar (c : Char) : Char :=
  if 'A' ≤ c ∧ c ≤ 'Z' then Char.ofNat (c.toNat + 32) else c

def lower (s : String) : String := String.ofList (s.toList.map lowerChar)

def sameLetters (s t : String) : Bool := s.toList.map lowerChar == t.toList.map lowerChar

/-- The key under which a name made of ASCII letters is looked up: the Kelvin sign is the one
character outside ASCII whose small form is an ASCII letter. -/
def foldChar (c : Char) : Char := if c == '\u212A' then 'k' else lowerChar c

def fold (s : String) : String := String.ofList (s.toList.map foldChar)

theorem lower_toList (s : String) : (lower s).toList = s.toList.map lowerChar := by
  simp [lower]

theorem sameLetters_iff (s t : String) : sameLetters s t = true ↔ lower s = lower t := by
  simp [sameLetters, ← lower_toList, String.toList_inj]

theorem toNat_charOfNat {n : Nat} (valid : n.isValidChar) : (Char.ofNat n).toNat = n := by
  unfold Char.ofNat
  rw [dif_pos valid]
  rfl

/-- No capital letter is left, so there is nothing to do a second time. -/
theorem lowerChar_lowerChar (c : Char) : lowerChar (lowerChar c) = lowerChar c := by
  unfold lowerChar
  by_cases capital : 'A' ≤ c ∧ c ≤ 'Z'
  · have low : 65 ≤ c.toNat := capital.1
    have high : c.toNat ≤ 90 := capital.2
    have small : (Char.ofNat (c.toNat + 32)).toNat = c.toNat + 32 :=
      toNat_charOfNat (.inl (by omega))
    have beyond : ¬ Char.ofNat (c.toNat + 32) ≤ 'Z' := by
      intro below
      have bound : (Char.ofNat (c.toNat + 32)).toNat ≤ 90 := below
      omega
    simp [capital, beyond]
  · simp [capital]

theorem lower_lower (s : String) : lower (lower s) = lower s := by
  rw [← String.toList_inj, lower_toList, lower_toList, List.map_map]
  exact List.map_congr_left fun c _ => lowerChar_lowerChar c

end ProxyGateway.Text
