import ProxyGateway.Proofs.Text.Commas
import ProxyGateway.Proofs.Text.Numeral
import ProxyGateway.Yaml.Basic

namespace ProxyGateway

open Text (Separates)

def Numeric (c : Char) : Prop := c.isDigit ∨ c ∈ ['.', 'e', '+', '-']

theorem numeric_of_digit {c : Char} (digit : c.isDigit) : Numeric c := .inl digit

theorem not_separates_of_numeric {c : Char} (numeric : Numeric c) : ¬ Separates c := by
  intro separates
  simp only [Separates, List.mem_cons, List.not_mem_nil, or_false] at separates
  rcases separates with rfl | rfl | rfl <;> revert numeric <;> simp [Numeric]

theorem numeral_numeric (n : Nat) : ∀ c ∈ Text.numeral 10 n, Numeric c :=
  fun _ member => numeric_of_digit (Text.isDigit_of_mem_numeral member)

theorem decimalInt_numeric (n : Int) : ∀ c ∈ (Text.decimalInt n).toList, Numeric c := by
  cases n with
  | ofNat m => simpa [Text.decimalInt, Text.decimal_toList] using numeral_numeric m
  | negSucc m =>
    have rest := numeral_numeric (m + 1)
    simpa [Text.decimalInt, Text.decimal_toList, Numeric] using rest

theorem decimalInt_ne_nil (n : Int) : (Text.decimalInt n).toList ≠ [] := by
  cases n with
  | ofNat m => simpa [Text.decimalInt, Text.decimal_toList] using Text.numeral_ne_nil 10 m
  | negSucc m => simp [Text.decimalInt]

namespace Decimal

theorem zeros_numeric (n : Int) : ∀ c ∈ zeros n, Numeric c := by
  intro c member
  rw [List.eq_of_mem_replicate member]
  exact numeric_of_digit (by decide)

theorem exponent_numeric (plus : Bool) (n : Int) :
    ∀ c ∈ (if plus then ['+'] else []) ++ (Text.decimalInt n).toList, Numeric c := by
  have sign : ∀ c ∈ (if plus then ['+'] else []), Numeric c := by
    cases plus <;> simp [Numeric]
  exact List.forall_mem_append.2 ⟨sign, decimalInt_numeric n⟩

theorem layOut_numeric (l : Layout) (d : Decimal) : ∀ c ∈ layOut l d, Numeric c := by
  have point : Numeric '.' := .inr (by decide)
  have letter : Numeric 'e' := .inr (by decide)
  have nought : Numeric '0' := numeric_of_digit (by decide)
  have digits := numeral_numeric d.digits
  have exponent := exponent_numeric
    (l.plus ∧ 1 < ((Text.numeral 10 d.digits).length + d.exponent : Int))
    ((Text.numeral 10 d.digits).length + d.exponent - 1)
  simp only [decide_eq_true_eq] at exponent
  unfold layOut
  simp only
  generalize Text.numeral 10 d.digits = ds at digits exponent ⊢
  split
  · simp only [List.forall_mem_append, List.forall_mem_cons]
    exact ⟨⟨digits, zeros_numeric _⟩, point, nought, by simp⟩
  split
  · simp only [List.forall_mem_append, List.forall_mem_cons]
    exact ⟨fun c member => digits c (List.mem_of_mem_take member), point,
      fun c member => digits c (List.mem_of_mem_drop member)⟩
  split
  · simp only [List.cons_append, List.forall_mem_append, List.forall_mem_cons]
    exact ⟨nought, point, zeros_numeric _, digits⟩
  split
  · exact List.forall_mem_cons.2 ⟨digits _ (by simp), List.forall_mem_cons.2 ⟨letter, exponent⟩⟩
  · rw [List.forall_mem_cons] at digits
    simp only [List.cons_append, List.forall_mem_append, List.forall_mem_cons]
    exact ⟨digits.1, point, digits.2, letter, List.forall_mem_append.1 exponent⟩
  · exact exponent

theorem layOut_ne_nil (l : Layout) (d : Decimal) : layOut l d ≠ [] := by
  have digits := Text.numeral_ne_nil 10 d.digits
  unfold layOut
  simp only
  generalize Text.numeral 10 d.digits = ds at digits ⊢
  repeat' split
  all_goals simp_all

end Decimal

theorem shortText_numeric (l : Decimal.Layout) (d : Double) :
    ∀ c ∈ (d.shortText l).toList, Numeric c := by
  have sign : ∀ c ∈ (if d.negative then ['-'] else []), Numeric c := by
    cases d.negative <;> simp [Numeric]
  rw [Double.shortText, String.toList_ofList, List.forall_mem_append]
  refine ⟨sign, ?_⟩
  split
  · simp [Numeric]
  · exact Decimal.layOut_numeric l _

theorem shortText_ne_nil (l : Decimal.Layout) (d : Double) : (d.shortText l).toList ≠ [] := by
  rw [Double.shortText, String.toList_ofList]
  refine List.append_ne_nil_of_right_ne_nil _ ?_
  split
  · simp
  · exact Decimal.layOut_ne_nil l _

/-- The word begins like a number and has no separator in it. -/
def NumberWord (w : List Char) : Prop :=
  (∃ c rest, w = c :: rest ∧ Numeric c) ∧ ∀ c ∈ w, ¬ Separates c

theorem numberWord_of_numeric {w : List Char} (filled : w ≠ []) (numeric : ∀ c ∈ w, Numeric c) :
    NumberWord w := by
  refine ⟨?_, fun c member => not_separates_of_numeric (numeric c member)⟩
  cases w with
  | nil => exact absurd rfl filled
  | cons c rest => exact ⟨c, rest, rfl, numeric c (by simp)⟩

theorem numberText_word (n : Number) : NumberWord (Yaml.numberText n).toList := by
  cases n with
  | whole n => exact numberWord_of_numeric (decimalInt_ne_nil n) (decimalInt_numeric n)
  | real d =>
    unfold Yaml.numberText
    simp only
    split
    · exact numberWord_of_numeric (shortText_ne_nil _ d) (shortText_numeric _ d)
    · repeat' split
      all_goals simp [NumberWord, Numeric, Separates]

end ProxyGateway
