import ProxyGateway.Proofs.Fields
import ProxyGateway.Proofs.Json.Quoted
import ProxyGateway.Proofs.Number.Written

namespace ProxyGateway.Text

theorem numeral_head {n : Nat} (leading : (numeral 10 n).head? = some '0') : n = 0 := by
  induction n using Nat.strongRecOn with
  | _ n ih =>
    by_cases small : n < 10
    · rw [numeral_of_lt small] at leading
      have all : ∀ n < 10, [n.digitChar].head? = some '0' → n = 0 := by decide
      exact all n small leading
    · rw [numeral_of_le (by decide) (Nat.not_lt.1 small), List.head?_append_of_ne_nil _
        (numeral_ne_nil _ _)] at leading
      have none_left := ih (n / 10) (by omega) leading
      omega

end ProxyGateway.Text

namespace ProxyGateway.Json

open Text (numeral)

def InRange (n : Int) : Prop := -9223372036854775808 ≤ n ∧ n < 18446744073709551616

/-- A value without parts that is read as itself. -/
def Leaf : Json → Prop
  | .str _ => True
  | .num (.whole n) => InRange n
  | _ => False

/-- No number goes on with the first of these characters. -/
def EndsNumber (rest : List Char) : Prop :=
  ∀ c ∈ rest.head?, isDigit c = false ∧ c ≠ '.' ∧ c ≠ 'e' ∧ c ≠ 'E'

section number

variable {rest : List Char}

theorem isDigit_of_mem_numeral {n : Nat} {c : Char} (member : c ∈ numeral 10 n) :
    isDigit c = true := by
  have digit := Text.isDigit_of_mem_numeral member
  simpa [isDigit, Char.isDigit, Char.le_def] using digit

theorem takeWhile_numeral (n : Nat) (ends : EndsNumber rest) :
    (numeral 10 n ++ rest).takeWhile isDigit = numeral 10 n := by
  have all : ∀ c ∈ numeral 10 n, isDigit c = true := fun c => isDigit_of_mem_numeral
  rw [List.takeWhile_append_of_pos all]
  cases rest with
  | nil => simp
  | cons c rest =>
    have other := (ends c rfl).1
    rw [List.takeWhile_cons_of_neg (by rw [other]; exact Bool.false_ne_true), List.append_nil]

theorem digitsValue_numeral (n : Nat) :
    (numeral 10 n).foldl (fun n c => n * 10 + (c.toNat - 48)) 0 = n := by
  induction n using Nat.strongRecOn with
  | _ n ih =>
    have value : ∀ d < 10, d.digitChar.toNat - 48 = d := by decide
    by_cases small : n < 10
    · rw [Text.numeral_of_lt small, List.foldl_cons, List.foldl_nil, value n small]
      omega
    · rw [Text.numeral_of_le (by decide) (Nat.not_lt.1 small), List.foldl_append,
        ih (n / 10) (by omega), List.foldl_cons, List.foldl_nil, value _ (by omega)]
      omega

theorem le_foldl_digits (s : List Char) (n : Nat) :
    n ≤ s.foldl (fun n c => n * 10 + (c.toNat - 48)) n := by
  induction s generalizing n with
  | nil => exact Nat.le_refl n
  | cons c s ih =>
    rw [List.foldl_cons]
    exact Nat.le_trans (by omega) (ih _)

/-- All digits fit where their value does. -/
theorem takeDigits_fit {s : List Char} {n : Nat}
    (fits : s.foldl (fun n c => n * 10 + (c.toNat - 48)) n < 18446744073709551616) :
    takeDigits n s = (s.foldl (fun n c => n * 10 + (c.toNat - 48)) n, 0) := by
  induction s generalizing n with
  | nil => rfl
  | cons c s ih =>
    rw [List.foldl_cons] at fits ⊢
    have first := Nat.lt_of_le_of_lt (le_foldl_digits s _) fits
    simp only [takeDigits]
    rw [if_pos first, ih fits]

theorem takeFraction_none (ends : EndsNumber rest) : takeFraction rest = .ok (none, rest) := by
  unfold takeFraction
  split
  · exact absurd rfl (ends '.' rfl).2.1
  · rfl

theorem takeExponent_none (ends : EndsNumber rest) : takeExponent rest = .ok (none, rest) := by
  cases rest with
  | nil => rfl
  | cons c rest =>
    obtain ⟨_, _, small, capital⟩ := ends c rfl
    simp [takeExponent, small, capital]

/-- The sign of a number is taken off first. -/
def splitSign (s : List Char) : Bool × List Char :=
  match s with
  | '-' :: rest => (true, rest)
  | rest => (false, rest)

theorem splitSign_numeral (n : Nat) (rest : List Char) :
    splitSign (numeral 10 n ++ rest) = (false, numeral 10 n ++ rest) := by
  cases written : numeral 10 n with
  | nil => exact absurd written (Text.numeral_ne_nil 10 n)
  | cons c digits =>
    have digit := isDigit_of_mem_numeral (n := n) (c := c) (by simp [written])
    have unsigned : c ≠ '-' := by
      rintro rfl
      exact absurd digit (by decide)
    simp [splitSign, unsigned]

theorem readNumber_signed {start : List Char} {minus : Bool} {n : Nat}
    (sign : splitSign start = (minus, numeral 10 n ++ rest)) (fits : n < 18446744073709551616)
    (ends : EndsNumber rest) : readNumber start = .ok (.num (wholeNumber minus n), rest) := by
  have written : ¬ (numeral 10 n = [] ∨
      ((numeral 10 n).head? = some '0' ∧ 1 < (numeral 10 n).length)) := by
    rintro (nothing | ⟨leading, long⟩)
    · exact Text.numeral_ne_nil 10 n nothing
    · rw [Text.numeral_head leading] at long
      exact absurd long (by decide)
  have digits : takeDigits 0 (numeral 10 n) = (n, 0) := by
    have value := digitsValue_numeral n
    rw [takeDigits_fit (by rw [value]; exact fits), value]
  unfold splitSign at sign
  split at sign
  · cases sign
    simp only [readNumber, takeWhile_numeral n ends, gt_iff_lt, written, if_false, digits,
      List.drop_left, takeFraction_none ends, bind, Except.bind, takeExponent_none ends]
    rfl
  · rename_i unsigned
    cases sign
    simp only [readNumber, takeWhile_numeral n ends, gt_iff_lt, written, if_false, digits,
      List.drop_left, takeFraction_none ends, bind, Except.bind, takeExponent_none ends]
    rfl

theorem readNumber_decimalInt {n : Int} (range : InRange n) (ends : EndsNumber rest) :
    readNumber ((Text.decimalInt n).toList ++ rest) = .ok (.num (.whole n), rest) := by
  obtain ⟨low, high⟩ := range
  cases n with
  | ofNat m =>
    have fits : m < 18446744073709551616 := Int.ofNat_lt.1 high
    rw [Text.decimalInt, Text.decimal_toList,
      readNumber_signed (splitSign_numeral m rest) fits ends]
    rfl
  | negSucc m =>
    have fits : m + 1 ≤ 9223372036854775808 := by omega
    have sign : splitSign ((Text.decimalInt (.negSucc m)).toList ++ rest) =
        (true, numeral 10 (m + 1) ++ rest) := by
      rw [Text.decimalInt, String.toList_append, Text.decimal_toList]
      rfl
    have kept : wholeNumber true (m + 1) = .whole (.negSucc m) := by
      rw [wholeNumber, if_pos rfl, if_neg (by omega)]
      rfl
    rw [readNumber_signed sign (by omega) ends, kept]

end number

theorem decimalInt_start (n : Int) :
    ∃ c digits, (Text.decimalInt n).toList = c :: digits ∧ (c = '-' ∨ isDigit c = true) := by
  cases n with
  | ofNat m =>
    rw [Text.decimalInt, Text.decimal_toList]
    cases written : numeral 10 m with
    | nil => exact absurd written (Text.numeral_ne_nil 10 m)
    | cons c digits =>
      exact ⟨c, digits, rfl, .inr (isDigit_of_mem_numeral (n := m) (by simp [written]))⟩
  | negSucc m => exact ⟨'-', (Text.decimal (m + 1)).toList, by simp [Text.decimalInt], .inl rfl⟩

theorem readValue_number {c : Char} (numeric : c = '-' ∨ isDigit c = true) (fuel depth : Nat)
    (s : List Char) : readValue (fuel + 1) depth (c :: s) = readNumber (c :: s) := by
  have mark (d : Char) (other : ¬ (d = '-' ∨ isDigit d = true)) : c ≠ d := by
    rintro rfl
    exact other numeric
  unfold readValue
  simp [mark 'n' (by decide), mark 't' (by decide), mark 'f' (by decide), mark '"' (by decide),
    mark '[' (by decide), mark '\x7b' (by decide), numeric]

section leaf

variable {j : Json} {rest : List Char}

theorem readValue_leaf (leaf : Leaf j) (ends : EndsNumber rest) (fuel depth : Nat) :
    readValue (fuel + 1) depth (text j ++ rest) = .ok (j, rest) := by
  cases j with
  | str s =>
    have read := readText_quoted s.toList rest
    have chars : text (.str s) ++ rest = '"' :: (s.toList.flatMap escapeChar ++ '"' :: rest) := by
      simp [text, quoteChars]
    rw [chars]
    simp only [readValue, read, Except.map, String.ofList_toList]
  | num n =>
    cases n with
    | whole n =>
      obtain ⟨c, digits, chars, numeric⟩ := decimalInt_start n
      have start : text (.num (.whole n)) = (Text.decimalInt n).toList := rfl
      have read := readNumber_decimalInt leaf ends
      rw [chars, List.cons_append] at read
      rw [start, chars, List.cons_append, readValue_number numeric, read]
    | real d => cases leaf
  | null => cases leaf
  | bool b => cases leaf
  | arr items => cases leaf
  | obj members => cases leaf

theorem skipSpace_cons {c : Char} (solid : isSpace c = false) (s : List Char) :
    skipSpace (c :: s) = c :: s :=
  List.dropWhile_cons_of_neg (by rw [solid]; exact Bool.false_ne_true)

theorem skipSpace_leaf (leaf : Leaf j) (rest : List Char) :
    skipSpace (text j ++ rest) = text j ++ rest := by
  cases j with
  | str s => exact skipSpace_cons (by decide) _
  | num n =>
    cases n with
    | whole n =>
      obtain ⟨c, digits, chars, numeric⟩ := decimalInt_start n
      have start : text (.num (.whole n)) = (Text.decimalInt n).toList := rfl
      have solid : isSpace c = false := by
        by_contra blank
        simp only [isSpace, Bool.not_eq_false, Bool.or_eq_true, beq_iff_eq] at blank
        obtain ((rfl | rfl) | rfl) | rfl := blank
        all_goals exact absurd numeric (by decide)
      rw [start, chars]
      exact skipSpace_cons solid _
    | real d => cases leaf
  | null => cases leaf
  | bool b => cases leaf
  | arr items => cases leaf
  | obj members => cases leaf

end leaf

theorem ends_of_mark {c : Char} (mark : c = ',' ∨ c = '\x7d') (rest : List Char) :
    EndsNumber (c :: rest) := by
  intro d first
  obtain rfl := Option.some.inj first
  obtain rfl | rfl := mark <;> decide

theorem readMembers_leaves {members : List (String × Json)} (some : members ≠ [])
    (leaves : ∀ e ∈ members, Leaf e.2) (rest : List Char) {fuel : Nat}
    (enough : members.length < fuel) (depth : Nat) :
    readMembers fuel depth (membersText members ++ '\x7d' :: rest) = .ok (members, rest) := by
  induction members generalizing fuel with
  | nil => exact absurd rfl some
  | cons e members ih =>
    obtain ⟨k, v⟩ := e
    rw [List.forall_mem_cons] at leaves
    obtain ⟨leaf, leaves⟩ := leaves
    obtain ⟨fuel, rfl⟩ : ∃ less, fuel = less + 2 := ⟨fuel - 2, by simp at enough; omega⟩
    have key (behind : List Char) : readText (k.toList.flatMap escapeChar ++ '"' :: behind) =
        .ok (k, behind) := by
      rw [readText_quoted, String.ofList_toList]
    cases members with
    | nil =>
      have chars : membersText [(k, v)] ++ '\x7d' :: rest = '"' :: (k.toList.flatMap escapeChar ++
          '"' :: (':' :: (text v ++ '\x7d' :: rest))) := by
        simp [membersText, quoteChars]
      have value := readValue_leaf leaf (ends_of_mark (.inr rfl) rest) fuel depth
      rw [chars, readMembers, skipSpace_cons (by decide)]
      simp only [key, bind, Except.bind, skipSpace_cons (show isSpace ':' = false by decide),
        skipSpace_leaf leaf, value, skipSpace_cons (show isSpace '\x7d' = false by decide)]
      rfl
    | cons next members =>
      have chars : membersText ((k, v) :: next :: members) ++ '\x7d' :: rest =
          '"' :: (k.toList.flatMap escapeChar ++ '"' :: (':' :: (text v ++ ',' ::
            (membersText (next :: members) ++ '\x7d' :: rest)))) := by
        simp [membersText, quoteChars]
      have value := readValue_leaf leaf (ends_of_mark (.inl rfl)
        (membersText (next :: members) ++ '\x7d' :: rest)) fuel depth
      have others : readMembers (fuel + 1) depth (membersText (next :: members) ++
          '\x7d' :: rest) = .ok (next :: members, rest) :=
        ih (by simp) leaves (by simp at enough ⊢; omega)
      rw [chars, readMembers, skipSpace_cons (by decide)]
      simp only [key, bind, Except.bind, skipSpace_cons (show isSpace ':' = false by decide),
        skipSpace_leaf leaf, value, skipSpace_cons (show isSpace ',' = false by decide), others]
      rfl

theorem length_le_membersText (members : List (String × Json)) :
    members.length ≤ (membersText members).length := by
  induction members with
  | nil => exact Nat.zero_le _
  | cons e members ih =>
    cases members with
    | nil =>
      simp [membersText, quoteChars]
    | cons next members =>
      simp only [membersText, List.length_append, List.length_cons] at ih ⊢
      omega

theorem membersText_start {members : List (String × Json)} (some : members ≠ []) :
    ∃ rest, membersText members = '"' :: rest := by
  obtain ⟨⟨k, v⟩, others, rfl⟩ := List.exists_cons_of_ne_nil some
  cases others with
  | nil => exact ⟨_, rfl⟩
  | cons next others => exact ⟨_, rfl⟩

/-- An object of leaves is read as itself. -/
theorem read_object {members : Fields Json} (some : members ≠ []) (ordered : members.Ordered)
    (leaves : ∀ e ∈ members, Leaf e.2) :
    read (String.ofList (text (.obj members))) = .ok (.obj members) := by
  have chars : text (.obj members) = '\x7b' :: (membersText members ++ '\x7d' :: []) := rfl
  obtain ⟨rest, start⟩ := membersText_start some
  have enough : members.length < (text (.obj members)).length := by
    have shorter := length_le_membersText members
    simp only [chars, List.length_cons, List.length_append]
    omega
  have body := readMembers_leaves some leaves [] enough (128 - 1)
  have value : readValue ((text (.obj members)).length + 1) 128 (text (.obj members)) =
      .ok (.obj members, []) := by
    have open_object (fuel : Nat) (tail : List Char) :
        readValue (fuel + 1) 128 ('\x7b' :: '"' :: tail) =
          (readMembers fuel (128 - 1) ('"' :: tail)).map fun read => (ofMembers read.1, read.2) := by
      rw [readValue]
      simp only [skipSpace_cons (show isSpace '"' = false by decide)]
      rfl
    generalize (text (.obj members)).length = fuel at body ⊢
    rw [start, List.cons_append] at body
    rw [chars, start, List.cons_append, open_object, body]
    exact congrArg (fun fs => Except.ok (Json.obj fs, [])) (Fields.ofList_eq_self ordered)
  have solid : skipSpace (text (.obj members)) = text (.obj members) := by
    rw [chars]
    exact skipSpace_cons (by decide) _
  simp only [read, String.toList_ofList, solid, value]
  rfl

end ProxyGateway.Json
