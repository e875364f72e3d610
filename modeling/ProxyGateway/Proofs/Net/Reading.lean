import Mathlib.Data.Bool.AllAny
import ProxyGateway.Proofs.Text.Numeral
import ProxyGateway.Proofs.Text.Trim

namespace ProxyGateway.Net

open Text (digitValue numeral)

/-- A numeral ends in front of these characters. -/
def Stops (base : Nat) (rest : List Char) : Prop :=
  ∀ c ∈ rest.head?, digitValue base c = none

theorem stops_nil (base : Nat) : Stops base [] := by simp [Stops]

theorem stops_cons {base : Nat} {c : Char} (other : digitValue base c = none) (rest : List Char) :
    Stops base (c :: rest) := by
  simpa [Stops] using other

theorem takeWhile_stops {base : Nat} {rest : List Char} (stops : Stops base rest) :
    rest.takeWhile (fun c => (digitValue base c).isSome) = [] := by
  cases rest with
  | nil => rfl
  | cons c rest =>
    have other := stops c rfl
    rw [List.takeWhile_cons_of_neg (by simp [other])]

theorem takeWhile_numeral {base : Nat} (two : 1 < base) (sixteen : base ≤ 16) (n : Nat)
    {rest : List Char} (stops : Stops base rest) :
    (numeral base n ++ rest).takeWhile (fun c => (digitValue base c).isSome) = numeral base n := by
  have all_digits : ∀ c ∈ numeral base n, (digitValue base c).isSome :=
    fun c member => Text.digitValue_isSome_of_mem_numeral two sixteen member
  rw [List.takeWhile_append_of_pos all_digits, takeWhile_stops stops, List.append_nil]

theorem takeNumber_numeral {base most n : Nat} {zeros : Bool} (two : 1 < base)
    (sixteen : base ≤ 16) (short : (numeral base n).length ≤ most)
    (leading : zeros ∨ ¬ ((numeral base n).head? = some '0' ∧ 1 < (numeral base n).length))
    {rest : List Char} (stops : Stops base rest) :
    takeNumber base most zeros (numeral base n ++ rest) = some (n, rest) := by
  unfold takeNumber
  simp only [takeWhile_numeral two sixteen n stops, Text.digits_numeral two sixteen]
  have fits : ¬ most < (numeral base n).length := Nat.not_lt.2 short
  cases leading with
  | inl allowed => simp [fits, allowed]
  | inr none_leads => simp_all

theorem takeByte_numeral (b : UInt8) {rest : List Char} (stops : Stops 10 rest) :
    takeByte (numeral 10 b.toNat ++ rest) = some (b, rest) := by
  have shape : ∀ n < 256, (numeral 10 n).length ≤ 3 ∧
      ¬ ((numeral 10 n).head? = some '0' ∧ 1 < (numeral 10 n).length) := by decide +kernel
  obtain ⟨short, leading⟩ := shape b.toNat b.toNat_lt
  rw [takeByte, takeNumber_numeral (by decide) (by decide) short (.inr leading) stops]
  simp [b.toNat_lt]

theorem takeIpv4_text (ip : Ipv4) {rest : List Char} (stops : Stops 10 rest) :
    takeIpv4 (ip.toText.toList ++ rest) = some (ip, rest) := by
  have point : digitValue 10 '.' = none := by decide
  have dotted : ∀ (b : UInt8) (rest : List Char),
      takeByte (numeral 10 b.toNat ++ '.' :: rest) = some (b, '.' :: rest) :=
    fun b rest => takeByte_numeral b (stops_cons point rest)
  have chars : ip.toText.toList ++ rest = numeral 10 ip.a.toNat ++ '.' :: (numeral 10 ip.b.toNat ++
      '.' :: (numeral 10 ip.c.toNat ++ '.' :: (numeral 10 ip.d.toNat ++ rest))) := by
    simp [Ipv4.toText, Text.decimal_toList]
  rw [chars]
  simp [takeIpv4, dotted, takeChar, takeByte_numeral ip.d stops]

theorem readIpv4_toText (ip : Ipv4) : readIpv4 ip.toText = some ip := by
  have read := takeIpv4_text ip (stops_nil 10)
  rw [List.append_nil] at read
  rw [readIpv4, read]
  rfl

theorem takeNumber_eq_some {base most n : Nat} {zeros : Bool} {s rest : List Char}
    (taken : takeNumber base most zeros s = some (n, rest)) :
    ∃ ds, s = ds ++ rest ∧ ∀ c ∈ ds, (digitValue base c).isSome := by
  refine ⟨s.takeWhile fun c => (digitValue base c).isSome, ?_, fun c => List.mem_takeWhile_imp⟩
  unfold takeNumber at taken
  simp only at taken
  split at taken
  · cases taken
  · split at taken
    · cases taken
    · obtain ⟨_, rfl⟩ := Prod.mk.inj (Option.some.inj taken)
      exact (List.prefix_iff_eq_append.1 (List.takeWhile_prefix _)).symm

theorem takeByte_eq_some {b : UInt8} {s rest : List Char} (taken : takeByte s = some (b, rest)) :
    ∃ ds, s = ds ++ rest ∧ ∀ c ∈ ds, (digitValue 10 c).isSome := by
  unfold takeByte at taken
  split at taken
  · rename_i n tail number
    split at taken
    · obtain ⟨_, rfl⟩ := Prod.mk.inj (Option.some.inj taken)
      exact takeNumber_eq_some number
    · cases taken
  · cases taken

theorem hex_of_decimal {c : Char} (decimal : (digitValue 10 c).isSome) :
    (digitValue 16 c).isSome := by
  unfold digitValue at decimal ⊢
  simp only at decimal ⊢
  generalize (if 48 ≤ c.toNat ∧ c.toNat ≤ 57 then c.toNat - 48 else _) = v at decimal ⊢
  by_cases small : v < 10
  · simp [Nat.lt_trans small (by decide : 10 < 16)]
  · simp [small] at decimal

/-- A dotted address has a point behind its first digits. -/
theorem takeIpv4_eq_none {s : List Char}
    (other : (s.dropWhile fun c => (digitValue 16 c).isSome).head? ≠ some '.') :
    takeIpv4 s = none := by
  cases first : takeByte s with
  | none => simp [takeIpv4, first]
  | some byte =>
    obtain ⟨b, rest⟩ := byte
    obtain ⟨ds, rfl, digits⟩ := takeByte_eq_some first
    have point : takeChar '.' rest = none := by
      rw [List.dropWhile_append_of_pos fun c member => hex_of_decimal (digits c member)] at other
      cases rest with
      | nil => rfl
      | cons c rest =>
        by_cases here : c = '.'
        · subst here
          exact absurd rfl other
        · simp [takeChar, here]
    simp [takeIpv4, first, point]

/-- Nothing stands here, or a colon. -/
def Colon (rest : List Char) : Prop := rest = [] ∨ ∃ more, rest = ':' :: more

theorem Colon.stops {rest : List Char} (colon : Colon rest) : Stops 16 rest := by
  rcases colon with rfl | ⟨more, rfl⟩
  · exact stops_nil 16
  · exact stops_cons (by decide) more

theorem dropWhile_stops {rest : List Char} (stops : Stops 16 rest) :
    rest.dropWhile (fun c => (digitValue 16 c).isSome) = rest := by
  cases rest with
  | nil => rfl
  | cons c rest => rw [List.dropWhile_cons_of_neg (by simp [stops c rfl])]

theorem Colon.takeIpv4_eq_none {rest : List Char} (colon : Colon rest) : takeIpv4 rest = none := by
  apply Net.takeIpv4_eq_none
  rw [dropWhile_stops colon.stops]
  rcases colon with rfl | ⟨more, rfl⟩ <;> simp

theorem takeIpv4_group (g : UInt16) {rest : List Char} (colon : Colon rest) :
    takeIpv4 (Ipv6.groupText g ++ rest) = none := by
  apply takeIpv4_eq_none
  have digits : ∀ c ∈ Ipv6.groupText g, (digitValue 16 c).isSome := fun c member =>
    Text.digitValue_isSome_of_mem_numeral (by decide) (by decide) member
  rw [List.dropWhile_append_of_pos digits, dropWhile_stops colon.stops]
  rcases colon with rfl | ⟨more, rfl⟩ <;> simp

theorem takeGroup_group (g : UInt16) {rest : List Char} (colon : Colon rest) :
    takeGroup (Ipv6.groupText g ++ rest) = some (g, rest) := by
  have short : (numeral 16 g.toNat).length ≤ 4 :=
    (Nat.length_toDigits_le_iff (by decide) (by decide)).2 g.toNat_lt
  rw [takeGroup, Ipv6.groupText,
    takeNumber_numeral (by decide) (by decide) short (.inl rfl) colon.stops]
  simp

theorem Colon.takeGroup_eq_none {rest : List Char} (colon : Colon rest) :
    takeGroup rest = none := by
  rcases colon with rfl | ⟨more, rfl⟩ <;> rfl

/-- Where a row of groups ends: at the end, or at a double colon. -/
def RowEnds (rest : List Char) : Prop := rest = [] ∨ ∃ more, rest = ':' :: ':' :: more

theorem RowEnds.colon {rest : List Char} (ends : RowEnds rest) : Colon rest := by
  rcases ends with rfl | ⟨more, rfl⟩
  · exact .inl rfl
  · exact .inr ⟨_, rfl⟩

theorem takeGroups_end (first : Bool) (room : Nat) {rest : List Char} (ends : RowEnds rest) :
    takeGroups first room rest = ⟨[], false, rest⟩ := by
  cases room with
  | zero => rfl
  | succ room =>
    unfold takeGroups
    cases first with
    | true =>
      simp [ends.colon.takeIpv4_eq_none, ends.colon.takeGroup_eq_none]
    | false =>
      rcases ends with rfl | ⟨more, rfl⟩
      · rfl
      · have colon : Colon (':' :: more) := .inr ⟨more, rfl⟩
        simp [takeChar, colon.takeIpv4_eq_none, colon.takeGroup_eq_none]

theorem takeGroups_group (first : Bool) {room : Nat} {s rest : List Char} {g : UInt16}
    (here : (if first then some s else takeChar ':' s) = some (Ipv6.groupText g ++ rest))
    (colon : Colon rest) {gs : List UInt16} {tail : List Char}
    (more : takeGroups false room rest = ⟨gs, false, tail⟩) :
    takeGroups first (room + 1) s = ⟨g :: gs, false, tail⟩ := by
  unfold takeGroups
  simp only [here]
  rw [show (if room > 0 then takeIpv4 (Ipv6.groupText g ++ rest) else none) = none by
    simp [takeIpv4_group g colon]]
  simp [takeGroup_group g colon, more]

def colonGroups (gs : List UInt16) : List Char := gs.flatMap fun g => ':' :: Ipv6.groupText g

theorem colon_colonGroups (gs : List UInt16) {rest : List Char} (ends : RowEnds rest) :
    Colon (colonGroups gs ++ rest) := by
  cases gs with
  | nil => exact ends.colon
  | cons g gs => exact .inr ⟨_, rfl⟩

theorem takeGroups_colonGroups {gs : List UInt16} {room : Nat} (fits : gs.length ≤ room)
    {rest : List Char} (ends : RowEnds rest) :
    takeGroups false room (colonGroups gs ++ rest) = ⟨gs, false, rest⟩ := by
  induction gs generalizing room with
  | nil => exact takeGroups_end false room ends
  | cons g gs ih =>
    cases room with
    | zero => cases fits
    | succ room =>
      have here : takeChar ':' (colonGroups (g :: gs) ++ rest) =
          some (Ipv6.groupText g ++ (colonGroups gs ++ rest)) := by
        simp [colonGroups, takeChar]
      exact takeGroups_group false (by simpa using here) (colon_colonGroups gs ends)
        (ih (Nat.le_of_succ_le_succ fits))

theorem groupsText_cons (g : UInt16) (gs : List UInt16) :
    Ipv6.groupsText (g :: gs) = Ipv6.groupText g ++ colonGroups gs := by
  induction gs generalizing g with
  | nil => simp [Ipv6.groupsText, colonGroups]
  | cons h gs ih =>
    have tail := ih h
    unfold Ipv6.groupsText at tail ⊢
    rw [List.map_cons, List.map_cons, List.intercalate_cons_cons, ← List.map_cons, tail]
    simp [colonGroups]

theorem takeGroups_groupsText {gs : List UInt16} {room : Nat} (fits : gs.length ≤ room)
    {rest : List Char} (ends : RowEnds rest) :
    takeGroups true room (Ipv6.groupsText gs ++ rest) = ⟨gs, false, rest⟩ := by
  cases gs with
  | nil => exact takeGroups_end true room ends
  | cons g gs =>
    cases room with
    | zero => cases fits
    | succ room =>
      have here : Ipv6.groupsText (g :: gs) ++ rest =
          Ipv6.groupText g ++ (colonGroups gs ++ rest) := by
        rw [groupsText_cons, List.append_assoc]
      rw [here]
      exact takeGroups_group true rfl (colon_colonGroups gs ends)
        (takeGroups_colonGroups (Nat.le_of_succ_le_succ fits) ends)

theorem zeroRun_cut (gs : List UInt16) :
    List.replicate (Ipv6.zeroRun gs) 0 ++ gs.drop (Ipv6.zeroRun gs) = gs := by
  induction gs with
  | nil => rfl
  | cons g gs ih =>
    by_cases zero : g = 0
    · subst zero
      rw [Ipv6.zeroRun, List.replicate_succ, List.drop_succ_cons, List.cons_append, ih]
    · have none_here : Ipv6.zeroRun (g :: gs) = 0 := by
        unfold Ipv6.zeroRun
        split
        · rename_i same
          exact absurd (List.cons.inj same).1 zero
        · rfl
      rw [none_here]
      rfl

/-- The longest run of zeros is one. -/
theorem longestZeros_cut (gs : List UInt16) :
    gs.take (Ipv6.longestZeros gs).1 ++ (List.replicate (Ipv6.longestZeros gs).2 0 ++
      gs.drop ((Ipv6.longestZeros gs).1 + (Ipv6.longestZeros gs).2)) = gs := by
  induction gs with
  | nil => rfl
  | cons g gs ih =>
    unfold Ipv6.longestZeros
    by_cases here : (Ipv6.longestZeros gs).2 ≤ Ipv6.zeroRun (g :: gs)
    · simpa [here] using zeroRun_cut (g :: gs)
    · have later : (Ipv6.longestZeros gs).1 + 1 + (Ipv6.longestZeros gs).2 =
          (Ipv6.longestZeros gs).1 + (Ipv6.longestZeros gs).2 + 1 := by omega
      simp only [ge_iff_le, here, if_false, List.take_succ_cons, later, List.drop_succ_cons,
        List.cons_append, ih]

theorem ipv6OfList?_groups (ip : Ipv6) : ipv6OfList? ip.groups.toList = some ip := by
  have eight : ip.groups.toList.length = 8 := by simp
  rw [ipv6OfList?, dif_pos eight]
  rfl

theorem takeIpv6_groups {gs : List UInt16} (eight : gs.length = 8) :
    takeIpv6 (Ipv6.groupsText gs) = (ipv6OfList? gs).map (·, []) := by
  have row := takeGroups_groupsText (Nat.le_of_eq eight) (.inl rfl)
  rw [List.append_nil] at row
  simp [takeIpv6, row, eight]

/-- The groups that a double colon leaves out are zeros. -/
theorem takeIpv6_cut {front back : List UInt16} {len : Nat} (two : 1 < len)
    (eight : front.length + (len + back.length) = 8) :
    takeIpv6 (Ipv6.groupsText front ++ ':' :: ':' :: Ipv6.groupsText back) =
      (ipv6OfList? (front ++ (List.replicate len 0 ++ back))).map (·, []) := by
  have front_row := takeGroups_groupsText (by omega : front.length ≤ 8)
    (.inr ⟨Ipv6.groupsText back, rfl⟩)
  have back_row := takeGroups_groupsText (by omega : back.length ≤ 7 - front.length) (.inl rfl)
  rw [List.append_nil] at back_row
  have open_row : front.length ≠ 8 := by omega
  have left_out : 8 - front.length - back.length = len := by omega
  simp [takeIpv6, front_row, back_row, open_row, left_out]

theorem takeIpv6_groupForm (ip : Ipv6) : takeIpv6 ip.groupForm.toList = some (ip, []) := by
  have eight : ip.groups.toList.length = 8 := by simp
  have cut := longestZeros_cut ip.groups.toList
  unfold Ipv6.groupForm
  simp only
  split
  · rename_i two
    have lengths := congrArg List.length cut
    simp only [List.length_append, List.length_replicate, eight] at lengths
    rw [String.toList_ofList, List.append_assoc, List.cons_append, List.cons_append,
      List.nil_append, takeIpv6_cut two lengths, cut, ipv6OfList?_groups]
    rfl
  · rw [String.toList_ofList, takeIpv6_groups eight, ipv6OfList?_groups]
    rfl

theorem readIpv6_groupForm (ip : Ipv6) : readIpv6 ip.groupForm = some ip := by
  rw [readIpv6, takeIpv6_groupForm]
  rfl

theorem groups_of_mapped {ip : Ipv6} {inner : Ipv4} (mapped : ip.mapped? = some inner) :
    ip.groups.toList =
      [0, 0, 0, 0, 0, 0xFFFF, wordOfBytes inner.a inner.b, wordOfBytes inner.c inner.d] := by
  unfold Ipv6.mapped? at mapped
  split at mapped
  · rename_i x y groups
    obtain rfl := Option.some.inj mapped
    rw [groups, wordOfBytes_wordBytes, wordOfBytes_wordBytes]
  · cases mapped

theorem takeGroups_dotted (g : UInt16) (ip : Ipv4) (room : Nat) :
    takeGroups true (room + 3) (Ipv6.groupText g ++ ':' :: ip.toText.toList) =
      ⟨[g, wordOfBytes ip.a ip.b, wordOfBytes ip.c ip.d], true, []⟩ := by
  have colon : Colon (':' :: ip.toText.toList) := .inr ⟨_, rfl⟩
  have whole := takeIpv4_text ip (stops_nil 10)
  rw [List.append_nil] at whole
  have last : takeGroups false (room + 2) (':' :: ip.toText.toList) =
      ⟨[wordOfBytes ip.a ip.b, wordOfBytes ip.c ip.d], true, []⟩ := by
    rw [takeGroups]
    simp [takeChar, whole]
  rw [takeGroups]
  simp [takeIpv4_group g colon, takeGroup_group g colon, last]

theorem readIpv6_toText (ip : Ipv6) : readIpv6 ip.toText = some ip := by
  unfold Ipv6.toText
  cases mapped : ip.mapped? with
  | none => exact readIpv6_groupForm ip
  | some inner =>
    dsimp only
    have chars : ("::ffff:" ++ inner.toText).toList =
        ':' :: ':' :: (Ipv6.groupText 0xFFFF ++ ':' :: inner.toText.toList) := by
      rw [String.toList_append]
      rfl
    have front := takeGroups_end true 8
      (.inr ⟨Ipv6.groupText 0xFFFF ++ ':' :: inner.toText.toList, rfl⟩)
    have back := takeGroups_dotted 0xFFFF inner 4
    have whole := ipv6OfList?_groups ip
    rw [groups_of_mapped mapped] at whole
    have taken : takeIpv6 ("::ffff:" ++ inner.toText).toList = some (ip, []) := by
      rw [chars, takeIpv6, front]
      simp [back, whole]
    rw [readIpv6, taken]
    rfl

theorem takeIpv4_groupsText (gs : List UInt16) {rest : List Char} (ends : RowEnds rest) :
    takeIpv4 (Ipv6.groupsText gs ++ rest) = none := by
  cases gs with
  | nil => exact ends.colon.takeIpv4_eq_none
  | cons g gs =>
    rw [groupsText_cons, List.append_assoc]
    exact takeIpv4_group g (colon_colonGroups gs ends)

theorem readIpv4_groupForm (ip : Ipv6) : readIpv4 ip.groupForm = none := by
  have other : takeIpv4 ip.groupForm.toList = none := by
    unfold Ipv6.groupForm
    simp only
    split
    · rw [String.toList_ofList, List.append_assoc]
      exact takeIpv4_groupsText _ (.inr ⟨_, rfl⟩)
    · have whole := takeIpv4_groupsText ip.groups.toList (.inl rfl)
      rwa [List.append_nil, ← String.toList_ofList (l := Ipv6.groupsText _)] at whole
  rw [readIpv4, other]
  rfl

namespace Ip

theorem canonical_canonical (ip : Ip) : ip.canonical.canonical = ip.canonical := by
  cases ip with
  | v4 ip => rfl
  | v6 ip =>
    cases mapped : ip.mapped? with
    | some inner => simp [canonical, mapped]
    | none => simp [canonical, mapped]

end Ip

/-- The text of a canonical address is read as the address. -/
theorem readIp_canonical (ip : Ip) : readIp ip.canonical.toText = some ip.canonical := by
  have of_v4 : ∀ inner : Ipv4, readIp (Ip.v4 inner).toText = some (.v4 inner) := fun inner => by
    simp [readIp, Ip.toText, readIpv4_toText]
  cases ip with
  | v4 inner => exact of_v4 inner
  | v6 ip =>
    cases mapped : ip.mapped? with
    | some inner => simpa [Ip.canonical, mapped] using of_v4 inner
    | none =>
      simp [Ip.canonical, mapped, Ip.toText, Ipv6.toText, readIp, readIpv4_groupForm,
        readIpv6_groupForm]

def InAddress (c : Char) : Prop := c = ':' ∨ c = '.' ∨ (digitValue 16 c).isSome

instance (c : Char) : Decidable (InAddress c) := inferInstanceAs (Decidable (_ ∨ _ ∨ _))

theorem hex_range {c : Char} (digit : (digitValue 16 c).isSome) :
    48 ≤ c.toNat ∧ c.toNat ≤ 57 ∨ 97 ≤ c.toNat ∧ c.toNat ≤ 102 ∨
      65 ≤ c.toNat ∧ c.toNat ≤ 70 := by
  by_contra outside
  obtain ⟨decimal, small, capital⟩ := by simpa only [not_or] using outside
  simp [digitValue, decimal, small, capital] at digit

theorem InAddress.range {c : Char} (inside : InAddress c) : 46 ≤ c.toNat ∧ c.toNat ≤ 102 := by
  rcases inside with rfl | rfl | digit
  · decide
  · decide
  · have range := hex_range digit
    omega

theorem bare_of_inAddress {c : Char} (inside : InAddress c) :
    Text.isBlank c = false ∧ c ≠ '[' ∧ c ≠ ']' := by
  have range := inside.range
  refine ⟨?_, ?_, ?_⟩
  · simp only [Text.isBlank, Bool.or_eq_false_iff, Bool.and_eq_false_iff,
      decide_eq_false_iff_not, beq_eq_false_iff_ne]
    omega
  · rintro rfl
    exact absurd inside (by decide)
  · rintro rfl
    exact absurd inside (by decide)

theorem inAddress_decimal (n : Nat) : ∀ c ∈ (Text.decimal n).toList, InAddress c := by
  intro c member
  rw [Text.decimal_toList] at member
  exact .inr (.inr (hex_of_decimal
    (Text.digitValue_isSome_of_mem_numeral (by decide) (by decide) member)))

theorem inAddress_group (g : UInt16) : ∀ c ∈ Ipv6.groupText g, InAddress c := fun _ member =>
  .inr (.inr (Text.digitValue_isSome_of_mem_numeral (by decide) (by decide) member))

theorem inAddress_groups (gs : List UInt16) : ∀ c ∈ Ipv6.groupsText gs, InAddress c := by
  have later : ∀ c ∈ colonGroups gs.tail, InAddress c := by
    intro c member
    obtain ⟨g, _, inside⟩ := List.mem_flatMap.1 member
    rcases List.mem_cons.1 inside with rfl | digit
    · exact .inl rfl
    · exact inAddress_group g c digit
  cases gs with
  | nil => simp [Ipv6.groupsText]
  | cons g gs =>
    rw [groupsText_cons, List.forall_mem_append]
    exact ⟨inAddress_group g, later⟩

theorem bare_decimal (n : Nat) : Text.Bare (Text.decimal n) := fun c member =>
  bare_of_inAddress (inAddress_decimal n c member)

theorem inAddress_v4 (ip : Ipv4) : ∀ c ∈ ip.toText.toList, InAddress c := by
  have point : ∀ c ∈ ".".toList, InAddress c := by simp [InAddress]
  simp only [Ipv4.toText, String.toList_append, List.forall_mem_append]
  exact ⟨⟨⟨⟨⟨⟨inAddress_decimal _, point⟩, inAddress_decimal _⟩, point⟩, inAddress_decimal _⟩,
    point⟩, inAddress_decimal _⟩

theorem inAddress_groupForm (ip : Ipv6) : ∀ c ∈ ip.groupForm.toList, InAddress c := by
  unfold Ipv6.groupForm
  simp only
  split
  · rw [String.toList_ofList, List.forall_mem_append, List.forall_mem_append]
    exact ⟨⟨inAddress_groups _, by simp [InAddress]⟩, inAddress_groups _⟩
  · rw [String.toList_ofList]
    exact inAddress_groups _

theorem inAddress_toText (ip : Ip) : ∀ c ∈ ip.toText.toList, InAddress c := by
  cases ip with
  | v4 ip => exact inAddress_v4 ip
  | v6 ip =>
    cases mapped : ip.mapped? with
    | some inner =>
      have start : ∀ c ∈ "::ffff:".toList, InAddress c :=
        List.all_iff_forall_prop.1 (by decide)
      simp only [Ip.toText, Ipv6.toText, mapped, String.toList_append, List.forall_mem_append]
      exact ⟨start, inAddress_v4 inner⟩
    | none =>
      simp only [Ip.toText, Ipv6.toText, mapped]
      exact inAddress_groupForm ip

theorem bare_toText (ip : Ip) : Text.Bare ip.toText := fun c member =>
  bare_of_inAddress (inAddress_toText ip c member)

end ProxyGateway.Net
