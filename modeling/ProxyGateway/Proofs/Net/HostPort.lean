import ProxyGateway.Net.HostPort
import ProxyGateway.Proofs.Net.Reading
import ProxyGateway.Proofs.Text.Trim

namespace ProxyGateway.Net

theorem takeChar_eq_some {c : Char} {s rest : List Char} :
    takeChar c s = some rest ↔ s = c :: rest := by
  cases s with
  | nil => simp [takeChar]
  | cons x tail =>
    simp only [takeChar, Option.ite_none_right_eq_some, Option.some.injEq, List.cons.injEq]

/-- A reader took characters of an address off a text. -/
def Taken (s rest : List Char) : Prop := ∃ front, s = front ++ rest ∧ ∀ c ∈ front, InAddress c

theorem Taken.refl (s : List Char) : Taken s s := ⟨[], rfl, nofun⟩

theorem Taken.trans {s t rest : List Char} (first : Taken s t) (second : Taken t rest) :
    Taken s rest := by
  obtain ⟨front, rfl, all⟩ := first
  obtain ⟨front', rfl, all'⟩ := second
  exact ⟨front ++ front', (List.append_assoc ..).symm, List.forall_mem_append.2 ⟨all, all'⟩⟩

theorem Taken.count_le {s rest : List Char} (taken : Taken s rest) (c : Char) :
    rest.count c ≤ s.count c := by
  obtain ⟨front, rfl, _⟩ := taken
  exact (List.suffix_append front rest).sublist.count_le c

theorem taken_mark {c : Char} (inside : InAddress c) (rest : List Char) : Taken (c :: rest) rest :=
  ⟨[c], rfl, List.forall_mem_singleton.2 inside⟩

theorem taken_digits {base : Nat} {ds : List Char} (known : base = 10 ∨ base = 16)
    (digits : ∀ c ∈ ds, (Text.digitValue base c).isSome) (rest : List Char) :
    Taken (ds ++ rest) rest := by
  refine ⟨ds, rfl, fun c member => .inr (.inr ?_)⟩
  obtain rfl | rfl := known
  · exact hex_of_decimal (digits c member)
  · exact digits c member

theorem takeByte_taken {b : UInt8} {s rest : List Char} (taken : takeByte s = some (b, rest)) :
    Taken s rest := by
  obtain ⟨ds, rfl, digits⟩ := takeByte_eq_some taken
  exact taken_digits (.inl rfl) digits rest

theorem takeIpv4_taken {ip : Ipv4} {s rest : List Char} (taken : takeIpv4 s = some (ip, rest)) :
    Taken s rest := by
  simp only [takeIpv4, Option.bind_eq_bind, Option.bind_eq_some_iff, Prod.exists,
    takeChar_eq_some] at taken
  obtain ⟨_, _, first, _, rfl, _, _, second, _, rfl, _, _, third, _, rfl, _, _, last, same⟩ := taken
  cases same
  have point (rest : List Char) : Taken ('.' :: rest) rest := taken_mark (.inr (.inl rfl)) rest
  exact (takeByte_taken first).trans ((point _).trans ((takeByte_taken second).trans ((point _).trans
    ((takeByte_taken third).trans ((point _).trans (takeByte_taken last))))))

theorem takeGroup_taken {g : UInt16} {s rest : List Char} (taken : takeGroup s = some (g, rest)) :
    Taken s rest := by
  obtain ⟨⟨n, tail⟩, number, same⟩ := Option.map_eq_some_iff.1 taken
  cases same
  obtain ⟨ds, rfl, digits⟩ := takeNumber_eq_some number
  exact taken_digits (.inr rfl) digits rest

/-- What a row of groups takes before its next group: a colon, unless that group is the first. -/
theorem row_step {first : Bool} {s tail : List Char}
    (here : (if first then some s else takeChar ':' s) = some tail) :
    Taken s tail ∧ s.count ':' + (if first then 2 else 1) = tail.count ':' + 2 := by
  cases first with
  | true =>
    obtain rfl := Option.some.inj here
    exact ⟨.refl s, rfl⟩
  | false =>
    obtain rfl := takeChar_eq_some.1 here
    exact ⟨taken_mark (.inl rfl) tail, by rw [List.count_cons_self]; rfl⟩

/-- Between two groups there is a colon; a dotted address counts as two groups. -/
theorem takeGroups_colons (first : Bool) (room : Nat) (s : List Char) :
    Taken s (takeGroups first room s).rest ∧
      (takeGroups first room s).groups.length + (takeGroups first room s).rest.count ':' ≤
        s.count ':' + if first then 2 else 1 := by
  have nothing (first : Bool) (s : List Char) :
      Taken s s ∧ 0 + s.count ':' ≤ s.count ':' + if first then 2 else 1 :=
    ⟨.refl s, by omega⟩
  fun_induction takeGroups first room s with
  | case1 first s => exact nothing first s
  | case2 first room s => exact nothing first s
  | case3 first room s tail here ip rest dotted =>
    obtain ⟨behind, colons⟩ := row_step here
    split at dotted
    · have address := takeIpv4_taken dotted
      have fewer := address.count_le ':'
      refine ⟨behind.trans address, ?_⟩
      simp only [List.length_cons, List.length_nil]
      omega
    · cases dotted
  | case4 first room s => exact nothing first s
  | case5 first s room tail here _ g rest group more ih =>
    obtain ⟨behind, colons⟩ := row_step here
    have one := takeGroup_taken group
    have fewer := one.count_le ':'
    obtain ⟨others, bound⟩ := ih
    refine ⟨behind.trans (one.trans others), ?_⟩
    simp only [List.length_cons, Bool.false_eq_true, if_false] at bound ⊢
    unfold more
    omega

/-- An IPv6 address is made of the characters of an address, and two of them at least are colons. -/
theorem takeIpv6_spec {ip : Ipv6} {s rest : List Char} (taken : takeIpv6 s = some (ip, rest)) :
    Taken s rest ∧ 2 ≤ s.count ':' := by
  obtain ⟨front, bound⟩ := takeGroups_colons true 8 s
  rw [if_pos rfl] at bound
  unfold takeIpv6 at taken
  dsimp only at taken
  split at taken
  · obtain ⟨_, _, same⟩ := Option.map_eq_some_iff.1 taken
    cases same
    exact ⟨front, by omega⟩
  · split at taken
    · cases taken
    · split at taken
      · rename_i tail colons
        obtain ⟨_, _, same⟩ := Option.map_eq_some_iff.1 taken
        cases same
        have colon (rest : List Char) : Taken (':' :: rest) rest := taken_mark (.inl rfl) rest
        have fewer := front.count_le ':'
        rw [colons] at front
        rw [colons, List.count_cons_self, List.count_cons_self] at fewer
        have back := (takeGroups_colons true (7 - (takeGroups true 8 s).groups.length) tail).1
        exact ⟨front.trans ((colon _).trans ((colon _).trans back)), by omega⟩
      · cases taken

theorem readIpv6_spec {s : String} (read : (readIpv6 s).isSome) :
    (∀ c ∈ s.toList, InAddress c) ∧ 2 ≤ s.toList.count ':' := by
  unfold readIpv6 whole at read
  split at read
  · rename_i ip taken
    obtain ⟨⟨front, all, inside⟩, colons⟩ := takeIpv6_spec taken
    rw [List.append_nil] at all
    exact ⟨all ▸ inside, colons⟩
  · cases read

theorem readIpv6_eq_none {s : String} (few : s.toList.count ':' < 2) : readIpv6 s = none := by
  rw [Option.eq_none_iff_forall_ne_some]
  intro ip read
  have many := (readIpv6_spec (Option.isSome_iff_exists.2 ⟨ip, read⟩)).2
  omega

theorem digit_range {c : Char} (digit : (Text.digitValue 10 c).isSome) :
    48 ≤ c.toNat ∧ c.toNat ≤ 57 := by
  unfold Text.digitValue at digit
  dsimp only at digit
  by_contra outside
  rw [if_neg outside] at digit
  have large : ¬ (if 97 ≤ c.toNat ∧ c.toNat ≤ 102 then c.toNat - 87
      else if 65 ≤ c.toNat ∧ c.toNat ≤ 70 then c.toNat - 55 else 16) < 10 := by
    split
    · omega
    · split <;> omega
  rw [if_neg large] at digit
  cases digit

theorem isBlank_of_digit {c : Char} (digit : (Text.digitValue 10 c).isSome) :
    Text.isBlank c = false := by
  have range := digit_range digit
  simp only [Text.isBlank, Bool.or_eq_false_iff, Bool.and_eq_false_iff, decide_eq_false_iff_not,
    beq_eq_false_iff_ne]
  omega

theorem portOrError_digits {ds : List Char} {port : UInt16}
    (digits : Text.digits 10 ds = some port.toNat) : portOrError ds = .ok port := by
  have read : Text.readNat 65536 ds = some port.toNat := by
    obtain ⟨_, all⟩ := Text.digitValue_isSome_of_digits digits
    unfold Text.readNat
    split
    · have sign := digit_range (all '+' List.mem_cons_self)
      exact absurd sign (by decide)
    · dsimp only
      rw [digits]
      exact if_pos port.toNat_lt
  unfold portOrError Text.readPort
  rw [String.toList_ofList, read, Option.map_some]
  simp

theorem no_mark_of_digits {ds : List Char} (all : ∀ c ∈ ds, (Text.digitValue 10 c).isSome)
    {mark : Char} (other : (Text.digitValue 10 mark).isSome = false) : mark ∉ ds := by
  intro member
  rw [all mark member] at other
  cases other

theorem trim_of_digits (front : List Char) {ds : List Char} (some : ds ≠ [])
    (all : ∀ c ∈ ds, (Text.digitValue 10 c).isSome) :
    Text.trimChars (front ++ ':' :: ds) = Text.dropStart Text.isBlank front ++ ':' :: ds := by
  have start : Text.dropStart Text.isBlank (front ++ ':' :: ds) =
      Text.dropStart Text.isBlank front ++ ':' :: ds := by
    have colon : (':' :: ds).dropWhile Text.isBlank = ':' :: ds :=
      List.dropWhile_cons_of_neg (by decide)
    unfold Text.dropStart
    rw [List.dropWhile_append, colon]
    split
    · rename_i nothing
      rw [List.isEmpty_iff.1 nothing, List.nil_append]
    · rfl
  rw [Text.trimChars, start]
  apply Text.dropEnd_eq_self
  intro c last
  obtain ⟨others, d, rfl⟩ := (List.eq_nil_or_concat ds).resolve_left some
  rw [List.concat_eq_append] at all last
  rw [← List.cons_append, ← List.append_assoc, List.getLast?_concat] at last
  obtain rfl := Option.some.inj last
  exact isBlank_of_digit (all d (List.mem_append_right _ List.mem_cons_self))

/-- A name that needs no brackets when a port follows it. -/
def Plain (host : List Char) : Prop := ∀ c ∈ host, c ≠ ':' ∧ c ≠ '[' ∧ Text.isBlank c = false

section split

variable {text : String} {host ds rest : List Char} {port : UInt16}

/-- A text with one colon, which no bracket opens, is cut there. -/
theorem splitHostPort_cut (trimmed : Text.trimChars text.toList = host ++ ':' :: ds)
    (one : ':' ∉ host) (bare : host.head? ≠ some '[')
    (digits : Text.digits 10 ds = some port.toNat) :
    splitHostPort text = .ok ⟨String.ofList host, some port⟩ := by
  obtain ⟨_, all⟩ := Text.digitValue_isSome_of_digits digits
  have no_colon : ':' ∉ ds := no_mark_of_digits all (by decide)
  have few : (String.ofList (host ++ ':' :: ds)).toList.count ':' < 2 := by
    rw [String.toList_ofList, List.count_append, List.count_cons_self, List.count_eq_zero.2 one,
      List.count_eq_zero.2 no_colon]
    decide
  unfold splitHostPort
  rw [trimmed]
  dsimp only
  split
  · rename_i nothing
    exact absurd (List.append_eq_nil_iff.1 nothing).2 nofun
  · rename_i rest start
    cases host with
    | nil => cases start
    | cons c host =>
      obtain ⟨rfl, _⟩ := List.cons.inj start
      exact absurd rfl bare
  · rw [readIpv6_eq_none few]
    have cut : Text.cutLast ':' (host ++ ':' :: ds) = Option.some (host, ds) :=
      Text.cutLast_eq_some.2 ⟨rfl, no_colon⟩
    rw [if_neg nofun, cut]
    dsimp only
    rw [portOrError_digits digits]
    rfl

theorem splitHostPort_plain (plain : Plain host) (digits : Text.digits 10 ds = some port.toNat) :
    splitHostPort (String.ofList (host ++ ':' :: ds)) = .ok ⟨String.ofList host, some port⟩ := by
  obtain ⟨some, all⟩ := Text.digitValue_isSome_of_digits digits
  have trimmed := trim_of_digits host some all
  rw [Text.dropStart_eq_self fun c first => (plain c (List.mem_of_head? first)).2.2] at trimmed
  refine splitHostPort_cut ?_ (fun member => (plain _ member).1 rfl) ?_ digits
  · rw [String.toList_ofList]
    exact trimmed
  · exact fun first => (plain _ (List.mem_of_head? first)).2.1 rfl

/-- A text that starts with a bracket is cut at the first that closes. -/
theorem splitHostPort_opened (trimmed : Text.trimChars text.toList = '[' :: rest) :
    splitHostPort text = match Text.cutFirst ']' rest with
      | none => .error (.parse ("missing ']' in address " ++ String.ofList ('[' :: rest)))
      | some (host, []) => .ok ⟨String.ofList host, none⟩
      | some (host, ':' :: port) => (portOrError port).map fun p => ⟨String.ofList host, some p⟩
      | some (_, _) => .error (.parse ("garbage after ']' in " ++ String.ofList ('[' :: rest))) := by
  unfold splitHostPort
  rw [trimmed]
  rfl

theorem trim_bracketed {text ds : List Char} (some : ds ≠ [])
    (all : ∀ c ∈ ds, (Text.digitValue 10 c).isSome) :
    Text.trimChars (String.ofList ('[' :: (text ++ ']' :: ':' :: ds))).toList =
      '[' :: (text ++ ']' :: ':' :: ds) := by
  rw [String.toList_ofList]
  have whole := trim_of_digits ('[' :: (text ++ [']'])) some all
  rw [Text.dropStart_eq_self (by rintro c ⟨⟩; decide)] at whole
  simpa only [List.cons_append, List.append_assoc, List.nil_append] using whole

theorem splitHostPort_bracketed (closed : ']' ∉ host)
    (digits : Text.digits 10 ds = some port.toNat) :
    splitHostPort (String.ofList ('[' :: (host ++ ']' :: ':' :: ds))) =
      .ok ⟨String.ofList host, some port⟩ := by
  obtain ⟨some, all⟩ := Text.digitValue_isSome_of_digits digits
  have cut : Text.cutFirst ']' (host ++ ']' :: ':' :: ds) = Option.some (host, ':' :: ds) :=
    Text.cutFirst_eq_some.2 ⟨rfl, closed⟩
  rw [splitHostPort_opened (trim_bracketed some all), cut]
  simp only [portOrError_digits digits]
  rfl

/-- What is found behind an opening bracket holds none that closes, and one follows it. -/
theorem closed_of_splitHostPort {place : HostPort}
    (trimmed : Text.trimChars text.toList = '[' :: rest) (split : splitHostPort text = .ok place) :
    ']' ∈ rest ∧ ']' ∉ place.host.toList := by
  rw [splitHostPort_opened trimmed] at split
  cases cut : Text.cutFirst ']' rest with
  | none =>
    rw [cut] at split
    cases split
  | some parts =>
    obtain ⟨front, back⟩ := parts
    obtain ⟨rfl, outside⟩ := Text.cutFirst_eq_some.1 cut
    refine ⟨List.mem_append_right _ List.mem_cons_self, ?_⟩
    rw [cut] at split
    suffices same : place.host = String.ofList front by rwa [same, String.toList_ofList]
    match back with
    | [] =>
      cases split
      rfl
    | c :: back =>
      by_cases colon : c = ':'
      · subst colon
        obtain ⟨_, _, rfl⟩ := map_eq_ok.1 split
        rfl
      · simp [colon] at split

theorem mem_of_splitHostPort {place : HostPort} (split : splitHostPort text = .ok place) {c : Char}
    (member : c ∈ place.host.toList) : c ∈ text.toList := by
  suffices inside : c ∈ Text.trimChars text.toList from
    (List.dropWhile_suffix _).mem ((Text.dropEnd_isPrefix _ _).mem inside)
  have whole {s : List Char} (member : c ∈ (String.ofList s).toList) : c ∈ s := by
    rwa [String.toList_ofList] at member
  unfold splitHostPort at split
  dsimp only at split
  split at split
  · cases split
  · rename_i rest opened
    rw [opened]
    have front {host behind : List Char} (cut : Text.cutFirst ']' rest = some (host, behind))
        (inside : c ∈ host) : c ∈ '[' :: rest := by
      rw [(Text.cutFirst_eq_some.1 cut).1]
      exact List.mem_cons_of_mem _ (List.mem_append_left _ inside)
    split at split
    · cases split
    · rename_i cut
      obtain rfl := Except.ok.inj split
      exact front cut (whole member)
    · rename_i cut
      obtain ⟨_, _, rfl⟩ := map_eq_ok.1 split
      exact front cut (whole member)
    · cases split
  · split at split
    · obtain rfl := Except.ok.inj split
      exact whole member
    · split at split
      · rename_i cut
        obtain ⟨_, _, rfl⟩ := map_eq_ok.1 split
        rw [(Text.cutLast_eq_some.1 cut).1]
        exact List.mem_append_left _ (whole member)
      · obtain rfl := Except.ok.inj split
        exact whole member

end split

/-- A host that is found again in front of a port: one with a colon is put in brackets, which none
of its own may close, and any other has to start with what is neither taken for a bracket nor
trimmed. -/
def Joinable (host : String) : Prop :=
  if ':' ∈ host.toList then ']' ∉ host.toList
  else ∀ c ∈ host.toList.head?, c ≠ '[' ∧ Text.isBlank c = false

section join

variable {host : String} {port : UInt16}

theorem joinHostPort_toList_of_colon (colon : ':' ∈ host.toList) :
    joinHostPort host port =
      String.ofList ('[' :: (host.toList ++ ']' :: ':' :: Text.numeral 10 port.toNat)) := by
  rw [joinHostPort, if_pos colon, ← String.toList_inj]
  simp [Text.decimal_toList]

theorem joinHostPort_toList_of_no_colon (one : ':' ∉ host.toList) :
    joinHostPort host port =
      String.ofList (host.toList ++ ':' :: Text.numeral 10 port.toNat) := by
  rw [joinHostPort, if_neg one, ← String.toList_inj]
  simp [Text.decimal_toList]

theorem splitHostPort_joinHostPort_of_colon (colon : ':' ∈ host.toList) :
    splitHostPort (joinHostPort host port) = .ok ⟨host, some port⟩ ↔ ']' ∉ host.toList := by
  have digits := Text.digits_numeral (by decide : 1 < 10) (by decide) port.toNat
  rw [joinHostPort_toList_of_colon colon]
  constructor
  · intro split
    obtain ⟨some, all⟩ := Text.digitValue_isSome_of_digits digits
    exact (closed_of_splitHostPort (trim_bracketed some all) split).2
  · intro closed
    have split := splitHostPort_bracketed closed digits
    rwa [String.ofList_toList] at split

theorem splitHostPort_joinHostPort_of_no_colon (one : ':' ∉ host.toList) :
    splitHostPort (joinHostPort host port) = .ok ⟨host, some port⟩ ↔
      ∀ c ∈ host.toList.head?, c ≠ '[' ∧ Text.isBlank c = false := by
  have digits := Text.digits_numeral (by decide : 1 < 10) (by decide) port.toNat
  obtain ⟨some, all⟩ := Text.digitValue_isSome_of_digits digits
  have trimmed := trim_of_digits host.toList some all
  have trimmed' : Text.trimChars (joinHostPort host port).toList = _ :=
    (congrArg Text.trimChars (by rw [joinHostPort_toList_of_no_colon one, String.toList_ofList])).trans
      trimmed
  have one' : ':' ∉ Text.dropStart Text.isBlank host.toList := fun member =>
    one ((List.dropWhile_suffix _).mem member)
  by_cases bare : (Text.dropStart Text.isBlank host.toList).head? = Option.some '['
  · obtain ⟨rest, opened⟩ := List.head?_eq_some_iff.1 bare
    rw [opened] at trimmed'
    refine iff_of_false (fun split => ?_) fun first => ?_
    · obtain ⟨closes, closed⟩ := closed_of_splitHostPort trimmed' split
      refine closed ((List.dropWhile_suffix Text.isBlank).mem ?_)
      rw [show host.toList.dropWhile Text.isBlank = '[' :: rest from opened]
      have not_behind : ']' ∉ ':' :: Text.numeral 10 port.toNat := by
        rw [List.mem_cons, not_or]
        exact ⟨by decide, no_mark_of_digits all (by decide)⟩
      exact List.mem_cons_of_mem _ ((List.mem_append.1 closes).resolve_right not_behind)
    · rw [Text.dropStart_eq_self fun c here => (first c here).2] at bare
      exact (first '[' bare).1 rfl
  · rw [splitHostPort_cut trimmed' one' bare digits]
    constructor
    · intro same
      have kept : Text.dropStart Text.isBlank host.toList = host.toList := by
        rw [← String.toList_ofList (l := Text.dropStart _ _)]
        exact congrArg String.toList (HostPort.mk.inj (Except.ok.inj same)).1
      rw [kept] at bare
      intro c first
      refine ⟨fun same => bare (same ▸ first), ?_⟩
      rw [← kept] at first
      exact Text.head_dropStart first
    · intro first
      rw [Text.dropStart_eq_self fun c here => (first c here).2, String.ofList_toList]

/-- Where the two ways to deal with a host and a port are inverse to each other. -/
theorem splitHostPort_joinHostPort_iff :
    splitHostPort (joinHostPort host port) = .ok ⟨host, some port⟩ ↔ Joinable host := by
  unfold Joinable
  split
  · rename_i colon
    exact splitHostPort_joinHostPort_of_colon colon
  · rename_i one
    exact splitHostPort_joinHostPort_of_no_colon one

end join

end ProxyGateway.Net
