import Mathlib.Data.Bool.AllAny
import ProxyGateway.Proofs.Net.HostPort
import ProxyGateway.Proofs.Url.Percent
import ProxyGateway.Proofs.Url.Target
import ProxyGateway.Url.Basic

namespace ProxyGateway.Url

/-- A host as the schemes that are not special keep it. -/
def Kept : Host → Prop
  | .v4 _ => False
  | .v6 _ => True
  | .name text => text ≠ "" ∧ ∀ c ∈ text.toList, isRefused c = false ∧ isControl c = false

theorem escape_ne_nil {inSet : Char → Bool} {s : List Char} (some : s ≠ []) :
    escape inSet s ≠ [] := by
  intro nothing
  obtain ⟨c, rest, rfl⟩ := List.exists_cons_of_ne_nil some
  have first := List.flatMap_eq_nil_iff.1 nothing c List.mem_cons_self
  split at first
  · obtain ⟨b, bytes, encoded⟩ := List.exists_cons_of_ne_nil (String.utf8EncodeChar_ne_nil (c := c))
    rw [encoded] at first
    cases first
  · cases first

theorem kept_of_bracketed {s : List Char} {host : Host} (found : bracketed? s = some (.ok host)) :
    Kept host := by
  unfold bracketed? at found
  split at found
  · split at found
    · split at found
      · cases found
        trivial
      · cases found
    · cases found
  · cases found

theorem kept_of_word {c : Char} (word : isWord c) : isRefused c = false ∧ isControl c = false := by
  have all : ∀ n < 128, isWord (Char.ofNat n) →
      isRefused (Char.ofNat n) = false ∧ isControl (Char.ofNat n) = false := by decide
  exact ascii_induction (fun c => isWord c → isRefused c = false ∧ isControl c = false) all
    (ascii_of_isWord word) word

theorem kept_of_plainHost {s : List Char} {host : Host} (done : plainHost s = .ok (some host)) :
    Kept host := by
  unfold plainHost at done
  cases bracket : bracketed? s with
  | some result =>
    rw [bracket] at done
    obtain ⟨found, rfl, same⟩ := map_eq_ok.1 done
    obtain rfl := Option.some.inj same
    exact kept_of_bracketed bracket
  | none =>
    rw [bracket] at done
    dsimp only at done
    split at done
    · cases done
    rename_i free
    split at done
    · cases done
    rename_i filled
    cases done
    refine ⟨fun nothing => escape_ne_nil filled (String.ofList_eq_empty_iff.1 nothing),
      fun c member => ?_⟩
    rw [String.toList_ofList] at member
    obtain rfl | word | ⟨among, plain⟩ := of_mem_escape member
    · decide
    · exact kept_of_word word
    · rw [Bool.not_eq_true, List.any_eq_false] at free
      exact ⟨by simpa using free c among, plain⟩

section inversion

theorem throw_bind (flaw : Flaw) (f : PUnit → Except Flaw α) :
    ((throw flaw : Except Flaw PUnit) >>= f) = .error flaw := rfl

theorem plainHost_of_readAuthority {scheme : String} {s rest : List Char} {a : Authority}
    (plain : isSpecial scheme = false) (done : readAuthority scheme s = .ok (a, rest)) :
    ∃ text, plainHost text = .ok a.host := by
  simp only [readAuthority, plain, throw_bind, Bool.false_eq_true, false_and, if_false] at done
  cases user : splitUser false s
  all_goals
    simp only [user] at done
    split at done
    · cases done
    obtain ⟨host, of_text, done⟩ := bind_eq_ok.1 done
    refine ⟨_, of_text.trans (congrArg _ ?_)⟩
    split at done
    · cases done
    split at done
    all_goals
      obtain ⟨place, _, done⟩ := bind_eq_ok.1 done
      split at done
      · cases done
      · cases done
        rfl

theorem kept_of_readWhom {scheme : String} {s path rest : List Char} {a : Authority} {host : Host}
    (plain : isSpecial scheme = false) (done : readWhom scheme s = .ok (some a, path, rest))
    (found : a.host = some host) : Kept host := by
  have no_file : scheme ≠ "file" := by
    rintro rfl
    exact absurd plain (by decide)
  unfold readWhom at done
  rw [if_neg no_file, if_neg (by rw [plain]; exact Bool.false_ne_true)] at done
  split at done
  · obtain ⟨⟨read, behind⟩, of_authority, same⟩ := bind_eq_ok.1 done
    obtain ⟨same_authority, _⟩ := Prod.mk.inj (Except.ok.inj same)
    obtain rfl := Option.some.inj same_authority
    obtain ⟨text, kept⟩ := plainHost_of_readAuthority plain of_authority
    exact kept_of_plainHost (kept.trans (congrArg _ found))
  · cases (Prod.mk.inj (Except.ok.inj done)).1

theorem kept_of_read {text : String} {u : Url} {host : Host} (done : read text = .ok u)
    (plain : isSpecial u.scheme = false) (found : u.host? = some host) : Kept host := by
  unfold read at done
  split at done
  · cases done
  rename_i scheme rest _
  obtain ⟨⟨authority, path, tail⟩, whom, done⟩ := bind_eq_ok.1 done
  obtain rfl := Except.ok.inj done
  obtain ⟨a, rfl, of_authority⟩ := Option.bind_eq_some_iff.1 found
  exact kept_of_readWhom plain whom of_authority

end inversion

section scheme

variable {front rest : List Char}

theorem clean_front (solid : ∀ c ∈ front, 0x20 < c.toNat) (rest : List Char) :
    ∃ tail, clean (front ++ ':' :: rest) = front ++ ':' :: tail := by
  have started : Text.dropStart (·.toNat ≤ 0x20) (front ++ ':' :: rest) = front ++ ':' :: rest := by
    refine Text.dropStart_eq_self fun c first => ?_
    rw [decide_eq_false_iff_not, Nat.not_le]
    cases front with
    | nil =>
      cases first
      decide
    | cons d front =>
      cases first
      exact solid c List.mem_cons_self
  have kept : front.filter (!isBreak ·) = front := by
    refine List.filter_eq_self.2 fun c member => ?_
    have large := solid c member
    have mark (d : Char) (small : d.toNat ≤ 0x20) : c ≠ d := by
      rintro rfl
      omega
    simp [isBreak, mark '\t' (by decide), mark '\n' (by decide), mark '\r' (by decide)]
  refine ⟨(Text.dropEnd (·.toNat ≤ 0x20) rest).filter (!isBreak ·), ?_⟩
  rw [clean, started, Text.dropEnd_append_cons (by decide), List.filter_append, kept,
    List.filter_cons_of_pos (by decide)]

theorem scheme_of_read {text : String} {u : Url} (chars : text.toList = front ++ ':' :: rest)
    (solid : ∀ c ∈ front, 0x20 < c.toNat) (no_colon : ':' ∉ front) (done : read text = .ok u) :
    u.scheme = String.ofList (front.map Text.lowerChar) := by
  obtain ⟨tail, cleaned⟩ := clean_front solid rest
  have cut : Text.cutFirst ':' (front ++ ':' :: tail) = some (front, tail) :=
    Text.cutFirst_eq_some.2 ⟨rfl, no_colon⟩
  unfold read splitScheme at done
  rw [chars, cleaned, cut] at done
  cases front with
  | nil => cases done
  | cons c front =>
    dsimp only at done
    split at done
    · cases done
    · rename_i scheme rest found
      obtain ⟨_, _, done⟩ := bind_eq_ok.1 done
      obtain rfl := Except.ok.inj done
      split at found
      · exact (Prod.mk.inj (Option.some.inj found)).1.symm
      · cases found

end scheme

def shown : Host → List Char
  | .v6 ip => '[' :: (ip.toText.toList ++ [']'])
  | host => host.toText.toList

section shown

variable {host : Host}

theorem Kept.plain_name {text : String} (kept : Kept (.name text)) {mark : Char}
    (refused : isRefused mark = true) : mark ∉ text.toList := by
  intro member
  rw [(kept.2 mark member).1] at refused
  cases refused

theorem colon_mem_toText (ip : Net.Ipv6) : ':' ∈ ip.toText.toList := by
  have many := (Net.readIpv6_spec (Option.isSome_iff_exists.2 ⟨ip, Net.readIpv6_toText ip⟩)).2
  exact List.count_pos_iff.1 (by omega)

theorem inAddress_ipv6 (ip : Net.Ipv6) : ∀ c ∈ ip.toText.toList, Net.InAddress c :=
  Net.inAddress_toText (.v6 ip)

theorem Kept.joinHostPort_toList (kept : Kept host) (port : UInt16) :
    (Net.joinHostPort host.toText port).toList =
      shown host ++ ':' :: Text.numeral 10 port.toNat := by
  cases host with
  | v4 ip => cases kept
  | v6 ip =>
    rw [Host.toText, Net.joinHostPort_toList_of_colon (colon_mem_toText ip), String.toList_ofList]
    simp [shown]
  | name text =>
    rw [Host.toText, Net.joinHostPort_toList_of_no_colon (kept.plain_name (by decide)),
      String.toList_ofList]
    rfl

def InHost (c : Char) : Prop :=
  endsAuthority false c = false ∧ c ≠ '@' ∧ 33 ≤ c.toNat ∧ c.toNat ≤ 126

theorem inHost_address {c : Char} (inside : Net.InAddress c) : InHost c := by
  have range := inside.range
  have mark (d : Char) (other : ¬ Net.InAddress d) : c ≠ d := fun same => other (same ▸ inside)
  have ends : endsAuthority false c = false := by
    simp [endsAuthority, isSlash, mark '/' (by decide), mark '?' (by decide), mark '#' (by decide)]
  exact ⟨ends, mark '@' (by decide), by omega, by omega⟩

theorem inHost_name {c : Char} (allowed : isRefused c = false) (plain : isControl c = false) :
    InHost c := by
  have mark (d : Char) (other : isRefused d = true) : c ≠ d := by
    rintro rfl
    rw [allowed] at other
    cases other
  have ends : endsAuthority false c = false := by
    simp [endsAuthority, isSlash, mark '/' (by decide), mark '?' (by decide), mark '#' (by decide)]
  have visible := visible_of_not_control plain (mark ' ' (by decide))
  exact ⟨ends, mark '@' (by decide), visible.1, visible.2⟩

theorem Kept.inHost (kept : Kept host) : ∀ c ∈ shown host, InHost c := by
  cases host with
  | v4 ip => cases kept
  | v6 ip =>
    have bracket : InHost '[' ∧ InHost ']' := by
      unfold InHost
      decide
    simp only [shown, List.forall_mem_cons, List.forall_mem_append]
    exact ⟨bracket.1, fun c member => inHost_address (inAddress_ipv6 ip c member), bracket.2, nofun⟩
  | name text => exact fun c member => inHost_name (kept.2 c member).1 (kept.2 c member).2

/-- A host that a link keeps is found again in front of a port. -/
theorem Kept.joinable (kept : Kept host) : Net.Joinable host.toText := by
  unfold Net.Joinable
  cases host with
  | v4 ip => cases kept
  | v6 ip =>
    rw [Host.toText, if_pos (colon_mem_toText ip)]
    exact fun member => (Net.bare_of_inAddress (inAddress_ipv6 ip _ member)).2.2 rfl
  | name text =>
    rw [Host.toText, if_neg (kept.plain_name (by decide))]
    intro c first
    have member := List.mem_of_mem_head? first
    obtain ⟨_, _, low, high⟩ := kept.inHost c member
    refine ⟨?_, ?_⟩
    · rintro rfl
      exact kept.plain_name (by decide) member
    · simp only [Text.isBlank, Bool.or_eq_false_iff, Bool.and_eq_false_iff,
        decide_eq_false_iff_not, beq_eq_false_iff_ne]
      omega

theorem Kept.plainHost_shown (kept : Kept host) : plainHost (shown host) = .ok (some host) := by
  unfold plainHost
  cases host with
  | v4 ip => cases kept
  | v6 ip =>
    have read : bracketed? (shown (.v6 ip)) = some (.ok (.v6 ip)) := by
      unfold bracketed? shown
      simp [Net.readIpv6_toText]
    rw [read]
    rfl
  | name text =>
    have chars : shown (.name text) = text.toList := rfl
    have no_bracket : '[' ∉ text.toList := kept.plain_name (by decide)
    have start : bracketed? text.toList = none := by
      unfold bracketed?
      split
      · rename_i opened
        exact absurd (opened ▸ List.mem_cons_self) no_bracket
      · rfl
    have allowed : text.toList.any isRefused = false :=
      List.any_eq_false.2 fun c member => by simp [(kept.2 c member).1]
    have filled : text.toList ≠ [] := fun nothing => kept.1 (String.toList_eq_nil_iff.1 nothing)
    rw [chars, start]
    dsimp only
    rw [allowed, if_neg Bool.false_ne_true, if_neg filled, escape_eq_self fun c member =>
      (kept.2 c member).2, String.ofList_toList]

theorem spanHost_name {s : List Char}
    (free : ∀ c ∈ s, endsAuthority false c = false ∧ c ≠ ':' ∧ c ≠ '[') (rest : List Char) :
    spanHost false false (s ++ ':' :: rest) = (s, ':' :: rest) := by
  induction s with
  | nil => rfl
  | cons c s ih =>
    rw [List.forall_mem_cons] at free
    obtain ⟨⟨stays, no_colon, no_bracket⟩, others⟩ := free
    simp [spanHost, stays, no_colon, no_bracket, ih others]

theorem spanHost_inside {s : List Char}
    (free : ∀ c ∈ s, endsAuthority false c = false ∧ c ≠ '[' ∧ c ≠ ']') (rest : List Char) :
    spanHost false true (s ++ ']' :: ':' :: rest) = (s ++ [']'], ':' :: rest) := by
  induction s with
  | nil => rfl
  | cons c s ih =>
    rw [List.forall_mem_cons] at free
    obtain ⟨⟨stays, no_open, no_close⟩, others⟩ := free
    simp [spanHost, stays, no_open, no_close, ih others]

theorem Kept.spanHost_shown (kept : Kept host) (rest : List Char) :
    spanHost false false (shown host ++ ':' :: rest) = (shown host, ':' :: rest) := by
  cases host with
  | v4 ip => cases kept
  | v6 ip =>
    have inside := spanHost_inside (s := ip.toText.toList) (fun c member => by
      have address := inAddress_ipv6 ip c member
      exact ⟨(inHost_address address).1, (Net.bare_of_inAddress address).2⟩) rest
    have opened : endsAuthority false '[' = false := by decide
    simp [shown, spanHost, opened, inside]
  | name text =>
    refine spanHost_name (fun c member => ?_) rest
    have mark {d : Char} (refused : isRefused d = true) : c ≠ d := by
      rintro rfl
      exact kept.plain_name refused member
    exact ⟨(kept.inHost c member).1, mark (by decide), mark (by decide)⟩

end shown

section written

variable {host : Host} {port : UInt16} {user query fragment : String}

theorem readPort_numeral {scheme : String} (none_implied : defaultPort? scheme = none)
    (port : UInt16) (rest : List Char) :
    readPort scheme (Text.numeral 10 port.toNat ++ '?' :: rest) = .ok (some port, '?' :: rest) := by
  have digit : ∀ c ∈ Text.numeral 10 port.toNat, (decide ('0' ≤ c) && decide (c ≤ '9')) = true := by
    intro c member
    have inside := Text.isDigit_of_mem_numeral member
    simpa [Char.isDigit, Char.le_def] using inside
  have taken : (Text.numeral 10 port.toNat ++ '?' :: rest).takeWhile
      (fun c => decide ('0' ≤ c) && decide (c ≤ '9')) = Text.numeral 10 port.toNat := by
    rw [List.takeWhile_append_of_pos digit, List.takeWhile_cons_of_neg (by decide),
      List.append_nil]
  have bound : ¬ 65535 < port.toNat := Nat.not_lt.2 (Nat.le_of_lt_succ port.toNat_lt)
  simp [readPort, readPort.finish, taken, Text.digits_numeral, bound, Text.numeral_ne_nil,
    none_implied]

def behindSlashes (user : String) (host : Host) (port : UInt16) (rest : List Char) : List Char :=
  user.toList ++ '@' :: (shown host ++ ':' :: (Text.numeral 10 port.toNat ++ '?' :: rest))

theorem endsAuthority_component {c : Char} (inside : InComponent c) :
    endsAuthority false c = false := by
  have mark (d : Char) (other : ¬ InComponent d) : c ≠ d := fun same => other (same ▸ inside)
  simp [endsAuthority, isSlash, mark '/' (by decide), mark '?' (by decide), mark '#' (by decide)]

theorem digit_of_mem_numeral {n : Nat} {c : Char} (member : c ∈ Text.numeral 10 n) :
    (Text.digitValue 10 c).isSome :=
  Text.digitValue_isSome_of_mem_numeral (by decide) (by decide) member

theorem splitUser_behindSlashes (kept : Kept host) (escaped : ∀ c ∈ user.toList, InComponent c)
    (rest : List Char) :
    splitUser false (behindSlashes user host port rest) =
      some (user.toList, shown host ++ ':' :: (Text.numeral 10 port.toNat ++ '?' :: rest)) := by
  have place : ∀ c ∈ shown host ++ ':' :: Text.numeral 10 port.toNat, InHost c := by
    rw [List.forall_mem_append, List.forall_mem_cons]
    refine ⟨kept.inHost, by unfold InHost; decide, fun c member => inHost_address ?_⟩
    exact .inr (.inr (Net.hex_of_decimal (digit_of_mem_numeral member)))
  have front : ∀ c ∈ user.toList ++ '@' :: (shown host ++ ':' :: Text.numeral 10 port.toNat),
      (!endsAuthority false c) = true := by
    rw [List.forall_mem_append, List.forall_mem_cons]
    exact ⟨fun c member => by rw [endsAuthority_component (escaped c member)]; rfl, by decide,
      fun c member => by rw [(place c member).1]; rfl⟩
  have whole : behindSlashes user host port rest =
      (user.toList ++ '@' :: (shown host ++ ':' :: Text.numeral 10 port.toNat)) ++ '?' :: rest := by
    simp [behindSlashes]
  have chunk : (behindSlashes user host port rest).takeWhile (!endsAuthority false ·) =
      user.toList ++ '@' :: (shown host ++ ':' :: Text.numeral 10 port.toNat) := by
    rw [whole, List.takeWhile_append_of_pos front, List.takeWhile_cons_of_neg (by decide),
      List.append_nil]
  have cut : Text.cutLast '@'
      (user.toList ++ '@' :: (shown host ++ ':' :: Text.numeral 10 port.toNat)) =
      some (user.toList, shown host ++ ':' :: Text.numeral 10 port.toNat) :=
    Text.cutLast_eq_some.2 ⟨rfl, fun member => (place _ member).2.1 rfl⟩
  simp only [splitUser, chunk, cut, Option.map_some]
  rw [whole, List.drop_left]
  simp

theorem readUser_component (escaped : ∀ c ∈ user.toList, InComponent c) :
    readUser user.toList = (user, none) := by
  have no_colon : Text.cutFirst ':' user.toList = none :=
    Text.cutFirst_eq_none.2 fun member => absurd (escaped _ member) (by decide)
  rw [readUser, no_colon]
  dsimp only
  rw [escape_eq_self fun c member => (escaped c member).free.1, String.ofList_toList]

theorem readAuthority_written {scheme : String} (plain : isSpecial scheme = false)
    (kept : Kept host) (filled : user ≠ "") (escaped : ∀ c ∈ user.toList, InComponent c)
    (rest : List Char) :
    readAuthority scheme (behindSlashes user host port rest) =
      .ok (⟨user, none, some host, some port⟩, '?' :: rest) := by
  have none_implied : defaultPort? scheme = none := by
    simp only [isSpecial, Bool.or_eq_false_iff, Option.isSome_eq_false_iff,
      Option.isNone_iff_eq_none] at plain
    exact plain.1
  have chars : user.toList ≠ [] := fun nothing => filled (String.toList_eq_nil_iff.1 nothing)
  simp only [readAuthority, plain, throw_bind, splitUser_behindSlashes kept escaped,
    Bool.false_eq_true, false_and, if_false, Option.some.injEq, chars, Option.getD_some,
    readUser_component escaped, kept.spanHost_shown, kept.plainHost_shown,
    readPort_numeral none_implied]
  rfl

/-- Nothing is cleaned off a text of visible characters. -/
theorem clean_eq_self {s : List Char} (seen : ∀ c ∈ s, Visible c) : clean s = s := by
  have large {c : Char} (member : c ∈ s) : decide (c.toNat ≤ 0x20) = false := by
    have bound := (seen c member).1
    rw [decide_eq_false_iff_not]
    omega
  have solid : ∀ c ∈ s, (!isBreak c) = true := by
    intro c member
    have bound := (seen c member).1
    have mark (d : Char) (small : d.toNat < 33) : c ≠ d := by
      rintro rfl
      omega
    simp [isBreak, mark '\t' (by decide), mark '\n' (by decide), mark '\r' (by decide)]
  rw [clean, Text.dropStart_eq_self fun c first => large (List.mem_of_mem_head? first),
    Text.dropEnd_eq_self fun c last => large (List.mem_of_mem_getLast? last),
    List.filter_eq_self.2 solid]

theorem visible_component {c : Char} (inside : InComponent c) : Visible c := by
  have free := inside.free.2.1
  simp only [inFragment, Bool.or_eq_false_iff, beq_eq_false_iff_ne] at free
  obtain ⟨⟨⟨⟨⟨control, blank⟩, _⟩, _⟩, _⟩, _⟩ := free
  exact visible_of_not_control control blank

theorem visible_of_not_inQuery {c : Char} (free : inQuery c = false) : Visible c := by
  simp only [inQuery, Bool.or_eq_false_iff, beq_eq_false_iff_ne] at free
  obtain ⟨⟨⟨⟨⟨control, blank⟩, _⟩, _⟩, _⟩, _⟩ := free
  exact visible_of_not_control control blank

theorem visible_behindSlashes (kept : Kept host) (escaped : ∀ c ∈ user.toList, InComponent c)
    {rest : List Char} (seen : ∀ c ∈ rest, Visible c) :
    ∀ c ∈ behindSlashes user host port rest, Visible c := by
  simp only [behindSlashes, List.forall_mem_append, List.forall_mem_cons]
  refine ⟨fun c member => visible_component (escaped c member), by decide,
    fun c member => (kept.inHost c member).2.2, by decide, fun c member => ?_, by decide, seen⟩
  exact (inHost_address (.inr (.inr (Net.hex_of_decimal (digit_of_mem_numeral member))))).2.2

theorem splitScheme_trojan (rest : List Char) :
    splitScheme ("trojan".toList ++ ':' :: rest) = some ("trojan", rest) := by
  have cut : Text.cutFirst ':' ("trojan".toList ++ ':' :: rest) = some ("trojan".toList, rest) :=
    Text.cutFirst_eq_some.2 ⟨rfl, by decide⟩
  rw [splitScheme, cut]
  rfl

theorem readTail_written (query_escaped : ∀ c ∈ query.toList, inQuery c = false)
    (fragment_escaped : ∀ c ∈ fragment.toList, InComponent c) :
    readTail false ('?' :: (query.toList ++ '#' :: fragment.toList)) =
      (some query, some fragment) := by
  have no_mark : '#' ∉ '?' :: query.toList := by
    rw [List.mem_cons, not_or]
    exact ⟨by decide, fun member => absurd (query_escaped _ member) (by decide)⟩
  have cut : Text.cutFirst '#' ('?' :: (query.toList ++ '#' :: fragment.toList)) =
      some ('?' :: query.toList, fragment.toList) := Text.cutFirst_eq_some.2 ⟨rfl, no_mark⟩
  have fragment_free : ∀ c ∈ fragment.toList, inFragment c = false := fun c member =>
    (fragment_escaped c member).free.2.1
  simp only [readTail, cut, Bool.false_eq_true, if_false, escape_eq_self query_escaped,
    escape_eq_self fragment_free, String.ofList_toList]

/-- A link of the scheme `trojan` is read as the parts that it was put together from. -/
theorem read_written (kept : Kept host) (filled : user ≠ "")
    (user_escaped : ∀ c ∈ user.toList, InComponent c)
    (query_escaped : ∀ c ∈ query.toList, inQuery c = false)
    (fragment_escaped : ∀ c ∈ fragment.toList, InComponent c) :
    read ("trojan://" ++ user ++ "@" ++ Net.joinHostPort host.toText port ++ "?" ++ query ++ "#" ++
        fragment) =
      .ok ⟨"trojan", some ⟨user, none, some host, some port⟩, "", some query, some fragment⟩ := by
  have chars : ("trojan://" ++ user ++ "@" ++ Net.joinHostPort host.toText port ++ "?" ++ query ++
      "#" ++ fragment).toList = "trojan".toList ++ ':' :: ('/' :: '/' ::
        behindSlashes user host port (query.toList ++ '#' :: fragment.toList)) := by
    have scheme : "trojan://".toList = "trojan".toList ++ [':', '/', '/'] := rfl
    simp [behindSlashes, kept.joinHostPort_toList, scheme]
  have seen : ∀ c ∈ "trojan".toList ++ ':' :: ('/' :: '/' ::
      behindSlashes user host port (query.toList ++ '#' :: fragment.toList)), Visible c := by
    have behind : ∀ c ∈ query.toList ++ '#' :: fragment.toList, Visible c := by
      rw [List.forall_mem_append, List.forall_mem_cons]
      exact ⟨fun c member => visible_of_not_inQuery (query_escaped c member), by decide,
        fun c member => visible_component (fragment_escaped c member)⟩
    rw [List.forall_mem_append, List.forall_mem_cons, List.forall_mem_cons, List.forall_mem_cons]
    exact ⟨List.all_iff_forall_prop.1 (by decide), by decide, by decide, by decide,
      visible_behindSlashes kept user_escaped behind⟩
  have whom : readWhom "trojan" ('/' :: '/' ::
      behindSlashes user host port (query.toList ++ '#' :: fragment.toList)) =
        .ok (some ⟨user, none, some host, some port⟩, [],
          '?' :: (query.toList ++ '#' :: fragment.toList)) := by
    have plain : isSpecial "trojan" = false := by decide
    rw [readWhom, if_neg (by decide), if_neg (by decide)]
    simp only [readAuthority_written plain kept filled user_escaped]
    rfl
  have tail := readTail_written query_escaped fragment_escaped
  rw [read, chars, clean_eq_self seen, splitScheme_trojan]
  dsimp only
  rw [whom]
  exact congrArg (fun t : Option String × Option String => Except.ok (Url.mk "trojan"
    (some ⟨user, none, some host, some port⟩) "" t.1 t.2)) tail

end written

end ProxyGateway.Url
