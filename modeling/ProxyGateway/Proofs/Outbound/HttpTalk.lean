import Mathlib.Data.Bool.AllAny
import ProxyGateway.Proofs.Http.Written
import ProxyGateway.Proofs.Inbound.Access
import ProxyGateway.Proofs.Outbound.HttpRequest

namespace ProxyGateway.Outbound.HttpConnect

open Http (Header HeadText RequestHead Strict)
open Inbound (ProxyRequest visit)
open Net.Exchange

section head

variable {room : Nat} {got data : Bytes} {n : Nat}

theorem ends_iff : (Text.stripStart Http.headMark.reverse got).isSome ↔
    Http.headMark <:+ got.reverse := by
  rw [Option.isSome_iff_exists]
  constructor
  · rintro ⟨rest, found⟩
    rw [Text.stripStart_eq_some.1 found, List.reverse_append, List.reverse_reverse]
    exact List.suffix_append _ _
  · rintro ⟨front, whole⟩
    refine ⟨front.reverse, Text.stripStart_eq_some.2 ?_⟩
    rw [← List.reverse_append, whole, List.reverse_reverse]

theorem front_eq (b : UInt8) (got data : Bytes) :
    got.reverse ++ b :: data = (b :: got).reverse ++ data := by
  rw [List.reverse_cons, List.append_assoc, List.singleton_append]

theorem take_front (b : UInt8) (got data : Bytes) :
    (got.reverse ++ b :: data).take (got.length + 1) = (b :: got).reverse := by
  rw [front_eq, List.take_left' (by rw [List.length_reverse, List.length_cons])]

theorem goes_receiveHead_end {b : UInt8} (ends : Http.headMark <:+ (b :: got).reverse) :
    Goes (receiveHead (room + 1) got) (b :: data) ⟨.ok (b :: got).reverse, [], data⟩ := by
  have one : [b].length = 1 := rfl
  refine .receive one ?_
  change Goes (if (Text.stripStart Http.headMark.reverse (b :: got)).isSome then
    pure (b :: got).reverse else receiveHead room (b :: got)) _ _
  rw [if_pos (ends_iff.2 ends)]
  exact .finish

theorem goes_receiveHead_on {b : UInt8} {o : Ending Bytes}
    (on : ¬ Http.headMark <:+ (b :: got).reverse) (go : Goes (receiveHead room (b :: got)) data o) :
    Goes (receiveHead (room + 1) got) (b :: data) o := by
  have one : [b].length = 1 := rfl
  refine .receive one ?_
  change Goes (if (Text.stripStart Http.headMark.reverse (b :: got)).isSome then
    pure (b :: got).reverse else receiveHead room (b :: got)) _ _
  rw [if_neg fun ends => on (ends_iff.1 ends)]
  exact go

theorem goes_receiveHead (found : Http.headEnd (got.reverse ++ data) = some n)
    (more : got.length < n) (fits : n ≤ got.length + room) :
    Goes (receiveHead room got) data
      ⟨.ok ((got.reverse ++ data).take n), [], (got.reverse ++ data).drop n⟩ := by
  induction room generalizing got data with
  | zero => omega
  | succ room ih =>
    obtain ⟨long, mark, least⟩ := Http.headEnd_eq_some.1 found
    cases data with
    | nil =>
      rw [List.append_nil, List.length_reverse] at long
      omega
    | cons b data =>
      by_cases here : n = got.length + 1
      · rw [here, take_front] at mark
        rw [here, take_front, front_eq,
          List.drop_left' (by rw [List.length_reverse, List.length_cons])]
        exact goes_receiveHead_end mark
      · have on := least (got.length + 1) (by omega)
        rw [take_front] at on
        rw [front_eq] at found ⊢
        apply goes_receiveHead_on on
        exact ih found (by rw [List.length_cons]; omega) (by rw [List.length_cons]; omega)

theorem blockwise_receiveHead (room : Nat) (got : Bytes) : Blockwise (receiveHead room got) := by
  induction room generalizing got with
  | zero => exact .finish
  | succ room ih =>
    refine .receive fun block => ?_
    dsimp only
    split
    · exact .finish
    · exact ih _

theorem blockwise_connect (i : Socks.Identity) (target : String) : Blockwise (connect i target) :=
  .bind (blockwise_write _) fun _ => .bind (blockwise_receiveHead _ _) fun _ => .finish

end head

section answers

variable {i : Socks.Identity} {target : String} {answer rest : Bytes} {pieces : Stream}

theorem goes_connect {data : Bytes} {n : Nat} (found : Http.headEnd data = some n)
    (fits : n ≤ maxHead) : Goes (connect i target) data
      ⟨judge (data.take n), Bytes.ofText (request i target), data.drop n⟩ := by
  have head : Goes (receiveHead maxHead []) data ⟨.ok (data.take n), [], data.drop n⟩ := by
    refine goes_receiveHead (?_ : Http.headEnd (([] : Bytes).reverse ++ data) = some n) ?_ ?_
    · exact found
    · exact Http.headEnd_pos found
    · rwa [List.length_nil, Nat.zero_add]
  refine goes_write_bind.2 ⟨[], (List.append_nil _).symm, ?_⟩
  exact goes_bind.2 (.inl ⟨_, _, _, _, head, .finish, rfl⟩)

theorem run_of_headEnd (i : Socks.Identity) (target : String) {n : Nat}
    (found : Http.headEnd pieces.flatten = some n) (fits : n ≤ maxHead) :
    ((connect i target).run pieces).result = judge (pieces.flatten.take n) ∧
      ((connect i target).run pieces).sent = Bytes.ofText (request i target) ∧
      ((connect i target).run pieces).left.flatten = pieces.flatten.drop n := by
  have run := (blockwise_connect i target).run_goes pieces
  exact Ending.mk.inj ((blockwise_connect i target).goes_unique run (goes_connect found fits))

/-- A client that gets one head as an answer goes by it, and takes nothing more. -/
theorem run_connect {v : Except Error Unit} (one : Http.headEnd answer = some answer.length)
    (fits : answer.length ≤ maxHead) (judged : judge answer = v)
    (come : pieces.flatten = answer ++ rest) :
    ((connect i target).run pieces).result = v ∧
      ((connect i target).run pieces).sent = Bytes.ofText (request i target) ∧
      ((connect i target).run pieces).left.flatten = rest := by
  have found : Http.headEnd pieces.flatten = some answer.length := by
    rw [come]
    exact Http.headEnd_append one rest
  have run := run_of_headEnd i target found fits
  rw [come, List.take_left, List.drop_left, judged] at run
  exact run

theorem run_established (come : pieces.flatten = Inbound.established ++ rest) :
    ((connect i target).run pieces).result = .ok () ∧
      ((connect i target).run pieces).sent = Bytes.ofText (request i target) ∧
      ((connect i target).run pieces).left.flatten = rest :=
  run_connect (by decide +kernel) (by decide +kernel) (by decide +kernel) come

theorem run_authenticationRequired
    (come : pieces.flatten = Inbound.authenticationRequired ++ rest) :
    ((connect i target).run pieces).result = .error (.auth "Proxy authentication required") :=
  (run_connect (by decide +kernel) (by decide +kernel) (by decide +kernel) come).1

end answers

section request

variable {i : Socks.Identity} {target : String}

def requestHeaders (i : Socks.Identity) (target : String) : List Header :=
  [⟨Bytes.ofText "Host", Bytes.ofText target⟩,
    ⟨Bytes.ofText "Proxy-Connection", Bytes.ofText "keep-alive"⟩] ++
  ((authorization? i).map fun a => ⟨Bytes.ofText "Proxy-Authorization", Bytes.ofText a⟩).toList

def requestHead (i : Socks.Identity) (target : String) : RequestHead :=
  ⟨Bytes.ofText "CONNECT", target, requestHeaders i target⟩

def code (u p : String) : List Char :=
  Text.Base64.encode Text.Base64.standard true (Bytes.ofText (u ++ ":" ++ p))

def basic (u p : String) : String := "Basic " ++ String.ofList (code u p)

theorem authorization?_eq_some {a : String} :
    authorization? i = some a ↔ ∃ u p, i = ⟨some u, some p⟩ ∧ a = basic u p := by
  obtain ⟨_ | u, _ | p⟩ := i
  · simp [authorization?]
  · simp [authorization?]
  · simp [authorization?]
  · constructor
    · rintro ⟨⟩
      exact ⟨u, p, rfl, rfl⟩
    · rintro ⟨_, _, ⟨⟩, rfl⟩
      rfl

theorem code_ne_nil (u p : String) : code u p ≠ [] := by
  intro nothing
  have read := Text.Base64.decode_encode Text.Base64.Alphabet.lawful_standard true
    (Bytes.ofText (u ++ ":" ++ p))
  rw [show Text.Base64.encode _ true _ = [] from nothing] at read
  have empty : Bytes.ofText (u ++ ":" ++ p) = Bytes.ofText "" := (Option.some.inj read).symm
  have colon : ':' ∈ (u ++ ":" ++ p).toList := by simp
  rw [Text.Utf8.ofText_inj empty] at colon
  cases colon

theorem isValue_of_isTarget {b : UInt8} (legal : Http.isTarget b) :
    Http.isValue b ∧ Http.isGap b = false := by
  simp only [Http.isTarget, Bool.and_eq_true, decide_eq_true_eq, bne_iff_ne, ne_eq,
    UInt8.le_iff_toNat_le, show UInt8.toNat 33 = 33 from rfl] at legal
  obtain ⟨low, other⟩ := legal
  refine ⟨?_, ?_⟩
  · simp only [Http.isValue, Bool.or_eq_true, Bool.and_eq_true, decide_eq_true_eq, bne_iff_ne, ne_eq,
      UInt8.le_iff_toNat_le, show UInt8.toNat 32 = 32 from rfl]
    exact .inr ⟨by omega, other⟩
  · simp only [Http.isGap, Bool.or_eq_false_iff, beq_eq_false_iff_ne, ne_eq, ← UInt8.toNat_inj,
      show Http.space.toNat = 32 from rfl, show Http.tab.toNat = 9 from rfl]
    omega

theorem wellFormed_of_target {name value : Bytes} (named : Http.IsWord Http.isToken name)
    (legal : ∀ b ∈ value, Http.isTarget b) : Header.WellFormed ⟨name, value⟩ where
  name := named
  value b member := (isValue_of_isTarget (legal b member)).1
  first b first := (isValue_of_isTarget (legal b (List.mem_of_head? first))).2
  last b last := (isValue_of_isTarget (legal b (List.mem_of_getLast? last))).2

theorem wellFormed_basic {name value : Bytes} (named : Http.IsWord Http.isToken name)
    (some : value ≠ []) (legal : ∀ b ∈ value, Http.isTarget b) :
    Header.WellFormed ⟨name, Bytes.ofText "Basic " ++ value⟩ where
  name := named
  value := by
    have scheme : ∀ b ∈ Bytes.ofText "Basic ", Http.isValue b :=
      List.all_iff_forall_prop.1 (by decide)
    exact List.forall_mem_append.2 ⟨scheme, (wellFormed_of_target named legal).value⟩
  first := by
    rintro b ⟨⟩
    decide
  last b last := by
    rw [List.getLast?_append, Option.mem_def, Option.or_eq_some_iff] at last
    obtain last | ⟨nothing, _⟩ := last
    · exact (wellFormed_of_target named legal).last b last
    · exact absurd (List.getLast?_eq_none_iff.1 nothing) some

theorem ofText_code (u p : String) : Bytes.ofText (String.ofList (code u p)) ≠ [] ∧
    ∀ b ∈ Bytes.ofText (String.ofList (code u p)), Http.isTarget b := by
  refine ⟨fun nothing => ?_, Url.isTarget_of_visible ?_⟩
  · have empty : Bytes.ofText (String.ofList (code u p)) = Bytes.ofText "" := nothing
    have none := congrArg String.toList (Text.Utf8.ofText_inj empty)
    rw [String.toList_ofList] at none
    exact code_ne_nil u p none
  · rw [String.toList_ofList]
    exact visible_code _

theorem wellFormed_requestHeaders (legal : ∀ b ∈ Bytes.ofText target, Http.isTarget b) :
    ∀ h ∈ requestHeaders i target, h.WellFormed := by
  intro h member
  simp only [requestHeaders, List.cons_append, List.nil_append, List.mem_cons, Option.mem_toList,
    Option.map_eq_some_iff] at member
  obtain rfl | rfl | ⟨a, named, rfl⟩ := member
  · exact wellFormed_of_target (by decide) legal
  · exact wellFormed_of_target (by decide) (List.all_iff_forall_prop.1 (by decide))
  · obtain ⟨u, p, _, rfl⟩ := authorization?_eq_some.1 named
    obtain ⟨some, seen⟩ := ofText_code u p
    rw [basic, Text.Utf8.ofText_append]
    exact wellFormed_basic (by decide) some seen

theorem headText_request (aimed : Http.IsWord Http.isTarget (Bytes.ofText target)) :
    HeadText Strict (requestHead i target) (Bytes.ofText (request i target)) := by
  have named : Http.IsWord Http.isToken (Bytes.ofText "CONNECT") := by decide
  have first : Bytes.ofText ("CONNECT " ++ target ++ " HTTP/1.1") = Bytes.ofText "CONNECT" ++
      Http.space :: (Bytes.ofText target ++ Http.space :: (Http.versionStart ++ [49])) := by
    have start : Bytes.ofText "CONNECT " = Bytes.ofText "CONNECT" ++ [Http.space] := by decide
    have stop : Bytes.ofText " HTTP/1.1" = Http.space :: (Http.versionStart ++ [49]) := by decide
    rw [Text.Utf8.ofText_append, Text.Utf8.ofText_append, start, stop, List.append_assoc,
      List.append_assoc]
    rfl
  have whole : Bytes.ofText (request i target) =
      Bytes.ofText ("CONNECT " ++ target ++ " HTTP/1.1") ++
        (Http.crlf ++ ((requestHeaders i target).flatMap Http.written ++ Http.crlf)) := by
    have host : Bytes.ofText "Host: " = Bytes.ofText "Host" ++ Bytes.ofText ": " := by decide
    have keep : Bytes.ofText "Proxy-Connection: keep-alive" =
        Bytes.ofText "Proxy-Connection" ++ Bytes.ofText ": " ++ Bytes.ofText "keep-alive" := by
      decide
    have user : Bytes.ofText "Proxy-Authorization: " =
        Bytes.ofText "Proxy-Authorization" ++ Bytes.ofText ": " := by decide
    rw [request_eq, Http.closed, requestLines, requestHeaders]
    cases authorization? i with
    | none => simp [Http.written, Text.Utf8.ofText_append, host, keep]
    | some a => simp [Http.written, Text.Utf8.ofText_append, host, keep, user]
  rw [whole, first]
  exact .text (.line named aimed (.inr rfl)) rfl
    (Http.headerLines_written (wellFormed_requestHeaders aimed.2))

end request

section user

variable {u p : String}

theorem isBlank_of_visible {c : Char} (seen : Url.Visible c) : Text.isBlank c = false := by
  obtain ⟨low, high⟩ := seen
  simp only [Text.isBlank, Bool.or_eq_false_iff, Bool.and_eq_false_iff, decide_eq_false_iff_not,
    beq_eq_false_iff_ne]
  omega

theorem trim_basic {w : List Char} (some : w ≠ []) (solid : ∀ c ∈ w, Text.isBlank c = false) :
    Text.trimChars ("Basic ".toList ++ w) = "Basic ".toList ++ w := by
  have start : ∀ c ∈ ("Basic ".toList ++ w).head?, Text.isBlank c = false := by
    intro c first
    rw [List.head?_append, show "Basic ".toList.head? = Option.some 'B' by decide] at first
    cases first
    decide
  rw [Text.trimChars, Text.dropStart_eq_self start]
  apply Text.dropEnd_eq_self
  intro c last
  rw [List.getLast?_append, Option.mem_def, Option.or_eq_some_iff] at last
  obtain last | ⟨nothing, _⟩ := last
  · exact solid c (List.mem_of_getLast? last)
  · exact absurd (List.getLast?_eq_none_iff.1 nothing) some

theorem carries_basic (plain : ':' ∉ u.toList) : Inbound.Carries u p (Bytes.ofText (basic u p)) := by
  have solid : ∀ c ∈ code u p, Text.isBlank c = false := fun c member =>
    isBlank_of_visible (visible_code _ c member)
  have kept : Text.trimChars (code u p) = code u p := by
    rw [Text.trimChars, Text.dropStart_eq_self fun c first => solid c (List.mem_of_head? first),
      Text.dropEnd_eq_self fun c last => solid c (List.mem_of_getLast? last)]
  have split : (basic u p).toList = "Basic ".toList ++ code u p := by
    have tail : (String.ofList (code u p)).toList = code u p := String.toList_ofList
    rw [basic, String.toList_append, tail]
  refine .basic (.inl rfl) ?_ kept plain
  rw [split]
  exact trim_basic (code_ne_nil u p) solid

variable {i : Socks.Identity} {target : String}

theorem find_authorization :
    (requestHeaders i target).find? (·.key == Inbound.authorizationKey) =
      (authorization? i).map fun a => ⟨Bytes.ofText "Proxy-Authorization", Bytes.ofText a⟩ := by
  have host (value : Bytes) :
      ¬ ((Header.mk (Bytes.ofText "Host") value).key == Inbound.authorizationKey) := by
    have other : ¬ ((Header.mk (Bytes.ofText "Host") []).key == Inbound.authorizationKey) := by
      decide
    exact other
  have keep : ¬ ((Header.mk (Bytes.ofText "Proxy-Connection") (Bytes.ofText "keep-alive")).key ==
      Inbound.authorizationKey) := by decide
  have user (value : Bytes) :
      (Header.mk (Bytes.ofText "Proxy-Authorization") value).key == Inbound.authorizationKey := by
    have same : (Header.mk (Bytes.ofText "Proxy-Authorization") []).key ==
        Inbound.authorizationKey := by decide
    exact same
  change List.find? _ (_ :: _ :: _) = _
  rw [List.find?_cons_of_neg (by exact host _), List.find?_cons_of_neg (by exact keep)]
  cases authorization? i with
  | none => rfl
  | some a => exact List.find?_cons_of_pos (user _)

theorem carries_inj {text u' p' : String} (one : Inbound.Carries u p (Bytes.ofText text))
    (other : Inbound.Carries u' p' (Bytes.ofText text)) : u = u' ∧ p = p' := by
  rw [← Inbound.credentialsOf?_eq_some] at one other
  exact Prod.mk.inj (Option.some.inj (one.symm.trans other))

/-- A request carries the name and the password that its client has, and no others. -/
theorem firstCarries_iff (plain : ∀ name, i.username = some name → ':' ∉ name.toList) :
    Inbound.FirstCarries u p (requestHeaders i target) ↔ i = ⟨some u, some p⟩ := by
  unfold Inbound.FirstCarries
  rw [find_authorization]
  constructor
  · rintro ⟨_, found, carries⟩
    obtain ⟨a, named, rfl⟩ := Option.map_eq_some_iff.1 found
    obtain ⟨u', p', rfl, rfl⟩ := authorization?_eq_some.1 named
    dsimp only at carries
    obtain ⟨rfl, rfl⟩ := carries_inj carries (carries_basic (plain u' rfl))
    rfl
  · rintro rfl
    refine ⟨⟨Bytes.ofText "Proxy-Authorization", Bytes.ofText (basic u p)⟩, ?_, ?_⟩
    · rw [authorization?_eq_some.2 ⟨u, p, rfl, rfl⟩]
      rfl
    · dsimp only
      exact carries_basic (plain u rfl)

end user

/-- The client can name itself as one of the users, or need not. -/
def Admitted (users : List Credentials) (i : Socks.Identity) : Prop :=
  users = [] ∨ ∃ u p, i = ⟨some u, some p⟩ ∧ ⟨u, p⟩ ∈ users

def isNameChar (c : Char) : Bool := c.isAlphanum || c == '.' || c == '-' || c == '_'

/-- A host by its name, or by the text of an IPv6 address. -/
def HostText (host : String) : Prop :=
  (host ≠ "" ∧ ∀ c ∈ host.toList, isNameChar c) ∨ (Net.readIpv6 host).isSome

theorem visible_of_isNameChar {c : Char} (inside : isNameChar c) :
    Url.Visible c ∧ c ≠ '[' ∧ c ≠ ']' := by
  have code : 48 ≤ c.toNat ∧ c.toNat ≤ 57 ∨ 65 ≤ c.toNat ∧ c.toNat ≤ 90 ∨
      97 ≤ c.toNat ∧ c.toNat ≤ 122 ∨ c.toNat = 46 ∨ c.toNat = 45 ∨ c.toNat = 95 := by
    have classes : c.isAlphanum = (c.isUpper || c.isLower || c.isDigit) := rfl
    have capitals : c.isUpper = decide ('A'.val ≤ c.val ∧ c.val ≤ 'Z'.val) := rfl
    have smalls : c.isLower = (decide ('a'.val ≤ c.val) && decide (c.val ≤ 'z'.val)) := rfl
    have digits : c.isDigit = (decide ('0'.val ≤ c.val) && decide (c.val ≤ '9'.val)) := rfl
    simp only [isNameChar, classes, capitals, smalls, digits, Bool.or_eq_true, Bool.and_eq_true,
      decide_eq_true_eq, beq_iff_eq, UInt32.le_iff_toNat_le] at inside
    obtain ((((capital | small) | digit) | rfl) | rfl) | rfl := inside
    · exact .inr (.inl capital)
    · exact .inr (.inr (.inl small))
    · exact .inl digit
    · decide
    · decide
    · decide
  refine ⟨by unfold Url.Visible; omega, ?_, ?_⟩
  · rintro rfl
    revert code
    decide
  · rintro rfl
    revert code
    decide

theorem HostText.visible {host : String} (named : HostText host) :
    ∀ c ∈ host.toList, Url.Visible c ∧ c ≠ '[' ∧ c ≠ ']' := by
  intro c member
  obtain ⟨_, all⟩ | address := named
  · exact visible_of_isNameChar (all c member)
  · have inside := (Net.readIpv6_spec address).1 c member
    exact ⟨visible_of_inAddress inside, (Net.bare_of_inAddress inside).2⟩

theorem HostText.bare {host : String} (named : HostText host) : Text.Bare host := fun c member =>
  let ⟨seen, brackets⟩ := named.visible c member
  ⟨isBlank_of_visible seen, brackets⟩

theorem HostText.isTarget {host : String} (named : HostText host) (port : UInt16) :
    Http.IsWord Http.isTarget (Bytes.ofText (Net.joinHostPort host port)) := by
  apply Url.isWord_of_visiblePath
  have host_seen : ∀ c ∈ host.toList, Url.Visible c := fun c member => (named.visible c member).1
  have digits_seen := visible_decimal port.toNat
  unfold Net.joinHostPort
  split
  · have opening : ∀ c ∈ "[".toList, Url.Visible c := List.all_iff_forall_prop.1 (by decide)
    have closing : ∀ c ∈ "]:".toList, Url.Visible c := List.all_iff_forall_prop.1 (by decide)
    constructor
    · simp
    · simp only [String.toList_append, List.forall_mem_append]
      exact ⟨⟨⟨opening, host_seen⟩, closing⟩, digits_seen⟩
  · have colon : ∀ c ∈ ":".toList, Url.Visible c := List.all_iff_forall_prop.1 (by decide)
    constructor
    · simp
    · simp only [String.toList_append, List.forall_mem_append]
      exact ⟨⟨host_seen, colon⟩, digits_seen⟩

section agreement

variable {users : List Credentials} {i : Socks.Identity} {host : String} {port : UInt16}

variable (i port) in
theorem takeRequest_request (named : HostText host) (rest : Bytes) :
    Http.takeRequest Inbound.maxHeaders
        (Bytes.ofText (request i (Net.joinHostPort host port)) ++ rest) =
      .ok (requestHead i (Net.joinHostPort host port), rest) := by
  refine Http.takeRequest_strict (headText_request (named.isTarget port)) ?_ rest
  change (requestHeaders i _).length ≤ 64
  unfold requestHeaders
  cases authorization? i with
  | none => exact Nat.le_of_ble_eq_true rfl
  | some a => exact Nat.le_of_ble_eq_true rfl

theorem tunnel_joinHostPort (named : HostText host) :
    Inbound.tunnel (Net.joinHostPort host port) = .ok ⟨host, port, none⟩ := by
  unfold Inbound.tunnel
  rw [Net.splitHostPort_joinHostPort_iff.2 (joinable_of_bare named.bare)]
  rfl

theorem authorized_requestHeaders {target : String} (some : users ≠ [])
    (plain : ∀ name, i.username = .some name → ':' ∉ name.toList) :
    Inbound.authorized users (requestHeaders i target) = true ↔ Admitted users i := by
  rw [Inbound.authorized_iff, Admitted]
  constructor
  · rintro ⟨u, p, carries, known⟩
    exact .inr ⟨u, p, (firstCarries_iff plain).1 carries, known⟩
  · rintro (nobody | ⟨u, p, same, known⟩)
    · exact absurd nobody some
    · exact ⟨u, p, (firstCarries_iff plain).2 same, known⟩

theorem ofHead_admitted (named : HostText host)
    (plain : ∀ name, i.username = some name → ':' ∉ name.toList) (admitted : Admitted users i) :
    ProxyRequest.ofHead users (Bytes.ofText (request i (Net.joinHostPort host port))) =
      .ok ⟨host, port, none⟩ := by
  have read := takeRequest_request i port named []
  rw [List.append_nil] at read
  have connect : Inbound.isConnect (Bytes.ofText "CONNECT") = true := by decide
  refine Inbound.ofHead_eq_ok.2 ⟨_, [], read, fun some => ?_, ?_⟩
  · exact (authorized_requestHeaders some plain).2 admitted
  · exact (if_pos connect).trans (tunnel_joinHostPort named)

theorem ofHead_refused (named : HostText host)
    (plain : ∀ name, i.username = some name → ':' ∉ name.toList) (refused : ¬ Admitted users i) :
    ProxyRequest.ofHead users (Bytes.ofText (request i (Net.joinHostPort host port))) =
      .error (.auth "Proxy authentication required") := by
  have some : users ≠ [] := fun nobody => refused (.inl nobody)
  have read := takeRequest_request i port named []
  rw [List.append_nil] at read
  refine Inbound.ofHead_unknown read some ?_
  rw [← Bool.not_eq_true]
  exact fun known => refused ((authorized_requestHeaders some plain).1 known)

def answerTo : Except Error ProxyRequest → Bytes
  | .error e => Inbound.refusal e
  | .ok r => if r.forward = none then Inbound.established else []

/-- What the gateway tells a client that sends one request, and whatever behind it. -/
theorem reply_of_request (named : HostText host) (source : Net.SocketAddress) {socket : Stream}
    {more : Bytes} (sent : socket.flatten =
      Bytes.ofText (request i (Net.joinHostPort host port)) ++ more)
    (fits : (Bytes.ofText (request i (Net.joinHostPort host port))).length ≤ Inbound.maxHead) :
    (visit users source socket).reply = answerTo
      (ProxyRequest.ofHead users (Bytes.ofText (request i (Net.joinHostPort host port)))) := by
  obtain ⟨filled, other⟩ := Inbound.first_of_takeRequest (takeRequest_request i port named more)
  rw [← sent] at filled other
  have found := Http.headEnd_strict (headText_request (i := i) (named.isTarget port)) more
  rw [← sent] at found
  have start : socket.flatten.take (Bytes.ofText (request i (Net.joinHostPort host port))).length =
      Bytes.ofText (request i (Net.joinHostPort host port)) := by rw [sent, List.take_left]
  have verdict : (_, (visit users source socket).reply) = _ :=
    Inbound.visit_verdict source filled other
  rw [Inbound.httpVerdict_eq source found fits, start] at verdict
  refine (congrArg Prod.snd verdict).trans ?_
  cases ProxyRequest.ofHead users (Bytes.ofText (request i (Net.joinHostPort host port))) with
  | error e => rfl
  | ok r => rfl

variable {source : Net.SocketAddress} {socket pieces : Stream} {more rest : Bytes}

theorem talk_admitted (named : HostText host)
    (plain : ∀ name, i.username = some name → ':' ∉ name.toList)
    (fits : (Bytes.ofText (request i (Net.joinHostPort host port))).length ≤ Inbound.maxHead)
    (admitted : Admitted users i)
    (sent : socket.flatten = Bytes.ofText (request i (Net.joinHostPort host port)) ++ more)
    (come : pieces.flatten = (visit users source socket).reply ++ rest) :
    ((connect i (Net.joinHostPort host port)).run pieces).result = .ok () ∧
      ((connect i (Net.joinHostPort host port)).run pieces).left.flatten = rest := by
  rw [reply_of_request named source sent fits, ofHead_admitted named plain admitted] at come
  obtain ⟨done, _, left⟩ := run_established come
  exact ⟨done, left⟩

theorem talk_refused (named : HostText host)
    (plain : ∀ name, i.username = some name → ':' ∉ name.toList)
    (fits : (Bytes.ofText (request i (Net.joinHostPort host port))).length ≤ Inbound.maxHead)
    (refused : ¬ Admitted users i)
    (sent : socket.flatten = Bytes.ofText (request i (Net.joinHostPort host port)) ++ more)
    (come : pieces.flatten = (visit users source socket).reply ++ rest) :
    ((connect i (Net.joinHostPort host port)).run pieces).result =
      .error (.auth "Proxy authentication required") := by
  rw [reply_of_request named source sent fits, ofHead_refused named plain refused] at come
  exact run_authenticationRequired come

/-- The request for a host and a port is read as that, and granted to exactly the clients that are
admitted; the answer, however it is cut, lets these through with every byte behind it unread, and
tells any other that it has to name itself. -/
theorem request_and_answer_agree (named : HostText host)
    (plain : ∀ name, i.username = some name → ':' ∉ name.toList)
    (fits : (Bytes.ofText (request i (Net.joinHostPort host port))).length ≤ Inbound.maxHead) :
    let target := Net.joinHostPort host port
    let text := Bytes.ofText (request i target)
    let unknown : Error := .auth "Proxy authentication required"
    (Admitted users i ∧ ProxyRequest.ofHead users text = .ok ⟨host, port, none⟩ ∨
      ¬ Admitted users i ∧ ProxyRequest.ofHead users text = .error unknown) ∧
    ∀ source (socket pieces : Stream) more rest, socket.flatten = text ++ more →
      pieces.flatten = (visit users source socket).reply ++ rest →
      (Admitted users i ∧ ((connect i target).run pieces).result = .ok () ∧
          ((connect i target).run pieces).left.flatten = rest ∨
        ¬ Admitted users i ∧ ((connect i target).run pieces).result = .error unknown) := by
  by_cases admitted : Admitted users i
  · refine ⟨.inl ⟨admitted, ofHead_admitted named plain admitted⟩, ?_⟩
    intro source socket pieces more rest sent come
    exact .inl ⟨admitted, talk_admitted named plain fits admitted sent come⟩
  · refine ⟨.inr ⟨admitted, ofHead_refused named plain admitted⟩, ?_⟩
    intro source socket pieces more rest sent come
    exact .inr ⟨admitted, talk_refused named plain fits admitted sent come⟩

end agreement

def user : Socks.Identity := ⟨some "u", some "p"⟩

theorem user_gets_tunnel :
    ProxyRequest.ofHead Inbound.onlyUser (Bytes.ofText (request user (Net.joinHostPort "a" 443))) =
        .ok ⟨"a", 443, none⟩ ∧
      ((connect user (Net.joinHostPort "a" 443)).run
        [Inbound.established.take 7, Inbound.established.drop 7 ++ Bytes.ofText "hi"]).left.flatten =
          Bytes.ofText "hi" := by
  have named : HostText "a" := .inl ⟨by decide, List.all_iff_forall_prop.1 (by decide)⟩
  have plain : ∀ name, user.username = some name → ':' ∉ name.toList := by
    rintro _ ⟨⟩
    decide
  have fits : (Bytes.ofText (request user (Net.joinHostPort "a" 443))).length ≤ Inbound.maxHead := by
    decide +kernel
  have admitted : Admitted Inbound.onlyUser user := .inr ⟨"u", "p", rfl, List.mem_cons_self⟩
  obtain ⟨read, talk⟩ := @request_and_answer_agree Inbound.onlyUser user "a" 443 named plain fits
  have told : (visit Inbound.onlyUser Inbound.client
      [Bytes.ofText (request user (Net.joinHostPort "a" 443))]).reply = Inbound.established := by
    decide +kernel
  have heard := talk Inbound.client _
    [Inbound.established.take 7, Inbound.established.drop 7 ++ Bytes.ofText "hi"] [] (Bytes.ofText "hi")
    (by rw [List.flatten_singleton, List.append_nil]) (by rw [told]; decide)
  refine ⟨?_, ?_⟩
  · obtain ⟨_, granted⟩ | ⟨refused, _⟩ := read
    · exact granted
    · exact absurd admitted refused
  · obtain ⟨_, _, left⟩ | ⟨refused, _⟩ := heard
    · exact left
    · exact absurd admitted refused

end ProxyGateway.Outbound.HttpConnect
