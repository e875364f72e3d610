import ProxyGateway.Outbound.HttpConnect
import ProxyGateway.Proofs.Http.Lines
import ProxyGateway.Proofs.Inbound.Pieces
import ProxyGateway.Proofs.Net.HostPort
import ProxyGateway.Proofs.Text.Base64
import ProxyGateway.Proofs.Url.Target

namespace ProxyGateway.Outbound.HttpConnect

open Net (Address)

def requestLines (i : Socks.Identity) (target : String) : List Bytes :=
  [Bytes.ofText ("CONNECT " ++ target ++ " HTTP/1.1"), Bytes.ofText ("Host: " ++ target),
    Bytes.ofText "Proxy-Connection: keep-alive"] ++
  ((authorization? i).map fun a => Bytes.ofText ("Proxy-Authorization: " ++ a)).toList

/-- A destination that can stand in a line, and is found again in front of a port. -/
def Tame : Address → Prop
  | .literal _ => True
  | .domain name => ¬ Http.crlf <:+: Bytes.ofText name ∧ Net.Joinable name

theorem request_eq (i : Socks.Identity) (target : String) :
    Bytes.ofText (request i target) = Http.closed (requestLines i target) := by
  have first : Bytes.ofText " HTTP/1.1\r\nHost: " =
      Bytes.ofText " HTTP/1.1" ++ (Http.crlf ++ Bytes.ofText "Host: ") := by decide
  have second : Bytes.ofText "\r\nProxy-Connection: keep-alive\r\n" =
      Http.crlf ++ (Bytes.ofText "Proxy-Connection: keep-alive" ++ Http.crlf) := by decide
  have last : Bytes.ofText "\r\n" = Http.crlf := by decide
  unfold request requestLines Http.closed
  cases authorization? i with
  | none =>
    simp [Text.Utf8.ofText_append, first, second, last]
  | some a => simp [Text.Utf8.ofText_append, first, second, last]

theorem starts_ofText {front : String} (start : Http.Starts (Bytes.ofText front)) (s : String) :
    Http.Starts (Bytes.ofText (front ++ s)) := by
  obtain ⟨b, rest, split, other⟩ := start
  exact ⟨b, rest ++ Bytes.ofText s, by rw [Text.Utf8.ofText_append, split]; rfl, other⟩

theorem starts_requestLines (i : Socks.Identity) (target : String) :
    ∀ line ∈ requestLines i target, Http.Starts line := by
  intro line member
  simp only [requestLines, List.cons_append, List.nil_append, List.mem_cons, Option.mem_toList,
    Option.map_eq_some_iff] at member
  obtain rfl | rfl | rfl | ⟨a, _, rfl⟩ := member
  · rw [String.append_assoc]
    exact starts_ofText ⟨67, _, rfl, by decide⟩ _
  · exact starts_ofText ⟨72, _, rfl, by decide⟩ _
  · exact ⟨80, _, rfl, by decide⟩
  · exact starts_ofText ⟨80, _, rfl, by decide⟩ _

theorem visible_letter : ∀ n < 64, Url.Visible (Text.Base64.standard.letter n) := by decide

theorem visible_code (b : Bytes) :
    ∀ c ∈ Text.Base64.encode Text.Base64.standard true b, Url.Visible c := by
  intro c member
  obtain rfl | ⟨n, small, rfl⟩ := Text.Base64.letter_of_mem_encode member
  · decide
  · exact visible_letter n small

theorem not_mem_of_visible {s : String} (seen : ∀ c ∈ s.toList, Url.Visible c) {b : UInt8}
    (hidden : Http.isTarget b = false) : b ∉ Bytes.ofText s := by
  intro member
  rw [Url.isTarget_of_visible seen b member] at hidden
  cases hidden

theorem no_cr_authorization {i : Socks.Identity} {a : String} (named : authorization? i = some a) :
    Http.cr ∉ Bytes.ofText a := by
  unfold authorization? at named
  split at named
  · cases named
    have scheme : Http.cr ∉ Bytes.ofText "Basic " := by decide
    rw [Text.Utf8.ofText_append, List.mem_append, not_or]
    refine ⟨scheme, not_mem_of_visible ?_ (by decide)⟩
    rw [String.toList_ofList]
    exact visible_code _
  · cases named

theorem crlf_requestLines (i : Socks.Identity) (target : String) :
    (∀ line ∈ requestLines i target, ¬ Http.crlf <:+: line) ↔
      ¬ Http.crlf <:+: Bytes.ofText target := by
  have first : Http.crlf <:+: Bytes.ofText ("CONNECT " ++ target ++ " HTTP/1.1") ↔
      Http.crlf <:+: Bytes.ofText target := by
    rw [String.append_assoc, Text.Utf8.ofText_append, Text.Utf8.ofText_append]
    exact Http.crlf_infix_middle (by decide) (by decide) _
  have second : Http.crlf <:+: Bytes.ofText ("Host: " ++ target) ↔
      Http.crlf <:+: Bytes.ofText target := by
    rw [Text.Utf8.ofText_append]
    exact Http.pair_infix_front (by decide) _
  have third : ¬ Http.crlf <:+: Bytes.ofText "Proxy-Connection: keep-alive" :=
    Http.no_crlf (by decide)
  have last (a : String) (named : authorization? i = some a) :
      ¬ Http.crlf <:+: Bytes.ofText ("Proxy-Authorization: " ++ a) := by
    rw [Text.Utf8.ofText_append, Http.crlf, Http.pair_infix_front (by decide)]
    exact Http.no_crlf (no_cr_authorization named)
  constructor
  · intro cut
    rw [← first]
    exact cut _ List.mem_cons_self
  · intro cut line member
    simp only [requestLines, List.cons_append, List.nil_append, List.mem_cons, Option.mem_toList,
      Option.map_eq_some_iff] at member
    obtain rfl | rfl | rfl | ⟨a, named, rfl⟩ := member
    · rwa [first]
    · rwa [second]
    · exact third
    · exact last a named

theorem visible_of_inAddress {c : Char} (inside : Net.InAddress c) : Url.Visible c := by
  obtain rfl | rfl | digit := inside
  · decide
  · decide
  · have range : 48 ≤ c.toNat ∧ c.toNat ≤ 57 ∨ 97 ≤ c.toNat ∧ c.toNat ≤ 102 ∨
        65 ≤ c.toNat ∧ c.toNat ≤ 70 := by
      by_contra outside
      obtain ⟨decimal, small, capital⟩ := by simpa only [not_or] using outside
      simp [Text.digitValue, decimal, small, capital] at digit
    unfold Url.Visible
    omega

theorem visible_decimal (n : Nat) : ∀ c ∈ (Text.decimal n).toList, Url.Visible c :=
  fun c member => visible_of_inAddress (Net.inAddress_decimal n c member)

/-- A line end in a host with its port is one in the host. -/
theorem crlf_joinHostPort (host : String) (port : UInt16) :
    Http.crlf <:+: Bytes.ofText (Net.joinHostPort host port) ↔
      Http.crlf <:+: Bytes.ofText host := by
  have digits :=
    not_mem_of_visible (visible_decimal port.toNat) (by decide : Http.isTarget Http.lf = false)
  unfold Net.joinHostPort
  split
  · have back : Http.lf ∉ Bytes.ofText ("]:" ++ Text.decimal port.toNat) := by
      rw [Text.Utf8.ofText_append, List.mem_append, not_or]
      exact ⟨by decide, digits⟩
    rw [String.append_assoc, String.append_assoc, Text.Utf8.ofText_append, Text.Utf8.ofText_append]
    exact Http.crlf_infix_middle (by decide) back _
  · have back : Http.lf ∉ Bytes.ofText (":" ++ Text.decimal port.toNat) := by
      rw [Text.Utf8.ofText_append, List.mem_append, not_or]
      exact ⟨by decide, digits⟩
    rw [String.append_assoc, Text.Utf8.ofText_append]
    exact Http.pair_infix_back back _

theorem joinable_of_bare {host : String} (bare : Text.Bare host) : Net.Joinable host := by
  unfold Net.Joinable
  split
  · exact fun closes => (bare ']' closes).2.2 rfl
  · intro c first
    obtain ⟨solid, bracket, _⟩ := bare c (List.mem_of_head? first)
    exact ⟨bracket, solid⟩

theorem destination_socksFlow (source : Net.SocketAddress) (a : Address) (port : UInt16) :
    (Inbound.socksFlow source a port).destination = match a with
      | .literal ip => ip.toText
      | .domain name => name := by
  cases a with
  | literal ip => rfl
  | domain name =>
    change (if name ≠ "" then name else "") = name
    split
    · rfl
    · rename_i empty
      exact (not_not.1 empty).symm

theorem tame_iff (source : Net.SocketAddress) (a : Address) (port : UInt16) :
    Tame a ↔ ¬ Http.crlf <:+: Bytes.ofText (Inbound.socksFlow source a port).destination ∧
      Net.Joinable (Inbound.socksFlow source a port).destination := by
  rw [destination_socksFlow]
  cases a with
  | domain name => rfl
  | literal ip =>
    have seen : ∀ c ∈ ip.toText.toList, Url.Visible c := fun c member =>
      visible_of_inAddress (Net.inAddress_toText ip c member)
    exact iff_of_true trivial ⟨Http.no_crlf (not_mem_of_visible seen (by decide)),
      joinable_of_bare (Net.bare_toText ip)⟩

/-- The bytes that ask for what a SOCKS client wants are one head with its own lines and no others,
and their target gives back the destination, exactly where the destination is tame. -/
theorem request_is_one_head_iff (i : Socks.Identity) (source : Net.SocketAddress) (a : Address)
    (port : UInt16) :
    let destination := (Inbound.socksFlow source a port).destination
    let target := Net.joinHostPort destination port
    Http.OneHead (requestLines i target) (Bytes.ofText (request i target)) ∧
      Net.splitHostPort target = .ok ⟨destination, some port⟩ ↔ Tame a := by
  intro destination target
  have filled : requestLines i target ≠ [] := List.cons_ne_nil _ _
  have cut : Http.crlf <:+: Bytes.ofText target ↔ Http.crlf <:+: Bytes.ofText destination :=
    crlf_joinHostPort destination port
  have found : Net.splitHostPort target = .ok ⟨destination, some port⟩ ↔ Net.Joinable destination :=
    Net.splitHostPort_joinHostPort_iff
  rw [request_eq, Http.oneHead_iff filled (starts_requestLines i target), crlf_requestLines, cut,
    found]
  exact (tame_iff source a port).symm

/-- A name with the end of a head in it. -/
def injected : String := "a\r\n\r\nb"

theorem injected_request_ends_early :
    (∃ text, Inbound.Socks.Handshake [] (.domain injected) 80 text) ∧
      Http.headEnd (Bytes.ofText (request ⟨none, none⟩ (Net.joinHostPort injected 80))) = some 13 ∧
      ¬ Http.OneHead (requestLines ⟨none, none⟩ (Net.joinHostPort injected 80))
        (Bytes.ofText (request ⟨none, none⟩ (Net.joinHostPort injected 80))) := by
  have ends : Http.headEnd (Bytes.ofText (request ⟨none, none⟩ (Net.joinHostPort injected 80))) =
      some 13 := by decide +kernel
  have long : (Bytes.ofText (request ⟨none, none⟩ (Net.joinHostPort injected 80))).length ≠ 13 := by
    decide +kernel
  have fits : (Bytes.ofText injected).length < 256 := by decide
  have placed : (Address.domain injected).encode 80 = .ok _ :=
    Net.Address.encode_eq_ok.2 ⟨fits, rfl⟩
  have offered : Inbound.Socks.wanted [] ∈ [(0 : UInt8)] := List.mem_cons_self
  refine ⟨⟨_, .said 0 (by decide) offered (.none rfl) placed⟩, ends, ?_⟩
  intro whole
  exact long (Option.some.inj (whole.ends.symm.trans ends))

end ProxyGateway.Outbound.HttpConnect
