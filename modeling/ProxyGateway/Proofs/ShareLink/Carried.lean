import ProxyGateway.Proofs.ShareLink.Trojan
import ProxyGateway.Proofs.ShareLink.Vmess

namespace ProxyGateway.ShareLink

namespace Vmess

variable {a : Adapter} {id : String}

theorem shareLink_eq (kind : a.kind = .vmess) :
    a.shareLink = .ok (write a.name a.host a.port a.record) := by
  rw [Adapter.shareLink, kind]

/-- The link of an adapter is read as what its record says of the identifier, the cipher, the number
of other identifiers, the encryption and the transport, unless there is no host to read. -/
theorem exported_options_are_read (kind : a.kind = .vmess) (named : a.name ≠ "")
    (of_id : a.record.text? "uuid" = some id) (filled : id ≠ "") :
    let r := a.record
    let network := (r.text? "network").filter (· ≠ "")
    ∃ link, a.shareLink = .ok link ∧
      (a.host ≠ "" → ShareLink.read link = .ok ⟨some a.name, "vmess", a.host, a.port,
        [("alterId", .num (.whole ((r.int? "alterId").getD 0))),
          ("cipher", .str (((r.text? "cipher").filter (· ≠ "")).getD "auto"))] ++
        optional "network" (network.map .str) ++
        [("skip-cert-verify", .bool true), ("tls", .bool ((r.flag? "tls").getD false)),
          ("udp", .bool true), ("uuid", .str id)] ++
        optional "ws-opts"
          (if network = some "ws" then some (.map [(.str "path", .str "")]) else none)⟩) ∧
      (a.host = "" → ShareLink.read link = .error (.parse "vmess link missing address")) := by
  intro r network
  refine ⟨_, shareLink_eq kind, fun host => ?_, fun no_host => ?_⟩
  · rw [readLink_write_eq, read_written host of_id filled]
    simp [Content.record, Content.websocket, told, named, optional, r, network]
  · rw [readLink_write_eq, no_host, read_without_host]

/-- A number as the identifier, texts in the place of numbers, an empty cipher, and a name with what
an object has to escape. -/
theorem numeric_identifier_is_read :
    let r : ProxyRecord := ⟨some "\"日本\"\\\n\t😀", "VMess", "2001:db8::1", 443,
      [("alterId", .str "-9223372036854775808"), ("cipher", .str ""), ("network", .str "ws"),
        ("tls", .str "1"), ("uuid", .num (.whole 42))]⟩
    ∃ a link, Adapter.ofRecord r = .ok a ∧ a.shareLink = .ok link ∧
      ShareLink.read link = .ok ⟨some "\"日本\"\\\n\t😀", "vmess", "2001:db8::1", 443,
        [("alterId", .num (.whole (-9223372036854775808))), ("cipher", .str "auto"),
          ("network", .str "ws"), ("skip-cert-verify", .bool true), ("tls", .bool true),
          ("udp", .bool true), ("uuid", .str "42"),
          ("ws-opts", .map [(.str "path", .str "")])]⟩ := by
  intro r
  have plain : ∀ e ∈ r.options, ¬ Identity.HoldsTag e.2 := by simp [r]
  have valid : r.validate = .ok () :=
    ProxyRecord.validate_eq_ok.2 ⟨by decide, by decide, by decide⟩
  have known : ProxyKind.ofText "VMess" = .ok .vmess := rfl
  have place : Net.splitHostPort r.address = .ok ⟨"2001:db8::1", some 443⟩ := by decide +kernel
  obtain ⟨a, made, kind, host, port⟩ := Adapter.exists_made_at valid known place plain
  have name : a.name = "\"日本\"\\\n\t😀" := made.name
  have of_id : a.record.text? "uuid" = some "42" := by
    rw [made.record]
    rfl
  obtain ⟨link, written, reads, _⟩ :=
    exported_options_are_read kind (by rw [name]; decide) of_id (by decide)
  have alterId : r.int? "alterId" = some (-9223372036854775808) := by decide +kernel
  rw [made.record, host, port, name, alterId] at reads
  exact ⟨a, link, Adapter.ofRecord_eq_ok.2 made, written, reads (by decide)⟩

/-- White space is a server, and nothing is left of it as the host of the adapter. -/
theorem blank_server_is_refused :
    let r : ProxyRecord := ⟨some "n", "vmess", " ", 80, [("uuid", .str "u")]⟩
    ∃ a link, Adapter.ofRecord r = .ok a ∧ a.kind = .vmess ∧ a.name = "n" ∧
      a.record.text? "uuid" = some "u" ∧ a.shareLink = .ok link ∧
      ShareLink.read link = .error (.parse "vmess link missing address") := by
  intro r
  have plain : ∀ e ∈ r.options, ¬ Identity.HoldsTag e.2 := by simp [r]
  have valid : r.validate = .ok () :=
    ProxyRecord.validate_eq_ok.2 ⟨by decide, by decide, by decide⟩
  have known : ProxyKind.ofText "vmess" = .ok .vmess := rfl
  have place : Net.splitHostPort r.address = .ok ⟨"", some 80⟩ := by decide +kernel
  obtain ⟨a, made, kind, host, port⟩ := Adapter.exists_made_at valid known place plain
  have of_id : a.record.text? "uuid" = some "u" := by
    rw [made.record]
    rfl
  refine ⟨a, _, Adapter.ofRecord_eq_ok.2 made, kind, made.name, of_id, shareLink_eq kind, ?_⟩
  rw [readLink_write_eq, host, read_without_host]

end Vmess

namespace Trojan

/-- A server that stands in a link as it is: a name of letters, digits and a few marks, or an IPv6
address in its usual form. -/
def Plain (server : String) : Prop :=
  (∀ c ∈ server.toList, Url.isWord c ∨ c ∈ ['.', '-', '_']) ∨ ∃ ip : Net.Ipv6, server = ip.toText

variable {r : ProxyRecord} {a : Adapter} {password : String}

theorem Plain.kept {server : String} (plain : Plain server) (filled : server ≠ "") :
    ∃ host : Url.Host, Url.Kept host ∧ host.toText = server := by
  obtain letters | ⟨ip, rfl⟩ := plain
  · refine ⟨.name server, ⟨filled, fun c member => ?_⟩, rfl⟩
    obtain word | mark := letters c member
    · exact Url.kept_of_word word
    · have marks : ∀ c ∈ ['.', '-', '_'], Url.isRefused c = false ∧ Url.isControl c = false :=
        List.all_iff_forall_prop.1 (by decide)
      exact marks c mark
  · exact ⟨.v6 ip, trivial, rfl⟩

/-- The link of an adapter is read as its server and its port, and as what its record says of the
password, the server's name in the handshake and the transport. -/
theorem exported_transport_is_read (made : Adapter.ofRecord r = .ok a) (kind : a.kind = .trojan)
    (named : a.name ≠ "") (of_password : r.text? "password" = some password)
    (filled : password ≠ "") (plain : Plain r.server) :
    let network := (r.text? "network").filter (· ≠ "")
    a.host = r.server ∧ a.port = r.port ∧
      ∃ link, a.shareLink = .ok link ∧
        ShareLink.read link = .ok ⟨some a.name, "trojan", r.server, r.port,
          optional "alpn" (if network = some "h2" then some (.seq [.str "h2"]) else none) ++
          optional "network" (network.map .str) ++
          [("password", .str password), ("skip-cert-verify", .bool true),
            ("sni", .str (((r.text? "sni").filter (· ≠ "")).getD r.server)),
            ("udp", .bool true)] ++
          optional "ws-opts" (if network = some "ws" then
            some (.map [(.str "path", .str ((websocketPath r).getD ""))]) else none)⟩ := by
  intro network
  rw [Adapter.ofRecord_eq_ok] at made
  obtain ⟨host, kept, server⟩ := plain.kept made.server_ne_empty
  obtain ⟨of_host, of_port⟩ := made.endpoint (server ▸ kept.joinable)
  have written : a.shareLink = .ok (write a.name host.toText r.port r) := by
    rw [Adapter.shareLink, kind, of_host, of_port, made.record, server]
  refine ⟨of_host, of_port, _, written, ?_⟩
  rw [readLink_write_eq, read_written kept of_password filled]
  by_cases own : r.text? "network" = some "h2" <;>
    by_cases socket : r.text? "network" = some "ws" <;>
    simp [Content.record, Content.websocket, Content.protocols, told, named, server, network, own,
      socket, Option.filter_eq_some_iff]

/-- An address as the server, a password and a path with marks and escapes of their own, and an
empty name for the handshake. -/
theorem marked_path_is_read :
    let r : ProxyRecord := ⟨some "日本 #1\n?", "Trojan", "2001:db8::1", 443,
      [("network", .str "ws"), ("password", .str "é:/@%41 +&\t"), ("sni", .str ""),
        ("ws-opts", .map [(.str "headers", .null), (.str "path", .str "/ö?ed=1&x=%2F #+")])]⟩
    ∃ a link, Adapter.ofRecord r = .ok a ∧ a.shareLink = .ok link ∧
      ShareLink.read link = .ok ⟨some "日本 #1\n?", "trojan", "2001:db8::1", 443,
        [("network", .str "ws"), ("password", .str "é:/@%41 +&\t"),
          ("skip-cert-verify", .bool true), ("sni", .str "2001:db8::1"), ("udp", .bool true),
          ("ws-opts", .map [(.str "path", .str "/ö?ed=1&x=%2F #+")])]⟩ := by
  intro r
  have tagless : ∀ e ∈ r.options, ¬ Identity.HoldsTag e.2 := by simp [r, Identity.holdsTag_map]
  have valid : r.validate = .ok () :=
    ProxyRecord.validate_eq_ok.2 ⟨by decide, by decide, by decide⟩
  have known : ProxyKind.ofText "Trojan" = .ok .trojan := rfl
  have plain : Plain r.server := .inr ⟨⟨#v[0x2001, 0xDB8, 0, 0, 0, 0, 0, 1]⟩, by decide +kernel⟩
  have place : Net.splitHostPort r.address = .ok ⟨"2001:db8::1", some 443⟩ := by decide +kernel
  obtain ⟨a, made, kind, _⟩ := Adapter.exists_made_at valid known place tagless
  have name : a.name = "日本 #1\n?" := made.name
  obtain ⟨_, _, link, written, reads⟩ := exported_transport_is_read
    (Adapter.ofRecord_eq_ok.2 made) kind (by rw [name]; decide) rfl (by decide) plain
  rw [name] at reads
  exact ⟨a, link, Adapter.ofRecord_eq_ok.2 made, written, reads⟩

end Trojan

end ProxyGateway.ShareLink
