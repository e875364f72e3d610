import ProxyGateway.Proofs.ShareLink.Shadowsocks
import ProxyGateway.Proofs.ShareLink.Trojan
import ProxyGateway.Proofs.ShareLink.Vmess
/-!
The share link of an adapter that was made of a share link. Main statement: it can be read again and
says the same but for a few options of each kind; if the first link had none of these, the pool
knows the two adapters as one.
-/
namespace ProxyGateway.ShareLink

/-- The record without the options that a link has no place for: for `vmess` the server's name in
the handshake and what a websocket is opened with, for `trojan` all application protocols but that
of the transport, for `ss` the plugin. -/
def carried (r : ProxyRecord) : ProxyRecord :=
  match r.kind with
  | "vmess" => Vmess.carried r
  | "trojan" => Trojan.carried r
  | "ss" => Shadowsocks.carried r
  | _ => r

/-- The server has a place in the text of a link, as every server of a `trojan` link has. -/
def Placed (r : ProxyRecord) : Prop :=
  match r.kind with
  | "vmess" => Net.Joinable r.server
  | "ss" => Shadowsocks.Placed r.server
  | _ => True

structure Exported (r : ProxyRecord) (a : Adapter) (text : String) : Prop where
  written : a.shareLink = .ok text
  read : read text = .ok ((carried r).named a.name)
  rewritten : Adapter.Rewritten r ((carried r).named a.name)
  joinable : Net.Joinable r.server

variable {r : ProxyRecord} {a : Adapter}

theorem exported_vmess {link : String} (done : Vmess.read link = .ok r) (made : Adapter.Made r a)
    (placed : Placed r) : ∃ text, Exported r a text := by
  obtain ⟨c, lawful, rfl⟩ := Vmess.content_of_read done
  obtain ⟨host, port⟩ := made.endpoint placed
  have kind : ProxyKind.vmess = a.kind := made.kind_of_tag rfl
  have server : c.server ≠ "" := made.server_ne_empty
  have same : (carried c.record).named a.name = (c.written a.name).record :=
    Vmess.carried_record c a.name
  refine ⟨Vmess.write a.name c.server c.port c.record, ?_, ?_, same ▸ Vmess.rewritten c a.name,
    placed⟩
  · rw [Adapter.shareLink, ← kind, host, port, made.record]
    rfl
  · rw [same]
    exact Vmess.readLink_write lawful server a.name

theorem exported_trojan {link : String} {front rest : List Char}
    (chars : link.toList = front ++ ':' :: rest)
    (scheme : front.map Text.lowerChar = "trojan".toList) (done : Trojan.read link = .ok r)
    (made : Adapter.Made r a) : ∃ text, Exported r a text := by
  obtain ⟨c, lawful, rfl⟩ := Trojan.content_of_read chars scheme done
  have joinable : Net.Joinable c.host.toText := lawful.host.joinable
  obtain ⟨host, port⟩ := made.endpoint joinable
  have kind : ProxyKind.trojan = a.kind := made.kind_of_tag rfl
  have same : (carried c.record).named a.name = (c.written a.name).record :=
    Trojan.carried_record c a.name
  refine ⟨Trojan.write a.name c.host.toText c.port c.record, ?_, ?_,
    same ▸ Trojan.rewritten c a.name, joinable⟩
  · rw [Adapter.shareLink, ← kind, host, port, made.record]
    rfl
  · rw [same]
    exact Trojan.readLink_write lawful a.name

theorem exported_shadowsocks {link : String} (done : Shadowsocks.read link = .ok r)
    (made : Adapter.Made r a) (placed : Placed r) : ∃ text, Exported r a text := by
  obtain ⟨c, lawful, rfl⟩ := Shadowsocks.content_of_read done
  have here : Shadowsocks.Placed c.server := placed
  obtain ⟨host, port⟩ := made.endpoint here.joinable
  have kind : ProxyKind.shadowsocks = a.kind := made.kind_of_tag rfl
  have same : (carried c.record).named a.name = (c.written a.name).record :=
    Shadowsocks.carried_record c a.name
  refine ⟨Shadowsocks.write a.name c.server c.port c.record, ?_, ?_,
    same ▸ Shadowsocks.rewritten c a.name, here.joinable⟩
  · rw [Adapter.shareLink, ← kind, host, port, made.record]
    rfl
  · rw [same]
    exact Shadowsocks.readLink_write lawful here a.name

theorem exported_of_scheme {link scheme : String} (named : schemeOf link = some scheme)
    (known : scheme ∈ ["vmess", "trojan", "ss"]) (done : read link = .ok r)
    (made : Adapter.Made r a) (placed : Placed r) : ∃ text, Exported r a text := by
  simp only [List.mem_cons, List.not_mem_nil, or_false] at known
  obtain rfl | rfl | rfl := known
  · rw [read_of_scheme named .vmess] at done
    exact exported_vmess done made placed
  · rw [read_of_scheme named .trojan] at done
    obtain ⟨⟨front, rest⟩, cut, same⟩ := Option.map_eq_some_iff.1 named
    have chars := (Text.cutWord_eq_some.1 cut).1
    have small : front.map Text.lowerChar = "trojan".toList := by
      rw [← same, String.toList_ofList]
    exact exported_trojan chars small done made
  · rw [read_of_scheme named .shadowsocks] at done
    exact exported_shadowsocks done made placed

/-- The share link of an adapter that was made of one names the same proxy exactly if it carries all
of its options. -/
theorem exported_link_is_known {link scheme : String} (named : schemeOf link = some scheme)
    (known : scheme ∈ ["vmess", "trojan", "ss"]) (done : read link = .ok r)
    (made : Adapter.ofRecord r = .ok a) (placed : Placed r) :
    ∃ text b, a.shareLink = .ok text ∧ read text = .ok ((carried r).named a.name) ∧
      Adapter.ofRecord ((carried r).named a.name) = .ok b ∧
      (Identity.canonicalText ((carried r).named a.name) = Identity.canonicalText r ↔
        (carried r).options = r.options) ∧
      ((carried r).options = r.options →
        b.identity = a.identity ∧ ∀ p : Pool, (p.add a).1.add b = ((p.add a).1, none)) := by
  rw [Adapter.ofRecord_eq_ok] at made
  obtain ⟨text, exported⟩ := exported_of_scheme named known done made placed
  obtain ⟨b, twin, texts, identity⟩ := exported.rewritten.twin made exported.joinable
  refine ⟨text, b, exported.written, exported.read, Adapter.ofRecord_eq_ok.2 twin, texts, ?_⟩
  intro whole
  exact ⟨identity whole, Pool.add_duplicate made (identity whole)⟩

/-- A link of which nothing is left out, with a password to escape and a path of its own. -/
def plainLink : String :=
  "trojan://p%20w@h:443?headerType=none&security=tls&sni=s&type=ws&wspath=%2Fx#n"

theorem plain_link_is_known :
    ∃ r a, schemeOf plainLink = some "trojan" ∧ read plainLink = .ok r ∧
      Adapter.ofRecord r = .ok a ∧ ∃ text b, a.shareLink = .ok text ∧
        read text = .ok ((carried r).named a.name) ∧
        Adapter.ofRecord ((carried r).named a.name) = .ok b ∧ b.identity = a.identity ∧
        ∀ p : Pool, (p.add a).1.add b = ((p.add a).1, none) := by
  let c : Trojan.Content := ⟨"n", .name "h", 443, "p w", "s", [], some "ws", "/x"⟩
  have kept : Url.Kept (.name "h") := ⟨by decide, List.all_iff_forall_prop.1 (by decide)⟩
  have link : Trojan.write "n" "h" 443 c.record = plainLink := by decide +kernel
  have named : schemeOf plainLink = some "trojan" := by decide +kernel
  have done : read plainLink = .ok c.record := by
    rw [← link]
    exact Trojan.readLink_write ⟨kept, by decide, by decide, by decide⟩ "n"
  have valid : c.record.validate = .ok () := by
    rw [ProxyRecord.validate, if_neg (by decide), if_neg (by decide), if_neg (by decide)]
  obtain ⟨a, made⟩ := Adapter.exists_made valid (ProxyKind.ofText_tag .trojan) kept.joinable
    (Trojan.plain_record c)
  rw [← Adapter.ofRecord_eq_ok] at made
  obtain ⟨text, b, written, reads, twin, _, whole⟩ :=
    exported_link_is_known named (by decide) done made trivial
  exact ⟨c.record, a, named, done, made, text, b, written, reads, twin, whole rfl⟩

/-- The written link says nothing of a plugin, and without it the proxy is another. -/
theorem plugin_is_not_exported :
    (do
      let r ← read "ss://a:b@c:80?plugin=d"
      let a ← Adapter.ofRecord r
      let s ← read (← a.shareLink)
      let b ← Adapter.ofRecord s
      pure (b.identity == a.identity)).toOption = some false := by
  decide +kernel

end ProxyGateway.ShareLink
