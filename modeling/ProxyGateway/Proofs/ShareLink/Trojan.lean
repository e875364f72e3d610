import Mathlib.Data.Bool.AllAny
import ProxyGateway.Proofs.Proxy.Adapter
import ProxyGateway.Proofs.ShareLink.Basic
import ProxyGateway.Proofs.Url.Form
import ProxyGateway.Proofs.Url.Written

namespace ProxyGateway.ShareLink.Trojan

structure Content where
  name : String
  host : Url.Host
  port : UInt16
  password : String
  sni : String
  alpn : List String
  network : Option String
  path : String

namespace Content

def websocket (c : Content) : Option Yaml :=
  if c.network = some "ws" then some (.map [(.str "path", .str c.path)]) else none

def protocols (c : Content) : Option Yaml :=
  if c.alpn = [] then none else some (.seq (c.alpn.map .str))

def record (c : Content) : ProxyRecord :=
  ⟨if c.name = "" then none else some c.name, "trojan", c.host.toText, c.port,
    optional "alpn" c.protocols ++ optional "network" (c.network.map .str) ++
      [("password", .str c.password), ("skip-cert-verify", .bool true), ("sni", .str c.sni),
        ("udp", .bool true)] ++ optional "ws-opts" c.websocket⟩

structure Lawful (c : Content) : Prop where
  host : Url.Kept c.host
  password : c.password ≠ ""
  sni : c.sni ≠ ""
  network : c.network ≠ some ""

/-- What a written link says: of the application protocols only the one of the transport. -/
def written (c : Content) (name : String) : Content :=
  { c with name, alpn := if c.network = some "h2" then ["h2"] else [] }

end Content

theorem toText_ne_empty {host : Url.Host} (kept : Url.Kept host) : host.toText ≠ "" := by
  cases host with
  | v4 ip => cases kept
  | v6 ip =>
    intro nothing
    have colon := Url.colon_mem_toText ip
    rw [show ip.toText = "" from nothing] at colon
    cases colon
  | name text => exact kept.1

/-- The transport and its path as the parameters of a link say them. -/
def transport (network path : String) : Option String :=
  if network = "ws" ∨ path ≠ "" then some "ws"
  else if network ≠ "" then some network
  else none

def content (q : Query) (host : Url.Host) (port : UInt16) (password name : String) : Content where
  name := name
  host := host
  port := port
  password := password
  sni := (q.filled? "sni").getD host.toText
  alpn := Trojan.protocols ((q.get? "type").getD "") ((q.get? "alpn").getD "")
  network := transport ((q.get? "type").getD "") (((q.get? "wspath").or (q.get? "path")).getD "")
  path := ((q.get? "wspath").or (q.get? "path")).getD ""

section read

variable {link : String} {u : Url} {host : Url.Host} {port : UInt16} {password name : String}

theorem read_content (of_link : Url.read link = .ok u) (of_host : u.host? = some host)
    (of_port : u.port? = some port) (of_password : unescaped u.username = .ok password)
    (filled : password ≠ "") (of_name : nameOf u = .ok name) :
    read link = .ok (content (Query.ofUrl u) host port password name).record := by
  have whole : readUrl link = .ok u := readUrl_eq_ok.2 of_link
  have place : endpoint u = .ok (host.toText, port) :=
    endpoint_eq_ok.2 ⟨host, of_host, rfl, of_port⟩
  obtain ⟨network, of_network⟩ : ∃ network, ((Query.ofUrl u).get? "type").getD "" = network :=
    ⟨_, rfl⟩
  obtain ⟨path, of_path⟩ : ∃ path,
    (((Query.ofUrl u).get? "wspath").or ((Query.ofUrl u).get? "path")).getD "" = path := ⟨_, rfl⟩
  obtain ⟨alpn, of_alpn⟩ : ∃ alpn,
    Trojan.protocols network (((Query.ofUrl u).get? "alpn").getD "") = alpn := ⟨_, rfl⟩
  simp only [read, whole, place, of_password, of_name, bind, Except.bind, filled, if_false,
    of_network, of_path, of_alpn, content, Content.record, Content.protocols, Content.websocket,
    transport]
  by_cases socket : network = "ws" ∨ path ≠ ""
  · simp only [socket, if_true]
    cases alpn <;> rfl
  · simp only [socket, if_false]
    by_cases plain : network = ""
    · subst plain
      cases alpn <;> rfl
    · have other : network ≠ "ws" := fun same => socket (.inl same)
      simp only [ne_eq, plain, not_false_eq_true, if_true, Option.some.injEq, other, if_false]
      cases alpn <;> rfl

theorem filled?_ne_empty {q : Query} {key s : String} (found : q.filled? key = some s) :
    s ≠ "" := by
  simpa using (Option.filter_eq_some_iff.1 found).2

theorem lawful_content (q : Query) (kept : Url.Kept host) (filled : password ≠ "") :
    (content q host port password name).Lawful where
  host := kept
  password := filled
  sni := by
    cases found : q.filled? "sni" with
    | none => simpa only [content, found, Option.getD_none] using toText_ne_empty kept
    | some s => simpa only [content, found, Option.getD_some] using filled?_ne_empty found
  network := by
    unfold content transport
    dsimp only
    split
    · simp
    · split
      · rename_i other
        simpa using other
      · simp

theorem ne_of_lowerChar {front : List Char} (scheme : front.map Text.lowerChar = "trojan".toList)
    {c : Char} (member : c ∈ front) : 0x20 < c.toNat ∧ c ≠ ':' := by
  have inside : Text.lowerChar c ∈ "trojan".toList := scheme ▸ List.mem_map_of_mem member
  refine ⟨?_, ?_⟩
  · by_contra small
    have same : Text.lowerChar c = c := by
      refine if_neg fun capital => ?_
      have low : 65 ≤ c.toNat := capital.1
      omega
    have large : ∀ c ∈ "trojan".toList, 0x20 < c.toNat :=
      List.all_iff_forall_prop.1 (by decide)
    exact small (large c (same ▸ inside))
  · rintro rfl
    exact absurd inside (by decide)

theorem scheme_of_link {front rest : List Char} (chars : link.toList = front ++ ':' :: rest)
    (scheme : front.map Text.lowerChar = "trojan".toList) (of_link : Url.read link = .ok u) :
    Url.isSpecial u.scheme = false := by
  have no_colon : ':' ∉ front := fun member => (ne_of_lowerChar scheme member).2 rfl
  have small := Url.scheme_of_read chars (fun c member => (ne_of_lowerChar scheme member).1)
    no_colon of_link
  rw [small, scheme]
  decide

theorem content_of_read {front rest : List Char} {r : ProxyRecord}
    (chars : link.toList = front ++ ':' :: rest)
    (scheme : front.map Text.lowerChar = "trojan".toList) (done : read link = .ok r) :
    ∃ c : Content, c.Lawful ∧ r = c.record := by
  have steps := done
  unfold read at steps
  obtain ⟨u, whole, steps⟩ := bind_eq_ok.1 steps
  obtain ⟨⟨server, port⟩, place, steps⟩ := bind_eq_ok.1 steps
  obtain ⟨password, of_password, steps⟩ := bind_eq_ok.1 steps
  have of_link := readUrl_eq_ok.1 whole
  obtain ⟨host, of_host, _, of_port⟩ := endpoint_eq_ok.1 place
  have filled : password ≠ "" := by
    rintro rfl
    cases steps
  have named : ∃ name, nameOf u = .ok name := by
    simp only [filled, if_false] at steps
    obtain ⟨name, of_name, _⟩ := bind_eq_ok.1 steps
    exact ⟨name, of_name⟩
  obtain ⟨name, of_name⟩ := named
  rw [read_content of_link of_host of_port of_password filled of_name] at done
  have kept := Url.kept_of_read of_link (scheme_of_link chars scheme of_link) of_host
  exact ⟨_, lawful_content _ kept filled, (Except.ok.inj done).symm⟩

end read

section write

variable {name : String} {host : Url.Host} {port : UInt16} {r : ProxyRecord} {password : String}

def told (name : String) (host : Url.Host) (port : UInt16) (r : ProxyRecord)
    (password : String) : Content where
  name := name
  host := host
  port := port
  password := password
  sni := ((r.text? "sni").filter (· ≠ "")).getD host.toText
  alpn := if r.text? "network" = some "h2" then ["h2"] else []
  network := (r.text? "network").filter (· ≠ "")
  path := if r.text? "network" = some "ws" then (websocketPath r).getD "" else ""

theorem query_eq (r : ProxyRecord) :
    query r = [("headerType", "none"), ("security", "tls")] ++
      ((r.text? "sni").map fun v => ("sni", v)).toList ++
      ((r.text? "network").map fun v => ("type", v)).toList ++
      ((if r.text? "network" = some "ws" then websocketPath r else none).map
        fun p => ("wspath", p)).toList := by
  unfold query
  cases r.text? "network" with
  | none => simp
  | some network =>
    by_cases socket : network = "ws"
    · subst socket
      simp
    · simp [socket]

theorem lookup_option (key name : String) (value : Option String) :
    (value.map fun v => (key, v)).toList.reverse.lookup name =
      if name = key then value else none := by
  cases value <;> by_cases same : name = key <;> simp [same]

theorem get?_query (r : ProxyRecord) :
    let q : Query := ⟨query r⟩
    q.get? "sni" = r.text? "sni" ∧ q.get? "type" = r.text? "network" ∧
      q.get? "wspath" = (if r.text? "network" = some "ws" then websocketPath r else none) ∧
      q.get? "path" = none ∧ q.get? "alpn" = none := by
  simp only [Query.get?, query_eq, List.reverse_append, List.lookup_append, lookup_option]
  simp [List.lookup_cons]

theorem protocols_nil (network : String) :
    Trojan.protocols network "" = if network = "h2" then ["h2"] else [] := by
  unfold Trojan.protocols
  split <;> rfl

theorem content_query (name : String) (host : Url.Host) (port : UInt16) (r : ProxyRecord)
    (password : String) :
    content ⟨query r⟩ host port password name = told name host port r password := by
  obtain ⟨sni, type, wspath, path, alpn⟩ := get?_query r
  have place : (if r.text? "network" = some "ws" then websocketPath r else none).getD "" =
      if r.text? "network" = some "ws" then (websocketPath r).getD "" else "" := by
    split <;> rfl
  have network : transport ((r.text? "network").getD "")
      (if r.text? "network" = some "ws" then (websocketPath r).getD "" else "") =
      (r.text? "network").filter (· ≠ "") := by
    unfold transport
    cases r.text? "network" with
    | none => simp
    | some network =>
      by_cases socket : network = "ws"
      · simp [socket, Option.filter]
      · by_cases plain : network = "" <;> simp [socket, plain, Option.filter]
  have protocols : Trojan.protocols ((r.text? "network").getD "") "" =
      if r.text? "network" = some "h2" then ["h2"] else [] := by
    rw [protocols_nil]
    cases r.text? "network" <;> simp
  simp only [content, told, Query.filled?, sni, type, wspath, path, alpn, Option.or_none,
    Option.getD_none, place, protocols, network]

/-- The link of a record with a password is read as all that it tells. -/
theorem read_written (kept : Url.Kept host) (of_password : r.text? "password" = some password)
    (filled : password ≠ "") :
    read (write name host.toText port r) = .ok (told name host port r password).record := by
  have decoded (s : String) : unescaped (Url.encodeComponent s) = .ok s := by
    rw [unescaped, Url.decodeComponent_encodeComponent]
  have escaped : Url.encodeComponent password ≠ "" := fun nothing =>
    filled (Url.encodeComponent_eq_empty nothing)
  have query_free : ∀ d ∈ (Url.Form.write (query r)).toList, Url.inQuery d = false :=
    fun _ member => (Url.Form.free_of_mem_write member).1
  have component (s : String) : ∀ d ∈ (Url.encodeComponent s).toList, Url.InComponent d :=
    fun _ => Url.inComponent
  have of_link : Url.read ("trojan://" ++ Url.encodeComponent password ++ "@" ++
      Net.joinHostPort host.toText port ++ "?" ++ Url.Form.write (query r) ++ "#" ++
      Url.encodeComponent name) =
      .ok ⟨"trojan", some ⟨Url.encodeComponent password, none, some host, some port⟩, "",
        some (Url.Form.write (query r)), some (Url.encodeComponent name)⟩ :=
    Url.read_written kept escaped (component _) query_free (component name)
  have pairs : (⟨query r⟩ : Query) = ⟨Url.Form.read (Url.Form.write (query r))⟩ := by
    rw [Url.Form.read_write]
  rw [write, of_password, Option.getD_some, read_content of_link rfl rfl (decoded password) filled
    (decoded name), ← content_query, pairs]
  rfl

theorem write_eq (name host : String) (port : UInt16) (r : ProxyRecord) :
    ∃ front, write name host port r =
      "trojan" ++ "://" ++ String.ofList (front ++ '#' :: (Url.encodeComponent name).toList) := by
  refine ⟨(Url.encodeComponent ((r.text? "password").getD "")).toList ++
    '@' :: ((Net.joinHostPort host port).toList ++
      '?' :: (Url.Form.write (query r)).toList), ?_⟩
  have scheme : "trojan://".toList = "trojan".toList ++ "://".toList := rfl
  rw [write, ← String.toList_inj]
  simp [scheme]

theorem readLink_write_eq (name host : String) (port : UInt16) (r : ProxyRecord) :
    ShareLink.read (write name host port r) = read (write name host port r) := by
  obtain ⟨front, whole⟩ := write_eq name host port r
  rw [whole]
  refine read_of_link (fun d last => ?_) .trojan
  rw [String.toList_ofList] at last
  exact solid_fragment front name last

variable {c : Content}

theorem text?_record (c : Content) :
    c.record.text? "password" = some c.password ∧ c.record.text? "sni" = some c.sni ∧
      c.record.text? "network" = c.network := by
  obtain ⟨name, host, port, password, sni, alpn, network, path⟩ := c
  obtain ⟨socket, of_socket⟩ : ∃ socket, Content.websocket ⟨name, host, port, password, sni, alpn,
    network, path⟩ = socket := ⟨_, rfl⟩
  simp only [Content.record, of_socket]
  cases network <;> cases alpn <;> cases socket <;> exact ⟨rfl, rfl, rfl⟩

theorem websocketPath_record (socket : c.network = some "ws") :
    websocketPath c.record = some c.path := by
  obtain ⟨name, host, port, password, sni, alpn, network, path⟩ := c
  obtain rfl : network = some "ws" := socket
  cases alpn <;> rfl

theorem told_record (lawful : c.Lawful) (name : String) :
    (told name c.host c.port c.record c.password).record = (c.written name).record := by
  obtain ⟨_, sni, network⟩ := text?_record c
  have path := websocketPath_record (c := c)
  obtain ⟨r, of_record⟩ : ∃ r, c.record = r := ⟨_, rfl⟩
  rw [of_record] at sni network path
  have filled : (some c.sni).filter (· ≠ "") = some c.sni := filter_filled (by simp [lawful.sni])
  have socket : (told name c.host c.port r c.password).websocket = (c.written name).websocket := by
    simp only [Content.websocket, told, Content.written, network, filter_filled lawful.network]
    refine ite_congr rfl (fun own => ?_) fun _ => rfl
    rw [path own, if_pos own, Option.getD_some]
  rw [of_record, Content.record, socket]
  simp only [told, sni, network, filled, filter_filled lawful.network, Option.getD_some]
  rfl

theorem readLink_write (lawful : c.Lawful) (name : String) :
    ShareLink.read (write name c.host.toText c.port c.record) = .ok (c.written name).record := by
  rw [readLink_write_eq, read_written lawful.host (text?_record c).1 lawful.password,
    told_record lawful]

end write

section carried

/-- The record without what a link has no place for. -/
def carried (r : ProxyRecord) : ProxyRecord :=
  { r with options :=
      if r.text? "network" = some "h2" then r.options.put "alpn" (.seq [.str "h2"])
      else r.options.erase "alpn" }

theorem carried_record (c : Content) (name : String) :
    (carried c.record).named name = (c.written name).record := by
  obtain ⟨old, host, port, password, sni, alpn, network, path⟩ := c
  cases network with
  | none => cases alpn <;> rfl
  | some network =>
    by_cases socket : network = "ws"
    · subst socket
      cases alpn <;> rfl
    · have text : (Content.record ⟨old, host, port, password, sni, alpn, some network, path⟩).text?
          "network" = some network := by cases alpn <;> rfl
      by_cases own : network = "h2"
      · subst own
        cases alpn <;> rfl
      · simp only [carried, text, Option.some.injEq, own, if_false]
        simp only [Content.written, Content.record, Content.websocket, Option.some.injEq, socket,
          own, if_false, Content.protocols]
        cases alpn <;> rfl

end carried

section told

open Identity (HoldsTag holdsTag_map holdsTag_seq tree itemTrees)

theorem ordered_record (c : Content) : c.record.options.Ordered := by
  have all : ["alpn", "network", "password", "skip-cert-verify", "sni", "udp", "ws-opts"].Pairwise
    (· < ·) := by decide
  refine all.sublist ?_
  simp only [Content.record, List.map_append]
  exact (((names_optional _ _).append (names_optional _ _)).append
    (.refl ["password", "skip-cert-verify", "sni", "udp"])).append (names_optional _ _)

theorem plain_record (c : Content) : ∀ e ∈ c.record.options, ¬ HoldsTag e.2 := by
  have protocols : ∀ v, c.protocols = some v → ¬ HoldsTag v := by
    intro v some
    unfold Content.protocols at some
    split at some
    · cases some
    · obtain rfl := Option.some.inj some
      simp [holdsTag_seq]
  have socket : ∀ v, c.websocket = some v → ¬ HoldsTag v := by
    intro v some
    unfold Content.websocket at some
    split at some
    · obtain rfl := Option.some.inj some
      simp [holdsTag_map]
    · cases some
  simp only [Content.record, List.forall_mem_append, List.forall_mem_cons, forall_mem_optional]
  simpa using ⟨protocols, socket⟩

theorem get?_record (c : Content) : c.record.options.get? "alpn" = c.protocols := by
  obtain ⟨protocols, of_protocols⟩ : ∃ protocols, c.protocols = protocols := ⟨_, rfl⟩
  obtain ⟨socket, of_socket⟩ : ∃ socket, c.websocket = socket := ⟨_, rfl⟩
  simp only [Content.record, of_protocols, of_socket]
  cases c.network <;> cases protocols <;> cases socket <;> rfl

theorem itemTrees_texts (items : List String) :
    itemTrees (items.map .str) = items.map Identity.Tree.text := by
  induction items with
  | nil => rfl
  | cons s items ih => rw [List.map_cons, List.map_cons, itemTrees, ih, tree]

theorem protocols_of_tree {c d : Content} (same : c.protocols.map tree = d.protocols.map tree) :
    c.protocols = d.protocols := by
  have inj : Function.Injective Identity.Tree.text := fun _ _ => Identity.Tree.text.inj
  unfold Content.protocols at same ⊢
  by_cases first : c.alpn = [] <;> by_cases second : d.alpn = [] <;>
    simp only [first, second, if_true, if_false] at same ⊢
  · cases same
  · cases same
  · simp only [Option.map_some, Option.some.injEq, tree, Identity.Tree.list.injEq,
      itemTrees_texts] at same
    rw [(List.map_injective_iff.2 inj) same]

theorem options_of_sameProxy {c : Content} {name : String}
    (same : Identity.SameProxy c.record (c.written name).record) :
    (c.written name).record.options = c.record.options := by
  have alpn := same.option (ordered_record c) (ordered_record (c.written name))
    (by decide : "alpn" ∉ Identity.hidden)
  rw [get?_record, get?_record] at alpn
  unfold Content.record
  rw [← protocols_of_tree alpn]
  rfl

theorem rewritten (c : Content) (name : String) :
    Adapter.Rewritten c.record (c.written name).record :=
  ⟨rfl, rfl, rfl, plain_record _, options_of_sameProxy⟩

end told

end ProxyGateway.ShareLink.Trojan
