import ProxyGateway.Proofs.Json.Object
import ProxyGateway.Proofs.Proxy.Adapter
import ProxyGateway.Proofs.ShareLink.Basic

namespace ProxyGateway.ShareLink.Vmess

structure Content where
  name : String
  server : String
  port : UInt16
  id : String
  alterId : Int
  cipher : String
  tls : Bool
  sni : Option String
  network : Option String
  /-- The path and the host that a websocket is opened with. -/
  path : String
  host : Option String

namespace Content

def websocket (c : Content) : Option Yaml :=
  if c.network = some "ws" then
    some (.map ((.str "path", .str c.path) ::
      (c.host.map fun h => (.str "headers", .map [(.str "Host", .str h)])).toList))
  else none

def record (c : Content) : ProxyRecord :=
  ⟨if c.name = "" then none else some c.name, "vmess", c.server, c.port,
    [("alterId", .num (.whole c.alterId)), ("cipher", .str c.cipher)] ++
      optional "network" (c.network.map .str) ++ optional "servername" (c.sni.map .str) ++
      [("skip-cert-verify", .bool true), ("tls", .bool c.tls), ("udp", .bool true),
        ("uuid", .str c.id)] ++ optional "ws-opts" c.websocket⟩

structure Lawful (c : Content) : Prop where
  id : c.id ≠ ""
  cipher : c.cipher ≠ ""
  network : c.network ≠ some ""
  alterId : Number.least ≤ c.alterId ∧ c.alterId ≤ Number.greatestSigned

/-- What a written link says: nothing of the handshake's name and of how a websocket is opened. -/
def written (c : Content) (name : String) : Content :=
  { c with name, sni := none, path := "", host := none }

end Content

section read

variable {j : Json}

def content (j : Json) (server : String) (port : UInt16) (id : String) : Content where
  name := (field j "ps").getD ""
  server := server
  port := port
  id := id
  alterId := ((field j "aid").bind fun a => Text.readInt 9223372036854775808 a.toList).getD 0
  cipher := (field j "scy").getD "auto"
  tls := secured j
  sni := field j "sni"
  network := field j "net"
  path := (field j "path").getD ""
  host := field j "host"

theorem ofJson_content {server id : String} {port : UInt16}
    (of_server : (field j "add").or (field j "host") = some server)
    (of_port : (field j "port").bind Text.readPort = some port) (of_id : field j "id" = some id) :
    ofJson j = .ok (content j server port id).record := by
  cases net : field j "net" with
  | none =>
    simp only [ofJson, of_server, of_port, of_id, Content.record, Content.websocket, content, net]
    cases field j "sni" <;> rfl
  | some network =>
    by_cases socket : network = "ws"
    · subst socket
      simp only [ofJson, of_server, of_port, of_id, Content.record, Content.websocket, content, net,
        websocket]
      cases field j "sni" <;> cases field j "host" <;> rfl
    · simp only [ofJson, of_server, of_port, of_id, Content.record, Content.websocket, content, net,
        Option.some.injEq, socket, if_false]
      cases field j "sni" <;> rfl

theorem numberText_ne_empty (n : Number) : Json.numberText n ≠ "" := by
  intro nothing
  have chars := congrArg String.toList nothing
  cases n with
  | whole n => exact decimalInt_ne_nil n chars
  | real d =>
    rw [Json.numberText] at chars
    split at chars
    · exact shortText_ne_nil _ d chars
    · cases chars

theorem field_ne_empty {key s : String} (found : field j key = some s) : s ≠ "" := by
  unfold field at found
  split at found
  · split at found
    · cases found
    · rename_i filled
      obtain rfl := Option.some.inj found
      exact filled
  · obtain rfl := Option.some.inj found
    exact numberText_ne_empty _
  · cases found

theorem filled_field {key default : String} (filled : default ≠ "") :
    (field j key).getD default ≠ "" := by
  cases found : field j key with
  | none => exact filled
  | some s => exact field_ne_empty found

theorem alterId_range (aid : Option String) :
    Number.least ≤ (aid.bind fun a => Text.readInt 9223372036854775808 a.toList).getD 0 ∧
      (aid.bind fun a => Text.readInt 9223372036854775808 a.toList).getD 0 ≤
        Number.greatestSigned := by
  cases read : aid.bind fun a => Text.readInt 9223372036854775808 a.toList with
  | none => decide
  | some n =>
    obtain ⟨a, _, of_text⟩ := Option.bind_eq_some_iff.1 read
    obtain ⟨low, high⟩ := Text.readInt_range (by decide) of_text
    unfold Number.least Number.greatestSigned
    rw [Option.getD_some]
    omega

theorem lawful_content {server id : String} {port : UInt16} (of_id : field j "id" = some id) :
    (content j server port id).Lawful where
  id := field_ne_empty of_id
  cipher := filled_field (by decide)
  network := fun nothing => field_ne_empty nothing rfl
  alterId := alterId_range _

theorem content_of_read {link : String} {r : ProxyRecord} (done : read link = .ok r) :
    ∃ c : Content, c.Lawful ∧ r = c.record := by
  unfold read at done
  split at done
  · split at done
    · rename_i j _
      cases of_server : (field j "add").or (field j "host") with
      | none =>
        simp only [ofJson, of_server] at done
        cases done
      | some server =>
        cases of_port : (field j "port").bind Text.readPort with
        | none =>
          simp only [ofJson, of_server, of_port] at done
          cases done
        | some port =>
          cases of_id : field j "id" with
          | none =>
            simp only [ofJson, of_server, of_port, of_id] at done
            cases done
          | some id =>
            rw [ofJson_content of_server of_port of_id] at done
            exact ⟨_, lawful_content of_id, (Except.ok.inj done).symm⟩
    · cases done
  · cases done

end read

section write

variable {name host : String} {port : UInt16} {r : ProxyRecord}

def told (name host : String) (port : UInt16) (r : ProxyRecord) (id : String) : Content where
  name := name
  server := host
  port := port
  id := id
  alterId := (r.int? "alterId").getD 0
  cipher := ((r.text? "cipher").filter (· ≠ "")).getD "auto"
  tls := (r.flag? "tls").getD false
  sni := none
  network := (r.text? "network").filter (· ≠ "")
  path := ""
  host := none

def entries (name host : String) (port : UInt16) (r : ProxyRecord) : List (String × Json) :=
  [("v", .str "2"), ("ps", .str name), ("add", .str host), ("port", .num (.whole port.toNat))] ++
    ((r.text? "uuid").map fun v => ("id", .str v)).toList ++
    ((r.text? "cipher").map fun v => ("scy", .str v)).toList ++
    ((r.text? "network").map fun v => ("net", .str v)).toList ++
    ((r.int? "alterId").map fun n => ("aid", .num (.whole n))).toList ++
    if (r.flag? "tls").getD false then [("tls", .str "tls")] else []

theorem write_eq : write name host port r =
    "vmess" ++ "://" ++
      encodeBase64 (Text.Utf8.encode (Json.ofMembers (entries name host port r)).text) := rfl

theorem int?_range {key : String} {n : Int} (found : r.int? key = some n) :
    Number.least ≤ n ∧ n ≤ Number.greatestSigned := by
  unfold ProxyRecord.int? at found
  split at found
  · rename_i m _
    cases m with
    | whole m =>
      simp only [Number.int?, Option.ite_none_right_eq_some, Option.some.injEq] at found
      exact found.2 ▸ found.1
    | real d => cases found
  · obtain ⟨low, high⟩ := Text.readInt_range (by decide) found
    unfold Number.least Number.greatestSigned
    omega
  · cases found

theorem leaf_of_mem_entries : ∀ e ∈ entries name host port r, Json.Leaf e.2 := by
  have port_range : Json.InRange port.toNat := by
    have bound := port.toNat_lt
    unfold Json.InRange
    omega
  have alterId : ∀ n, r.int? "alterId" = some n → Json.InRange n := by
    intro n found
    have range := int?_range found
    unfold Number.least Number.greatestSigned at range
    exact ⟨range.1, by omega⟩
  have tls : ∀ e ∈ if (r.flag? "tls").getD false then [("tls", Json.str "tls")] else [],
      Json.Leaf e.2 := by
    split <;> simp [Json.Leaf]
  unfold entries
  simp only [List.forall_mem_append, List.forall_mem_cons]
  refine ⟨⟨⟨⟨⟨⟨trivial, trivial, trivial, port_range, nofun⟩, ?_⟩, ?_⟩, ?_⟩, ?_⟩, tls⟩
  all_goals simp +contextual [Json.Leaf, alterId]

theorem get?_entries (name host : String) (port : UInt16) (r : ProxyRecord) :
    let object := Json.ofMembers (entries name host port r)
    object.get? "add" = some (.str host) ∧
      object.get? "aid" = (r.int? "alterId").map (fun n => .num (.whole n)) ∧
      object.get? "id" = (r.text? "uuid").map .str ∧
      object.get? "net" = (r.text? "network").map .str ∧
      object.get? "port" = some (.num (.whole port.toNat)) ∧ object.get? "ps" = some (.str name) ∧
      object.get? "scy" = (r.text? "cipher").map .str ∧
      object.get? "tls" = (if (r.flag? "tls").getD false then some (.str "tls") else none) ∧
      object.get? "sni" = none ∧ object.get? "path" = none ∧ object.get? "host" = none := by
  have nothing (key : String) : Fields.get? (Fields.ofList ([] : Fields Json)) key = none := rfl
  cases tls : (r.flag? "tls").getD false <;>
    simp [Json.get?, Json.ofMembers, entries, Fields.get?_ofList_append, Fields.get?_ofList_cons,
      Fields.get?_ofList_option, nothing, tls]

theorem read_entries :
    Json.read (String.ofList (Json.ofMembers (entries name host port r)).text) =
      .ok (Json.ofMembers (entries name host port r)) := by
  refine Json.read_object (fun nothing => ?_) (Fields.ordered_ofList _)
    fun e member => leaf_of_mem_entries e (Fields.mem_of_mem_ofList member)
  have add := (get?_entries name host port r).1
  rw [Json.ofMembers, nothing] at add
  cases add

theorem read_eq :
    read (write name host port r) = ofJson (Json.ofMembers (entries name host port r)) := by
  have text : Text.Utf8.encode (Json.ofMembers (entries name host port r)).text =
      Bytes.ofText (String.ofList (Json.ofMembers (entries name host port r)).text) := by
    rw [Bytes.ofText, String.toList_ofList]
  have filled : String.ofList (Json.ofMembers (entries name host port r)).text ≠ "" :=
    fun nothing => List.cons_ne_nil _ _ (String.ofList_eq_empty_iff.1 nothing)
  rw [write_eq, read, body_link (by decide), text, decodeBase64_encodeBase64 filled]
  simp only [read_entries]

theorem field_text {j : Json} {key : String} (value : Option String)
    (found : j.get? key = value.map .str) : field j key = value.filter (· ≠ "") := by
  cases value with
  | none => rw [field, found]; rfl
  | some s => by_cases empty : s = "" <;> simp [field, found, Option.filter, empty]

theorem field_number {j : Json} {key : String} (value : Option Int)
    (found : j.get? key = value.map fun n => .num (.whole n)) :
    field j key = value.map Text.decimalInt := by
  cases value with
  | none => rw [field, found]; rfl
  | some n => rw [field, found]; rfl

theorem content_entries (name host : String) (port : UInt16) (r : ProxyRecord) (id : String) :
    content (Json.ofMembers (entries name host port r)) host port id =
      told name host port r id := by
  obtain ⟨_, aid, _, net, _, ps, scy, tls, sni, path, open_host⟩ := get?_entries name host port r
  have missing {key : String}
      (absent : (Json.ofMembers (entries name host port r)).get? key = none) :
      field (Json.ofMembers (entries name host port r)) key = none := by
    rw [field, absent]
  have of_alterId : ((field (Json.ofMembers (entries name host port r)) "aid").bind fun a =>
      Text.readInt 9223372036854775808 a.toList) = r.int? "alterId" := by
    rw [field_number _ aid]
    cases found : r.int? "alterId" with
    | none => rfl
    | some n =>
      have range := int?_range found
      unfold Number.least Number.greatestSigned at range
      exact Text.readInt_decimalInt (by omega)
  have of_tls :
      secured (Json.ofMembers (entries name host port r)) = (r.flag? "tls").getD false := by
    rw [secured, tls]
    cases (r.flag? "tls").getD false <;> rfl
  simp only [content, told, field_text (some name) ps, getD_filter, of_alterId,
    field_text _ scy, of_tls, missing sni, field_text _ net, missing path, missing open_host,
    Option.getD_none]

/-- The link of a record with an identifier is read as all that it tells. -/
theorem read_written {id : String} (filled : host ≠ "") (of_id : r.text? "uuid" = some id)
    (filled_id : id ≠ "") :
    read (write name host port r) = .ok (told name host port r id).record := by
  obtain ⟨add, _, uuid, _, number, _⟩ := get?_entries name host port r
  have of_server : (field (Json.ofMembers (entries name host port r)) "add").or
      (field (Json.ofMembers (entries name host port r)) "host") = some host := by
    rw [field_text (some host) add, filter_filled (by simp [filled]), Option.some_or]
  have of_port : (field (Json.ofMembers (entries name host port r)) "port").bind Text.readPort =
      some port := by
    rw [field_number (some ↑port.toNat) number]
    exact Text.readPort_decimal port
  have of_field : field (Json.ofMembers (entries name host port r)) "id" = some id := by
    rw [field_text _ uuid, of_id]
    exact filter_filled (by simp [filled_id])
  rw [read_eq, ofJson_content of_server of_port of_field, content_entries]

theorem readLink_write_eq :
    ShareLink.read (write name host port r) = read (write name host port r) := by
  rw [write_eq]
  refine read_of_link (fun d last => ?_) .vmess
  rw [encodeBase64, String.toList_ofList] at last
  exact (apart_of_mem_write (f := ⟨false, true⟩) (List.mem_of_getLast? last)).1

theorem read_without_host : read (write name "" port r) =
    .error (.parse "vmess link missing address") := by
  obtain ⟨add, _, _, _, _, _, _, _, _, _, open_host⟩ := get?_entries name "" port r
  have no_server : (field (Json.ofMembers (entries name "" port r)) "add").or
      (field (Json.ofMembers (entries name "" port r)) "host") = none := by
    rw [field_text (some "") add, field_text none open_host]
    rfl
  rw [read_eq, ofJson]
  simp only [no_server]
  rfl

variable {c : Content}

theorem text?_record (c : Content) :
    c.record.text? "uuid" = some c.id ∧ c.record.text? "cipher" = some c.cipher ∧
      c.record.text? "network" = c.network ∧ c.record.flag? "tls" = some c.tls := by
  obtain ⟨name, server, port, id, alterId, cipher, tls, sni, network, path, host⟩ := c
  cases network <;> cases sni <;> exact ⟨rfl, rfl, rfl, rfl⟩

theorem int?_record (lawful : c.Lawful) : c.record.int? "alterId" = some c.alterId := by
  have found : c.record.options.get? "alterId" = some (.num (.whole c.alterId)) := rfl
  rw [ProxyRecord.int?, found]
  exact if_pos lawful.alterId

theorem told_record (lawful : c.Lawful) (name : String) :
    told name c.server c.port c.record c.id = c.written name := by
  obtain ⟨_, cipher, network, tls⟩ := text?_record c
  have of_cipher : (some c.cipher).filter (· ≠ "") = some c.cipher :=
    filter_filled (by simp [lawful.cipher])
  simp only [told, Content.written, int?_record lawful, cipher, network, tls, of_cipher,
    filter_filled lawful.network, Option.getD_some]

theorem readLink_write (lawful : c.Lawful) (server : c.server ≠ "") (name : String) :
    ShareLink.read (write name c.server c.port c.record) = .ok (c.written name).record := by
  rw [readLink_write_eq, read_written server (text?_record c).1 lawful.id, told_record lawful]

end write

section carried

/-- The record without what a link has no place for. -/
def carried (r : ProxyRecord) : ProxyRecord :=
  let options := r.options.erase "servername"
  { r with options :=
      if (options.get? "ws-opts").isSome then options.put "ws-opts" (.map [(.str "path", .str "")])
      else options }

theorem carried_record (c : Content) (name : String) :
    (carried c.record).named name = (c.written name).record := by
  obtain ⟨old, server, port, id, alterId, cipher, tls, sni, network, path, host⟩ := c
  cases network with
  | none => cases sni <;> rfl
  | some network =>
    by_cases socket : network = "ws"
    · subst socket
      cases sni <;> cases host <;> rfl
    · simp only [Content.record, Content.written, Content.websocket, Option.some.injEq, socket,
        if_false]
      cases sni <;> rfl

end carried

section told

open Identity (HoldsTag holdsTag_map tree)

theorem ordered_record (c : Content) : c.record.options.Ordered := by
  have all : ["alterId", "cipher", "network", "servername", "skip-cert-verify", "tls", "udp",
    "uuid", "ws-opts"].Pairwise (· < ·) := by decide
  refine all.sublist ?_
  simp only [Content.record, List.map_append]
  exact (((List.Sublist.refl ["alterId", "cipher"]).append (names_optional _ _)).append
    (names_optional _ _)).append (.refl ["skip-cert-verify", "tls", "udp", "uuid"]) |>.append
    (names_optional _ _)

theorem plain_record (c : Content) : ∀ e ∈ c.record.options, ¬ HoldsTag e.2 := by
  have socket : ∀ v, c.websocket = some v → ¬ HoldsTag v := by
    intro v some
    unfold Content.websocket at some
    split at some
    · obtain rfl := Option.some.inj some
      cases c.host <;> simp [holdsTag_map]
    · cases some
  simp only [Content.record, List.forall_mem_append, List.forall_mem_cons, forall_mem_optional]
  simpa using socket

theorem get?_record (c : Content) :
    c.record.options.get? "servername" = c.sni.map .str ∧
      c.record.options.get? "ws-opts" = c.websocket := by
  obtain ⟨socket, of_socket⟩ : ∃ socket, c.websocket = socket := ⟨_, rfl⟩
  simp only [Content.record, of_socket]
  cases c.network <;> cases c.sni <;> cases socket <;> exact ⟨rfl, rfl⟩

theorem websocket_of_tree {c : Content} {name : String}
    (same : c.websocket.map tree = (c.written name).websocket.map tree) :
    c.websocket = (c.written name).websocket := by
  have other : (c.written name).websocket =
      if c.network = some "ws" then some (.map [(.str "path", .str "")]) else none := rfl
  rw [other] at same ⊢
  unfold Content.websocket at same ⊢
  split at same
  · rename_i socket
    rw [if_pos socket, if_pos socket]
    simp only [Option.map_some, Option.some.injEq, tree, Identity.Tree.record.injEq] at same
    have path := congrFun same "path"
    have headers := congrFun same "headers"
    cases host : c.host with
    | none =>
      rw [host] at path
      have text : some (Identity.Tree.text c.path) = some (.text "") := path
      simp only [Option.some.injEq, Identity.Tree.text.injEq] at text
      simp [text]
    | some host =>
      rw [‹c.host = _›] at headers
      cases headers
  · rename_i socket
    rw [if_neg socket, if_neg socket]

theorem options_of_sameProxy {c : Content} {name : String}
    (same : Identity.SameProxy c.record (c.written name).record) :
    (c.written name).record.options = c.record.options := by
  have option (key : String) (shown : key ∉ Identity.hidden) :=
    same.option (ordered_record c) (ordered_record (c.written name)) shown
  have handshake := option "servername" (by decide)
  rw [(get?_record _).1, (get?_record _).1] at handshake
  have sni : c.sni = none := by
    cases given : c.sni with
    | none => rfl
    | some sni =>
      rw [given] at handshake
      cases handshake
  have transport := option "ws-opts" (by decide)
  rw [(get?_record _).2, (get?_record _).2] at transport
  unfold Content.record
  rw [← websocket_of_tree transport, sni]
  rfl

theorem rewritten (c : Content) (name : String) :
    Adapter.Rewritten c.record (c.written name).record :=
  ⟨rfl, rfl, rfl, plain_record _, options_of_sameProxy⟩

end told

end ProxyGateway.ShareLink.Vmess
