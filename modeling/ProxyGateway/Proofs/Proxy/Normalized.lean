import ProxyGateway.Proofs.Proxy.Adapter
import ProxyGateway.Proofs.ShareLink.Options
/-!
The normalized record of an adapter. Main statement: an adapter can be made of it again, which is the
same proxy under the same name and is written in the same way; only an adapter whose name is empty
gets a name.
-/
namespace ProxyGateway.Identity

variable {names : List String} {key : String}

theorem without_cons (names : List String) (e : String × Yaml) (fs : Fields Yaml) :
    without names (e :: fs) = if e.1 ∈ names then without names fs else e :: without names fs := by
  by_cases gone : e.1 ∈ names <;> simp [without, gone]

theorem without_put (hidden : key ∈ names) (v : Yaml) (fs : Fields Yaml) :
    without names (Fields.put key v fs) = without names fs := by
  induction fs with
  | nil => simp [Fields.put, without, hidden]
  | cons e fs ih =>
    obtain ⟨k, w⟩ := e
    by_cases here : key = k
    · subst here
      simp [Fields.put, without_cons, hidden]
    · by_cases before : key < k
      · simp [Fields.put, here, before, without_cons, hidden]
      · simp [Fields.put, here, before, without_cons, ih]

theorem without_without (more : key ∈ names) (fs : Fields Yaml) :
    without names (without [key] fs) = without names fs := by
  rw [without, without, without, List.filter_filter]
  refine List.filter_congr fun e _ => ?_
  by_cases here : e.1 = key <;> simp [here, more]

theorem ofRecord_congr {r s : ProxyRecord} (kind : ProxyKind.ofText r.kind = ProxyKind.ofText s.kind)
    (server : r.server = s.server) (port : r.port = s.port)
    (options : without excluded r.options = without excluded s.options) :
    ofRecord r = ofRecord s := by
  unfold without at options
  simp only [ofRecord, canonicalText, recordFields, kind, server, port, options]

theorem ofRecord_eq_hex {r : ProxyRecord} {s : String} (made : ofRecord r = .ok s) :
    ∃ bytes, s = Text.hex bytes := by
  obtain ⟨text, _, rfl⟩ := map_eq_ok.1 made
  exact ⟨_, rfl⟩

end ProxyGateway.Identity

namespace ProxyGateway.Adapter

open Identity (without)
open ProxyRecord (fieldEntries Tells Tidy)

variable {r : ProxyRecord} {a : Adapter}

theorem trim_nameFor {identity : String} (made : Identity.ofRecord r = .ok identity)
    (s : ProxyRecord) :
    Text.trimEndOf ['\r', '\n'] (nameFor s identity) = nameFor s identity := by
  unfold nameFor
  split
  · exact Text.trimEndOf_trimEndOf _ _
  · apply Text.trimEndOf_eq_self
    intro c at_end
    rw [String.toList_ofList] at at_end
    obtain ⟨bytes, rfl⟩ := Identity.ofRecord_eq_hex made
    have digit := List.mem_of_mem_take (List.mem_of_getLast? at_end)
    simp only [List.mem_cons, List.not_mem_nil, or_false]
    rintro (rfl | rfl)
    · exact Text.not_mem_hex (by decide) bytes digit
    · exact Text.not_mem_hex (by decide) bytes digit

theorem nameFor_ne_empty {identity : String} (made : Identity.ofRecord r = .ok identity)
    {s : ProxyRecord} (nameless : s.name = none) : nameFor s identity ≠ "" := by
  intro nothing
  have size : (nameFor s identity).toList.length = 12 := by
    rw [nameFor, nameless, Option.filter_none, String.toList_ofList, List.length_take,
      String.length_toList, Identity.length_ofRecord made]
    rfl
  rw [nothing] at size
  cases size

/-- The record that the normalized mapping of an adapter tells. -/
def renewed (a : Adapter) : ProxyRecord where
  name := (some a.name).filter (· ≠ "")
  kind := a.kind.tag
  server := a.record.server
  port := a.record.port
  options := Fields.put "unique-id" (.str a.identity) (without ["unique-id"] a.record.options)

def writtenOptions (a : Adapter) : List (String × Yaml) :=
  without ["unique-id"] a.record.options ++ [("unique-id", .str a.identity)]

section written

variable (tidy : a.record.Tidy)
include tidy

theorem ordered_kept : Fields.Ordered (without ["unique-id"] a.record.options) :=
  tidy.ordered.sublist (List.filter_sublist.map _)

theorem option_of_mem_kept {e : String × Yaml}
    (member : e ∈ without ["unique-id"] a.record.options) :
    e.1 ∉ ProxyRecord.fieldNames ∧ e.1 ≠ "unique-id" := by
  obtain ⟨inside, kept⟩ := List.mem_filter.1 member
  exact ⟨tidy.apart e inside, by simpa using kept⟩

theorem normalized_eq :
    a.normalized = Identity.named (fieldEntries (some a.name) (renewed a) ++ writtenOptions a) := by
  have kept : a.record.options.filter (·.1 ≠ "unique-id") =
      without ["unique-id"] a.record.options :=
    List.filter_congr fun e _ => by simp
  have options := ProxyRecord.insertAll_fieldEntries (some a.name) (renewed a) (ordered_kept tidy)
    fun e member => (option_of_mem_kept tidy member).1
  have new : ∀ e ∈ fieldEntries (some a.name) (renewed a) ++ without ["unique-id"] a.record.options,
      e.1 ≠ "unique-id" := by
    intro e member same
    obtain field | option := List.mem_append.1 member
    · exact absurd (same ▸ ProxyRecord.field_of_mem field) (by decide)
    · exact (option_of_mem_kept tidy option).2 same
  have identity := Yaml.Mapping.insert_named new (.str a.identity)
  rw [← options, List.append_assoc] at identity
  refine Eq.trans ?_ identity
  rw [normalized, kept]
  rfl

theorem tells_normalized (valid : (renewed a).validate = .ok ()) :
    Tells a.normalized (renewed a) := by
  rw [normalized_eq tidy]
  refine ProxyRecord.tells_written valid rfl ?_ fun e member => ?_
  · rw [writtenOptions, Fields.ofList, List.foldl_append]
    exact congrArg _ (Fields.ofList_eq_self (ordered_kept tidy)).symm
  · obtain option | identity := List.mem_append.1 member
    · exact (option_of_mem_kept tidy option).1
    · rw [List.mem_singleton.1 identity]
      show "unique-id" ∉ ProxyRecord.fieldNames
      decide

end written

/-- A new identity only takes the place of the old one. -/
theorem without_renewed {names : List String} (hidden : "unique-id" ∈ names) (a : Adapter) :
    without names (renewed a).options = without names a.record.options := by
  rw [renewed, Identity.without_put hidden, Identity.without_without hidden]

def renewal (a : Adapter) : Adapter :=
  { a with record := renewed a, name := nameFor (renewed a) a.identity, metrics := [] }

theorem trim_tag_ne_empty (kind : ProxyKind) : Text.trim kind.tag ≠ "" := by
  cases kind <;> decide

theorem Made.renewal (made : Made r a) : Made (renewed a) (renewal a) := by
  obtain rfl := made.record
  refine ⟨?_, ?_, ProxyKind.ofText_tag a.kind, made.place, rfl, rfl, rfl⟩
  · obtain ⟨_, server, port⟩ := ProxyRecord.validate_eq_ok.1 made.valid
    exact ProxyRecord.validate_eq_ok.2 ⟨trim_tag_ne_empty a.kind, server, port⟩
  · rw [Adapter.renewal, ← made.identity]
    refine Identity.ofRecord_congr ?_ rfl rfl (without_renewed (by decide) a)
    rw [made.kind]
    exact ProxyKind.ofText_tag a.kind

theorem name_renewal_iff (made : Made r a) : (renewal a).name = a.name ↔ a.name ≠ "" := by
  constructor
  · intro kept nameless
    have nothing : (renewed a).name = none := by simp [renewed, nameless]
    exact nameFor_ne_empty made.identity nothing (kept.trans nameless)
  · intro named
    have shown : (renewed a).name.filter (· ≠ "") = some a.name := by simp [renewed, named]
    have solid := trim_nameFor made.identity r
    rw [← made.name] at solid
    simp only [renewal, nameFor, shown, solid]

theorem normalized_renewal_iff (made : Made r a) (tidy : a.record.Tidy)
    (again : (renewal a).record.Tidy) : (renewal a).normalized = a.normalized ↔ a.name ≠ "" := by
  rw [← name_renewal_iff made, normalized_eq tidy, normalized_eq again]
  constructor
  · intro same
    obtain ⟨name, _⟩ := List.cons.inj same
    exact Yaml.str.inj (Prod.mk.inj name).2
  · intro same
    have entries : writtenOptions (renewal a) = writtenOptions a :=
      congrArg (· ++ [("unique-id", Yaml.str a.identity)]) (without_renewed List.mem_cons_self a)
    rw [same, entries]
    rfl

/-- What is written of an adapter is the same proxy and is written again in the same way, entry by
entry, unless the adapter has no name to show. -/
theorem normalized_keeps_node
    (source : (∃ m, ProxyRecord.ofMapping m = .ok r) ∨ ∃ link, ShareLink.read link = .ok r)
    (made : ofRecord r = .ok a.unmeasured) :
    ∃ s b, ProxyRecord.ofMapping a.normalized = .ok s ∧ ofRecord s = .ok b ∧
      b.identity = a.identity ∧ b.kind = a.kind ∧ b.host = a.host ∧ b.port = a.port ∧
      (b.name = a.name ↔ a.name ≠ "") ∧ (b.normalized = a.normalized ↔ a.name ≠ "") := by
  have fresh := ofRecord_eq_ok.1 made
  have tidy : r.Tidy := by
    obtain ⟨m, decoded⟩ | ⟨link, done⟩ := source
    · exact (ProxyRecord.ofMapping_eq_ok.1 decoded).tidy
    · exact ShareLink.tidy_of_read done
  obtain rfl := fresh.record
  have again := fresh.renewal
  have told := tells_normalized tidy again.valid
  have name := name_renewal_iff fresh
  have whole := normalized_renewal_iff fresh tidy told.tidy
  exact ⟨renewed a, renewal a, ProxyRecord.ofMapping_eq_ok.2 told, ofRecord_eq_ok.2 again, rfl, rfl,
    rfl, rfl, name, whole⟩

/-- A kind by another word, a name that ends in a line end, and an identity that is not the
proxy's own. -/
theorem stale_identity_is_replaced :
    let m : Yaml.Mapping := [(.str "unique-id", .str "0"), (.str "port", .str "8388"),
      (.str "unique_id", .null), (.str "name", .str "日本\r\n"), (.str "type", .str " Shadowsocks"),
      (.str "server", .str "::1"), (.num (.whole 7), .seq [.bool true])]
    ∃ r a, ProxyRecord.ofMapping m = .ok r ∧ ofRecord r = .ok a ∧ a.name = "日本" ∧
      ∃ s b, ProxyRecord.ofMapping a.normalized = .ok s ∧ ofRecord s = .ok b ∧
        b.identity = a.identity ∧ b.name = a.name ∧ b.normalized = a.normalized := by
  intro m
  let r : ProxyRecord := ⟨some "日本\r\n", " Shadowsocks", "::1", 8388,
    [("7", .seq [.bool true]), ("unique-id", .str "0"), ("unique_id", .null)]⟩
  have decoded : ProxyRecord.ofMapping m = .ok r := rfl
  have plain : ∀ e ∈ r.options, ¬ Identity.HoldsTag e.2 := by simp [r, Identity.holdsTag_seq]
  have valid : r.validate = .ok () := ProxyRecord.validate_eq_ok.2 ⟨by decide, by decide, by decide⟩
  have known : ProxyKind.ofText " Shadowsocks" = .ok .shadowsocks := rfl
  have joinable : Net.Joinable r.server := by
    rw [Net.Joinable, if_pos (by decide)]
    decide
  obtain ⟨a, made⟩ := exists_made valid known joinable plain
  have bare : ofRecord r = .ok a.unmeasured := by
    rw [unmeasured, ← made.metrics]
    exact ofRecord_eq_ok.2 made
  have name : a.name = "日本" := made.name
  have named : a.name ≠ "" := by
    rw [name]
    decide
  obtain ⟨s, b, reads, again, identity, _, _, _, same, whole⟩ :=
    normalized_keeps_node (.inl ⟨m, decoded⟩) bare
  exact ⟨r, a, decoded, ofRecord_eq_ok.2 made, name, s, b, reads, again, identity, same.2 named,
    whole.2 named⟩

end ProxyGateway.Adapter
