import Mathlib.Data.List.Induction
import ProxyGateway.Proofs.Identity.Complete
import ProxyGateway.Proofs.Yaml.Document
import ProxyGateway.Proxy.Record

namespace ProxyGateway.Yaml.Mapping

/-- The value of the last key with a text. -/
def last? (m : Mapping) (name : String) : Option Yaml :=
  (m.reverse.find? fun e => e.1.scalarText? == some name).map (·.2)

theorem last?_append (m n : Mapping) (name : String) :
    last? (m ++ n) name = (last? n name).or (last? m name) := by
  simp [last?, List.find?_append, Option.map_or]

theorem last?_singleton (k v : Yaml) (name : String) :
    last? [(k, v)] name = if k.scalarText? = some name then some v else none := by
  by_cases here : k.scalarText? = some name <;> simp [last?, here]

theorem last?_cons (e : Yaml × Yaml) (m : Mapping) (name : String) :
    last? (e :: m) name =
      (last? m name).or (if e.1.scalarText? = some name then some e.2 else none) := by
  rw [← last?_singleton]
  exact last?_append [e] m name

theorem last?_concat (m : Mapping) (k v : Yaml) (name : String) :
    last? (m ++ [(k, v)]) name = if k.scalarText? = some name then some v else m.last? name := by
  rw [last?_append, last?_singleton]
  split <;> rfl

theorem last?_named (entries : List (String × Yaml)) (name : String) :
    last? (Identity.named entries) name = (Fields.ofList entries).get? name := by
  induction entries with
  | nil => rfl
  | cons e entries ih =>
    obtain ⟨k, v⟩ := e
    have first : Identity.named ((k, v) :: entries) = (.str k, v) :: Identity.named entries := rfl
    rw [first, last?_cons, ih, Fields.get?_ofList_cons]
    simp [scalarText?]

theorem insert_named {entries : List (String × Yaml)} {k : String} (new : ∀ e ∈ entries, e.1 ≠ k)
    (v : Yaml) : insert (Identity.named entries) (.str k) v =
      Identity.named (entries ++ [(k, v)]) := by
  induction entries with
  | nil => rfl
  | cons e entries ih =>
    obtain ⟨here, later⟩ := List.forall_mem_cons.1 new
    have first : Identity.named (e :: entries) = (.str e.1, e.2) :: Identity.named entries := rfl
    simp only [first, insert, same_str, Yaml.str.injEq, here, ↓reduceIte, ih later]
    rfl

theorem insertAll_named {entries : List (String × Yaml)} {fs : Fields Yaml} (ordered : fs.Ordered)
    (new : ∀ f ∈ fs, ∀ e ∈ entries, e.1 ≠ f.1) :
    fs.foldl (fun m (k, v) => m.insert (.str k) v) (Identity.named entries) =
      Identity.named (entries ++ fs) := by
  induction fs generalizing entries with
  | nil => simp
  | cons f fs ih =>
    obtain ⟨here, later⟩ := List.forall_mem_cons.1 new
    have new' : ∀ g ∈ fs, ∀ e ∈ entries ++ [f], e.1 ≠ g.1 := by
      intro g member e among
      obtain among | rfl := by simpa using among
      · exact later g member e among
      · intro same
        have before := ordered.head_lt member
        rw [same] at before
        exact String.lt_irrefl g.1 before
    simp only [List.foldl_cons, insert_named here, ih ordered.tail new']
    simp

end ProxyGateway.Yaml.Mapping

namespace ProxyGateway.ProxyRecord

def fieldNames : List String := ["name", "type", "server", "port"]

/-- The options stand in order, and none has the name of a field. -/
structure Tidy (r : ProxyRecord) : Prop where
  ordered : r.options.Ordered
  apart : ∀ e ∈ r.options, e.1 ∉ fieldNames

/-- What a mapping tells of a record: the last entry of a name counts. -/
structure Tells (m : Yaml.Mapping) (r : ProxyRecord) : Prop where
  scalars : ∀ e ∈ m, e.1.scalarText?.isSome
  name : r.name = ((m.last? "name").bind Yaml.scalarText?).filter (· ≠ "")
  kind : (m.last? "type").bind Yaml.scalarText? = some r.kind
  server : (m.last? "server").bind Yaml.scalarText? = some r.server
  port : (m.last? "port").bind portOf? = some r.port.toNat
  ordered : r.options.Ordered
  options : ∀ key, r.options.get? key = if key ∈ fieldNames then none else m.last? key
  valid : r.validate = .ok ()

section draft

structure Drafted (m : Yaml.Mapping) (d : Draft) : Prop where
  scalars : ∀ e ∈ m, e.1.scalarText?.isSome
  name : d.name = (m.last? "name").bind Yaml.scalarText?
  kind : d.kind = (m.last? "type").bind Yaml.scalarText?
  server : d.server = (m.last? "server").bind Yaml.scalarText?
  port : d.port = (m.last? "port").bind portOf?
  ordered : d.options.Ordered
  options : ∀ key, d.options.get? key = if key ∈ fieldNames then none else m.last? key

def blank : Draft := ⟨none, none, none, none, []⟩

theorem drafted_blank : Drafted [] blank :=
  ⟨nofun, rfl, rfl, rfl, rfl, Fields.ordered_nil, fun _ => (ite_self none).symm⟩

open Yaml.Mapping (last? last?_append last?_concat last?_named)

variable {m : Yaml.Mapping} {d e : Draft} {k v : Yaml}

theorem Drafted.add (drafted : Drafted m d) (added : d.add k v = .ok e) :
    Drafted (m ++ [(k, v)]) e := by
  obtain ⟨scalars, name, kind, server, port, ordered, options⟩ := drafted
  have scalars' (here : k.scalarText?.isSome) : ∀ e ∈ m ++ [(k, v)], e.1.scalarText?.isSome :=
    List.forall_mem_append.2 ⟨scalars, List.forall_mem_singleton.2 here⟩
  have kept {text : String} (here : k.scalarText? = some text) (field : text ∈ fieldNames)
      (key : String) : d.options.get? key =
        if key ∈ fieldNames then none else Yaml.Mapping.last? (m ++ [(k, v)]) key := by
    rw [options, last?_concat, here]
    by_cases other : text = key
    · rw [if_pos (other ▸ field), if_pos (other ▸ field)]
    · simp [other]
  unfold Draft.add at added
  split at added
  case h_1 => cases added
  case h_2 | h_3 | h_4 | h_5 =>
    rename_i here
    obtain rfl := Except.ok.inj added
    refine ⟨scalars' (by simp [here]), ?_, ?_, ?_, ?_, ordered, kept here (by decide)⟩ <;>
      simp [last?_concat, here, name, kind, server, port]
  case h_6 text no_name no_kind no_server no_port here =>
    obtain rfl := Except.ok.inj added
    have option : text ∉ fieldNames := by
      simp only [fieldNames, List.mem_cons, List.not_mem_nil, or_false]
      rintro (same | same | same | same)
      exacts [no_name same, no_kind same, no_server same, no_port same]
    have other {field : String} (known : field ∈ fieldNames) : text ≠ field :=
      fun same => option (same ▸ known)
    refine ⟨scalars' (by simp [here]), ?_, ?_, ?_, ?_, Fields.ordered_put ordered text v,
      fun key => ?_⟩
    · simpa [last?_concat, here, other (by decide : "name" ∈ fieldNames)] using name
    · simpa [last?_concat, here, other (by decide : "type" ∈ fieldNames)] using kind
    · simpa [last?_concat, here, other (by decide : "server" ∈ fieldNames)] using server
    · simpa [last?_concat, here, other (by decide : "port" ∈ fieldNames)] using port
    · rw [Fields.get?_put, options, last?_concat, here]
      by_cases same : text = key
      · simp [← same, option]
      · simp [same]

theorem drafted_run (done : m.foldlM (fun (d : Draft) (k, v) => d.add k v) blank = .ok d) :
    Drafted m d := by
  induction m using List.reverseRecOn generalizing d with
  | nil =>
    obtain rfl := Except.ok.inj done
    exact drafted_blank
  | append_singleton m entry ih =>
    rw [List.foldlM_append] at done
    obtain ⟨before, run, last⟩ := bind_eq_ok.1 done
    obtain ⟨after, added, last⟩ := bind_eq_ok.1 last
    obtain rfl := Except.ok.inj last
    exact (ih run).add added

/-- Nothing but a key that is no scalar stops the reading. -/
theorem exists_run (scalars : ∀ e ∈ m, e.1.scalarText?.isSome) (d : Draft) :
    ∃ e, m.foldlM (fun (d : Draft) (k, v) => d.add k v) d = .ok e := by
  induction m generalizing d with
  | nil => exact ⟨d, rfl⟩
  | cons entry m ih =>
    obtain ⟨here, later⟩ := List.forall_mem_cons.1 scalars
    obtain ⟨text, here⟩ := Option.isSome_iff_exists.1 here
    obtain ⟨next, added⟩ : ∃ next, d.add entry.1 entry.2 = .ok next := by
      unfold Draft.add
      split
      · rename_i none
        rw [here] at none
        cases none
      all_goals exact ⟨_, rfl⟩
    obtain ⟨e, run⟩ := ih later next
    refine ⟨e, ?_⟩
    rw [List.foldlM_cons]
    exact bind_eq_ok.2 ⟨next, added, run⟩

variable {r : ProxyRecord}

theorem finish_eq_ok : d.finish = .ok r ↔
    d.kind = some r.kind ∧ d.server = some r.server ∧ d.port = some r.port.toNat ∧
      r.name = d.name.filter (· ≠ "") ∧ r.options = d.options ∧ r.validate = .ok () := by
  obtain ⟨name, kind, server, port, options⟩ := d
  unfold Draft.finish
  cases kind with
  | none => simp
  | some kind =>
  cases server with
  | none => simp
  | some server =>
  cases port with
  | none => simp
  | some port =>
  dsimp only
  constructor
  · intro done
    split at done
    · rename_i small
      obtain ⟨_, valid, done⟩ := bind_eq_ok.1 done
      obtain rfl := Except.ok.inj done
      have whole : port = (UInt16.ofNat port).toNat := by
        rw [UInt16.toNat_ofNat', Nat.mod_eq_of_lt small]
      exact ⟨rfl, rfl, congrArg some whole, rfl, rfl, valid⟩
    · cases done
  · obtain ⟨name', kind', server', port', options'⟩ := r
    rintro ⟨same_kind, same_server, same_port, rfl, rfl, valid⟩
    obtain rfl := Option.some.inj same_kind
    obtain rfl := Option.some.inj same_server
    obtain rfl := Option.some.inj same_port
    rw [if_pos port'.toNat_lt, UInt16.ofNat_toNat]
    exact bind_eq_ok.2 ⟨(), valid, rfl⟩

theorem ofMapping_eq_ok : ofMapping m = .ok r ↔ Tells m r := by
  have parts : ofMapping m = (m.foldlM (fun (d : Draft) (k, v) => d.add k v) blank).bind
      Draft.finish := rfl
  rw [parts]
  constructor
  · intro done
    obtain ⟨d, run, done⟩ := bind_eq_ok.1 done
    obtain ⟨kind, server, port, name, options, valid⟩ := finish_eq_ok.1 done
    have drafted := drafted_run run
    exact ⟨drafted.scalars, drafted.name ▸ name, drafted.kind ▸ kind, drafted.server ▸ server,
      drafted.port ▸ port, options ▸ drafted.ordered, options ▸ drafted.options, valid⟩
  · intro told
    obtain ⟨d, run⟩ := exists_run told.scalars blank
    have drafted := drafted_run run
    have options : r.options = d.options :=
      told.ordered.ext drafted.ordered fun key => (told.options key).trans (drafted.options key).symm
    refine bind_eq_ok.2 ⟨d, run, finish_eq_ok.2 ⟨?_, ?_, ?_, ?_, options, told.valid⟩⟩
    · rw [drafted.kind, told.kind]
    · rw [drafted.server, told.server]
    · rw [drafted.port, told.port]
    · rw [drafted.name, told.name]

end draft

variable {m : Yaml.Mapping} {r : ProxyRecord}

theorem Tells.apart (told : Tells m r) {name : String} (field : name ∈ fieldNames) :
    r.options.get? name = none := by
  rw [told.options, if_pos field]

theorem Tells.tidy (told : Tells m r) : r.Tidy := by
  refine ⟨told.ordered, fun e member field => ?_⟩
  have found := (Fields.get?_eq_some_iff told.ordered).2 member
  rw [told.apart field] at found
  cases found

theorem Tells.name_ne_empty (told : Tells m r) : r.name ≠ some "" := by
  rw [told.name]
  intro empty
  exact absurd (Option.filter_eq_some_iff.1 empty).2 (by decide)

def fieldEntries (name : Option String) (r : ProxyRecord) : List (String × Yaml) :=
  (name.map fun n => ("name", Yaml.str n)).toList ++
    [("type", .str r.kind), ("server", .str r.server), ("port", .num (.whole r.port.toNat))]

theorem field_of_mem {name : Option String} {e : String × Yaml}
    (member : e ∈ fieldEntries name r) : e.1 ∈ fieldNames := by
  suffices all : ∀ e ∈ fieldEntries name r, e.1 ∈ fieldNames from all e member
  cases name <;> simp [fieldEntries, fieldNames]

/-- A mapping to which options are added that have the name of no field. -/
theorem insertAll_fieldEntries (name : Option String) (r : ProxyRecord) {options : Fields Yaml}
    (ordered : options.Ordered) (apart : ∀ e ∈ options, e.1 ∉ fieldNames) :
    options.foldl (fun m (k, v) => m.insert (.str k) v) (Identity.named (fieldEntries name r)) =
      Identity.named (fieldEntries name r ++ options) := by
  apply Yaml.Mapping.insertAll_named ordered
  intro f member e among same
  exact apart f member (same ▸ field_of_mem among)

theorem toMapping_eq (tidy : r.Tidy) :
    r.toMapping = Identity.named (fieldEntries r.name r ++ r.options) := by
  rw [← insertAll_fieldEntries r.name r tidy.ordered tidy.apart]
  obtain ⟨name, kind, server, port, options⟩ := r
  cases name <;> rfl

theorem get?_fieldEntries (name : Option String) (r : ProxyRecord) :
    (Fields.ofList (fieldEntries name r)).get? "name" = name.map .str ∧
    (Fields.ofList (fieldEntries name r)).get? "type" = some (.str r.kind) ∧
    (Fields.ofList (fieldEntries name r)).get? "server" = some (.str r.server) ∧
    (Fields.ofList (fieldEntries name r)).get? "port" = some (.num (.whole r.port.toNat)) := by
  cases name <;> exact ⟨rfl, rfl, rfl, rfl⟩

theorem tells_written {name : Option String} {entries : List (String × Yaml)}
    (valid : r.validate = .ok ()) (named : r.name = name.filter (· ≠ ""))
    (options : r.options = Fields.ofList entries) (apart : ∀ e ∈ entries, e.1 ∉ fieldNames) :
    Tells (Identity.named (fieldEntries name r ++ entries)) r := by
  have look_up (key : String) :
      Yaml.Mapping.last? (Identity.named (fieldEntries name r ++ entries)) key =
        (r.options.get? key).or ((Fields.ofList (fieldEntries name r)).get? key) := by
    rw [Identity.named, List.map_append, Yaml.Mapping.last?_append, ← Identity.named,
      ← Identity.named, Yaml.Mapping.last?_named, Yaml.Mapping.last?_named, options]
  have no_option (key : String) (known : key ∈ fieldNames) : r.options.get? key = none := by
    rw [options]
    exact Fields.get?_ofList_eq_none fun e member same => apart e member (same ▸ known)
  have field (key : String) (known : key ∈ fieldNames) :
      Yaml.Mapping.last? (Identity.named (fieldEntries name r ++ entries)) key =
        (Fields.ofList (fieldEntries name r)).get? key := by
    rw [look_up, no_option key known, Option.none_or]
  obtain ⟨of_name, of_kind, of_server, of_port⟩ := get?_fieldEntries name r
  refine ⟨?_, ?_, ?_, ?_, ?_, options ▸ Fields.ordered_ofList entries, fun key => ?_, valid⟩
  · intro e member
    obtain ⟨f, _, rfl⟩ := List.mem_map.1 member
    rfl
  · rw [field _ (by decide), of_name, named]
    cases name <;> rfl
  · rw [field _ (by decide), of_kind]
    rfl
  · rw [field _ (by decide), of_server]
    rfl
  · rw [field _ (by decide), of_port]
    simp [portOf?, Number.nat?]
  · by_cases known : key ∈ fieldNames
    · rw [if_pos known, no_option key known]
    · have no_field : (Fields.ofList (fieldEntries name r)).get? key = none :=
        Fields.get?_ofList_eq_none fun e member same => known (same ▸ field_of_mem member)
      rw [if_neg known, look_up, no_field, Option.or_none]

theorem Tells.toMapping (told : Tells m r) : Tells r.toMapping r := by
  have named : r.name = r.name.filter (· ≠ "") := by
    rw [told.name, Option.filter_filter]
    simp
  rw [toMapping_eq told.tidy]
  exact tells_written told.valid named (Fields.ofList_eq_self told.ordered).symm told.tidy.apart

/-- What was read from a mapping is what it tells, and is read again from the mapping that it is
written as. -/
theorem decoded_record_returns (decoded : ofMapping m = .ok r) :
    Tells m r ∧ r.validate = .ok () ∧ r.name ≠ some "" ∧
    (∀ name ∈ fieldNames, r.options.get? name = none) ∧ ofMapping r.toMapping = .ok r := by
  have told := ofMapping_eq_ok.1 decoded
  exact ⟨told, told.valid, told.name_ne_empty, fun name field => told.apart field,
    ofMapping_eq_ok.2 told.toMapping⟩

/-- A record with an option under a number and under the text of that number, with a port in a text
and with no name to speak of. -/
theorem mixed_record_returns :
    let m : Yaml.Mapping := [(.num (.whole 7), .null), (.str "port", .str " 443 "),
      (.bool true, .seq [.tagged "!x" .null]), (.str "server", .num (.whole 1)),
      (.str "name", .str ""), (.str "type", .str "ss"), (.str "7", .map [(.null, .bool false)])]
    let r : ProxyRecord := ⟨none, "ss", "1", 443,
      [("7", .map [(.null, .bool false)]), ("true", .seq [.tagged "!x" .null])]⟩
    ofMapping m = .ok r ∧ ofMapping r.toMapping = .ok r := by
  intro m r
  have decoded : ofMapping m = .ok r := rfl
  exact ⟨decoded, (decoded_record_returns decoded).2.2.2.2⟩

end ProxyGateway.ProxyRecord
