import ProxyGateway.Proofs.Identity.Tree
/-!
The canonical text as a name for a proxy. Main statement: records have one canonical text exactly
if they agree on kind, server, port and options, and a record has none exactly if its kind is
unknown or an option that counts holds a tag.
-/
namespace ProxyGateway.Identity

/-- A tag stands somewhere in the value, be it in a key. -/
inductive HoldsTag : Yaml → Prop where
  | here (tag : String) (v : Yaml) : HoldsTag (.tagged tag v)
  | item {v : Yaml} {items : List Yaml} (member : v ∈ items) (inner : HoldsTag v) :
    HoldsTag (.seq items)
  | key {e : Yaml × Yaml} {entries : List (Yaml × Yaml)} (member : e ∈ entries)
      (inner : HoldsTag e.1) : HoldsTag (.map entries)
  | value {e : Yaml × Yaml} {entries : List (Yaml × Yaml)} (member : e ∈ entries)
      (inner : HoldsTag e.2) : HoldsTag (.map entries)

theorem holdsTag_seq {items : List Yaml} : HoldsTag (.seq items) ↔ ∃ v ∈ items, HoldsTag v := by
  constructor
  · rintro (_ | ⟨member, inner⟩)
    exact ⟨_, member, inner⟩
  · rintro ⟨v, member, inner⟩
    exact .item member inner

theorem holdsTag_map {entries : List (Yaml × Yaml)} :
    HoldsTag (.map entries) ↔ ∃ e ∈ entries, HoldsTag e.1 ∨ HoldsTag e.2 := by
  constructor
  · rintro (_ | _ | ⟨member, inner⟩ | ⟨member, inner⟩)
    · exact ⟨_, member, .inl inner⟩
    · exact ⟨_, member, .inr inner⟩
  · rintro ⟨e, member, inner | inner⟩
    · exact .key member inner
    · exact .value member inner

theorem keyText_ok_iff {k : Yaml} (value : (∃ s, valueText k = .ok s) ↔ ¬ HoldsTag k) :
    (∃ s, keyText k = .ok s) ↔ ¬ HoldsTag k := by
  cases k with
  | str s => simpa [keyText, valueText] using value
  | _ => exact value

theorem bind_ok_iff {x : Except Error α} {f : α → Except Error β} {p q : Prop}
    (first : (∃ a, x = .ok a) ↔ p) (second : ∀ a, x = .ok a → ((∃ b, f a = .ok b) ↔ q)) :
    (∃ b, (x >>= f) = .ok b) ↔ p ∧ q := by
  simp only [bind_eq_ok]
  constructor
  · rintro ⟨b, a, done, rest⟩
    exact ⟨first.1 ⟨a, done⟩, (second a done).1 ⟨b, rest⟩⟩
  · rintro ⟨hp, hq⟩
    obtain ⟨a, done⟩ := first.2 hp
    obtain ⟨b, rest⟩ := (second a done).2 hq
    exact ⟨b, a, done, rest⟩

theorem pure_ok_iff (b : β) : (∃ c, (pure b : Except Error β) = .ok c) ↔ True :=
  ⟨fun _ => trivial, fun _ => ⟨b, rfl⟩⟩

mutual

theorem valueText_ok_iff : ∀ v : Yaml, (∃ s, valueText v = .ok s) ↔ ¬ HoldsTag v
  | .null => ⟨fun _ => nofun, fun _ => ⟨_, rfl⟩⟩
  | .bool _ => ⟨fun _ => nofun, fun _ => ⟨_, rfl⟩⟩
  | .num _ => ⟨fun _ => nofun, fun _ => ⟨_, rfl⟩⟩
  | .str _ => ⟨fun _ => nofun, fun _ => ⟨_, rfl⟩⟩
  | .seq items => by
    rw [valueText, bind_ok_iff (itemTexts_ok_iff items) fun _ _ => pure_ok_iff _, holdsTag_seq]
    simp
  | .map entries => by
    rw [valueText, bind_ok_iff (entryTexts_ok_iff entries) fun _ _ => pure_ok_iff _, holdsTag_map]
    simp
  | .tagged tag v => ⟨nofun, fun plain => absurd (.here tag v) plain⟩

theorem itemTexts_ok_iff : ∀ items : List Yaml,
    (∃ ts, itemTexts items = .ok ts) ↔ ∀ v ∈ items, ¬ HoldsTag v
  | [] => ⟨fun _ => nofun, fun _ => ⟨_, rfl⟩⟩
  | v :: rest => by
    rw [itemTexts, bind_ok_iff (valueText_ok_iff v) fun _ _ =>
      bind_ok_iff (itemTexts_ok_iff rest) fun _ _ => pure_ok_iff _]
    simp

theorem entryTexts_ok_iff : ∀ entries : List (Yaml × Yaml),
    (∃ fs, entryTexts entries = .ok fs) ↔ ∀ e ∈ entries, ¬ HoldsTag e.1 ∧ ¬ HoldsTag e.2
  | [] => ⟨fun _ => nofun, fun _ => ⟨_, rfl⟩⟩
  | (k, v) :: rest => by
    rw [entryTexts_cons, bind_ok_iff (keyText_ok_iff (valueText_ok_iff k)) fun _ _ =>
      bind_ok_iff (valueText_ok_iff v) fun _ _ =>
      bind_ok_iff (entryTexts_ok_iff rest) fun _ _ => pure_ok_iff _]
    simp [and_assoc]

end

/-- One value is the other with entries of other keys in another order, or with keys written in
another way, at any depth. -/
inductive Rearranged : Yaml → Yaml → Prop where
  | refl (v : Yaml) : Rearranged v v
  | trans {u v w : Yaml} : Rearranged u v → Rearranged v w → Rearranged u w
  | item (before after : List Yaml) {v w : Yaml} (inner : Rearranged v w) :
    Rearranged (.seq (before ++ v :: after)) (.seq (before ++ w :: after))
  | value (before after : List (Yaml × Yaml)) (k : Yaml) {v w : Yaml} (inner : Rearranged v w) :
    Rearranged (.map (before ++ (k, v) :: after)) (.map (before ++ (k, w) :: after))
  | key (before after : List (Yaml × Yaml)) {k l : Yaml} (v : Yaml) (same : keyText k = keyText l) :
    Rearranged (.map (before ++ (k, v) :: after)) (.map (before ++ (l, v) :: after))
  | order {entries entries' : List (Yaml × Yaml)} (moved : entries.Perm entries')
      (distinct : (entries.map fun e => (keyText e.1).toOption).Nodup) :
    Rearranged (.map entries) (.map entries')

theorem itemTrees_append (xs ys : List Yaml) :
    itemTrees (xs ++ ys) = itemTrees xs ++ itemTrees ys := by
  induction xs with
  | nil => rfl
  | cons x xs ih => simp [itemTrees, ih]

theorem entryTree_append (xs ys : List (Yaml × Yaml)) (key : String) :
    entryTree (xs ++ ys) key = (entryTree ys key).or (entryTree xs key) := by
  induction xs with
  | nil => simp [entryTree]
  | cons x xs ih => simp [entryTree, ih, Option.or_assoc]

theorem entryTree_perm {entries entries' : List (Yaml × Yaml)} (moved : entries.Perm entries')
    (distinct : (entries.map fun e => (keyText e.1).toOption).Nodup) :
    entryTree entries = entryTree entries' := by
  funext key
  induction moved with
  | nil => rfl
  | cons e _ ih =>
    rw [List.map_cons, List.nodup_cons] at distinct
    rw [entryTree, entryTree, ih distinct.2]
  | swap e f rest =>
    simp only [List.map_cons, List.nodup_cons, List.mem_cons, not_or] at distinct
    simp only [entryTree, Option.or_assoc]
    by_cases first : (keyText e.1).toOption = some key
    · have other : (keyText f.1).toOption ≠ some key := fun same => distinct.1.1 (same.trans first.symm)
      simp [first, other]
    · simp [first]
  | trans moved _ ih ih' =>
    have distinct' := (moved.map fun e => (keyText e.1).toOption).nodup_iff.1 distinct
    rw [ih distinct, ih' distinct']

theorem Rearranged.tree_eq {v w : Yaml} (moved : Rearranged v w) : tree v = tree w := by
  induction moved with
  | refl v => rfl
  | trans _ _ ih ih' => exact ih.trans ih'
  | item before after _ ih => simp [tree, itemTrees_append, itemTrees, ih]
  | value before after k _ ih =>
    rw [tree, tree]
    congr 1
    funext key
    simp [entryTree_append, entryTree, ih]
  | key before after v same =>
    rw [tree, tree]
    congr 1
    funext key
    simp [entryTree_append, entryTree, same]
  | order moved distinct => rw [tree, tree, entryTree_perm moved distinct]

theorem holdsTag_of_keyText_eq {k l : Yaml} (same : keyText k = keyText l) :
    HoldsTag k ↔ HoldsTag l := by
  have first := keyText_ok_iff (valueText_ok_iff k)
  have second := keyText_ok_iff (valueText_ok_iff l)
  rw [same] at first
  exact not_iff_not.1 (first.symm.trans second)

theorem Rearranged.holdsTag_iff {v w : Yaml} (moved : Rearranged v w) :
    HoldsTag v ↔ HoldsTag w := by
  induction moved with
  | refl v => rfl
  | trans _ _ ih ih' => exact ih.trans ih'
  | item before after _ ih => simp [holdsTag_seq, ih, or_and_right, exists_or]
  | value before after k _ ih => simp [holdsTag_map, ih, or_and_right, exists_or]
  | key before after v same =>
    simp [holdsTag_map, holdsTag_of_keyText_eq same, or_and_right, exists_or]
  | order moved _ => simp only [holdsTag_map, moved.mem_iff]

theorem Rearranged.valueText_eq {v w : Yaml} (moved : Rearranged v w) {s : String}
    (written : valueText v = .ok s) : valueText w = .ok s := by
  have plain : ¬ HoldsTag v := (valueText_ok_iff v).1 ⟨s, written⟩
  obtain ⟨t, written'⟩ := (valueText_ok_iff w).2 (mt moved.holdsTag_iff.2 plain)
  rw [(text_eq_iff_tree_eq written written').2 moved.tree_eq, written']

def named (fs : Fields Yaml) : Yaml.Mapping := fs.map fun e => (.str e.1, e.2)

def without (names : List String) (fs : Fields Yaml) : Fields Yaml :=
  fs.filter fun e => !names.contains e.1

def hidden : List String := excluded ++ ["type", "server", "port"]

def bag (r : ProxyRecord) : Yaml := .map (named (without hidden r.options))

def core (r : ProxyRecord) (kind : ProxyKind) : Yaml.Mapping :=
  [(.str "type", .str kind.tag), (.str "server", .str r.server),
    (.str "port", .num (.whole r.port.toNat))]

/-- The mapping whose text is the text of a record. -/
def described (r : ProxyRecord) (kind : ProxyKind) : Yaml :=
  .map (named (without excluded r.options) ++ core r kind)

theorem entryTexts_named (fs : Fields Yaml) :
    entryTexts (named fs) = fs.mapM (fun (k, v) => do pure (k, ← valueText v)) := by
  induction fs with
  | nil => rfl
  | cons e fs ih =>
    have first : entryTexts (named (e :: fs)) = (do
        let value ← valueText e.2
        let more ← entryTexts (named fs)
        pure ((e.1, value) :: more)) := rfl
    rw [first, ih, List.mapM_cons]
    simp

theorem entryTexts_append (xs ys : Yaml.Mapping) :
    entryTexts (xs ++ ys) = (do
      let first ← entryTexts xs
      let second ← entryTexts ys
      pure (first ++ second)) := by
  induction xs with
  | nil =>
    change entryTexts ys = (entryTexts ys >>= fun second => pure second)
    simp
  | cons x xs ih =>
    obtain ⟨k, v⟩ := x
    rw [List.cons_append, entryTexts_cons, entryTexts_cons, ih]
    simp

theorem canonicalText_eq {r : ProxyRecord} {kind : ProxyKind}
    (known : ProxyKind.ofText r.kind = .ok kind) :
    canonicalText r = valueText (described r kind) := by
  have of_core : entryTexts (core r kind) = .ok [("type", Json.quote kind.tag),
    ("server", Json.quote r.server), ("port", Text.decimal r.port.toNat)] := rfl
  rw [described, without, valueText, entryTexts_append, of_core, canonicalText, recordFields,
    known, ← entryTexts_named]
  cases entryTexts (named (r.options.filter fun e => !excluded.contains e.1)) <;> rfl

theorem canonicalText_of_unknown {r : ProxyRecord} {e : Error}
    (unknown : ProxyKind.ofText r.kind = .error e) : canonicalText r = .error e := by
  rw [canonicalText, recordFields, unknown]
  rfl

theorem holdsTag_described {r : ProxyRecord} {kind : ProxyKind} :
    HoldsTag (described r kind) ↔ ∃ e ∈ r.options, e.1 ∉ excluded ∧ HoldsTag e.2 := by
  have plain_core : ¬ ∃ e ∈ core r kind, HoldsTag e.1 ∨ HoldsTag e.2 := by
    simp only [core, List.mem_cons, List.not_mem_nil, or_false]
    rintro ⟨e, rfl | rfl | rfl, tagged | tagged⟩ <;> cases tagged
  have plain_name : ∀ s : String, ¬ HoldsTag (.str s) := fun _ => nofun
  rw [described, holdsTag_map]
  constructor
  · rintro ⟨e, member, tagged⟩
    rcases List.mem_append.1 member with option | field
    · obtain ⟨o, kept, rfl⟩ := List.mem_map.1 option
      rw [without, List.mem_filter] at kept
      exact ⟨o, kept.1, by simpa using kept.2, tagged.resolve_left (plain_name o.1)⟩
    · exact absurd ⟨e, field, tagged⟩ plain_core
  · rintro ⟨o, member, counts, tagged⟩
    have kept : o ∈ without excluded r.options :=
      List.mem_filter.2 ⟨member, by simpa using counts⟩
    exact ⟨(.str o.1, o.2), List.mem_append_left _ (List.mem_map_of_mem kept), .inr tagged⟩

theorem canonicalText_error_iff (r : ProxyRecord) :
    (∃ e, canonicalText r = .error e) ↔
      (∃ e, ProxyKind.ofText r.kind = .error e) ∨
        ∃ e ∈ r.options, e.1 ∉ excluded ∧ HoldsTag e.2 := by
  cases known : ProxyKind.ofText r.kind with
  | error e => exact ⟨fun _ => .inl ⟨e, rfl⟩, fun _ => ⟨e, canonicalText_of_unknown known⟩⟩
  | ok kind =>
    have text := valueText_ok_iff (described r kind)
    rw [← @holdsTag_described r kind, canonicalText_eq known]
    cases written : valueText (described r kind) with
    | error e =>
      rw [written] at text
      have tagged : HoldsTag (described r kind) := by
        by_contra plain
        obtain ⟨s, done⟩ := text.2 plain
        cases done
      exact ⟨fun _ => .inr tagged, fun _ => ⟨e, rfl⟩⟩
    | ok s =>
      have plain := text.1 ⟨s, written⟩
      constructor
      · rintro ⟨e, failed⟩
        cases failed
      · rintro (⟨e, unknown⟩ | tagged)
        · cases unknown
        · exact absurd tagged plain

theorem entryTree_named_cons (e : String × Yaml) (fs : Fields Yaml) (key : String) :
    entryTree (named (e :: fs)) key =
      (entryTree (named fs) key).or (if e.1 = key then some (tree e.2) else none) := by
  have step : entryTree (named (e :: fs)) key = (entryTree (named fs) key).or
      (if some e.1 = some key then some (tree e.2) else none) := rfl
  rw [step]
  simp only [Option.some.injEq]

theorem entryTree_without (names : List String) (fs : Fields Yaml) (key : String) :
    entryTree (named (without names fs)) key =
      if key ∈ names then none else entryTree (named fs) key := by
  induction fs with
  | nil => simp [without, named, entryTree]
  | cons e fs ih =>
    have step : without names (e :: fs) =
        if e.1 ∈ names then without names fs else e :: without names fs := by
      by_cases gone : e.1 ∈ names <;> simp [without, gone]
    rw [step, entryTree_named_cons]
    by_cases gone : e.1 ∈ names
    · by_cases here : e.1 = key
      · simp_all
      · simp [gone, here, ih]
    · by_cases here : e.1 = key
      · subst here
        simp [gone, entryTree_named_cons, ih]
      · simp [gone, entryTree_named_cons, here, ih]

theorem entryTree_core (r : ProxyRecord) (kind : ProxyKind) (key : String) :
    entryTree (core r kind) key =
      if key = "type" then some (.text kind.tag)
      else if key = "server" then some (.text r.server)
      else if key = "port" then some (.number (Text.decimal r.port.toNat))
      else none := by
  have fields : core r kind = named [("type", .str kind.tag), ("server", .str r.server),
    ("port", .num (.whole r.port.toNat))] := rfl
  have port : tree (.num (.whole r.port.toNat)) = .number (Text.decimal r.port.toNat) := rfl
  rw [fields, entryTree_named_cons, entryTree_named_cons, entryTree_named_cons, port]
  by_cases kind : key = "type"
  · simp [kind, named, entryTree, tree]
  by_cases server : key = "server"
  · simp [server, named, entryTree, tree]
  by_cases port : key = "port"
  · simp [port, named, entryTree]
  simp [kind, server, port, Ne.symm kind, Ne.symm server, Ne.symm port, named, entryTree]

/-- The fields of a record hide the options of their names. -/
theorem tree_described (r : ProxyRecord) (kind : ProxyKind) :
    tree (described r kind) = .record fun key =>
      (entryTree (core r kind) key).or (entryTree (named (without hidden r.options)) key) := by
  rw [described, tree]
  congr 1
  funext key
  rw [entryTree_append, entryTree_without, entryTree_without, entryTree_core]
  by_cases field : key ∈ ["type", "server", "port"]
  · simp only [List.mem_cons, List.not_mem_nil, or_false] at field
    rcases field with rfl | rfl | rfl <;> rfl
  · have same : key ∈ hidden ↔ key ∈ excluded := by simp [hidden, field]
    simp only [same]

theorem tree_described_eq_iff {a b : ProxyRecord} {j k : ProxyKind} :
    tree (described a j) = tree (described b k) ↔
      j = k ∧ a.server = b.server ∧ a.port = b.port ∧ tree (bag a) = tree (bag b) := by
  rw [tree_described, tree_described, bag, bag, tree, tree]
  simp only [Tree.record.injEq]
  constructor
  · intro same
    have at_key := congrFun same
    simp only [entryTree_core] at at_key
    have kind : j = k := ProxyKind.tag_inj (by simpa using at_key "type")
    have server : a.server = b.server := by simpa using at_key "server"
    have port : a.port.toNat = b.port.toNat := Text.decimal_inj (by simpa using at_key "port")
    refine ⟨kind, server, UInt16.toNat_inj.1 port, funext fun key => ?_⟩
    by_cases field : key ∈ hidden
    · rw [entryTree_without, entryTree_without, if_pos field, if_pos field]
    · simp only [hidden, List.mem_append, List.mem_cons, List.not_mem_nil, or_false,
        not_or] at field
      simpa [field.2.1, field.2.2.1, field.2.2.2] using at_key key
  · rintro ⟨rfl, server, port, options⟩
    funext key
    rw [options, entryTree_core, entryTree_core, server, port]

/-- Two records agree on what makes a proxy. -/
structure SameProxy (a b : ProxyRecord) : Prop where
  kind : ProxyKind.ofText a.kind = ProxyKind.ofText b.kind
  server : a.server = b.server
  port : a.port = b.port
  options : tree (bag a) = tree (bag b)

theorem kind_of_text {r : ProxyRecord} {s : String} (written : canonicalText r = .ok s) :
    ∃ kind, ProxyKind.ofText r.kind = .ok kind ∧ valueText (described r kind) = .ok s := by
  cases known : ProxyKind.ofText r.kind with
  | error e =>
    rw [canonicalText_of_unknown known] at written
    cases written
  | ok kind => exact ⟨kind, rfl, canonicalText_eq known ▸ written⟩

theorem text_eq_iff_sameProxy {a b : ProxyRecord} {s t : String}
    (first : canonicalText a = .ok s) (second : canonicalText b = .ok t) :
    s = t ↔ SameProxy a b := by
  obtain ⟨j, known, of_first⟩ := kind_of_text first
  obtain ⟨k, known', of_second⟩ := kind_of_text second
  rw [text_eq_iff_tree_eq of_first of_second, tree_described_eq_iff]
  constructor
  · rintro ⟨rfl, server, port, options⟩
    exact ⟨known.trans known'.symm, server, port, options⟩
  · intro same
    have kinds := same.kind
    rw [known, known', Except.ok.injEq] at kinds
    exact ⟨kinds, same.server, same.port, same.options⟩

@[simp]
theorem not_holdsTag_null : ¬ HoldsTag .null := by
  intro tagged
  cases tagged

@[simp]
theorem not_holdsTag_str (s : String) : ¬ HoldsTag (.str s) := by
  intro tagged
  cases tagged

@[simp]
theorem not_holdsTag_bool (b : Bool) : ¬ HoldsTag (.bool b) := by
  intro tagged
  cases tagged

@[simp]
theorem not_holdsTag_num (n : Number) : ¬ HoldsTag (.num n) := by
  intro tagged
  cases tagged

theorem entryTree_named {fs : Fields Yaml} (ordered : fs.Ordered) (key : String) :
    entryTree (named fs) key = (fs.get? key).map tree := by
  induction fs with
  | nil => rfl
  | cons e fs ih =>
    rw [entryTree_named_cons, ih ordered.tail, Fields.get?_cons]
    by_cases here : e.1 = key
    · subst here
      simp [ordered.head_once]
    · simp [here]

/-- One proxy has one value of every option, as far as its text tells. -/
theorem SameProxy.option {a b : ProxyRecord} (same : SameProxy a b) (first : a.options.Ordered)
    (second : b.options.Ordered) {key : String} (shown : key ∉ hidden) :
    (a.options.get? key).map tree = (b.options.get? key).map tree := by
  have trees := same.options
  rw [bag, bag, tree, tree, Tree.record.injEq] at trees
  have here := congrFun trees key
  rwa [entryTree_without, entryTree_without, if_neg shown, if_neg shown, entryTree_named first,
    entryTree_named second] at here

theorem canonicalText_renamed (r : ProxyRecord) (name : Option String) {kind : String}
    (alike : ProxyKind.ofText kind = ProxyKind.ofText r.kind) :
    canonicalText { r with name, kind } = canonicalText r := by
  simp only [canonicalText, recordFields, alike]

/-- The canonical text tells exactly what makes a proxy. -/
theorem canonicalText_complete (a b : ProxyRecord) :
    (∀ s t, canonicalText a = .ok s → canonicalText b = .ok t → (s = t ↔ SameProxy a b)) ∧
    (∀ name kind, ProxyKind.ofText kind = ProxyKind.ofText a.kind →
      canonicalText { a with name, kind } = canonicalText a) ∧
    (∀ v w, Rearranged v w → tree v = tree w ∧ ∀ s, valueText v = .ok s → valueText w = .ok s) ∧
    ((∃ e, canonicalText a = .error e) ↔
      (∃ e, ProxyKind.ofText a.kind = .error e) ∨
        ∃ e ∈ a.options, e.1 ∉ excluded ∧ HoldsTag e.2) :=
  ⟨fun _ _ first second => text_eq_iff_sameProxy first second,
    fun name _ alike => canonicalText_renamed a name alike,
    fun _ _ moved => ⟨moved.tree_eq, fun _ written => moved.valueText_eq written⟩,
    canonicalText_error_iff a⟩

/-- One proxy written twice, with another name, another word for its kind, its entries in another
order and a number for a key. -/
example :
    let plain : ProxyRecord := ⟨none, "ss", "h", 1,
      [("plugin", .map [(.str "1", .null), (.str "a", .bool true)])]⟩
    let other : ProxyRecord := ⟨some "tokyo", "Shadowsocks", "h", 1,
      [("plugin", .map [(.str "a", .bool true), (.num (.whole 1), .null)]), ("unique-id", .str "x")]⟩
    canonicalText plain = canonicalText other := rfl

end ProxyGateway.Identity
