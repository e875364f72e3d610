import ProxyGateway.Proofs.Fields
import ProxyGateway.Proofs.Json.Quoted
import ProxyGateway.Proofs.Number.Written
import ProxyGateway.Proxy.Identity

namespace ProxyGateway.Identity

open Text (Separates Ends Opens Apart)

/-- What a value says: a scalar its kind and its text, a mapping one tree for each of its key
texts. -/
inductive Tree where
  | null
  | bool (b : Bool)
  | number (text : String)
  | text (s : String)
  | list (items : List Tree)
  | record (entry : String → Option Tree)
  /-- What has no canonical text. -/
  | tagged (tag : String) (value : Tree)

def keyText : Yaml → Except Error String
  | .str s => .ok s
  | k => valueText k

mutual

def tree : Yaml → Tree
  | .null => .null
  | .bool b => .bool b
  | .num n => .number (Yaml.numberText n)
  | .str s => .text s
  | .seq items => .list (itemTrees items)
  | .map entries => .record (entryTree entries)
  | .tagged tag v => .tagged tag (tree v)

def itemTrees : List Yaml → List Tree
  | [] => []
  | v :: rest => tree v :: itemTrees rest

/-- The tree under a key text; the last entry of the text counts. -/
def entryTree : List (Yaml × Yaml) → String → Option Tree
  | [], _ => none
  | (k, v) :: rest, key =>
    (entryTree rest key).or (if (keyText k).toOption = some key then some (tree v) else none)

end

theorem entryTexts_cons (k v : Yaml) (rest : List (Yaml × Yaml)) :
    entryTexts ((k, v) :: rest) = (do
      let key ← keyText k
      let value ← valueText v
      let more ← entryTexts rest
      pure ((key, value) :: more)) := by
  cases k <;> rfl

inductive Spelled : Tree → String → Prop where
  | null : Spelled .null "null"
  | bool (b : Bool) : Spelled (.bool b) (if b then "true" else "false")
  | number (n : Number) : Spelled (.number (Yaml.numberText n)) (Yaml.numberText n)
  | text (s : String) : Spelled (.text s) (Json.quote s)
  | list (items : List (Tree × String)) (spelled : ∀ e ∈ items, Spelled e.1 e.2) :
    Spelled (.list (items.map (·.1))) ("[" ++ ",".intercalate (items.map (·.2)) ++ "]")
  | record (fs : Fields (Tree × String)) (ordered : fs.Ordered)
      (spelled : ∀ e ∈ fs, Spelled e.2.1 e.2.2) :
    Spelled (.record fun key => (fs.get? key).map (·.1))
      (objectText (fs.map fun e => (e.1, e.2.2)))

theorem spelled_list {parts : List String} {trees : List Tree} {spelt : List (Tree × String)}
    (of_trees : spelt.map (·.1) = trees) (of_parts : spelt.map (·.2) = parts)
    (spelled : ∀ e ∈ spelt, Spelled e.1 e.2) :
    Spelled (.list trees) ("[" ++ ",".intercalate parts ++ "]") := by
  rw [← of_trees, ← of_parts]
  exact .list spelt spelled

theorem spelled_record {fs : List (String × String)} {entry : String → Option Tree}
    {spelt : List (String × (Tree × String))} (of_texts : (spelt.map fun e => (e.1, e.2.2)) = fs)
    (of_entries : ∀ key, ((Fields.ofList spelt).get? key).map (·.1) = entry key)
    (spelled : ∀ e ∈ spelt, Spelled e.2.1 e.2.2) :
    Spelled (.record entry) (objectText (Fields.ofList fs)) := by
  have entries : (fun key => ((Fields.ofList spelt).get? key).map (·.1)) = entry :=
    funext of_entries
  rw [← entries, ← of_texts, Fields.ofList_map (·.2) spelt]
  exact .record _ (Fields.ordered_ofList spelt) fun e member =>
    spelled e (Fields.mem_of_mem_ofList member)

mutual

theorem spelled_of_valueText : ∀ (v : Yaml) {s : String}, valueText v = .ok s → Spelled (tree v) s
  | .null, _, written => by cases written; exact .null
  | .bool b, _, written => by cases written; exact .bool b
  | .num n, _, written => by cases written; exact .number n
  | .str t, _, written => by cases written; exact .text t
  | .seq items, s, written => by
    rw [valueText, bind_eq_ok] at written
    obtain ⟨parts, of_items, rest⟩ := written
    obtain ⟨spelt, of_trees, of_parts, spelled⟩ := spelled_of_itemTexts items of_items
    cases rest
    exact spelled_list of_trees of_parts spelled
  | .map entries, s, written => by
    rw [valueText, bind_eq_ok] at written
    obtain ⟨fs, of_entries, rest⟩ := written
    obtain ⟨spelt, of_texts, of_trees, spelled⟩ := spelled_of_entryTexts entries of_entries
    cases rest
    exact spelled_record of_texts of_trees spelled
  | .tagged _ _, _, written => by cases written

theorem spelled_of_itemTexts : ∀ (items : List Yaml) {ts : List String},
    itemTexts items = .ok ts → ∃ spelt : List (Tree × String),
      spelt.map (·.1) = itemTrees items ∧ spelt.map (·.2) = ts ∧ ∀ e ∈ spelt, Spelled e.1 e.2
  | [], _, written => by cases written; exact ⟨[], rfl, rfl, by simp⟩
  | v :: rest, ts, written => by
    rw [itemTexts, bind_eq_ok] at written
    obtain ⟨s, of_value, written⟩ := written
    obtain ⟨more, of_rest, written⟩ := bind_eq_ok.1 written
    obtain ⟨spelt, of_trees, of_parts, spelled⟩ := spelled_of_itemTexts rest of_rest
    cases written
    refine ⟨(tree v, s) :: spelt, by simp [of_trees, itemTrees], by simp [of_parts], ?_⟩
    exact List.forall_mem_cons.2 ⟨spelled_of_valueText v of_value, spelled⟩

theorem spelled_of_entryTexts : ∀ (entries : List (Yaml × Yaml)) {fs : List (String × String)},
    entryTexts entries = .ok fs → ∃ spelt : List (String × (Tree × String)),
      (spelt.map fun e => (e.1, e.2.2)) = fs ∧
      (∀ key, ((Fields.ofList spelt).get? key).map (·.1) = entryTree entries key) ∧
      ∀ e ∈ spelt, Spelled e.2.1 e.2.2
  | [], _, written => by cases written; exact ⟨[], rfl, fun _ => rfl, by simp⟩
  | (k, v) :: rest, fs, written => by
    rw [entryTexts_cons, bind_eq_ok] at written
    obtain ⟨name, of_key, written⟩ := written
    obtain ⟨s, of_value, written⟩ := bind_eq_ok.1 written
    obtain ⟨more, of_rest, written⟩ := bind_eq_ok.1 written
    obtain ⟨spelt, of_texts, of_trees, spelled⟩ := spelled_of_entryTexts rest of_rest
    cases written
    refine ⟨(name, (tree v, s)) :: spelt, by simp [of_texts], fun key => ?_, ?_⟩
    · rw [Fields.get?_ofList_cons, Option.map_or, of_trees, entryTree, of_key]
      by_cases here : name = key <;> simp [here, Except.toOption]
    · exact List.forall_mem_cons.2 ⟨spelled_of_valueText v of_value, spelled⟩

end

theorem pairs_eq_of_trees {xs ys : List (Tree × String)} (trees : xs.map (·.1) = ys.map (·.1))
    (unique : ∀ e ∈ xs, ∀ s, Spelled e.1 s → e.2 = s) (spelled : ∀ e ∈ ys, Spelled e.1 e.2) :
    xs = ys := by
  induction xs generalizing ys with
  | nil => exact (List.map_eq_nil_iff.1 trees.symm).symm
  | cons x xs ih =>
    cases ys with
    | nil => simp at trees
    | cons y ys =>
      rw [List.forall_mem_cons] at unique spelled
      obtain ⟨head, tail⟩ := List.cons.inj trees
      simp only at head
      have texts : x.2 = y.2 := unique.1 y.2 (by rw [head]; exact spelled.1)
      rw [Prod.ext head texts, ih tail unique.2 spelled.2]

theorem fields_eq_of_trees {fs gs : Fields (Tree × String)} (first : fs.Ordered)
    (second : gs.Ordered)
    (trees : ∀ key, (fs.get? key).map (·.1) = (gs.get? key).map (·.1))
    (unique : ∀ e ∈ fs, ∀ s, Spelled e.2.1 s → e.2.2 = s)
    (spelled : ∀ e ∈ gs, Spelled e.2.1 e.2.2) : fs = gs := by
  refine first.ext second fun key => ?_
  have same := trees key
  cases left : fs.get? key with
  | none => simpa [left, eq_comm] using same
  | some a =>
    rw [left, Option.map_some, eq_comm, Option.map_eq_some_iff] at same
    obtain ⟨b, right, head⟩ := same
    have of_right : Spelled b.1 b.2 := spelled _ ((Fields.get?_eq_some_iff second).1 right)
    have texts : a.2 = b.2 :=
      unique _ ((Fields.get?_eq_some_iff first).1 left) b.2 (head ▸ of_right)
    rw [right, Prod.ext head.symm texts]

theorem Spelled.text_unique {t : Tree} {s s' : String} (first : Spelled t s)
    (second : Spelled t s') : s = s' := by
  induction first generalizing s' with
  | null => cases second; rfl
  | bool b => cases second; rfl
  | number n =>
    generalize number : Yaml.numberText n = text at second ⊢
    cases second
    rfl
  | text s => cases second; rfl
  | list items spelled ih =>
    generalize trees : items.map (·.1) = ts at second
    cases second with
    | list items' spelled' =>
      rw [pairs_eq_of_trees trees (fun e member s => ih e member) spelled']
  | record fs ordered spelled ih =>
    generalize trees : (fun key => (fs.get? key).map (·.1)) = entry at second
    cases second with
    | record gs ordered' spelled' =>
      rw [fields_eq_of_trees ordered ordered' (congrFun trees) (fun e member s => ih e member)
        spelled']

/-- The kinds of words, told apart by the first character. -/
inductive Lead where
  | null
  | truth
  | number
  | text
  | list
  | record
  | none
deriving DecidableEq

def Tree.lead : Tree → Lead
  | .null => .null
  | .bool _ => .truth
  | .number _ => .number
  | .text _ => .text
  | .list _ => .list
  | .record _ => .record
  | .tagged _ _ => .none

def leadOf (c : Char) : Lead :=
  if c = 'n' then .null
  else if c = 't' ∨ c = 'f' then .truth
  else if c = '"' then .text
  else if c = '[' then .list
  else if c = '\x7b' then .record
  else .number

theorem leadOf_numeric {c : Char} (numeric : Numeric c) : leadOf c = .number := by
  have unlike : ∀ d, ¬ Numeric d → c ≠ d := fun d other same => other (same ▸ numeric)
  simp [leadOf, unlike 'n' (by simp [Numeric]), unlike 't' (by simp [Numeric]),
    unlike 'f' (by simp [Numeric]), unlike '"' (by simp [Numeric]), unlike '[' (by simp [Numeric]),
    unlike '\x7b' (by simp [Numeric])]

theorem Spelled.lead {t : Tree} {s : String} (spelled : Spelled t s) :
    ∃ c rest, s.toList = c :: rest ∧ leadOf c = t.lead ∧ ¬ Separates c := by
  cases spelled with
  | null => exact ⟨'n', _, rfl, rfl, by simp [Separates]⟩
  | bool b =>
    cases b with
    | true => exact ⟨'t', _, rfl, rfl, by simp [Separates]⟩
    | false => exact ⟨'f', _, rfl, rfl, by simp [Separates]⟩
  | number n =>
    obtain ⟨⟨c, rest, written, numeric⟩, _⟩ := numberText_word n
    exact ⟨c, rest, written, leadOf_numeric numeric, not_separates_of_numeric numeric⟩
  | text s => exact ⟨'"', _, by rw [Json.quote_toList]; rfl, rfl, by simp [Separates]⟩
  | list items _ => exact ⟨'[', _, by simp; rfl, rfl, by simp [Separates]⟩
  | record fs _ _ => exact ⟨'\x7b', _, by simp [objectText]; rfl, rfl, by simp [Separates]⟩

theorem Spelled.opens {t : Tree} {s : String} (spelled : Spelled t s) : Opens s.toList := by
  obtain ⟨c, rest, written, _, opened⟩ := spelled.lead
  exact ⟨c, rest, written, opened⟩

/-- Words that agree with something behind them are words for one kind of tree. -/
theorem Spelled.lead_eq {t t' : Tree} {s s' : String} (first : Spelled t s) (second : Spelled t' s')
    {r r' : List Char} (same : s.toList ++ r = s'.toList ++ r') : t.lead = t'.lead := by
  obtain ⟨c, rest, written, lead, _⟩ := first.lead
  obtain ⟨c', rest', written', lead', _⟩ := second.lead
  rw [written, written'] at same
  rw [← lead, ← lead', (List.cons.inj same).1]

def word (e : Tree × String) : List Char := e.2.toList

def memberWord (e : String × (Tree × String)) : List Char :=
  (Json.quote e.1).toList ++ ':' :: word e.2

theorem list_toList (items : List (Tree × String)) :
    ("[" ++ ",".intercalate (items.map (·.2)) ++ "]").toList =
      '[' :: ([','].intercalate (items.map word) ++ [']']) := by
  simp [String.toList_intercalate, Function.comp_def]
  rfl

theorem objectText_toList (fs : Fields (Tree × String)) :
    (objectText (fs.map fun e => (e.1, e.2.2))).toList =
      '\x7b' :: ([','].intercalate (fs.map memberWord) ++ ['\x7d']) := by
  simp [objectText, String.toList_intercalate, Function.comp_def]
  rfl

theorem memberWord_opens (e : String × (Tree × String)) : Opens (memberWord e) :=
  ⟨'"', _, by simp [memberWord, Json.quote_toList, Json.quoteChars]; rfl, by simp [Separates]⟩

theorem memberWord_apart {e e' : String × (Tree × String)} (values : Apart word e.2 e'.2) :
    Apart memberWord e e' := by
  intro r r' ends ends' same
  simp only [memberWord, List.append_assoc, List.cons_append] at same
  obtain ⟨keys, rest⟩ := Json.quote_append_inj same
  obtain ⟨rest_values, rest⟩ := values r r' ends ends' (List.cons.inj rest).2
  exact ⟨Prod.ext keys rest_values, rest⟩

/-- No two trees share a canonical text, and none of their texts is the start of another. -/
theorem Spelled.apart {t t' : Tree} {s s' : String} (first : Spelled t s)
    (second : Spelled t' s') : Apart word (t, s) (t', s') := by
  induction first generalizing t' s' with
  | null =>
    intro r r' _ _ same
    have leads := Spelled.null.lead_eq second same
    cases second with
    | null => exact ⟨rfl, List.append_cancel_left same⟩
    | _ => cases leads
  | bool b =>
    intro r r' _ _ same
    have leads := (Spelled.bool b).lead_eq second same
    cases second with
    | bool b' => cases b <;> cases b' <;> simp_all [word]
    | _ => cases leads
  | number n =>
    intro r r' ends ends' same
    have leads := (Spelled.number n).lead_eq second same
    cases second with
    | number n' =>
      obtain ⟨texts, rest⟩ := Text.append_ends_inj (numberText_word n).2 (numberText_word n').2
        ends ends' same
      exact ⟨by rw [String.toList_inj.1 texts], rest⟩
    | _ => cases leads
  | text s =>
    intro r r' _ _ same
    have leads := (Spelled.text s).lead_eq second same
    cases second with
    | text s' =>
      obtain ⟨rfl, rest⟩ := Json.quote_append_inj same
      exact ⟨rfl, rest⟩
    | _ => cases leads
  | list items spelled ih =>
    intro r r' _ _ same
    have leads := (Spelled.list items spelled).lead_eq second same
    cases second with
    | list items' spelled' =>
      simp only [word, list_toList, List.cons_append, List.append_assoc, List.nil_append] at same
      obtain ⟨rfl, rest⟩ := Text.intercalate_inj (by simp [Separates] : Separates ']') (by decide)
        (fun e member => (spelled e member).opens) (fun e member => (spelled' e member).opens)
        (fun e member e' member' => ih e member (spelled' e' member')) (List.cons.inj same).2
      exact ⟨rfl, rest⟩
    | _ => cases leads
  | record fs ordered spelled ih =>
    intro r r' _ _ same
    have leads := (Spelled.record fs ordered spelled).lead_eq second same
    cases second with
    | record gs ordered' spelled' =>
      simp only [word, objectText_toList, List.cons_append, List.append_assoc,
        List.nil_append] at same
      obtain ⟨rfl, rest⟩ := Text.intercalate_inj (by simp [Separates] : Separates '\x7d') (by decide)
        (fun e _ => memberWord_opens e) (fun e _ => memberWord_opens e)
        (fun e member e' member' => memberWord_apart (ih e member (spelled' e' member')))
        (List.cons.inj same).2
      exact ⟨rfl, rest⟩
    | _ => cases leads

theorem Spelled.tree_unique {t t' : Tree} {s : String} (first : Spelled t s)
    (second : Spelled t' s) : t = t' := by
  have whole := (first.apart second [] [] Text.ends_nil Text.ends_nil rfl).1
  exact congrArg Prod.fst whole

/-- Values that have canonical texts have the same one exactly if they say the same. -/
theorem text_eq_iff_tree_eq {v w : Yaml} {s t : String} (first : valueText v = .ok s)
    (second : valueText w = .ok t) : s = t ↔ tree v = tree w := by
  have of_first := spelled_of_valueText v first
  have of_second := spelled_of_valueText w second
  constructor
  · rintro rfl
    exact of_first.tree_unique of_second
  · intro same
    exact of_first.text_unique (same ▸ of_second)

end ProxyGateway.Identity
