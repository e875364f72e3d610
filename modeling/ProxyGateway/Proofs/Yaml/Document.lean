import ProxyGateway.Proofs.Text.Trim
import ProxyGateway.Yaml.Decode
import ProxyGateway.Yaml.Printer

namespace ProxyGateway.Yaml

theorem same_str {k : String} {key : Yaml} : (str k).same key = true ↔ key = .str k := by
  cases key with
  | str l =>
    rw [same, beq_iff_eq, Yaml.str.injEq]
    exact eq_comm
  | _ => simp [same]

theorem same_str_of_ne {k : String} {key : Yaml} (other : key ≠ .str k) :
    key.same (.str k) = false := by
  cases key with
  | str l => simpa [same] using other
  | _ => rfl

namespace Mapping

theorem get?_cons (k v : Yaml) (m : Mapping) (key : Yaml) :
    get? ((k, v) :: m) key = if key.same k then some v else get? m key := by
  by_cases here : key.same k <;> simp [get?, here]

theorem get?_insert_self (m : Mapping) (k : String) (v : Yaml) :
    (m.insert (.str k) v).get? (.str k) = some v := by
  induction m with
  | nil => simp [insert, get?_cons, same_str]
  | cons e m ih =>
    obtain ⟨l, w⟩ := e
    by_cases here : (str k).same l
    · simp [insert, here, get?_cons]
    · simp [insert, here, get?_cons, ih]

theorem get?_insert_of_ne (m : Mapping) {k : String} {key : Yaml} (other : key ≠ .str k)
    (v : Yaml) : (m.insert (.str k) v).get? key = m.get? key := by
  induction m with
  | nil => simp [insert, get?_cons, same_str_of_ne other]
  | cons e m ih =>
    obtain ⟨l, w⟩ := e
    by_cases here : (str k).same l
    · obtain rfl := same_str.1 here
      simp [insert, here, get?_cons, same_str_of_ne other]
    · simp [insert, here, get?_cons, ih]

theorem insert_ne_nil (m : Mapping) (key value : Yaml) : m.insert key value ≠ [] := by
  cases m with
  | nil => simp [insert]
  | cons e m =>
    obtain ⟨k, v⟩ := e
    by_cases here : key.same k <;> simp [insert, here]

end Mapping

theorem mem_joinEntries {c : Char} {e : List Char} (member : c ∈ e) (column : Nat)
    (rest : List (List Char)) : c ∈ joinEntries column (e :: rest) := by
  cases rest with
  | nil => exact member
  | cons f rest => simp [joinEntries, member]

theorem colon_mem_document {m : Mapping} {text : String} (filled : m ≠ [])
    (written : document? m = some text) : ':' ∈ text.toList := by
  cases m with
  | nil => exact absurd rfl filled
  | cons e m =>
    obtain ⟨k, v⟩ := e
    have first : ∃ head, ∃ rest, mapEntries 0 ((k, v) :: m) = head :: rest ∧ ':' ∈ head := by
      refine ⟨_, _, rfl, ?_⟩
      split <;> simp
    obtain ⟨head, rest, entries, colon⟩ := first
    unfold document? at written
    split at written
    · cases written
    · simp only [entries] at written
      rw [← Option.some.inj written, String.toList_ofList]
      exact List.mem_append_left _ (mem_joinEntries colon 0 rest)

mutual

/-- The same value with the same entries in the same order. -/
def identical : Yaml → Yaml → Bool
  | null, null => true
  | bool a, bool b => a == b
  | num a, num b => a == b
  | str a, str b => a == b
  | seq xs, seq ys => identicalItems xs ys
  | map xs, map ys => identicalEntries xs ys
  | tagged t x, tagged u y => t == u && identical x y
  | _, _ => false

def identicalItems : List Yaml → List Yaml → Bool
  | [], [] => true
  | x :: xs, y :: ys => identical x y && identicalItems xs ys
  | _, _ => false

def identicalEntries : Mapping → Mapping → Bool
  | [], [] => true
  | (k, v) :: xs, (l, w) :: ys => identical k l && identical v w && identicalEntries xs ys
  | _, _ => false

end

mutual

theorem identical_iff : ∀ x y : Yaml, identical x y = true ↔ x = y
  | .null, y => by cases y <;> simp [identical]
  | .bool _, y => by cases y <;> simp [identical]
  | .num _, y => by cases y <;> simp [identical]
  | .str _, y => by cases y <;> simp [identical]
  | .seq xs, y => by
    cases y with
    | seq ys => simp [identical, identicalItems_iff xs ys]
    | _ => simp [identical]
  | .map xs, y => by
    cases y with
    | map ys => simp [identical, identicalEntries_iff xs ys]
    | _ => simp [identical]
  | .tagged _ x, y => by
    cases y with
    | tagged _ y => simp [identical, identical_iff x y]
    | _ => simp [identical]

theorem identicalItems_iff : ∀ xs ys : List Yaml, identicalItems xs ys = true ↔ xs = ys
  | [], ys => by cases ys <;> simp [identicalItems]
  | x :: xs, ys => by
    cases ys with
    | nil => simp [identicalItems]
    | cons y ys => simp [identicalItems, identical_iff x y, identicalItems_iff xs ys]

theorem identicalEntries_iff : ∀ xs ys : Mapping, identicalEntries xs ys = true ↔ xs = ys
  | [], ys => by cases ys <;> simp [identicalEntries]
  | (k, v) :: xs, ys => by
    cases ys with
    | nil => simp [identicalEntries]
    | cons e ys =>
      obtain ⟨l, w⟩ := e
      simp [identicalEntries, identical_iff k l, identical_iff v w, identicalEntries_iff xs ys]

end

instance : DecidableEq Yaml := fun x y => decidable_of_iff _ (identical_iff x y)

/-- The document of the mapping, if it has one, is read as the mapping. -/
def ReadsBack (m : Mapping) : Prop :=
  ∀ text, document? m = some text → ofText text = .ok (.map m)

theorem readsBack_iff {m : Mapping} :
    ReadsBack m ↔ ∀ text ∈ document? m, (ofText text).toOption = some (.map m) := by
  refine forall₂_congr fun text _ => ?_
  cases ofText text <;> simp [Except.toOption]

instance (m : Mapping) : Decidable (ReadsBack m) := decidable_of_iff _ readsBack_iff.symm

end ProxyGateway.Yaml
