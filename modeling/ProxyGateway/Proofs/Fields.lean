import Mathlib.Data.List.Sort
import ProxyGateway.Fields

namespace ProxyGateway.Fields

theorem Ordered.tail {e : String × α} {fs : Fields α} (ordered : Ordered (e :: fs)) :
    Ordered fs :=
  (List.pairwise_cons.1 ordered).2

theorem Ordered.head_lt {e f : String × α} {fs : Fields α} (ordered : Ordered (e :: fs))
    (member : f ∈ fs) : e.1 < f.1 :=
  (List.pairwise_cons.1 ordered).1 f.1 (List.mem_map_of_mem member)

theorem get?_eq_some_iff {fs : Fields α} (ordered : fs.Ordered) {name : String} {v : α} :
    fs.get? name = some v ↔ (name, v) ∈ fs := by
  induction fs with
  | nil => simp [get?]
  | cons e fs ih =>
    obtain ⟨k, w⟩ := e
    by_cases here : k = name
    · subst here
      have once : (k, v) ∉ fs := fun later => String.lt_irrefl k (ordered.head_lt later)
      simp [get?_cons, once, eq_comm]
    · simp [get?_cons, here, Ne.symm here, ih ordered.tail]

theorem Ordered.head_once {e : String × α} {fs : Fields α} (ordered : Ordered (e :: fs)) :
    fs.get? e.1 = none := by
  by_contra found
  obtain ⟨v, found⟩ := Option.ne_none_iff_exists'.1 found
  have later : e.1 < (e.1, v).1 := ordered.head_lt ((get?_eq_some_iff ordered.tail).1 found)
  exact String.lt_irrefl e.1 later

theorem Ordered.ext {fs gs : Fields α} (first : fs.Ordered) (second : gs.Ordered)
    (same : ∀ name, fs.get? name = gs.get? name) : fs = gs := by
  have members : ∀ e, e ∈ fs ↔ e ∈ gs := fun e => by
    rw [← get?_eq_some_iff first, ← get?_eq_some_iff second, same]
  have irreflexive : Std.Irrefl fun e f : String × α => e.1 < f.1 :=
    ⟨fun e => String.lt_irrefl e.1⟩
  have antisymmetric : Std.Antisymm fun e f : String × α => e.1 < f.1 :=
    ⟨fun e f ef fe => absurd (String.lt_trans ef fe) (String.lt_irrefl e.1)⟩
  exact List.Pairwise.eq_of_mem_iff (List.pairwise_map.1 first) (List.pairwise_map.1 second) members

theorem get?_map (f : α → β) (fs : Fields α) (name : String) :
    get? (fs.map fun e => (e.1, f e.2)) name = (fs.get? name).map f := by
  induction fs with
  | nil => rfl
  | cons e fs ih =>
    obtain ⟨k, v⟩ := e
    by_cases here : k = name <;> simp [get?_cons, here, ih]

theorem Ordered.map {fs : Fields α} (ordered : fs.Ordered) (f : α → β) :
    Ordered (fs.map fun e => (e.1, f e.2)) := by
  simpa [Ordered, Function.comp_def] using ordered

def putAll (fs : Fields α) (entries : List (String × α)) : Fields α :=
  entries.foldl (fun fs (k, v) => put k v fs) fs

theorem get?_putAll (fs : Fields α) (entries : List (String × α)) (name : String) :
    (fs.putAll entries).get? name = ((ofList entries).get? name).or (fs.get? name) := by
  have onto : ∀ fs : Fields α, (fs.putAll entries).get? name =
      (get? (putAll [] entries) name).or (fs.get? name) := by
    induction entries with
    | nil => exact fun _ => rfl
    | cons e entries ih =>
      intro fs
      have more : ∀ fs : Fields α, fs.putAll (e :: entries) = (put e.1 e.2 fs).putAll entries :=
        fun _ => rfl
      rw [more, more, ih, ih (put e.1 e.2 []), get?_put, get?_put]
      by_cases here : e.1 = name <;> simp [here, get?]
  exact onto fs

theorem get?_ofList_append (entries more : List (String × α)) (name : String) :
    (ofList (entries ++ more)).get? name =
      ((ofList more).get? name).or ((ofList entries).get? name) := by
  have onto : ofList (entries ++ more) = putAll (ofList entries) more := List.foldl_append
  rw [onto, get?_putAll]

theorem get?_ofList_cons (k name : String) (v : α) (entries : List (String × α)) :
    (ofList ((k, v) :: entries)).get? name =
      ((ofList entries).get? name).or (if k = name then some v else none) := by
  have first : ofList [(k, v)] = [(k, v)] := rfl
  rw [← List.singleton_append, get?_ofList_append, first, get?_cons]
  rfl

theorem get?_ofList_option (key name : String) (f : β → α) (value : Option β) :
    (ofList (value.map fun v => (key, f v)).toList).get? name =
      if key = name then value.map f else none := by
  cases value with
  | none => simp [ofList, get?]
  | some v =>
    rw [Option.map_some, Option.toList_some, get?_ofList_cons]
    rfl

theorem mem_of_get?_ofList {entries : List (String × α)} {name : String} {v : α}
    (found : (ofList entries).get? name = some v) : (name, v) ∈ entries := by
  induction entries with
  | nil => simp [ofList, get?] at found
  | cons e entries ih =>
    rw [get?_ofList_cons, Option.or_eq_some_iff] at found
    rcases found with later | ⟨_, here⟩
    · exact List.mem_cons_of_mem _ (ih later)
    · simp only [Option.ite_none_right_eq_some, Option.some.injEq] at here
      simp [← here.1, ← here.2]

theorem get?_ofList_eq_none {entries : List (String × α)} {name : String}
    (absent : ∀ e ∈ entries, e.1 ≠ name) : (ofList entries).get? name = none := by
  rw [Option.eq_none_iff_forall_ne_some]
  intro v found
  exact absent _ (mem_of_get?_ofList found) rfl

theorem mem_of_mem_ofList {entries : List (String × α)} {e : String × α}
    (member : e ∈ ofList entries) : e ∈ entries :=
  mem_of_get?_ofList ((get?_eq_some_iff (ordered_ofList entries)).2 member)

theorem ofList_map (f : α → β) (entries : List (String × α)) :
    ofList (entries.map fun e => (e.1, f e.2)) =
      (ofList entries).map fun e => (e.1, f e.2) := by
  refine (ordered_ofList _).ext ((ordered_ofList entries).map f) fun name => ?_
  rw [get?_map]
  induction entries with
  | nil => rfl
  | cons e entries ih =>
    rw [List.map_cons, get?_ofList_cons, get?_ofList_cons, ih, Option.map_or]
    by_cases here : e.1 = name <;> simp [here]

theorem ofList_eq_self {fs : Fields α} (ordered : fs.Ordered) : ofList fs = fs := by
  refine (ordered_ofList fs).ext ordered fun name => ?_
  induction fs with
  | nil => rfl
  | cons e fs ih =>
    obtain ⟨k, v⟩ := e
    rw [get?_ofList_cons, get?_cons, ih ordered.tail]
    by_cases here : k = name
    · subst here
      rw [ordered.head_once, Option.none_or]
    · rw [if_neg here, Option.or_none, if_neg here]

end ProxyGateway.Fields
