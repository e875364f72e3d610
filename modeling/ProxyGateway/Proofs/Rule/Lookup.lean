import Mathlib.Data.List.Nodup
import ProxyGateway.Rule.Table

namespace ProxyGateway.RuleTable

theorem find?_eq_none {t : RuleTable} {key : String} :
    t.find? key = none ↔ ∀ r ∈ t.rules, r.key ≠ key := by
  simp [find?]

/-- At most one rule has a key, so a look-up finds every rule of the table. -/
theorem find?_eq_some {t : RuleTable} {key : String} {r : Rule} :
    t.find? key = some r ↔ r ∈ t.rules ∧ r.key = key := by
  constructor
  · intro found
    exact ⟨List.mem_of_find?_eq_some found, by simpa using List.find?_some found⟩
  · rintro ⟨member, rfl⟩
    cases found : t.find? r.key with
    | none => exact absurd rfl (find?_eq_none.1 found r member)
    | some s =>
      have s_key : s.key = r.key := by simpa using List.find?_some found
      have s_member := List.mem_of_find?_eq_some found
      rw [List.inj_on_of_nodup_map t.keys_distinct s_member member s_key]

theorem find?_erase (t : RuleTable) (key k : String) :
    (t.erase key).find? k = if k = key then none else t.find? k := by
  by_cases here : k = key
  · subst here
    simp [find?_eq_none, erase]
  · rw [if_neg here]
    cases found : t.find? k with
    | none =>
      rw [find?_eq_none] at found ⊢
      exact fun r member => found r (List.mem_filter.1 member).1
    | some r =>
      rw [find?_eq_some] at found ⊢
      refine ⟨List.mem_filter.2 ⟨found.1, ?_⟩, found.2⟩
      simpa [found.2] using here

theorem find?_put (t : RuleTable) (r : Rule) (k : String) :
    (t.put r).find? k = if k = r.key then some r else t.find? k := by
  by_cases here : k = r.key
  · rw [if_pos here, find?_eq_some]
    exact ⟨List.mem_cons_self, here.symm⟩
  · have skipped : (t.put r).find? k = (t.erase r.key).find? k := by
      simp [find?, put, Ne.symm here]
    rw [skipped, find?_erase, if_neg here, if_neg here]

theorem find?_remove (t : RuleTable) (key k : String) :
    (t.remove key).1.find? k = if k = key then none else t.find? k := by
  unfold remove
  split
  · exact find?_erase t key k
  · rename_i free
    by_cases here : k = key
    · rw [if_pos here, here]
      exact free
    · rw [if_neg here]

theorem find?_add (t : RuleTable) (r : Rule) (k : String) :
    (t.add r).1.find? k = if k = r.key then some ((t.find? k).getD r) else t.find? k := by
  unfold add
  by_cases here : k = r.key
  · subst here
    cases found : t.find? r.key <;> simp [found, find?_put]
  · cases t.find? r.key <;> simp [find?_put, here]

theorem find?_repin (t : RuleTable) (r : Rule) (stale k : String) :
    (t.repin r stale).1.find? k =
      if k = r.key then some (((t.find? k).filter (·.pin ≠ some stale)).getD r) else t.find? k := by
  unfold repin
  by_cases here : k = r.key
  · subst here
    cases found : t.find? r.key with
    | none => simp [find?_put]
    | some old =>
      by_cases pinned : old.pin = some stale <;> simp [pinned, found, find?_put, Option.filter]
  · cases t.find? r.key with
    | none => simp [find?_put, here]
    | some old => by_cases pinned : old.pin = some stale <;> simp [pinned, find?_put, here]

theorem erase_of_free {t : RuleTable} {key : String} (free : t.find? key = none) :
    t.erase key = t := by
  have others : ∀ r ∈ t.rules, (r.key != key) = true := by
    intro r member
    simpa using find?_eq_none.1 free r member
  unfold erase
  simp only [List.filter_eq_self.2 others]

theorem erase_put {t : RuleTable} {r : Rule} (free : t.find? r.key = none) :
    (t.put r).erase r.key = t := by
  have kept : (t.put r).rules.filter (·.key != r.key) = t.rules := by
    have whole := congrArg RuleTable.rules (erase_of_free free)
    change t.rules.filter _ = t.rules at whole
    simp [put, erase, whole]
  unfold erase
  simp only [kept]

theorem remove_put {t : RuleTable} {r : Rule} (free : t.find? r.key = none) :
    (t.put r).remove r.key = (t, some r.info) := by
  have found : (t.put r).find? r.key = some r := by rw [find?_put, if_pos rfl]
  rw [remove, found]
  simp only [erase_put free]

/-- A new rule takes one place in the list, and the others keep theirs. -/
theorem infos_put {t : RuleTable} {r : Rule} (free : t.find? r.key = none) :
    ∃ front back, (t.put r).infos = front ++ r.info :: back ∧ t.infos = front ++ back := by
  have transitive (a b c : RuleInfo) (first : decide (a.payload ≤ b.payload) = true)
      (second : decide (b.payload ≤ c.payload) = true) : decide (a.payload ≤ c.payload) = true :=
    decide_eq_true (String.le_trans (of_decide_eq_true first) (of_decide_eq_true second))
  have total (a b : RuleInfo) :
      (decide (a.payload ≤ b.payload) || decide (b.payload ≤ a.payload)) = true := by
    simpa using String.le_total a.payload b.payload
  obtain ⟨front, back, new, old, _⟩ :=
    List.mergeSort_cons transitive total r.info (t.rules.map Rule.info)
  refine ⟨front, back, ?_, old⟩
  have rules : (t.put r).rules = r :: t.rules :=
    congrArg (fun u : RuleTable => r :: u.rules) (erase_of_free free)
  rw [infos, rules]
  exact new

/-- An order in which a table may be walked. -/
structure Order (t : RuleTable) where
  rules : List Rule
  perm : rules.Perm t.rules

def Order.given (t : RuleTable) : t.Order := ⟨t.rules, .refl _⟩

/-- Where all rules that apply agree, every order leads the same way. -/
theorem route_of_agreement {t : RuleTable} {f : Flow} {way : Route} (order : t.Order)
    (some_applies : ∃ r ∈ t.rules, r.appliesTo f)
    (agree : ∀ r ∈ t.rules, r.appliesTo f → (⟨r.action, r.pin⟩ : Route) = way) :
    routeAmong order.rules f = way := by
  obtain ⟨r, member, applies⟩ := some_applies
  unfold routeAmong
  cases found : order.rules.find? (·.appliesTo f) with
  | none =>
    rw [List.find?_eq_none] at found
    exact absurd applies (found r (order.perm.symm.subset member))
  | some s =>
    have s_member := order.perm.subset (List.mem_of_find?_eq_some found)
    have s_applies : s.appliesTo f := by simpa using List.find?_some found
    exact agree s s_member s_applies

end ProxyGateway.RuleTable
