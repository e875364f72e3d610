import ProxyGateway.Proofs.Rule.Export

namespace ProxyGateway.RuleTable

inductive Change where
  | load (infos : List RuleInfo)
  | add (r : Rule)
  | addAll (rs : List Rule)
  | repin (r : Rule) (stale : String)
  | remove (key : String)

namespace Change

def writes : Change → List Rule
  | load infos => infos.filterMap fun i => (Rule.ofInfo i).toOption
  | add r | repin r _ => [r]
  | addAll rs => rs
  | remove _ => []

def apply (t : RuleTable) : Change → RuleTable
  | load infos => (t.addAll (load infos).writes).1
  | add r => (t.add r).1
  | addAll rs => (t.addAll rs).1
  | repin r stale => (t.repin r stale).1
  | remove key => (t.remove key).1

/-- Whatever the change writes was read from a written rule or learned. -/
def Sound (c : Change) : Prop := ∀ r ∈ c.writes, r.Made

theorem sound_load (infos : List RuleInfo) : (load infos).Sound := by
  intro r member
  obtain ⟨i, _, read⟩ := List.mem_filterMap.1 member
  cases written : Rule.ofInfo i with
  | error e =>
    rw [written] at read
    cases read
  | ok made =>
    rw [written] at read
    cases read
    exact .read written

end Change

def reached (changes : List Change) : RuleTable := changes.foldl Change.apply empty

theorem mem_rules_iff {t : RuleTable} {r : Rule} : r ∈ t.rules ↔ t.find? r.key = some r := by
  simp [find?_eq_some]

theorem find?_empty (k : String) : empty.find? k = none := rfl

theorem find?_addAll (rs : List Rule) (t : RuleTable) (k : String) :
    (t.addAll rs).1.find? k = (t.find? k).or (rs.find? (·.key == k)) := by
  rw [Dispatch.addAll_eq_foldl]
  induction rs generalizing t with
  | nil => simp
  | cons r rs ih =>
    rw [List.foldl_cons, ih, find?_add]
    by_cases here : k = r.key
    · subst here
      cases t.find? r.key <;> simp
    · simp [here, Ne.symm here]

theorem mem_addAll {rs : List Rule} {t : RuleTable} {r : Rule}
    (member : r ∈ (t.addAll rs).1.rules) : r ∈ t.rules ∨ r ∈ rs := by
  rw [mem_rules_iff, find?_addAll, Option.or_eq_some_iff] at member
  rcases member with old | ⟨_, new⟩
  · exact .inl (mem_rules_iff.2 old)
  · exact .inr (List.mem_of_find?_eq_some new)

theorem mem_add {s : Rule} {t : RuleTable} {r : Rule} (member : r ∈ (t.add s).1.rules) :
    r ∈ t.rules ∨ r = s := by
  have one : r ∈ t.rules ∨ r ∈ [s] := mem_addAll member
  simpa using one

theorem mem_repin {s : Rule} {stale : String} {t : RuleTable} {r : Rule}
    (member : r ∈ (t.repin s stale).1.rules) : r ∈ t.rules ∨ r = s := by
  rw [mem_rules_iff, find?_repin] at member
  by_cases here : r.key = s.key
  · rw [if_pos here, Option.some.injEq] at member
    cases kept : (t.find? r.key).filter (·.pin ≠ some stale) with
    | none =>
      rw [kept] at member
      exact .inr member.symm
    | some old =>
      rw [kept] at member
      have old_r : old = r := member
      exact .inl (mem_rules_iff.2 (old_r ▸ (Option.filter_eq_some_iff.1 kept).1))
  · rw [if_neg here] at member
    exact .inl (mem_rules_iff.2 member)

theorem mem_remove {key : String} {t : RuleTable} {r : Rule}
    (member : r ∈ (t.remove key).1.rules) : r ∈ t.rules := by
  rw [mem_rules_iff, find?_remove] at member
  split at member
  · cases member
  · exact mem_rules_iff.2 member

/-- A change leaves no rules but those that were there and those that it writes. -/
theorem mem_apply {c : Change} {t : RuleTable} {r : Rule} (member : r ∈ (c.apply t).rules) :
    r ∈ t.rules ∨ r ∈ c.writes := by
  cases c with
  | load infos => exact mem_addAll member
  | add s => simpa [Change.writes] using mem_add member
  | addAll rs => exact mem_addAll member
  | repin s stale => simpa [Change.writes] using mem_repin member
  | remove key => exact .inl (mem_remove member)

theorem mem_reached {P : Rule → Prop} {changes : List Change}
    (written : ∀ c ∈ changes, ∀ r ∈ c.writes, P r) : ∀ r ∈ (reached changes).rules, P r := by
  have from_any : ∀ (changes : List Change) (t : RuleTable), (∀ r ∈ t.rules, P r) →
      (∀ c ∈ changes, ∀ r ∈ c.writes, P r) → ∀ r ∈ (changes.foldl Change.apply t).rules, P r := by
    intro changes
    induction changes with
    | nil => exact fun _ start _ => start
    | cons c changes ih =>
      intro t start written
      rw [List.forall_mem_cons] at written
      refine ih _ (fun r member => ?_) written.2
      rcases mem_apply member with old | new
      · exact start r old
      · exact written.1 r new
  exact from_any changes empty (fun _ => nofun) written

theorem find?_perm {t u : RuleTable} (perm : t.rules.Perm u.rules) (k : String) :
    t.find? k = u.find? k := by
  apply Option.ext
  intro r
  rw [find?_eq_some, find?_eq_some, perm.mem_iff]

theorem filterMap_ofInfo {rules : List Rule} (canonical : ∀ r ∈ rules, r.Canonical) :
    (rules.map Rule.info).filterMap (fun i => (Rule.ofInfo i).toOption) = rules := by
  induction rules with
  | nil => rfl
  | cons r rules ih =>
    rw [List.forall_mem_cons] at canonical
    have read := Rule.ofInfo_info canonical.1
    rw [List.map_cons, List.filterMap_cons, read, ih canonical.2]
    rfl

/-- The written rules of a table are its rules in another order. -/
theorem filterMap_infos {t : RuleTable} (canonical : ∀ r ∈ t.rules, r.Canonical) :
    (t.infos.filterMap fun i => (Rule.ofInfo i).toOption).Perm t.rules := by
  have sorted : t.infos.Perm (t.rules.map Rule.info) := List.mergeSort_perm ..
  have read := sorted.filterMap fun i => (Rule.ofInfo i).toOption
  rwa [filterMap_ofInfo canonical] at read

theorem find?_ofInfos_infos {t : RuleTable} (canonical : ∀ r ∈ t.rules, r.Canonical) (k : String) :
    (ofInfos t.infos).find? k = t.find? k := by
  have perm := filterMap_infos canonical
  have distinct := (perm.map Rule.key).nodup_iff.2 t.keys_distinct
  rw [ofInfos, find?_addAll, find?_empty, Option.none_or]
  exact find?_perm (t := ⟨_, distinct⟩) perm k

theorem applies_congr {t u : RuleTable} (same : ∀ k, t.find? k = u.find? k) (f : Flow) (r : Rule) :
    (r ∈ t.rules ∧ r.appliesTo f) ↔ (r ∈ u.rules ∧ r.appliesTo f) := by
  rw [mem_rules_iff, mem_rules_iff, same]

end ProxyGateway.RuleTable
