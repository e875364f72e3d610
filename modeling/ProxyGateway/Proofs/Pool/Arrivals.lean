import ProxyGateway.Proofs.Proxy.Adapter

namespace ProxyGateway.Pool

def addAll (p : Pool) (offered : List Adapter) : Pool := offered.foldl (fun p a => (p.add a).1) p

/-- The identities that are offered and have no live twin, in the order of their first offers. -/
def newIdentities (p : Pool) (offered : List Adapter) : List String :=
  ((offered.map (·.identity)).filter (!p.hasLiveTwin ·)).eraseDups

/-- The nodes that offers have made: of every new identity its first adapter, not yet checked. -/
structure Joined (p : Pool) (offered : List Adapter) (nodes : List Node) : Prop where
  identities : nodes.map (·.identity) = newIdentities p offered
  first : ∀ n ∈ nodes,
    (offered.find? (·.identity == n.identity)).map unchecked = some n.adapter
  numbers : nodes.map (·.number) = List.range' p.next nodes.length

variable {p : Pool} {a : Adapter} {offered : List Adapter}

theorem mem_newIdentities {identity : String} :
    identity ∈ newIdentities p offered ↔
      (∃ a ∈ offered, a.identity = identity) ∧ p.hasLiveTwin identity = false := by
  simp [newIdentities]

theorem newIdentities_of_twin (twin : p.hasLiveTwin a.identity = true) (offered : List Adapter) :
    newIdentities p (a :: offered) = newIdentities p offered := by
  simp [newIdentities, twin]

theorem newIdentities_of_new (bare : a.metrics = []) (new : p.hasLiveTwin a.identity = false)
    (offered : List Adapter) :
    newIdentities p (a :: offered) = a.identity :: newIdentities (p.add a).1 offered := by
  have left : (offered.map (·.identity)).filter (fun i => !(p.add a).1.hasLiveTwin i) =
      ((offered.map (·.identity)).filter (!p.hasLiveTwin ·)).filter (!· == a.identity) := by
    rw [List.filter_filter]
    apply List.filter_congr
    intro i _
    rw [hasLiveTwin_add bare, Bool.not_or, Bool.and_comm, BEq.comm]
  rw [newIdentities, List.map_cons, List.filter_cons_of_pos (by simp [new]), List.eraseDups_cons,
    newIdentities, left]

theorem newIdentities_nodup (bare : ∀ a ∈ offered, a.metrics = []) (p : Pool) :
    (newIdentities p offered).Nodup := by
  induction offered generalizing p with
  | nil => exact List.nodup_nil
  | cons a offered ih =>
    rw [List.forall_mem_cons] at bare
    cases twin : p.hasLiveTwin a.identity with
    | true =>
      rw [newIdentities_of_twin twin]
      exact ih bare.2 p
    | false =>
      rw [newIdentities_of_new bare.1 twin, List.nodup_cons, mem_newIdentities]
      refine ⟨fun again => ?_, ih bare.2 _⟩
      have known := hasLiveTwin_add bare.1 p a.identity
      rw [again.2, BEq.rfl, Bool.or_true] at known
      cases known

theorem add_of_twin (twin : p.hasLiveTwin a.identity = true) : (p.add a).1 = p := by
  rw [add, if_pos twin]

theorem add_of_new (new : p.hasLiveTwin a.identity = false) :
    (p.add a).1 = { p with all := p.all ++ [⟨p.next, unchecked a⟩], next := p.next + 1 } := by
  rw [add, if_neg (by simp [new])]

namespace Joined

variable {nodes : List Node}

theorem new (joined : Joined p offered nodes) {n : Node} (member : n ∈ nodes) :
    p.hasLiveTwin n.identity = false := by
  have among : n.identity ∈ newIdentities p offered :=
    joined.identities ▸ List.mem_map_of_mem member
  exact (mem_newIdentities.1 among).2

theorem first_of_later (joined : Joined p offered nodes)
    (barred : p.hasLiveTwin a.identity = true) :
    ∀ n ∈ nodes,
      ((a :: offered).find? (·.identity == n.identity)).map unchecked = some n.adapter := by
  intro n member
  have other : a.identity ≠ n.identity := by
    intro same
    rw [same, joined.new member] at barred
    cases barred
  rw [List.find?_cons_of_neg (by simpa using other)]
  exact joined.first n member

theorem behind_twin (joined : Joined p offered nodes) (twin : p.hasLiveTwin a.identity = true) :
    Joined p (a :: offered) nodes :=
  ⟨by rw [joined.identities, newIdentities_of_twin twin], joined.first_of_later twin,
    joined.numbers⟩

theorem behind_new (bare : a.metrics = []) (new : p.hasLiveTwin a.identity = false)
    (joined : Joined (p.add a).1 offered nodes) :
    Joined p (a :: offered) (⟨p.next, unchecked a⟩ :: nodes) := by
  have barred : (p.add a).1.hasLiveTwin a.identity = true := by
    rw [hasLiveTwin_add bare, BEq.rfl, Bool.or_true]
  have own : (a :: offered).find? (·.identity == a.identity) = some a :=
    List.find?_cons_of_pos BEq.rfl
  refine ⟨?_, List.forall_mem_cons.2 ⟨?_, joined.first_of_later barred⟩, ?_⟩
  · rw [List.map_cons, joined.identities, newIdentities_of_new bare new]
    rfl
  · exact congrArg (Option.map unchecked) own
  · rw [List.map_cons, joined.numbers, add_of_new new, List.length_cons, List.range'_succ]

end Joined

/-- All that the offers have changed is that the new nodes stand behind the old ones. -/
theorem addAll_joined (bare : ∀ a ∈ offered, a.metrics = []) (p : Pool) :
    ∃ nodes, Joined p offered nodes ∧
      p.addAll offered = { p with all := p.all ++ nodes, next := p.next + nodes.length } := by
  induction offered generalizing p with
  | nil =>
    exact ⟨[], ⟨rfl, fun _ member => absurd member List.not_mem_nil, rfl⟩, by simp [addAll]⟩
  | cons a offered ih =>
    rw [List.forall_mem_cons] at bare
    obtain ⟨nodes, joined, after⟩ := ih bare.2 (p.add a).1
    have step : p.addAll (a :: offered) = (p.add a).1.addAll offered := rfl
    rw [step, after]
    cases known : p.hasLiveTwin a.identity with
    | true =>
      rw [add_of_twin known] at joined ⊢
      exact ⟨nodes, joined.behind_twin known, rfl⟩
    | false =>
      refine ⟨_, joined.behind_new bare.1 known, ?_⟩
      rw [add_of_new known, List.append_assoc, List.singleton_append, List.length_cons,
        Nat.add_assoc, Nat.add_comm 1]

theorem hasLiveTwin_addAll (bare : ∀ a ∈ offered, a.metrics = []) (p : Pool) (identity : String) :
    (p.addAll offered).hasLiveTwin identity =
      (p.hasLiveTwin identity || offered.any (·.identity == identity)) := by
  induction offered generalizing p with
  | nil => simp [addAll]
  | cons a offered ih =>
    rw [List.forall_mem_cons] at bare
    change ((p.add a).1.addAll offered).hasLiveTwin identity = _
    rw [ih bare.2, hasLiveTwin_add bare.1, List.any_cons, Bool.or_assoc]

/-- Whatever stands in the pool afterwards stood in it or was offered. -/
theorem mem_identities_addAll (bare : ∀ a ∈ offered, a.metrics = []) (p : Pool)
    (identity : String) :
    identity ∈ (p.addAll offered).all.map (·.identity) ↔
      identity ∈ p.all.map (·.identity) ∨ ∃ a ∈ offered, a.identity = identity := by
  obtain ⟨nodes, joined, after⟩ := addAll_joined bare p
  rw [after, List.map_append, List.mem_append, joined.identities, mem_newIdentities]
  constructor
  · rintro (old | ⟨given, _⟩)
    · exact .inl old
    · exact .inr given
  · rintro (old | given)
    · exact .inl old
    · cases twin : p.hasLiveTwin identity with
      | false => exact .inr ⟨given, rfl⟩
      | true =>
        obtain ⟨n, member, named⟩ := List.any_eq_true.1 twin
        rw [Bool.and_eq_true, beq_iff_eq] at named
        exact .inl (List.mem_map.2 ⟨n, member, named.1⟩)

theorem length_newIdentities_perm {others : List Adapter} (bare : ∀ a ∈ offered, a.metrics = [])
    (perm : offered.Perm others) (p : Pool) :
    (newIdentities p offered).length = (newIdentities p others).length := by
  have bare_others : ∀ a ∈ others, a.metrics = [] := fun a member =>
    bare a (perm.symm.subset member)
  apply List.Perm.length_eq
  rw [List.perm_ext_iff_of_nodup (newIdentities_nodup bare p) (newIdentities_nodup bare_others p)]
  intro identity
  simp only [mem_newIdentities, perm.mem_iff]

end ProxyGateway.Pool
