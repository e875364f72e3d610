import ProxyGateway.Proofs.Pool.Run
/-!
Twins: nodes of one identity. A node is let in beside twins that are known to be dead, and checks
are made of dead nodes too. Main statement: an identity has at most one node that is alive or waits
for its first check until a dead node is revived beside such a twin, and then it has two.
-/
namespace ProxyGateway.Pool

/-- How many nodes of an identity are alive or wait for their first check. -/
def liveCount (p : Pool) (identity : String) : Nat :=
  p.all.countP fun n => n.identity == identity && !n.adapter.knownDead

def aliveCount (p : Pool) (identity : String) : Nat :=
  p.all.countP fun n => n.identity == identity && n.adapter.alive

/-- The step is a check that works of a node that was known to be dead. -/
def Wakes (p : Pool) (identity : String) (s : Step) : Prop :=
  ∃ n ∈ p.all, n.identity = identity ∧ n.adapter.knownDead ∧
    ∃ millis, s = .record n.number (.delay (some millis))

/-- A dead node wakes beside a twin that is alive or waits for its first check. -/
def Revives (p : Pool) (identity : String) (s : Step) : Prop :=
  Wakes p identity s ∧ p.hasLiveTwin identity

def NeverRevives (steps : List Step) (identity : String) : Prop :=
  ∀ early s, early ++ [s] <+: steps → ¬ Revives (run early) identity s

theorem aliveCount_le_liveCount (p : Pool) (identity : String) :
    p.aliveCount identity ≤ p.liveCount identity := by
  apply List.countP_mono_left
  intro n _ counted
  simp only [Bool.and_eq_true] at counted ⊢
  exact ⟨counted.1, by simp [Adapter.not_knownDead_of_alive counted.2]⟩

theorem hasLiveTwin_iff {p : Pool} {identity : String} :
    p.hasLiveTwin identity = true ↔ 0 < p.liveCount identity := by
  rw [liveCount, List.countP_pos_iff, hasLiveTwin, List.any_eq_true]

theorem update_all_of_split {p : Pool} (numbered : Numbered p) {front back : List Node} {n : Node}
    (split : p.all = front ++ n :: back) (f : Adapter → Adapter) :
    (p.update n.number f).all = front ++ { n with adapter := f n.adapter } :: back := by
  have distinct := numbered.distinct
  rw [split, List.map_append, List.map_cons, List.nodup_middle, List.nodup_cons,
    List.mem_append] at distinct
  have others : ∀ l : List Node, n.number ∉ l.map (·.number) →
      l.map (fun m => if m.number = n.number then { m with adapter := f m.adapter } else m) =
        l := by
    intro l absent
    refine (List.map_congr_left fun m member => ?_).trans (List.map_id l)
    have here : m.number ∈ l.map (·.number) := List.mem_map_of_mem member
    rw [if_neg fun same : m.number = n.number => absent (same ▸ here), id]
  change p.all.map _ = _
  rw [split, List.map_append, List.map_cons, if_pos rfl, others front (not_or.1 distinct.1).1,
    others back (not_or.1 distinct.1).2]

theorem countP_update {p : Pool} (numbered : Numbered p) {n : Node} (member : n ∈ p.all)
    (f : Adapter → Adapter) (good : Node → Bool) :
    (p.update n.number f).all.countP good + (if good n then 1 else 0) =
      p.all.countP good + if good { n with adapter := f n.adapter } then 1 else 0 := by
  obtain ⟨front, back, split⟩ := List.append_of_mem member
  rw [update_all_of_split numbered split, split]
  simp only [List.countP_append, List.countP_cons]
  omega

theorem liveCount_wakes {p : Pool} (numbered : Numbered p) {identity : String} {s : Step}
    (wakes : Wakes p identity s) : (p.step s).liveCount identity = p.liveCount identity + 1 := by
  obtain ⟨n, member, named, dead, millis, rfl⟩ := wakes
  have alive := Measurement.apply_delay_alive millis n.adapter
  have moved := countP_update numbered member (Measurement.delay (some millis)).apply
    fun n => n.identity == identity && !n.adapter.knownDead
  simp [measured_identity, named, dead, Adapter.not_knownDead_of_alive alive] at moved
  exact moved

theorem aliveCount_wakes {p : Pool} (numbered : Numbered p) {identity : String} {s : Step}
    (wakes : Wakes p identity s) : (p.step s).aliveCount identity = p.aliveCount identity + 1 := by
  obtain ⟨n, member, named, dead, millis, rfl⟩ := wakes
  have alive := Measurement.apply_delay_alive millis n.adapter
  have moved := countP_update numbered member (Measurement.delay (some millis)).apply
    fun n => n.identity == identity && n.adapter.alive
  simp [measured_identity, named, Adapter.not_alive_of_knownDead dead, alive] at moved
  exact moved

/-- Only a check that works makes a live node of a dead one. -/
theorem liveCount_record_le {p : Pool} {identity : String} {number : Nat} {m : Measurement}
    (sleeps : ¬ Wakes p identity (.record number m)) :
    (p.step (.record number m)).liveCount identity ≤ p.liveCount identity := by
  change (p.all.map _).countP _ ≤ _
  rw [List.countP_map]
  apply List.countP_mono_left
  intro n member counted
  by_cases here : n.number = number
  · subst here
    simp only [Function.comp_apply, if_pos, Bool.and_eq_true, Bool.not_eq_true', Node.identity,
      Measurement.apply_identity, beq_iff_eq] at counted ⊢
    refine ⟨counted.1, ?_⟩
    match m with
    | .delay (some millis) =>
      cases dead : n.adapter.knownDead with
      | false => rfl
      | true => exact absurd ⟨n, member, counted.1, dead, millis, rfl⟩ sleeps
    | .delay none =>
      rw [Measurement.apply_failure_knownDead] at counted
      cases counted.2
    | .speed sample nanos =>
      rw [← Adapter.knownDead_congr (Measurement.apply_speed_get? sample nanos n.adapter)]
      exact counted.2
  · simpa [here] using counted

theorem liveCount_sort (p : Pool) (identity : String) :
    p.sort.liveCount identity = p.liveCount identity :=
  (sort_all_perm p).countP_eq _

theorem liveCount_cleanUp (p : Pool) (identity : String) :
    p.cleanUp.liveCount identity = p.liveCount identity := by
  rw [liveCount, (cleanUp_all_perm p).countP_eq, List.countP_filter]
  apply List.countP_congr
  intro n _
  cases n.adapter.knownDead <;> simp

/-- A node that is let in beside twins has found all of them dead. -/
theorem liveCount_add_le {p : Pool} {identity : String} (once : p.liveCount identity ≤ 1)
    (a : Adapter) : (p.add a).1.liveCount identity ≤ 1 := by
  unfold add
  split
  · exact once
  · rename_i no_twin
    rw [hasLiveTwin_iff] at no_twin
    rw [liveCount, List.countP_append]
    change p.liveCount identity + _ ≤ 1
    by_cases named : a.identity = identity
    · rw [named] at no_twin
      have bound := List.countP_le_length (l := [(⟨p.next, unchecked a⟩ : Node)])
        (p := fun n => n.identity == identity && !n.adapter.knownDead)
      simp only [List.length_singleton] at bound
      omega
    · have other : ((⟨p.next, unchecked a⟩ : Node).identity == identity) = false :=
        beq_false_of_ne named
      simpa [other] using once

/-- An identity that is live at most once stays so in every step but a revival. -/
theorem step_live_once {p : Pool} (numbered : Numbered p) {identity : String}
    (once : p.liveCount identity ≤ 1) (s : Step) :
    (p.step s).liveCount identity ≤ 1 ↔ ¬ Revives p identity s := by
  by_cases wakes : Wakes p identity s
  · rw [liveCount_wakes numbered wakes, Revives, hasLiveTwin_iff]
    constructor
    · rintro bound ⟨_, beside⟩
      omega
    · intro calm
      have alone : ¬ 0 < p.liveCount identity := fun beside => calm ⟨wakes, beside⟩
      omega
  · refine iff_of_true ?_ fun revives => wakes revives.1
    cases s with
    | register a => exact liveCount_add_le once a
    | record number m => exact Nat.le_trans (liveCount_record_le wakes) once
    | rank => exact Nat.le_trans (Nat.le_of_eq (liveCount_sort p identity)) once
    | cleanUp => exact Nat.le_trans (Nat.le_of_eq (liveCount_cleanUp p identity)) once
    | remove other => exact Nat.le_trans List.filter_sublist.countP_le once

theorem run_live_once_iff (steps : List Step) (identity : String) :
    (∀ early, early <+: steps → (run early).liveCount identity ≤ 1) ↔
      NeverRevives steps identity := by
  constructor
  · intro once early s start
    have before := once early ((List.prefix_append early [s]).trans start)
    have after := once _ start
    rw [run_concat] at after
    exact (step_live_once (run_numbered early) before s).1 after
  · intro calm early
    induction early using List.reverseRecOn with
    | nil => exact fun _ => Nat.zero_le 1
    | append_singleton early s ih =>
      intro start
      have before := ih ((List.prefix_append early [s]).trans start)
      rw [run_concat]
      exact (step_live_once (run_numbered early) before s).2 (calm early s start)

theorem not_wakes_of_renews {p : Pool} {identity : String} {s : Step} (renews : s.renews) :
    ¬ Wakes p identity s := by
  rintro ⟨_, _, _, _, _, rfl⟩
  cases renews

theorem countP_aliveNodes {p : Pool} (numbered : Numbered p) {s : Step} (renews : s.renews)
    (identity : String) :
    (p.step s).aliveNodes.countP (·.identity == identity) = (p.step s).aliveCount identity := by
  rw [aliveNodes_of_renews numbered renews, List.countP_filter]
  rfl

/-- No identity is alive twice unless a dead node is revived beside a twin. -/
theorem alive_once_unless_revived (steps : List Step) (identity : String) :
    ((∀ early, early <+: steps → (run early).liveCount identity ≤ 1) ↔
      NeverRevives steps identity) ∧
    (NeverRevives steps identity → (run steps).aliveCount identity ≤ 1 ∧
      ∀ s : Step, s.renews →
        ((run steps).step s).aliveNodes.countP (·.identity == identity) ≤ 1) ∧
    ∀ s, Wakes (run steps) identity s →
      ((run steps).step s).aliveCount identity = (run steps).aliveCount identity + 1 := by
  have numbered := run_numbered steps
  refine ⟨run_live_once_iff steps identity, ?_, fun s => aliveCount_wakes numbered⟩
  intro calm
  have once : (run steps).liveCount identity ≤ 1 :=
    (run_live_once_iff steps identity).2 calm steps (List.prefix_refl steps)
  refine ⟨Nat.le_trans (aliveCount_le_liveCount _ identity) once, ?_⟩
  intro s renews
  have calm_still : ¬ Revives (run steps) identity s :=
    fun revives => not_wakes_of_renews renews revives.1
  rw [countP_aliveNodes numbered renews]
  exact Nat.le_trans (aliveCount_le_liveCount _ identity)
    ((step_live_once numbered once s).2 calm_still)

/-- A node is found dead, its proxy is registered anew, and then both nodes are found to work. -/
def revival (a : Adapter) : List Step :=
  [.register a, .record 0 (.delay none), .rank, .register a, .record 0 (.delay (some 20)),
    .record 1 (.delay (some 30)), .rank]

theorem aliveCount_revival (a : Adapter) : (run (revival a)).aliveCount a.identity = 2 := by
  have named : (unchecked a).identity = a.identity := rfl
  simp [revival, run, step, empty, add, hasLiveTwin, update, sort, renewAlive, aliveCount,
    (List.mergeSort_perm _ Node.before).countP_eq, Node.identity, named,
    Measurement.apply_identity, Measurement.apply_failure_knownDead,
    Measurement.apply_delay_alive]

/-- A dead twin does not block, and nothing keeps it from being found to work again. -/
theorem revived_twin_is_alive_too :
    ∃ a, Adapter.ofRecord (.new "trojan" "example.com" 1) = .ok a ∧
      (run (revival a)).aliveCount a.identity = 2 ∧
      (run (revival a)).aliveNodes.countP (·.identity == a.identity) = 2 := by
  refine ⟨_, rfl, aliveCount_revival _, ?_⟩
  exact (countP_aliveNodes (run_numbered (revival _).dropLast) (s := .rank) rfl _).trans
    (aliveCount_revival _)

end ProxyGateway.Pool
