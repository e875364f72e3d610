import ProxyGateway.Proofs.Pool.Run
/-!
Who is in the pool, and what is known of whom. Main statements: a node is in the pool from its
registration until its identity is removed or a clean-up finds it dead, and it has kept every
measurement that was made of it; the view of the nodes alive stands in the order of the pool.
-/
namespace ProxyGateway

def Node.Leaves (n : Node) : Pool.Step → Prop
  | .remove identity => n.identity = identity
  | .cleanUp => n.adapter.knownDead
  | .register _ | .record _ _ | .rank => False

namespace Measurement

def applyAll (ms : List Measurement) (a : Adapter) : Adapter := ms.foldl (fun a m => m.apply a) a

theorem applyAll_append (early late : List Measurement) (a : Adapter) :
    applyAll (early ++ late) a = applyAll late (applyAll early a) := by
  simp [applyAll]

theorem applyAll_concat (ms : List Measurement) (m : Measurement) (a : Adapter) :
    applyAll (ms ++ [m]) a = m.apply (applyAll ms a) :=
  applyAll_append ms [m] a

def checks (ms : List Measurement) : List (Option Nat) :=
  ms.filterMap fun
    | .delay outcome => some outcome
    | .speed _ _ => none

theorem get?_applyAll_of_unchecked {ms : List Measurement} (unchecked : checks ms = [])
    (a : Adapter) :
    (applyAll ms a).metrics.get? Adapter.aliveKey = a.metrics.get? Adapter.aliveKey := by
  induction ms generalizing a with
  | nil => rfl
  | cons m ms ih =>
    cases m with
    | delay outcome => simp [checks] at unchecked
    | speed sample millis => exact (ih unchecked _).trans (apply_speed_get? sample millis a)

end Measurement

namespace Pool

/-- What a step measures of a number; a number that is not given yet has nothing to measure. -/
def Step.measured (p : Pool) (number : Nat) : Step → List Measurement
  | .record k m => if k = number ∧ k < p.next then [m] else []
  | .register _ | .rank | .cleanUp | .remove _ => []

/-- What the steps from a pool on measure of a number. -/
def measuredFrom (p : Pool) (number : Nat) : List Step → List Measurement
  | [] => []
  | s :: rest => s.measured p number ++ measuredFrom (p.step s) number rest

/-- What was measured of a number in a run. -/
def history (steps : List Step) (number : Nat) : List Measurement :=
  measuredFrom empty number steps

theorem measuredFrom_concat (p : Pool) (number : Nat) (steps : List Step) (s : Step) :
    measuredFrom p number (steps ++ [s]) =
      measuredFrom p number steps ++ s.measured (steps.foldl step p) number := by
  induction steps generalizing p with
  | nil => simp [measuredFrom]
  | cons first rest ih => simp [measuredFrom, ih]

theorem history_concat (steps : List Step) (s : Step) (number : Nat) :
    history (steps ++ [s]) number = history steps number ++ s.measured (run steps) number :=
  measuredFrom_concat empty number steps s

def Step.leave (p : Pool) (s : Step) (n : Node) : Node :=
  { n with adapter := Measurement.applyAll (s.measured p n.number) n.adapter }

theorem leave_of_unmeasured {p : Pool} {s : Step} {n : Node}
    (unmeasured : s.measured p n.number = []) : s.leave p n = n := by
  rw [Step.leave, unmeasured]
  rfl

/-- All that a step can do to the nodes of a pool. -/
theorem mem_step {p : Pool} (numbered : Numbered p) {s : Step} {n : Node} :
    n ∈ (p.step s).all ↔
      (∃ a, s = .register a ∧ (p.add a).2 = some n) ∨
        ∃ old ∈ p.all, ¬ old.Leaves s ∧ n = s.leave p old := by
  cases s with
  | register a =>
    have stays (old : Node) : (Step.register a).leave p old = old := leave_of_unmeasured rfl
    have added : n ∈ (p.add a).1.all ↔ (p.add a).2 = some n ∨ n ∈ p.all := by
      unfold add
      split
      · simp
      · simp only [List.mem_append, List.mem_singleton, Option.some.injEq]
        rw [or_comm, eq_comm]
    simp [show p.step (.register a) = (p.add a).1 from rfl, added, Node.Leaves, stays]
  | record k m =>
    have left (old : Node) (member : old ∈ p.all) :
        (if old.number = k then { old with adapter := m.apply old.adapter } else old) =
          (Step.record k m).leave p old := by
      by_cases here : old.number = k
      · have given : k < p.next := here ▸ numbered.below old member
        simp [Step.leave, Step.measured, here, given, Measurement.applyAll]
      · simp [Step.leave, Step.measured, here, Ne.symm here, Measurement.applyAll]
    have moved : n ∈ (p.step (.record k m)).all ↔
        ∃ old ∈ p.all, (Step.record k m).leave p old = n := by
      change n ∈ p.all.map _ ↔ _
      rw [List.mem_map]
      exact exists_congr fun old => and_congr_right fun member => by rw [left old member]
    simp [moved, Node.Leaves, eq_comm]
  | rank =>
    have stays (old : Node) : Step.rank.leave p old = old := leave_of_unmeasured rfl
    rw [show p.step .rank = p.sort from rfl, (sort_all_perm p).mem_iff]
    simp [Node.Leaves, stays]
  | cleanUp =>
    have stays (old : Node) : Step.cleanUp.leave p old = old := leave_of_unmeasured rfl
    rw [show p.step .cleanUp = p.cleanUp from rfl, (cleanUp_all_perm p).mem_iff]
    simp [Node.Leaves, stays]
  | remove identity =>
    have stays (old : Node) : (Step.remove identity).leave p old = old := leave_of_unmeasured rfl
    change n ∈ p.all.filter _ ↔ _
    simp [Node.Leaves, stays]

/-- The adapter came into the pool under this number, and no step since has taken its node out. -/
def Stays (steps : List Step) (number : Nat) (a : Adapter) : Prop :=
  ∃ early late, steps = early ++ .register a :: late ∧
    ((run early).add a).2 = some ⟨number, unchecked a⟩ ∧
    ∀ between s, between ++ [s] <+: late →
      ∀ n ∈ (run (early ++ .register a :: between)).all, n.number = number → ¬ n.Leaves s

theorem stays_of_entry {steps : List Step} {number : Nat} {a : Adapter}
    (entry : ((run steps).add a).2 = some ⟨number, unchecked a⟩) :
    Stays (steps ++ [.register a]) number a := by
  refine ⟨steps, [], rfl, entry, ?_⟩
  intro between s start
  simp at start

theorem stays_concat {steps : List Step} {number : Nat} {a : Adapter} {s : Step} :
    Stays (steps ++ [s]) number a ↔
      (s = .register a ∧ ((run steps).add a).2 = some ⟨number, unchecked a⟩) ∨
        (Stays steps number a ∧ ∀ n ∈ (run steps).all, n.number = number → ¬ n.Leaves s) := by
  constructor
  · rintro ⟨early, late, cut, entry, calm⟩
    rcases List.eq_nil_or_concat late with rfl | ⟨late, last, rfl⟩
    · obtain ⟨rfl, same⟩ := List.append_inj' cut rfl
      exact .inl ⟨List.singleton_inj.1 same, entry⟩
    · rw [List.concat_eq_append, ← List.cons_append, ← List.append_assoc] at cut
      obtain ⟨rfl, same⟩ := List.append_inj' cut rfl
      obtain rfl := List.singleton_inj.1 same
      refine .inr ⟨⟨early, late, rfl, entry, ?_⟩, calm late s (by simp)⟩
      intro between t start
      exact calm between t (start.trans (by simp))
  · rintro (⟨rfl, entry⟩ | ⟨⟨early, late, rfl, entry, calm⟩, last⟩)
    · exact stays_of_entry entry
    · refine ⟨early, late ++ [s], by simp, entry, ?_⟩
      intro between t start
      rcases List.prefix_concat_iff.1 start with whole | start
      · obtain ⟨rfl, same⟩ := List.append_inj' whole rfl
        obtain rfl := List.singleton_inj.1 same
        exact last
      · exact calm between t start

theorem not_stays_nil (number : Nat) (a : Adapter) : ¬ Stays [] number a := by
  rintro ⟨early, late, cut, _⟩
  simp at cut

theorem next_le_step (p : Pool) (s : Step) : p.next ≤ (p.step s).next := by
  cases s with
  | register a =>
    change p.next ≤ (p.add a).1.next
    unfold add
    split
    · exact Nat.le_refl _
    · exact Nat.le_succ _
  | record k m => exact Nat.le_refl _
  | rank => exact Nat.le_refl _
  | cleanUp => exact Nat.le_refl _
  | remove identity => exact Nat.le_refl _

theorem history_of_next_le {steps : List Step} {number : Nat} (new : (run steps).next ≤ number) :
    history steps number = [] := by
  induction steps using List.reverseRecOn with
  | nil => rfl
  | append_singleton steps s ih =>
    rw [run_concat] at new
    have older : (run steps).next ≤ number := Nat.le_trans (next_le_step _ s) new
    rw [history_concat, ih older, List.nil_append]
    cases s with
    | record k m =>
      have not_given : ¬ (k = number ∧ k < (run steps).next) := by omega
      simp [Step.measured, not_given]
    | register a => rfl
    | rank => rfl
    | cleanUp => rfl
    | remove identity => rfl

theorem add_number {p : Pool} {a : Adapter} {n : Node} (entry : (p.add a).2 = some n) :
    n = ⟨p.next, unchecked a⟩ := by
  unfold add at entry
  split at entry
  · cases entry
  · exact (Option.some.inj entry).symm

theorem eq_of_number_eq {p : Pool} (numbered : Numbered p) {m n : Node} (m_member : m ∈ p.all)
    (n_member : n ∈ p.all) (same : m.number = n.number) : m = n :=
  List.inj_on_of_nodup_map numbered.distinct m_member n_member same

/-- A node is in the pool when it came in and no step since has taken it out, and it carries all
that was measured of it. -/
theorem mem_run_iff {steps : List Step} {n : Node} :
    n ∈ (run steps).all ↔ ∃ a, Stays steps n.number a ∧
      n.adapter = Measurement.applyAll (history steps n.number) (unchecked a) := by
  induction steps using List.reverseRecOn generalizing n with
  | nil => simp [run, empty, not_stays_nil]
  | append_singleton steps s ih =>
    have numbered := run_numbered steps
    rw [run_concat, mem_step numbered, history_concat]
    constructor
    · rintro (⟨a, rfl, entry⟩ | ⟨old, member, stays, rfl⟩)
      · obtain rfl := add_number entry
        refine ⟨a, stays_of_entry entry, ?_⟩
        rw [history_of_next_le (Nat.le_refl _)]
        rfl
      · obtain ⟨a, before, kept⟩ := ih.1 member
        refine ⟨a, stays_concat.2 (.inr ⟨before, ?_⟩), ?_⟩
        · intro m m_member same
          rwa [eq_of_number_eq numbered m_member member same]
        · change Measurement.applyAll _ old.adapter = _
          rw [Measurement.applyAll_append, kept]
          rfl
    · rintro ⟨a, stays, kept⟩
      rcases stays_concat.1 stays with ⟨rfl, entry⟩ | ⟨before, calm⟩
      · have new : n.number = (run steps).next := congrArg Node.number (add_number entry)
        rw [history_of_next_le (Nat.le_of_eq new.symm)] at kept
        have bare : n.adapter = unchecked a := kept
        exact .inl ⟨a, rfl, entry.trans (by rw [← bare])⟩
      · let old : Node :=
          ⟨n.number, Measurement.applyAll (history steps n.number) (unchecked a)⟩
        have member : old ∈ (run steps).all := ih.2 ⟨a, before, rfl⟩
        refine .inr ⟨_, member, calm _ member rfl, ?_⟩
        rw [Measurement.applyAll_append] at kept
        exact congrArg (Node.mk n.number) kept

theorem alive_sublist_step {p : Pool} (within : p.alive.Sublist (p.all.map (·.number)))
    (s : Step) : (p.step s).alive.Sublist ((p.step s).all.map (·.number)) := by
  have renewed (q : Pool) : q.renewAlive.alive.Sublist (q.all.map (·.number)) :=
    List.filter_sublist.map _
  cases s with
  | register a =>
    change (p.add a).1.alive.Sublist ((p.add a).1.all.map (·.number))
    unfold add
    split
    · exact within
    · exact within.trans ((List.sublist_append_left p.all _).map _)
  | record k m =>
    rw [show (p.step (.record k m)).all.map (·.number) = p.all.map (·.number) from
      update_numbers p k m.apply]
    exact within
  | rank => exact renewed _
  | cleanUp => exact renewed _
  | remove identity => exact renewed _

theorem run_alive_sublist (steps : List Step) :
    (run steps).alive.Sublist ((run steps).all.map (·.number)) := by
  induction steps using List.reverseRecOn with
  | nil => exact List.nil_sublist _
  | append_singleton steps s ih =>
    rw [run_concat]
    exact alive_sublist_step ih s

theorem aliveNodes_of_sublist {p : Pool} (numbered : Numbered p)
    (within : p.alive.Sublist (p.all.map (·.number))) :
    p.aliveNodes.Sublist p.all ∧ p.aliveNodes.map (·.number) = p.alive := by
  obtain ⟨kept, sub, same⟩ := List.sublist_map_iff.1 within
  have shown : ∀ n ∈ kept, p.node? n.number = some n :=
    fun n member => node?_of_mem numbered (sub.subset member)
  have nodes : p.aliveNodes = kept := by
    rw [aliveNodes, same, List.filterMap_map]
    exact (List.filterMap_congr shown).trans List.filterMap_some
  exact ⟨nodes ▸ sub, by rw [nodes, same]⟩

/-- The steps that neither let a node in nor take one out. -/
def Step.regroups : Step → Bool
  | .record _ _ | .rank => true
  | .register _ | .cleanUp | .remove _ => false

theorem numbers_of_regroups (p : Pool) {s : Step} (regroups : s.regroups) :
    ((p.step s).all.map (·.number)).Perm (p.all.map (·.number)) := by
  cases s with
  | record k m => exact .of_eq (update_numbers p k m.apply)
  | rank => exact (sort_all_perm p).map _
  | register a => cases regroups
  | cleanUp => cases regroups
  | remove identity => cases regroups

theorem mem_cleanUp {p : Pool} {n : Node} :
    n ∈ p.cleanUp.all ↔ n ∈ p.all ∧ n.adapter.knownDead = false := by
  rw [(cleanUp_all_perm p).mem_iff, List.mem_filter, Bool.not_eq_true']

theorem not_knownDead_of_unmeasured {a : Adapter}
    (unmeasured : a.metrics.get? Adapter.aliveKey = none) : a.knownDead = false := by
  simp [Adapter.knownDead, unmeasured]

structure Kept (steps : List Step) : Prop where
  /-- The view of the nodes alive stands in the order of the pool. -/
  view_sublist : (run steps).aliveNodes.Sublist (run steps).all
  view_numbers : (run steps).aliveNodes.map (·.number) = (run steps).alive
  /-- Right after a ranking, a clean-up or a removal the view is exact. -/
  view_exact : ∀ s : Step, s.renews →
    ((run steps).step s).aliveNodes = ((run steps).step s).all.filter (·.adapter.alive)
  once : ((run steps).all.map (·.number)).Nodup
  roster : ∀ n, n ∈ (run steps).all ↔ ∃ a, Stays steps n.number a ∧
    n.adapter = Measurement.applyAll (history steps n.number) (unchecked a)
  regrouped : ∀ s : Step, s.regroups →
    (((run steps).step s).all.map (·.number)).Perm ((run steps).all.map (·.number))
  /-- A clean-up spares what is alive or has never been checked. -/
  spares : ∀ n ∈ (run steps).all,
    n.adapter.alive ∨ n.adapter.metrics.get? Adapter.aliveKey = none → n ∈ (run steps).cleanUp.all
  /-- The same, read off the history of an adapter that came in without an outcome. -/
  spares_unchecked : ∀ n ∈ (run steps).all, ∀ a, Stays steps n.number a →
    a.metrics.get? Adapter.aliveKey = none →
    Measurement.checks (history steps n.number) = [] → n ∈ (run steps).cleanUp.all

theorem get?_unchecked (a : Adapter) :
    (unchecked a).metrics.get? Adapter.aliveKey = a.metrics.get? Adapter.aliveKey := by
  simp [unchecked, Adapter.get?_store, Adapter.aliveKey, Adapter.delayKey, Adapter.speedKey,
    Adapter.speedTextKey]

theorem adapter_of_stays {steps : List Step} {n : Node} {a : Adapter} (member : n ∈ (run steps).all)
    (stays : Stays steps n.number a) :
    n.adapter = Measurement.applyAll (history steps n.number) (unchecked a) := by
  let kept : Node := ⟨n.number, Measurement.applyAll (history steps n.number) (unchecked a)⟩
  have kept_member : kept ∈ (run steps).all := mem_run_iff.2 ⟨a, stays, rfl⟩
  rw [eq_of_number_eq (run_numbered steps) member kept_member rfl]

theorem run_keeps_roster (steps : List Step) : Kept steps := by
  have numbered := run_numbered steps
  have view := aliveNodes_of_sublist numbered (run_alive_sublist steps)
  have unmeasured_spared (n : Node) (member : n ∈ (run steps).all)
      (unmeasured : n.adapter.metrics.get? Adapter.aliveKey = none) :
      n ∈ (run steps).cleanUp.all :=
    mem_cleanUp.2 ⟨member, not_knownDead_of_unmeasured unmeasured⟩
  refine
    { view_sublist := view.1
      view_numbers := view.2
      view_exact := fun s renews => aliveNodes_of_renews numbered renews
      once := numbered.distinct
      roster := fun n => mem_run_iff
      regrouped := fun s regroups => numbers_of_regroups (run steps) regroups
      spares := ?_
      spares_unchecked := ?_ }
  · rintro n member (alive | unmeasured)
    · exact mem_cleanUp.2 ⟨member, Adapter.not_knownDead_of_alive alive⟩
    · exact unmeasured_spared n member unmeasured
  · intro n member a stays bare unheard
    apply unmeasured_spared n member
    rw [adapter_of_stays member stays, Measurement.get?_applyAll_of_unchecked unheard,
      get?_unchecked, bare]

end Pool

end ProxyGateway
