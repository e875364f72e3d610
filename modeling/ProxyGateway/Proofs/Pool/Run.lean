import Mathlib.Data.List.Induction
import Mathlib.Data.List.Nodup
import ProxyGateway.Pool.Basic
import ProxyGateway.Probe.Measure

namespace ProxyGateway

namespace Adapter

theorem get?_store (a : Adapter) (key name : String) (value : Json) :
    (a.store key value).metrics.get? name =
      if key = name then some value else a.metrics.get? name :=
  Fields.get?_put a.metrics key name value

/-- Whether an adapter is alive or known to be dead hangs on one value alone. -/
theorem alive_congr {a b : Adapter}
    (same : a.metrics.get? aliveKey = b.metrics.get? aliveKey) : a.alive = b.alive := by
  simp [alive, Metrics.bool, same]

theorem knownDead_congr {a b : Adapter}
    (same : a.metrics.get? aliveKey = b.metrics.get? aliveKey) : a.knownDead = b.knownDead := by
  simp [knownDead, alive_congr same, same]

theorem not_knownDead_of_alive {a : Adapter} (alive : a.alive = true) : a.knownDead = false := by
  simp [knownDead, alive]

theorem not_alive_of_knownDead {a : Adapter} (dead : a.knownDead = true) : a.alive = false := by
  simp only [knownDead, Bool.and_eq_true, Bool.not_eq_true'] at dead
  exact dead.2

end Adapter

namespace Measurement

theorem apply_identity (m : Measurement) (a : Adapter) : (m.apply a).identity = a.identity := by
  match m with
  | .delay (some _) => rfl
  | .delay none => rfl
  | .speed (some sample) nanos =>
    by_cases measured : Double.zero.less (Speed.bytesPerSecond sample nanos) <;>
      simp [apply, measured, Adapter.store]
  | .speed none _ => rfl

theorem apply_delay_alive (millis : Nat) (a : Adapter) :
    ((delay (some millis)).apply a).alive = true := by
  simp [apply, Adapter.alive, Metrics.bool, Adapter.get?_store, Adapter.aliveKey, Adapter.delayKey]

theorem apply_failure_knownDead (a : Adapter) : ((delay none).apply a).knownDead = true := by
  simp [apply, Adapter.knownDead, Adapter.alive, Metrics.bool, Adapter.get?_store]

theorem apply_speed_get? (sample : Option Nat) (nanos : Nat) (a : Adapter) :
    ((speed sample nanos).apply a).metrics.get? Adapter.aliveKey =
      a.metrics.get? Adapter.aliveKey := by
  cases sample with
  | none =>
    simp [apply, Adapter.get?_store, Adapter.aliveKey, Adapter.speedKey, Adapter.speedTextKey]
  | some sample =>
    by_cases measured : Double.zero.less (Speed.bytesPerSecond sample nanos) <;>
      simp [apply, measured, Adapter.get?_store, Adapter.aliveKey, Adapter.speedKey,
        Adapter.speedTextKey]

end Measurement

namespace Pool

inductive Step where
  | register (a : Adapter)
  /-- A measurement of a node is over, whether the node is still there or not. -/
  | record (number : Nat) (m : Measurement)
  | rank
  | cleanUp
  | remove (identity : String)

def step (p : Pool) : Step → Pool
  | .register a => (p.add a).1
  | .record number m => p.update number m.apply
  | .rank => p.sort
  | .cleanUp => p.cleanUp
  | .remove identity => (p.remove identity).1

def run (steps : List Step) : Pool := steps.foldl step empty

theorem run_concat (steps : List Step) (s : Step) : run (steps ++ [s]) = (run steps).step s := by
  simp [run]

/-- The steps after which the view of the nodes alive is that of the moment. -/
def Step.renews : Step → Bool
  | .rank | .cleanUp | .remove _ => true
  | .register _ | .record _ _ => false

theorem sort_all_perm (p : Pool) : p.sort.all.Perm p.all := List.mergeSort_perm p.all Node.before

theorem cleanUp_all_perm (p : Pool) :
    p.cleanUp.all.Perm (p.all.filter (!·.adapter.knownDead)) := sort_all_perm _

theorem measured_identity (n : Node) (m : Measurement) :
    ({ n with adapter := m.apply n.adapter } : Node).identity = n.identity :=
  m.apply_identity n.adapter

theorem update_numbers (p : Pool) (number : Nat) (f : Adapter → Adapter) :
    (p.update number f).all.map (·.number) = p.all.map (·.number) := by
  rw [update, List.map_map]
  apply List.map_congr_left
  intro n _
  by_cases same : n.number = number <;> simp [same]

/-- Nodes are told apart by their numbers, and the number of the next one is new. -/
structure Numbered (p : Pool) : Prop where
  distinct : (p.all.map (·.number)).Nodup
  below : ∀ n ∈ p.all, n.number < p.next

theorem numbered_of_perm {p q : Pool} {kept : List Node} (numbered : Numbered p)
    (perm : q.all.Perm kept) (sub : kept.Sublist p.all) (next : q.next = p.next) : Numbered q := by
  constructor
  · rw [(perm.map (·.number)).nodup_iff]
    exact numbered.distinct.sublist (sub.map _)
  · intro n member
    rw [next]
    exact numbered.below n (sub.subset (perm.subset member))

theorem step_numbered {p : Pool} (numbered : Numbered p) (s : Step) : Numbered (p.step s) := by
  cases s with
  | register a =>
    change Numbered (p.add a).1
    unfold add
    split
    · exact numbered
    · constructor
      · rw [List.map_append, List.nodup_append]
        refine ⟨numbered.distinct, by simp, ?_⟩
        intro k member _ last
        obtain ⟨n, n_member, rfl⟩ := List.mem_map.1 member
        obtain rfl := List.mem_singleton.1 last
        exact Nat.ne_of_lt (numbered.below n n_member)
      · intro n member
        rcases List.mem_append.1 member with member | last
        · exact Nat.lt_succ_of_lt (numbered.below n member)
        · rw [List.mem_singleton.1 last]
          exact Nat.lt_succ_self p.next
  | record number m =>
    have numbers : (p.step (.record number m)).all.map (·.number) = p.all.map (·.number) :=
      update_numbers p number m.apply
    constructor
    · rw [numbers]
      exact numbered.distinct
    · intro n member
      have known : n.number ∈ p.all.map (·.number) := numbers ▸ List.mem_map_of_mem member
      obtain ⟨old, old_member, same⟩ := List.mem_map.1 known
      exact same ▸ numbered.below old old_member
  | rank => exact numbered_of_perm numbered (sort_all_perm p) (.refl _) rfl
  | cleanUp => exact numbered_of_perm numbered (cleanUp_all_perm p) List.filter_sublist rfl
  | remove identity => exact numbered_of_perm numbered (.refl _) List.filter_sublist rfl

theorem run_numbered (steps : List Step) : Numbered (run steps) := by
  induction steps using List.reverseRecOn with
  | nil => exact ⟨List.nodup_nil, fun _ member => absurd member List.not_mem_nil⟩
  | append_singleton steps s ih =>
    rw [run_concat]
    exact step_numbered ih s

theorem node?_of_mem {p : Pool} (numbered : Numbered p) {n : Node} (member : n ∈ p.all) :
    p.node? n.number = some n := by
  unfold node?
  cases found : p.all.find? (·.number == n.number) with
  | none =>
    rw [List.find?_eq_none] at found
    exact absurd BEq.rfl (found n member)
  | some m =>
    have same : m.number = n.number := by simpa using List.find?_some found
    have m_member := List.mem_of_find?_eq_some found
    rw [List.inj_on_of_nodup_map numbered.distinct m_member member same]

theorem aliveNodes_of_renewed {p : Pool} (numbered : Numbered p)
    (renewed : p.alive = (p.all.filter (·.adapter.alive)).map (·.number)) :
    p.aliveNodes = p.all.filter (·.adapter.alive) := by
  have shown : ∀ n ∈ p.all.filter (·.adapter.alive), p.node? n.number = some n :=
    fun n member => node?_of_mem numbered (List.mem_filter.1 member).1
  rw [aliveNodes, renewed, List.filterMap_map]
  exact (List.filterMap_congr shown).trans List.filterMap_some

theorem aliveNodes_of_renews {p : Pool} (numbered : Numbered p) {s : Step} (renews : s.renews) :
    (p.step s).aliveNodes = (p.step s).all.filter (·.adapter.alive) := by
  apply aliveNodes_of_renewed (step_numbered numbered s)
  cases s with
  | register a => cases renews
  | record number m => cases renews
  | rank => rfl
  | cleanUp => rfl
  | remove identity => rfl

end Pool

end ProxyGateway
