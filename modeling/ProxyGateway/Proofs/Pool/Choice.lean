import ProxyGateway.Proofs.Dispatch.Lessons
import ProxyGateway.Proofs.Pool.Roster
/-!
The best node, read off what was measured. Main statement: right after a ranking the pool offers a
node whose last check has worked, and among all such nodes one with the shortest delay, then the
greatest speed, then the earliest place; failed checks leave the delay of every node as it was.
-/
namespace ProxyGateway

namespace Adapter

theorem delay_store {key : String} (other : key ≠ delayKey) (a : Adapter) (value : Json) :
    (a.store key value).delay = a.delay := by
  simp [delay, Metrics.word, Metrics.double, get?_store, other]

theorem speed_store {key : String} (other : key ≠ speedKey) (a : Adapter) (value : Json) :
    (a.store key value).speed = a.speed := by
  simp [speed, Metrics.double, get?_store, other]

theorem delay_store_whole (a : Adapter) {n : Nat} (small : n < 65536) :
    (a.store delayKey (.num (.whole n))).delay = UInt16.ofNat n := by
  simp only [delay, Metrics.word, Metrics.double, get?_store, if_true]
  exact Double.toWord_ofNat small

theorem speed_store_real (a : Adapter) (d : Double) :
    (a.store speedKey (.num (.real d))).speed = d := by
  simp [speed, Metrics.double, get?_store, Number.toDouble]

end Adapter

namespace Measurement

def speed? : Measurement → Option Double
  | .speed (some sample) nanos =>
    let speed := Speed.bytesPerSecond sample nanos
    if Double.zero.less speed then some (kilobytes speed) else none
  | .speed none _ => some (Double.ofNat 1).negate
  | .delay _ => none

def WorkedLast (ms : List Measurement) : Prop := ∃ millis, (checks ms).getLast? = some (some millis)

def lastDelay (ms : List Measurement) : Option Nat := ((checks ms).filterMap id).getLast?

/-- The delay that a ranking goes by: whole milliseconds up to the greatest that is told apart. -/
def rankedDelay (ms : List Measurement) : Nat := min ((lastDelay ms).getD 0) greatestDelay

def lastSpeed (ms : List Measurement) : Double := (ms.filterMap speed?).getLast?.getD Double.zero

theorem rankedDelay_lt (ms : List Measurement) : rankedDelay ms < 65536 :=
  Nat.lt_succ_of_le (Nat.min_le_right _ _)

theorem checks_check (ms : List Measurement) (outcome : Option Nat) :
    checks (ms ++ [.delay outcome]) = checks ms ++ [outcome] :=
  List.filterMap_append

theorem checks_speed (ms : List Measurement) (sample : Option Nat) (nanos : Nat) :
    checks (ms ++ [.speed sample nanos]) = checks ms :=
  List.filterMap_append.trans (List.append_nil _)

theorem lastDelay_worked (ms : List Measurement) (millis : Nat) :
    lastDelay (ms ++ [.delay (some millis)]) = some millis := by
  simp [lastDelay, checks_check]

theorem lastDelay_failed (ms : List Measurement) :
    lastDelay (ms ++ [.delay none]) = lastDelay ms := by
  rw [lastDelay, checks_check, List.filterMap_append]
  exact congrArg List.getLast? (List.append_nil _)

theorem apply_alive (m : Measurement) (a : Adapter) :
    (m.apply a).alive = match m with
      | .delay outcome => outcome.isSome
      | .speed _ _ => a.alive := by
  match m with
  | .delay (some millis) => exact apply_delay_alive millis a
  | .delay none => exact Adapter.not_alive_of_knownDead (apply_failure_knownDead a)
  | .speed sample nanos => exact Adapter.alive_congr (apply_speed_get? sample nanos a)

theorem apply_delay (m : Measurement) (a : Adapter) :
    (m.apply a).delay = match m with
      | .delay (some millis) => UInt16.ofNat (min millis greatestDelay)
      | .delay none | .speed _ _ => a.delay := by
  match m with
  | .delay (some millis) =>
    have whole : min (millis : Int) greatestDelay = (min millis greatestDelay : Nat) := by omega
    simp only [apply]
    rw [whole]
    exact Adapter.delay_store_whole _ (Nat.lt_succ_of_le (Nat.min_le_right _ _))
  | .delay none => exact Adapter.delay_store (by decide) a _
  | .speed (some sample) nanos =>
    simp only [apply]
    rw [Adapter.delay_store (by decide)]
    split
    · exact Adapter.delay_store (by decide) a _
    · rfl
  | .speed none nanos =>
    simp only [apply]
    rw [Adapter.delay_store (by decide), Adapter.delay_store (by decide)]

theorem apply_speed (m : Measurement) (a : Adapter) :
    (m.apply a).speed = m.speed?.getD a.speed := by
  match m with
  | .delay (some millis) =>
    simp only [apply]
    rw [Adapter.speed_store (by decide), Adapter.speed_store (by decide)]
    rfl
  | .delay none => exact Adapter.speed_store (by decide) a _
  | .speed (some sample) nanos =>
    simp only [apply, speed?]
    rw [Adapter.speed_store (by decide)]
    split
    · exact Adapter.speed_store_real a _
    · rfl
  | .speed none nanos =>
    simp only [apply]
    rw [Adapter.speed_store (by decide)]
    exact Adapter.speed_store_real a _

theorem alive_applyAll {a : Adapter} (dead : a.alive = false) (ms : List Measurement) :
    (applyAll ms a).alive = true ↔ WorkedLast ms := by
  induction ms using List.reverseRecOn with
  | nil => simp [applyAll, dead, WorkedLast, checks]
  | append_singleton ms m ih =>
    rw [applyAll_concat, apply_alive, WorkedLast]
    cases m with
    | delay outcome => simp [checks_check, Option.isSome_iff_exists]
    | speed sample nanos =>
      rw [checks_speed]
      exact ih

theorem delay_applyAll {a : Adapter} (unknown : a.delay = 0) (ms : List Measurement) :
    (applyAll ms a).delay = UInt16.ofNat (rankedDelay ms) := by
  induction ms using List.reverseRecOn with
  | nil => exact unknown
  | append_singleton ms m ih =>
    rw [applyAll_concat, apply_delay, rankedDelay]
    match m with
    | .delay (some millis) => rw [lastDelay_worked, Option.getD_some]
    | .delay none =>
      rw [lastDelay_failed]
      exact ih
    | .speed sample nanos =>
      rw [lastDelay, checks_speed]
      exact ih

theorem speed_applyAll {a : Adapter} (unknown : a.speed = Double.zero) (ms : List Measurement) :
    (applyAll ms a).speed = lastSpeed ms := by
  induction ms using List.reverseRecOn with
  | nil => exact unknown
  | append_singleton ms m ih =>
    rw [applyAll_concat, apply_speed, ih, lastSpeed, lastSpeed, List.filterMap_append,
      List.getLast?_append]
    cases said : m.speed? with
    | none => simp [said]
    | some d => simp [said]

end Measurement

namespace Node

theorem before_iff {m n : Node} :
    m.before n = true ↔ m.adapter.delay < n.adapter.delay ∨
      (m.adapter.delay = n.adapter.delay ∧ n.adapter.speed.rank ≤ m.adapter.speed.rank) := by
  simp [before]

theorem before_trans (l m n : Node) (first : l.before m = true) (second : m.before n = true) :
    l.before n = true := by
  rw [before_iff, UInt16.lt_iff_toNat_lt, ← UInt16.toNat_inj] at *
  omega

theorem before_total (m n : Node) : (m.before n || n.before m) = true := by
  rw [Bool.or_eq_true, before_iff, before_iff, UInt16.lt_iff_toNat_lt, UInt16.lt_iff_toNat_lt,
    ← UInt16.toNat_inj, ← UInt16.toNat_inj]
  omega

end Node

namespace Pool

theorem stands_in_front {l : List Node} {m n : Node} (m_member : m ∈ l) (n_member : n ∈ l)
    (other : m ≠ n) : [n, m].Sublist l ∨ [m, n].Sublist l := by
  obtain ⟨front, back, rfl⟩ := List.append_of_mem n_member
  have behind : [n].Sublist (n :: back) := List.singleton_sublist.2 List.mem_cons_self
  rcases List.mem_append.1 m_member with earlier | later
  · exact .inr ((List.singleton_sublist.2 earlier).append behind)
  · rcases List.mem_cons.1 later with same | later
    · exact absurd same other
    · have pair : [n, m].Sublist (n :: back) := (List.singleton_sublist.2 later).cons_cons n
      exact .inl (pair.trans (List.sublist_append_right front _))

/-- What is found first in a row without repetitions has no other find in front of it. -/
theorem not_sublist_of_find {l : List Node} (distinct : l.Nodup) {good : Node → Bool} {m n : Node}
    (found : l.find? good = some n) (good_too : good m = true) (other : m ≠ n) :
    ¬ [m, n].Sublist l := by
  obtain ⟨_, front, back, rfl, worse⟩ := List.find?_eq_some_iff_append.1 found
  intro pair
  have behind : [m, n].Sublist (n :: back) := by
    obtain ⟨early, late, cut, early_sub, late_sub⟩ := List.sublist_append_iff.1 pair
    cases early with
    | nil => exact cut ▸ late_sub
    | cons x early =>
      obtain ⟨rfl, _⟩ := List.cons.inj cut
      have refused := worse m (early_sub.subset List.mem_cons_self)
      rw [good_too] at refused
      cases refused
  have gone : n ∉ back := (List.nodup_cons.1 (List.nodup_append.1 distinct).2.1).1
  cases behind with
  | cons _ deeper => exact gone (deeper.subset (by simp))
  | cons_cons _ _ => exact other rfl

theorem best?_sort {p : Pool} (numbered : Numbered p) :
    p.sort.best? = (p.all.mergeSort Node.before).find? (·.adapter.alive) := by
  have view := aliveNodes_of_renews numbered (s := .rank) rfl
  change p.sort.aliveNodes = p.sort.all.filter _ at view
  rw [best?, view, List.head?_filter]
  rfl

theorem sort_best_spec {p : Pool} (numbered : Numbered p) {n : Node}
    (best : p.sort.best? = some n) :
    n ∈ p.all ∧ n.adapter.alive = true ∧ ∀ m ∈ p.all, m.adapter.alive = true → m ≠ n →
      n.before m = true ∧ (m.before n = true → [n, m].Sublist p.all) := by
  rw [best?_sort numbered] at best
  have perm := List.mergeSort_perm p.all Node.before
  have ranked := List.pairwise_mergeSort Node.before_trans Node.before_total p.all
  have member := perm.subset (List.mem_of_find?_eq_some best)
  obtain ⟨alive, front, back, split, worse⟩ := List.find?_eq_some_iff_append.1 best
  refine ⟨member, alive, ?_⟩
  intro m m_member m_alive other
  constructor
  · have placed := perm.symm.subset m_member
    rw [split, List.mem_append, List.mem_cons] at placed
    rw [split, List.pairwise_append, List.pairwise_cons] at ranked
    rcases placed with earlier | same | later
    · have refused := worse m earlier
      rw [m_alive] at refused
      cases refused
    · exact absurd same other
    · exact ranked.2.1.1 m later
  · intro tie
    rcases stands_in_front m_member member other with ahead | behind
    · exact ahead
    · have distinct : (p.all.mergeSort Node.before).Nodup :=
        perm.nodup_iff.2 (List.Nodup.of_map _ numbered.distinct)
      have kept := List.pair_sublist_mergeSort Node.before_trans Node.before_total tie behind
      exact absurd kept (not_sublist_of_find distinct best m_alive other)

theorem sort_best_eq_none {p : Pool} (numbered : Numbered p) :
    p.sort.best? = none ↔ ∀ m ∈ p.all, ¬ m.adapter.alive = true := by
  rw [best?_sort numbered, List.find?_eq_none]
  simp only [(List.mergeSort_perm p.all Node.before).mem_iff]

/-- Only adapters of which nothing was measured are registered. -/
def Fresh (steps : List Step) : Prop := ∀ a, .register a ∈ steps → a.metrics = []

theorem register_mem_of_stays {steps : List Step} {number : Nat} {a : Adapter}
    (stays : Stays steps number a) : .register a ∈ steps := by
  obtain ⟨early, late, rfl, _⟩ := stays
  simp

theorem unchecked_alive {a : Adapter} (bare : a.metrics = []) : (unchecked a).alive = false := by
  rw [Adapter.alive_congr (get?_unchecked a)]
  simp [Adapter.alive, Metrics.bool, bare, Fields.get?]

theorem unchecked_delay (a : Adapter) : (unchecked a).delay = 0 := by
  unfold unchecked
  rw [Adapter.delay_store (by decide), Adapter.delay_store (by decide)]
  exact Adapter.delay_store_whole (n := 0) a (by decide)

theorem unchecked_speed (a : Adapter) : (unchecked a).speed = Double.zero := by
  unfold unchecked
  rw [Adapter.speed_store (by decide)]
  simp [Adapter.speed, Metrics.double, Adapter.get?_store, Number.toDouble, Double.ofInt,
    Double.ofNat]

theorem node_of_history {steps : List Step} (fresh : Fresh steps) {n : Node}
    (member : n ∈ (run steps).all) :
    (n.adapter.alive = true ↔ Measurement.WorkedLast (history steps n.number)) ∧
      n.adapter.delay = UInt16.ofNat (Measurement.rankedDelay (history steps n.number)) ∧
      n.adapter.speed = Measurement.lastSpeed (history steps n.number) := by
  obtain ⟨a, stays, kept⟩ := mem_run_iff.1 member
  have bare := fresh a (register_mem_of_stays stays)
  rw [kept]
  exact ⟨Measurement.alive_applyAll (unchecked_alive bare) _,
    Measurement.delay_applyAll (unchecked_delay a) _,
    Measurement.speed_applyAll (unchecked_speed a) _⟩

theorem before_iff_history {steps : List Step} (fresh : Fresh steps) {m n : Node}
    (m_member : m ∈ (run steps).all) (n_member : n ∈ (run steps).all) :
    m.before n = true ↔
      Measurement.rankedDelay (history steps m.number) <
          Measurement.rankedDelay (history steps n.number) ∨
        (Measurement.rankedDelay (history steps m.number) =
            Measurement.rankedDelay (history steps n.number) ∧
          (Measurement.lastSpeed (history steps n.number)).rank ≤
            (Measurement.lastSpeed (history steps m.number)).rank) := by
  obtain ⟨_, m_delay, m_speed⟩ := node_of_history fresh m_member
  obtain ⟨_, n_delay, n_speed⟩ := node_of_history fresh n_member
  have size (ms : List Measurement) : (UInt16.ofNat (Measurement.rankedDelay ms)).toNat =
      Measurement.rankedDelay ms :=
    UInt16.toNat_ofNat_of_lt (Measurement.rankedDelay_lt ms)
  rw [Node.before_iff, m_delay, n_delay, m_speed, n_speed, UInt16.lt_iff_toNat_lt,
    ← UInt16.toNat_inj, size, size]

theorem delay_of_failures {steps failures : List Step}
    (failed : ∀ s ∈ failures, ∃ number, s = .record number (.delay none)) :
    ∀ old ∈ (run steps).all, ∃ n ∈ (run (steps ++ failures)).all,
      n.number = old.number ∧ n.adapter.delay = old.adapter.delay := by
  induction failures using List.reverseRecOn with
  | nil => exact fun old member => ⟨old, by simpa using member, rfl, rfl⟩
  | append_singleton failures s ih =>
    intro old member
    obtain ⟨n, n_member, same, kept⟩ :=
      ih (fun s earlier => failed s (List.mem_append_left _ earlier)) old member
    obtain ⟨number, rfl⟩ := failed s (by simp)
    have numbered := run_numbered (steps ++ failures)
    rw [← List.append_assoc, run_concat]
    refine ⟨_, (mem_step numbered).2 (.inr ⟨n, n_member, id, rfl⟩), same, ?_⟩
    simp only [Step.leave, Step.measured]
    split
    · exact (Measurement.apply_delay (.delay none) n.adapter).trans kept
    · exact kept

structure BestOf (steps : List Step) (n : Node) : Prop where
  member : n ∈ (run steps).all
  worked : Measurement.WorkedLast (history steps n.number)
  shortest : ∀ m ∈ (run steps).all, Measurement.WorkedLast (history steps m.number) →
    Measurement.rankedDelay (history steps n.number) ≤
      Measurement.rankedDelay (history steps m.number)
  fastest : ∀ m ∈ (run steps).all, Measurement.WorkedLast (history steps m.number) →
    Measurement.rankedDelay (history steps m.number) =
      Measurement.rankedDelay (history steps n.number) →
    (Measurement.lastSpeed (history steps m.number)).rank ≤
      (Measurement.lastSpeed (history steps n.number)).rank
  /-- Of nodes that are equal in both it stood in front before the ranking. -/
  earliest : ∀ m ∈ (run steps).all, Measurement.WorkedLast (history steps m.number) →
    Measurement.rankedDelay (history steps m.number) =
      Measurement.rankedDelay (history steps n.number) →
    (Measurement.lastSpeed (history steps m.number)).rank =
      (Measurement.lastSpeed (history steps n.number)).rank →
    m ≠ n → [n, m].Sublist (run steps).all

theorem bestOf_of_best {steps : List Step} (fresh : Fresh steps) {n : Node}
    (best : (run steps).sort.best? = some n) : BestOf steps n := by
  obtain ⟨member, alive, others⟩ := sort_best_spec (run_numbered steps) best
  have worked {m : Node} (m_member : m ∈ (run steps).all) :
      m.adapter.alive = true ↔ Measurement.WorkedLast (history steps m.number) :=
    (node_of_history fresh m_member).1
  have ranked (m : Node) (m_member : m ∈ (run steps).all)
      (m_worked : Measurement.WorkedLast (history steps m.number)) :
      m = n ∨ n.before m = true := by
    by_cases same : m = n
    · exact .inl same
    · exact .inr (others m m_member ((worked m_member).2 m_worked) same).1
  refine
    { member
      worked := (worked member).1 alive
      shortest := ?_
      fastest := ?_
      earliest := ?_ }
  · intro m m_member m_worked
    rcases ranked m m_member m_worked with rfl | first
    · exact Nat.le_refl _
    · rw [before_iff_history fresh member m_member] at first
      omega
  · intro m m_member m_worked same_delay
    rcases ranked m m_member m_worked with rfl | first
    · exact Int.le_refl _
    · rw [before_iff_history fresh member m_member] at first
      omega
  · intro m m_member m_worked same_delay same_speed other
    apply (others m m_member ((worked m_member).2 m_worked) other).2
    rw [before_iff_history fresh m_member member]
    omega

theorem no_best_iff {steps : List Step} (fresh : Fresh steps) :
    (run steps).sort.best? = none ↔
      ∀ m ∈ (run steps).all, ¬ Measurement.WorkedLast (history steps m.number) := by
  rw [sort_best_eq_none (run_numbered steps)]
  exact forall₂_congr fun m member => not_congr (node_of_history fresh member).1

/-- The choice after a ranking is the best one by all that was measured. -/
theorem choice_is_best_of_history (steps : List Step) (fresh : Fresh steps) :
    (∀ n, (run steps).sort.best? = some n → BestOf steps n) ∧
    ((run steps).sort.best? = none ↔
      ∀ m ∈ (run steps).all, ¬ Measurement.WorkedLast (history steps m.number)) ∧
    (∀ n ∈ (run steps).all,
      n.adapter.delay = UInt16.ofNat (Measurement.rankedDelay (history steps n.number))) ∧
    ∀ failures : List Step, (∀ s ∈ failures, ∃ number, s = .record number (.delay none)) →
      ∀ old ∈ (run steps).all, ∃ n ∈ (run (steps ++ failures)).all,
        n.number = old.number ∧ n.adapter.delay = old.adapter.delay :=
  ⟨fun _ best => bestOf_of_best fresh best, no_best_iff fresh,
    fun _ member => (node_of_history fresh member).2.1,
    fun _ failed => delay_of_failures failed⟩

/-- Two nodes that take longer than can be told apart, and the first of them fails to be sampled. -/
def slowPair : List Step :=
  [.register (Dispatch.trojan "far"), .register (Dispatch.trojan "farther"),
    .record 0 (.delay (some 65535)), .record 1 (.delay (some 80000)), .record 0 (.speed none 10)]

/-- The slower node is chosen, as its delay counts no more and its speed is not below nought. -/
theorem equal_delays_are_told_by_speed :
    Fresh slowPair ∧ ∃ n, (run slowPair).sort.best? = some n ∧ n.number = 1 := by
  have fresh : Fresh slowPair := by simp [Fresh, slowPair, Dispatch.trojan]
  refine ⟨fresh, ?_⟩
  have numbers : (run slowPair).all.map (·.number) = [0, 1] := rfl
  have first : history slowPair 0 = [.delay (some 65535), .speed none 10] := rfl
  have second : history slowPair 1 = [.delay (some 80000)] := rfl
  obtain ⟨chosen, nobody, _⟩ := choice_is_best_of_history slowPair fresh
  have second_known : 1 ∈ (run slowPair).all.map (·.number) := by simp [numbers]
  obtain ⟨m, m_member, m_second⟩ := List.mem_map.1 second_known
  have m_history : history slowPair m.number = [.delay (some 80000)] := by rw [m_second, second]
  have m_worked : Measurement.WorkedLast (history slowPair m.number) := by
    rw [m_history]
    exact ⟨80000, rfl⟩
  cases best : (run slowPair).sort.best? with
  | none => exact absurd m_worked (nobody.1 best m m_member)
  | some n =>
    refine ⟨n, rfl, ?_⟩
    have spec := chosen n best
    have known : n.number ∈ (run slowPair).all.map (·.number) := List.mem_map_of_mem spec.member
    rw [numbers] at known
    simp only [List.mem_cons, List.not_mem_nil, or_false] at known
    rcases known with zero | one
    · have faster := spec.fastest m m_member m_worked
      rw [zero, first, m_history] at faster
      exact absurd (faster rfl) (by decide)
    · exact one

end Pool

end ProxyGateway
