import Mathlib.Logic.Function.Basic
import ProxyGateway.Proofs.Dispatch.Contract
import ProxyGateway.Proofs.Dispatch.Lessons
/-!
Many connections at a time over one table of rules. Each reads its route from the table, is tried
without touching the table, and then writes its lessons one by one; rules are added and removed from
outside at any moment in between. Main statement: in every interleaving a lesson replaces only rules
that are pinned to the very node that has failed its connection.
-/
namespace ProxyGateway.Dispatch

inductive Stage where
  | waiting
  | routed (f : Flow) (r : Route)
  | learning (f : Flow) (o : Takeover) (left : List Rule)
  | ended

structure Traffic where
  table : RuleTable
  stage : Nat → Stage

def Traffic.start (t : RuleTable) : Traffic := ⟨t, fun _ => .waiting⟩

def Traffic.moves (s : Traffic) (i : Nat) (stage : Stage) : Traffic :=
  { s with stage := Function.update s.stage i stage }

theorem moves_stage (s : Traffic) (i : Nat) (stage : Stage) :
    (s.moves i stage).stage i = stage := by
  simp [Traffic.moves]

inductive Event (α : Type) where
  | add (r : Rule)
  | remove (key : String)
  /-- A connection with its destination resolved reads the table. -/
  | route (i : Nat) (f : Flow)
  | attempt (i : Nat) (a : Attempt α)
  | learn (i : Nat) (r : Rule)

def afterAttempt (f : Flow) (a : Attempt α) : Stage :=
  match a.takeover with
  | some o => .learning f o (lessons f o.node.adapter)
  | none => .ended

/-- One event. Nothing is assumed of the order in which the table is walked, of the views of the
pool, nor of the outcomes of the dials. -/
inductive Step : Traffic → Event α → Traffic → Prop where
  | add (s : Traffic) (r : Rule) : Step s (.add r) { s with table := (s.table.add r).1 }
  | remove (s : Traffic) (key : String) :
      Step s (.remove key) { s with table := (s.table.remove key).1 }
  | route {s : Traffic} {i : Nat} (new : s.stage i = .waiting) (f : Flow) (order : s.table.Order) :
      Step s (.route i f) (s.moves i (.routed f (routeAmong order.rules f)))
  | attempt {s : Traffic} {i : Nat} {f : Flow} {r : Route} (ready : s.stage i = .routed f r)
      (atFirst later : List Node) (dial : Candidate → Except Error α) :
      Step s (.attempt i (connect r atFirst later dial))
        (s.moves i (afterAttempt f (connect r atFirst later dial)))
  | learn {s : Traffic} {i : Nat} {f : Flow} {o : Takeover} {rule : Rule} {left : List Rule}
      (ready : s.stage i = .learning f o (rule :: left)) :
      Step s (.learn i rule)
        ({ s with table := teach o.failed s.table rule }.moves i (.learning f o left))

/-- Events one after the other, the last one in front. -/
inductive Run (s : Traffic) : List (Event α) → Traffic → Prop where
  | still : Run s [] s
  | step {past : List (Event α)} {m s' : Traffic} {e : Event α} (before : Run s past m)
      (next : Step m e s') : Run s (e :: past) s'

/-- What must have happened before a connection may learn: its first dial has failed and the dial
of another node has worked. -/
structure Earned (past : List (Event α)) (i : Nat) (f : Flow) (o : Takeover) : Prop where
  asked : .route i f ∈ past
  tried : ∃ (r : Route) (atFirst later : List Node) (dial : Candidate → Except Error α),
    .attempt i (connect r atFirst later dial) ∈ past ∧
    (connect r atFirst later dial).dialed = [o.failed, .node o.node] ∧
    (∃ e, dial o.failed = .error e) ∧ ∃ line, dial (.node o.node) = .ok line

/-- What is promised of one event: it changes an entry only by right, and connections change the
table by earned lessons alone, each under the key of its own. -/
structure RespectsOwners (past : List (Event α)) (s : Traffic) (e : Event α) (s' : Traffic) :
    Prop where
  kept : ∀ k r, s.table.find? k = some r → s'.table.find? k ≠ some r → e = .remove k ∨
    ∃ i rule f o, e = .learn i rule ∧ rule.key = k ∧ Earned past i f o ∧ GivesWay o.failed r
  unpinned_kept : ∀ k r, s.table.find? k = some r → r.pin = none → s'.table.find? k ≠ some r →
    e = .remove k
  quiet : ∀ i, (∃ f, e = .route i f) ∨ (∃ a, e = .attempt i a) → s'.table = s.table
  taught : ∀ i rule, e = .learn i rule → ∃ f o, Earned past i f o ∧
    LessonOf o.node.adapter f rule ∧
    ∀ k, s'.table.find? k ≠ s.table.find? k → k = rule.key ∧ s'.table.find? k = some rule

theorem Earned.later {past : List (Event α)} {i : Nat} {f : Flow} {o : Takeover} {e : Event α}
    (earned : Earned past i f o) : Earned (e :: past) i f o := by
  obtain ⟨asked, r, atFirst, later, dial, tried, facts⟩ := earned
  exact ⟨List.mem_cons_of_mem _ asked, r, atFirst, later, dial, List.mem_cons_of_mem _ tried,
    facts⟩

def Known (past : List (Event α)) (i : Nat) : Stage → Prop
  | .waiting => ∀ f, .route i f ∉ past
  | .routed f _ => .route i f ∈ past
  | .learning f o left => Earned past i f o ∧ ∀ rule ∈ left, rule ∈ lessons f o.node.adapter
  | .ended => True

theorem Known.later {past : List (Event α)} {i : Nat} {stage : Stage} {e : Event α}
    (known : Known past i stage) (other : ∀ f, e ≠ .route i f) : Known (e :: past) i stage := by
  cases stage with
  | waiting =>
    intro f member
    rcases List.mem_cons.1 member with same | member
    · exact other f same.symm
    · exact known f member
  | routed => exact List.mem_cons_of_mem _ known
  | learning => exact ⟨known.1.later, known.2⟩
  | ended => trivial

/-- The invariant of traffic: every stage is known from the past, and a connection asks for its
route once. -/
structure Consistent (past : List (Event α)) (s : Traffic) : Prop where
  known : ∀ i, Known past i (s.stage i)
  asked_once : ∀ i f g, .route i f ∈ past → .route i g ∈ past → f = g

theorem start_consistent (t : RuleTable) : Consistent ([] : List (Event α)) (.start t) :=
  ⟨fun _ _ => List.not_mem_nil, fun _ _ _ member => absurd member List.not_mem_nil⟩

theorem known_moves {past : List (Event α)} {s : Traffic} {e : Event α} {i : Nat} {stage : Stage}
    (known : ∀ j, Known past j (s.stage j)) (own : Known (e :: past) i stage)
    (others : ∀ j f, j ≠ i → e ≠ .route j f) (j : Nat) :
    Known (e :: past) j ((s.moves i stage).stage j) := by
  by_cases same : j = i
  · subst same
    simpa [moves_stage] using own
  · simpa [Traffic.moves, same] using (known j).later (fun f => others j f same)

theorem asked_once_later {past : List (Event α)} {s : Traffic} {e : Event α}
    (consistent : Consistent past s) (other : ∀ i f, e ≠ .route i f) (i : Nat) (f g : Flow)
    (first : .route i f ∈ e :: past) (second : .route i g ∈ e :: past) : f = g := by
  have earlier (h : Flow) (member : .route i h ∈ e :: past) : .route i h ∈ past :=
    (List.mem_cons.1 member).resolve_left fun same => other i h same.symm
  exact consistent.asked_once i f g (earlier f first) (earlier g second)

theorem earned_of_takeover {past : List (Event α)} {i : Nat} {f : Flow} {r : Route}
    {atFirst later : List Node} {dial : Candidate → Except Error α} {o : Takeover}
    (asked : .route i f ∈ past) (taken : (connect r atFirst later dial).takeover = some o) :
    Earned (.attempt i (connect r atFirst later dial) :: past) i f o := by
  have course := connect_course r atFirst later dial
  obtain ⟨two, answered⟩ := (course.takeover_iff o).1 taken
  have failed := ((course.second_iff (by rw [two]; rfl)).1 ⟨_, two⟩).1
  exact ⟨List.mem_cons_of_mem _ asked, r, atFirst, later, dial, List.mem_cons_self, two, failed,
    answered⟩

theorem step_consistent {past : List (Event α)} {s s' : Traffic} {e : Event α}
    (consistent : Consistent past s) (next : Step s e s') : Consistent (e :: past) s' := by
  cases next with
  | add r =>
    exact ⟨fun i => (consistent.known i).later (by simp), asked_once_later consistent (by simp)⟩
  | remove key =>
    exact ⟨fun i => (consistent.known i).later (by simp), asked_once_later consistent (by simp)⟩
  | @route i new f order =>
    have unasked : ∀ g, .route i g ∉ past := by
      have known := consistent.known i
      rwa [new] at known
    constructor
    · exact known_moves consistent.known List.mem_cons_self
        (fun j g other => by simp [Ne.symm other])
    · intro j g h first second
      rcases List.mem_cons.1 first with same | first
      · cases same
        rcases List.mem_cons.1 second with same | second
        · cases same
          rfl
        · exact absurd second (unasked h)
      · rcases List.mem_cons.1 second with same | second
        · cases same
          exact absurd first (unasked g)
        · exact consistent.asked_once j g h first second
  | @attempt i f r ready atFirst later dial =>
    have asked : .route i f ∈ past := by
      have known := consistent.known i
      rwa [ready] at known
    refine ⟨known_moves consistent.known ?_ (by simp), asked_once_later consistent (by simp)⟩
    unfold afterAttempt
    split
    · rename_i o taken
      exact ⟨earned_of_takeover asked taken, fun _ member => member⟩
    · trivial
  | @learn i f o rule left ready =>
    have known := consistent.known i
    rw [ready] at known
    refine ⟨known_moves consistent.known ⟨known.1.later, ?_⟩ (by simp),
      asked_once_later consistent (by simp)⟩
    exact fun r member => known.2 r (List.mem_cons_of_mem _ member)

theorem run_consistent {t : RuleTable} {past : List (Event α)} {s : Traffic}
    (run : Run (.start t) past s) : Consistent past s := by
  induction run with
  | still => exact start_consistent t
  | step _ next ih => exact step_consistent ih next

theorem step_respects_owners {past : List (Event α)} {s s' : Traffic} {e : Event α}
    (consistent : Consistent past s) (next : Step s e s') : RespectsOwners past s e s' := by
  have kept : ∀ k r, s.table.find? k = some r → s'.table.find? k ≠ some r → e = .remove k ∨
      ∃ i rule f o, e = .learn i rule ∧ rule.key = k ∧ Earned past i f o ∧ GivesWay o.failed r := by
    intro k r held changed
    cases next with
    | add rule =>
      refine absurd ?_ changed
      change (s.table.add rule).1.find? k = some r
      rw [RuleTable.find?_add, held]
      exact ite_self _
    | remove key =>
      by_cases same : k = key
      · exact .inl (congrArg Event.remove same.symm)
      · refine absurd ?_ changed
        change (s.table.remove key).1.find? k = some r
        rw [RuleTable.find?_remove, if_neg same, held]
    | route => exact absurd held changed
    | attempt => exact absurd held changed
    | @learn i f o rule left ready =>
      have known := consistent.known i
      rw [ready] at known
      obtain ⟨here, _, gives_way⟩ := teach_changes (held ▸ changed)
      exact .inr ⟨i, rule, f, o, rfl, here.symm, known.1, gives_way r held⟩
  constructor
  · exact kept
  · intro k r held unpinned changed
    rcases kept k r held changed with removed | ⟨_, _, _, _, _, _, _, n, _, pinned⟩
    · exact removed
    · rw [unpinned] at pinned
      cases pinned
  · rintro i (⟨f, rfl⟩ | ⟨a, rfl⟩)
    · cases next
      rfl
    · cases next
      rfl
  · rintro i rule rfl
    cases next with
    | @learn _ f o _ left ready =>
      have known := consistent.known i
      rw [ready] at known
      refine ⟨f, o, known.1, lesson_of_mem (known.2 rule List.mem_cons_self), ?_⟩
      intro k changed
      obtain ⟨here, written, _⟩ := teach_changes changed
      exact ⟨here, written⟩

/-- Through a whole run a rule stays that is neither removed nor pinned to a node that fails a
connection with a lesson for its key. -/
theorem run_keeps_rule {past later : List (Event α)} {s s' : Traffic} {k : String} {r : Rule}
    (consistent : Consistent past s) (onward : Run s later s') (held : s.table.find? k = some r)
    (unremoved : .remove k ∉ later)
    (unowned : ∀ i rule f o, .learn i rule ∈ later → rule.key = k → Earned (later ++ past) i f o →
      ¬ GivesWay o.failed r) : s'.table.find? k = some r ∧ Consistent (later ++ past) s' := by
  induction onward with
  | still => exact ⟨held, consistent⟩
  | @step middle m s' e before next ih =>
    obtain ⟨held_before, consistent_before⟩ := ih
      (fun member => unremoved (List.mem_cons_of_mem _ member))
      (fun i rule f o member same earned =>
        unowned i rule f o (List.mem_cons_of_mem _ member) same earned.later)
    refine ⟨Classical.byContradiction fun changed => ?_, step_consistent consistent_before next⟩
    have respects := step_respects_owners consistent_before next
    rcases respects.kept k r held_before changed with rfl | ⟨i, rule, f, o, rfl, same, earned, way⟩
    · exact unremoved List.mem_cons_self
    · exact unowned i rule f o List.mem_cons_self same earned.later way

theorem Run.trans {s m s' : Traffic} {first second : List (Event α)} (before : Run s first m)
    (after : Run m second s') : Run s (second ++ first) s' := by
  induction after with
  | still => exact before
  | step _ next ih => exact .step ih next

theorem run_lessons {i : Nat} {f : Flow} {o : Takeover} (left : List Rule) {s : Traffic}
    (ready : s.stage i = .learning f o left) :
    ∃ s', Run s ((left.map (Event.learn (α := α) i)).reverse) s' ∧
      s'.table = left.foldl (teach o.failed) s.table := by
  induction left generalizing s with
  | nil => exact ⟨s, .still, rfl⟩
  | cons rule left ih =>
    have next : Step (α := α) s (.learn i rule) _ := .learn ready
    let m : Traffic := { s with table := teach o.failed s.table rule }
    obtain ⟨s', rest, table⟩ := ih (moves_stage m i (.learning f o left))
    refine ⟨s', ?_, table⟩
    rw [List.map_cons, List.reverse_cons]
    exact (Run.step .still next).trans rest

/-- A connection that is left alone does to the table what learning from its attempt does. -/
theorem alone_learns {s : Traffic} {i : Nat} (new : s.stage i = .waiting) (f : Flow)
    (order : s.table.Order) (atFirst later : List Node) (dial : Candidate → Except Error α) :
    let a := connect (routeAmong order.rules f) atFirst later dial
    ∃ s' taught, Run s (taught ++ [.attempt i a, .route i f]) s' ∧
      s'.table = match a.takeover with
        | some o => learn s.table f o
        | none => s.table := by
  intro a
  have asked : Run (α := α) s [.route i f] _ := .step .still (.route new f order)
  have tried : Run s [.attempt i a, .route i f] _ :=
    .step asked (.attempt (moves_stage s i _) atFirst later dial)
  cases taken : a.takeover with
  | none => exact ⟨_, [], tried, rfl⟩
  | some o =>
    have ready : afterAttempt f a = .learning f o (lessons f o.node.adapter) := by
      simp [afterAttempt, taken]
    obtain ⟨s', learned, table⟩ := run_lessons (α := α) (lessons f o.node.adapter)
      ((moves_stage _ i (afterAttempt f a)).trans ready)
    refine ⟨s', _, tried.trans learned, ?_⟩
    rw [table]
    exact (learn_eq_foldl s.table f o).symm

/-- A rule that is found under a key is replaced by nothing but the lesson of a connection that
failed on the node it is pinned to, however connections, additions and removals follow each other;
and a connection writes only what it has earned by a second dial. -/
theorem learning_respects_owners {t : RuleTable} {past : List (Event α)} {s : Traffic}
    (reached : Run (.start t) past s) :
    (∀ e s', Step s e s' → RespectsOwners past s e s') ∧
    (∀ later s' k r, Run s later s' → s.table.find? k = some r → .remove k ∉ later →
      (∀ i rule f o, .learn i rule ∈ later → rule.key = k → Earned (later ++ past) i f o →
        ¬ GivesWay o.failed r) → s'.table.find? k = some r) ∧
    ∀ i f g, .route i f ∈ past → .route i g ∈ past → f = g := by
  have consistent := run_consistent reached
  refine ⟨fun e s' next => step_respects_owners consistent next, ?_, consistent.asked_once⟩
  intro later s' k r onward held unremoved unowned
  exact (run_keeps_rule consistent onward held unremoved unowned).1

/-- The rule that is pinned to the node that has failed is replaced by the first lesson. -/
theorem stale_pin_is_replaced :
    ∃ (past : List (Event Unit)) (s s' : Traffic) (e : Event Unit),
      Run (.start pinnedToStale) past s ∧ Step s e s' ∧
      (s.table.find? "1.2.3.4").bind (·.pin) = some "stale" ∧
      (s'.table.find? "1.2.3.4").bind (·.pin) = some "fresh" ∧ RespectsOwners past s e s' := by
  let routed := (Traffic.start pinnedToStale).moves 0
    (.routed mappedFlow (routeAmong pinnedToStale.rules mappedFlow))
  let learning := routed.moves 0
    (.learning mappedFlow freshForStale (lessons mappedFlow freshNode.adapter))
  have asked : Run (α := Unit) (.start pinnedToStale) _ routed :=
    .step .still (Step.route (s := .start pinnedToStale) (i := 0) rfl mappedFlow (.given _))
  have tried : Run (.start pinnedToStale) _ learning :=
    asked.step (.attempt (moves_stage _ 0 _) [staleNode, freshNode] [staleNode, freshNode]
      onlyFresh)
  have next := Step.learn (α := Unit) (moves_stage routed 0
    (.learning mappedFlow freshForStale (lessons mappedFlow freshNode.adapter)))
  exact ⟨_, _, _, _, tried, next, rfl, rfl, (learning_respects_owners tried).1 _ _ next⟩

end ProxyGateway.Dispatch
