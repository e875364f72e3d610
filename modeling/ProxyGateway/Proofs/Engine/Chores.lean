import ProxyGateway.Proofs.Engine.Agenda
import ProxyGateway.Proofs.Engine.Moves
import ProxyGateway.Proofs.Pool.FirstChecks
/-!
The work of the upkeep as the engine does it. Main statement: until it is stopped, the pool and the
queue of an engine have come from the start in one of the interleavings in which no request is lost
or doubled.
-/
namespace ProxyGateway

namespace ChoreQueue

/-- Nobody waits outside while there is room. -/
def Packed (q : ChoreQueue) : Prop := q.outside ≠ [] → capacity ≤ q.queued.length

theorem Packed.push {q : ChoreQueue} (packed : q.Packed) (c : Chore) : (q.push c).Packed := by
  unfold ChoreQueue.push
  split
  · rename_i room
    exact fun waits => absurd room (Nat.not_lt_of_le (packed waits))
  · rename_i full
    exact fun _ => Nat.le_of_not_lt full

theorem packed_take (q : ChoreQueue) : q.take.2.Packed := by
  intro waits
  have more : capacity < q.outside.length := by simpa [take, refill] using waits
  simp only [take, refill, List.nil_append, List.length_nil, Nat.sub_zero, List.length_take]
  omega

theorem Packed.queued_ne_nil {q : ChoreQueue} (packed : q.Packed) (filled : q.isEmpty = false) :
    q.queued ≠ [] := by
  intro none
  have waits : q.outside ≠ [] := by
    intro nobody
    simp [isEmpty, none, nobody] at filled
  have room := packed waits
  rw [none] at room
  exact absurd room (by decide)

end ChoreQueue

namespace Engine

/-- The part of a round that the loop has to do with: a pass is over after the checks that it waits
for. -/
def RoundFits (cleans : Bool) (early : Agenda) : Loop → Prop
  | .idle => True
  | .taking _ => False
  | .checking batch left => cleans = Chore.asksCleanUp batch ∧
    ∀ n ∈ left, ∃ x ∈ early, ∃ start worked, x.what = .delayed n start worked

inductive LoopFits : Upkeep → Agenda → Loop → Prop where
  | resting {u : Upkeep} {a : Agenda} (free : ∀ due, u ≠ .busy due) (calm : Agenda.Calm a) :
      LoopFits u a .idle
  | round {due : Schedule} {early late : Agenda} {r : Appointment} {cleans : Bool} {loop : Loop}
      (ends : r.what = .roundOver cleans) (calm : Agenda.Calm (early ++ late))
      (fits : RoundFits cleans early loop) : LoopFits (.busy due) (early ++ r :: late) loop

theorem RoundFits.mono {cleans : Bool} {early early' : Agenda} {loop : Loop}
    (fits : RoundFits cleans early loop) (more : ∀ x ∈ early, x ∈ early') :
    RoundFits cleans early' loop := by
  cases loop with
  | idle => trivial
  | taking => exact fits
  | checking batch left =>
    refine ⟨fits.1, fun n waits => ?_⟩
    obtain ⟨x, member, what⟩ := fits.2 n waits
    exact ⟨x, more x member, what⟩

theorem calm_add {early late : Agenda} (calm : Agenda.Calm (early ++ late)) {p : Appointment}
    (goes_on : p.what.endsRound = false) {early' late' : Agenda}
    (one_more : ∀ x ∈ early' ++ late', x = p ∨ x ∈ early ++ late) :
    Agenda.Calm (early' ++ late') := by
  intro x member
  rcases one_more x member with rfl | old
  · exact goes_on
  · exact calm x old

theorem LoopFits.add {u : Upkeep} {a : Agenda} {loop : Loop} (fits : LoopFits u a loop)
    {p : Appointment} (goes_on : p.what.endsRound = false) :
    LoopFits u (Agenda.add p a) loop := by
  cases fits with
  | resting free calm => exact .resting free (Agenda.Grown.calm (.add .still goes_on) calm)
  | @round due early late r cleans _ ends calm fits =>
    rcases Agenda.add_cut p r early late with before | after
    · rw [before]
      refine .round ends ?_ (fits.mono fun x member => Agenda.mem_add.2 (.inr member))
      refine calm_add calm goes_on fun x member => ?_
      simpa [Agenda.mem_add, or_assoc] using member
    · rw [after]
      refine .round ends ?_ fits
      refine calm_add calm goes_on fun x member => ?_
      simpa [Agenda.mem_add, or_left_comm] using member

theorem LoopFits.grown {u : Upkeep} {a b : Agenda} {loop : Loop} (fits : LoopFits u a loop)
    (grown : Agenda.Grown a b) : LoopFits u b loop := by
  induction grown with
  | still => exact fits
  | add _ goes_on ih => exact ih.add goes_on

theorem LoopFits.rest {u : Upkeep} {a : Agenda} {loop : Loop} (fits : LoopFits u a loop)
    (free : ∀ due, u ≠ .busy due) : loop = .idle ∧ Agenda.Calm a := by
  cases fits with
  | resting _ calm => exact ⟨rfl, calm⟩
  | round => exact absurd rfl (free _)

/-- A round that starts ends after all that is planned up to then. -/
theorem LoopFits.of_round {a : Agenda} (ordered : a.Ordered) (calm : Agenda.Calm a)
    (due : Schedule) {time : Nat} {cleans : Bool} {loop : Loop}
    (fits : ∀ early, (∀ x ∈ a, x.time ≤ time → x ∈ early) → RoundFits cleans early loop) :
    LoopFits (.busy due) (Agenda.add ⟨time, .roundOver cleans⟩ a) loop := by
  obtain ⟨early, late, cut, added, within⟩ := ordered.add_split ⟨time, .roundOver cleans⟩
  rw [added]
  exact .round rfl (cut ▸ calm) (fits early within)

theorem LoopFits.checking_of_mem {u : Upkeep} {a : Agenda} {loop : Loop} (fits : LoopFits u a loop)
    {n : Node} (waits : n ∈ loop.left) : ∃ batch left, loop = .checking batch left := by
  cases fits with
  | resting => exact absurd waits List.not_mem_nil
  | @round due early late r cleans loop ends calm fits =>
    cases loop with
    | idle => exact absurd waits List.not_mem_nil
    | taking => exact fits.elim
    | checking batch left => exact ⟨batch, left, rfl⟩

theorem LoopFits.fewer {u : Upkeep} {a : Agenda} {batch : List Chore} {left left' : List Node}
    (fits : LoopFits u a (.checking batch left)) (fewer : ∀ n ∈ left', n ∈ left) :
    LoopFits u a (.checking batch left') := by
  cases fits with
  | round ends calm fits => exact .round ends calm ⟨fits.1, fun n waits => fits.2 n (fewer n waits)⟩

/-- Something happens that is not the end of a round, and that the loop does not wait for. -/
theorem LoopFits.tail {u : Upkeep} {x : Appointment} {a : Agenda} {loop : Loop}
    (fits : LoopFits u (x :: a) loop) (goes_on : x.what.endsRound = false)
    (others : ∀ n ∈ loop.left, ∀ start worked, x.what ≠ .delayed n start worked) :
    LoopFits u a loop := by
  generalize whole : x :: a = b at fits
  cases fits with
  | resting free calm =>
    subst whole
    exact .resting free (List.forall_mem_cons.1 calm).2
  | @round due early late r cleans loop ends calm fits =>
    cases early with
    | nil =>
      obtain ⟨rfl, rfl⟩ := List.cons.inj whole
      rw [ends] at goes_on
      cases goes_on
    | cons y early =>
      obtain ⟨rfl, rfl⟩ := List.cons.inj whole
      refine .round ends (List.forall_mem_cons.1 calm).2 ?_
      cases loop with
      | idle => trivial
      | taking => exact fits
      | checking batch left =>
        refine ⟨fits.1, fun n waits => ?_⟩
        obtain ⟨z, member, start, worked, what⟩ := fits.2 n waits
        rcases List.mem_cons.1 member with rfl | later
        · exact absurd what (others n waits start worked)
        · exact ⟨z, later, start, worked, what⟩

/-- When a round is over, so are the checks that the loop waits for. -/
theorem LoopFits.over {u : Upkeep} {x : Appointment} {a : Agenda} {loop : Loop} {cleans : Bool}
    (fits : LoopFits u (x :: a) loop) (ends : x.what = .roundOver cleans) :
    (∃ due, u = .busy due) ∧ Agenda.Calm a ∧
      (loop = .idle ∨ ∃ batch, loop = .checking batch [] ∧ cleans = Chore.asksCleanUp batch) := by
  have not_calm {b : List Appointment} (member : x ∈ b) (calm : Agenda.Calm b) : False := by
    have goes_on := calm x member
    rw [ends] at goes_on
    cases goes_on
  generalize whole : x :: a = b at fits
  cases fits with
  | resting free calm => exact (not_calm (whole ▸ List.mem_cons_self) calm).elim
  | @round due early late r cleans' loop ends' calm fits =>
    cases early with
    | cons y early =>
      obtain ⟨rfl, rfl⟩ := List.cons.inj whole
      exact (not_calm List.mem_cons_self calm).elim
    | nil =>
      obtain ⟨rfl, rfl⟩ := List.cons.inj whole
      rw [ends] at ends'
      cases ends'
      refine ⟨⟨due, rfl⟩, calm, ?_⟩
      cases loop with
      | idle => exact .inl rfl
      | taking => exact fits.elim
      | checking batch left =>
        refine .inr ⟨batch, ?_, fits.1⟩
        have none_left : left = [] := by
          refine List.eq_nil_iff_forall_not_mem.2 fun n waits => ?_
          obtain ⟨z, member, _⟩ := fits.2 n waits
          exact absurd member List.not_mem_nil
        rw [none_left]

structure Views (e : Engine) (s : Workload) : Prop where
  pool : s.pool = e.pool
  chores : s.chores = e.chores
  calls : s.entering = []
  packed : e.chores.Packed
  ordered : e.agenda.Ordered
  going : e.upkeep ≠ .ended
  loop : LoopFits e.upkeep e.agenda s.loop

theorem Views.repool {e after : Engine} {s : Workload} {q : Pool} (views : Views e s)
    (pool : q = after.pool) (chores : after.chores = e.chores) (agenda : after.agenda = e.agenda)
    (upkeep : after.upkeep = e.upkeep) : Views after { s with pool := q } where
  pool := pool
  chores := views.chores.trans chores.symm
  calls := views.calls
  packed := chores ▸ views.packed
  ordered := agenda ▸ views.ordered
  going := upkeep ▸ views.going
  loop := upkeep ▸ agenda ▸ views.loop

theorem Views.rested {e : Engine} {s : Workload} (views : Views e s) {u : Upkeep}
    (free : ∀ due, e.upkeep ≠ .busy due) (stays : ∀ due, u ≠ .busy due) (going : u ≠ .ended) :
    Views { e with upkeep := u } s := by
  obtain ⟨loop, calm⟩ := views.loop.rest free
  refine { views with going, loop := ?_ }
  rw [loop]
  exact .resting stays calm

/-- The work of the second engine comes from that of the first, and nobody asks for more. -/
def Follows (e after : Engine) : Prop :=
  ∀ past s, Workload.History past s → Views e s → ∃ t, Workload.Reaches past t ∧ Views after t

namespace Follows

theorem trans {e middle after : Engine} (first : Follows e middle)
    (second : Follows middle after) : Follows e after := by
  intro past s history views
  obtain ⟨t, ⟨later, nothing, here⟩, views⟩ := first past s history views
  obtain ⟨u, ⟨latest, nothing', there⟩, views⟩ := second _ t here views
  refine ⟨u, ⟨latest ++ later, ?_, ?_⟩, views⟩
  · rw [Workload.asked_append, nothing', nothing]
    rfl
  · rwa [List.append_assoc]

theorem of_plans {e after : Engine} (plans : Plans e after) : Follows e after :=
  fun _ s history views => ⟨s, history.reaches,
    { pool := views.pool.trans plans.pool.symm
      chores := views.chores.trans plans.chores.symm
      calls := views.calls
      packed := plans.chores ▸ views.packed
      ordered := plans.agenda.ordered views.ordered
      going := plans.upkeep ▸ views.going
      loop := plans.upkeep ▸ views.loop.grown plans.agenda }⟩

theorem same {e after : Engine} (pool : after.pool = e.pool) (chores : after.chores = e.chores)
    (agenda : after.agenda = e.agenda) (upkeep : after.upkeep = e.upkeep) : Follows e after :=
  fun _ s history views =>
    ⟨s, history.reaches, views.repool (views.pool.trans pool.symm) chores agenda upkeep⟩

theorem pool_step {e after : Engine} (p : Pool.Step) (no_entry : ∀ a, p ≠ .register a)
    (pool : after.pool = e.pool.step p) (chores : after.chores = e.chores)
    (agenda : after.agenda = e.agenda) (upkeep : after.upkeep = e.upkeep) : Follows e after :=
  fun _ s history views =>
    have stepped := (congrArg (Pool.step · p) views.pool).trans pool.symm
    ⟨_, history.reaches.step (.other s no_entry) rfl,
      views.repool stepped chores agenda upkeep⟩

end Follows

theorem round_views {e begun : Engine} {t : Workload} {due : Schedule} {took : Nat} {cleans : Bool}
    (busy : e.upkeep = .busy due) (plans : Plans e begun) (pool : t.pool = e.pool)
    (chores : t.chores = e.chores) (calls : t.entering = []) (packed : e.chores.Packed)
    (ordered : e.agenda.Ordered) (calm : Agenda.Calm e.agenda)
    (fits : ∀ early, (∀ x ∈ begun.agenda, x.time ≤ begun.now + took → x ∈ early) →
      RoundFits cleans early t.loop) :
    Views (begun.schedule took (.roundOver cleans)) t where
  pool := pool.trans plans.pool.symm
  chores := chores.trans plans.chores.symm
  calls := calls
  packed := (congrArg ChoreQueue.Packed plans.chores).mpr packed
  ordered := (plans.agenda.ordered ordered).add _
  going ended := by cases busy.symm.trans (plans.upkeep.symm.trans ended)
  loop := by
    have fits := LoopFits.of_round (plans.agenda.ordered ordered) (plans.agenda.calm calm) due fits
    rw [← busy, ← plans.upkeep] at fits
    exact fits

theorem firstChecks_views {e : Engine} {t : Workload} {batch : List Chore} (due : Schedule)
    (pool : t.pool = e.pool) (chores : t.chores = e.chores) (calls : t.entering = [])
    (packed : e.chores.Packed) (ordered : e.agenda.Ordered) (calm : Agenda.Calm e.agenda)
    (loop : t.loop = .checking batch (Chore.nodes batch)) :
    Views (e.startRound due (.chores (Chore.asksCleanUp batch)) (Chore.nodes batch)) t := by
  have plans := startAll_plans startDelay_plans { e with upkeep := .busy due } (Chore.nodes batch)
  refine round_views rfl plans pool chores calls packed ordered calm fun early within => ?_
  rw [loop]
  refine ⟨rfl, fun n member => ?_⟩
  obtain ⟨x, planned, what, time⟩ := startAll_delayed { e with upkeep := .busy due } _ n member
  exact ⟨x, within x planned (by rwa [plans.now]), what⟩

theorem startDue?_follows {e after : Engine} {due' due : Schedule} (idle : e.upkeep = .idle due')
    (started : e.startDue? due = some after) : Follows e after := by
  intro past s history views
  obtain ⟨loop, calm⟩ := views.loop.rest (by simp [idle])
  have plain (early : Agenda) : RoundFits false early s.loop := by
    rw [loop]
    trivial
  unfold startDue? at started
  split at started
  · cases started
    exact ⟨s, history.reaches, round_views rfl (startAll_plans startDelay_plans _ _) views.pool
      views.chores views.calls views.packed views.ordered calm fun early _ => plain early⟩
  · split at started
    · cases started
      exact ⟨s, history.reaches, round_views rfl (startAll_plans startSpeed_plans _ _) views.pool
        views.chores views.calls views.packed views.ordered calm fun early _ => plain early⟩
    · split at started
      · cases started
      · rename_i filled
        cases started
        have waits := views.packed.queued_ne_nil (Bool.eq_false_of_not_eq_true filled)
        rw [← views.chores] at waits
        have taken := history.reaches.take loop waits
        rw [views.chores] at taken
        exact ⟨_, taken, firstChecks_views due views.pool rfl views.calls
          (ChoreQueue.packed_take _) views.ordered calm rfl⟩

theorem wake?_follows {e after : Engine} (woken : e.wake? = some after) : Follows e after := by
  unfold wake? at woken
  split at woken
  · rename_i fresh
    cases woken
    have free (due : Schedule) : e.upkeep ≠ .busy due := by simp [fresh]
    exact fun _ s history views => ⟨s, history.reaches, views.rested free (by simp) (by simp)⟩
  · rename_i idle
    exact startDue?_follows idle woken
  · cases woken

theorem Views.proceed {e : Engine} {s t : Workload} (views : Views e s) {x : Appointment}
    {rest : Agenda} (next : e.agenda = x :: rest) (pool : t.pool = e.pool)
    (chores : t.chores = s.chores) (calls : t.entering = s.entering)
    (loop : LoopFits e.upkeep rest t.loop) : Views (e.proceed x) t where
  pool := pool
  chores := chores.trans views.chores
  calls := calls.trans views.calls
  packed := views.packed
  ordered := by
    have ordered := views.ordered
    rw [next] at ordered
    rw [proceed_agenda next]
    exact (List.pairwise_cons.1 ordered).2
  going := views.going
  loop := by
    rw [proceed_agenda next]
    exact loop

theorem proceed_follows {e : Engine} {x : Appointment} {rest : Agenda}
    (next : e.agenda = x :: rest) (goes_on : x.what.endsRound = false)
    (no_delay : ∀ n start worked, x.what ≠ .delayed n start worked) :
    Follows e (e.proceed x) := fun _ s history views =>
  have fits : LoopFits e.upkeep (x :: rest) s.loop := next ▸ views.loop
  ⟨s, history.reaches,
    views.proceed next views.pool rfl rfl (fits.tail goes_on fun n _ => no_delay n)⟩

theorem delayed_follows {e : Engine} {x : Appointment} {rest : Agenda}
    (next : e.agenda = x :: rest) {n : Node} {start : Nat} {worked : Bool}
    (what : x.what = .delayed n start worked) :
    Follows e ((e.proceed x).happen x.what) := by
  intro past s history views
  have goes_on : x.what.endsRound = false := by
    rw [what]
    rfl
  have only {m : Node} (other : m ≠ n) (start' : Nat) (worked' : Bool) :
      x.what ≠ .delayed m start' worked' := by
    rw [what]
    exact fun same => other (by cases same; rfl)
  have fits : LoopFits e.upkeep (x :: rest) s.loop := next ▸ views.loop
  let result := if worked then some ((e.proceed x).elapsed start) else none
  rw [what]
  by_cases waits : n ∈ s.loop.left
  · obtain ⟨batch, left, checking⟩ := fits.checking_of_mem waits
    have distinct := history.left_nodup
    rw [checking] at waits distinct fits
    obtain ⟨early, late, rfl⟩ := List.append_of_mem waits
    obtain ⟨once, _⟩ := List.nodup_cons.1 (List.perm_middle.nodup_iff.1 distinct)
    have fewer : ∀ m ∈ early ++ late, m ∈ early ++ n :: late := fun m member =>
      List.perm_middle.mem_iff.2 (List.mem_cons_of_mem _ member)
    have gone_on : Views (e.proceed x) { s with loop := .checking batch (early ++ late) } :=
      views.proceed next views.pool rfl rfl <| (fits.fewer fewer).tail goes_on
        fun m member => only fun same => once (same ▸ member)
    refine ⟨_, history.reaches.step (.check checking result) rfl, gone_on.repool ?_ rfl rfl rfl⟩
    exact congrArg (Pool.update · n.number _) views.pool
  · have gone_on : Views (e.proceed x) s := views.proceed next views.pool rfl rfl <|
      fits.tail goes_on fun m member => only fun same => waits (same ▸ member)
    have kept : Follows (e.proceed x) ((e.proceed x).happen (.delayed n start worked)) :=
      .pool_step (.record n.number (.delay result)) nofun rfl rfl rfl rfl
    exact kept past s history gone_on

theorem roundOver_follows {e : Engine} {x : Appointment} {rest : Agenda}
    (next : e.agenda = x :: rest) {cleans : Bool} (what : x.what = .roundOver cleans) :
    Follows e ((e.proceed x).happen x.what) := by
  intro past s history views
  have fits : LoopFits e.upkeep (x :: rest) s.loop := next ▸ views.loop
  obtain ⟨⟨due, busy⟩, calm, loop⟩ := fits.over what
  have left : (e.proceed x).happen x.what =
      { (e.proceed x).finishRound cleans with upkeep := .idle due } := by
    have still_busy : ((e.proceed x).finishRound cleans).upkeep = .busy due := busy
    rw [what]
    simp only [happen, still_busy]
  have rested {t : Workload} (pool : t.pool = ((e.proceed x).finishRound cleans).pool)
      (chores : t.chores = s.chores) (calls : t.entering = s.entering) (idle : t.loop = .idle) :
      Views { (e.proceed x).finishRound cleans with upkeep := .idle due } t :=
    { pool
      chores := chores.trans views.chores
      calls := calls.trans views.calls
      packed := views.packed
      ordered := proceed_agenda next ▸ (List.pairwise_cons.1 (next ▸ views.ordered)).2
      going := by simp
      loop := by
        rw [idle]
        exact .resting (by simp) (proceed_agenda next ▸ calm) }
  rw [left]
  rcases loop with idle | ⟨batch, checked, asked⟩
  · have finished : s.pool.step (if cleans then .cleanUp else .rank) =
        ((e.proceed x).finishRound cleans).pool := by
      rw [views.pool]
      cases cleans <;> rfl
    have no_entry (a : Adapter) : (if cleans then .cleanUp else .rank) ≠ Pool.Step.register a := by
      cases cleans <;> simp
    exact ⟨_, history.reaches.step (.other s no_entry) rfl, rested finished rfl rfl idle⟩
  · have finished : Workload.tidied batch s.pool = ((e.proceed x).finishRound cleans).pool := by
      rw [views.pool, asked]
      rfl
    exact ⟨_, history.reaches.step (.finish checked) rfl, rested finished rfl rfl rfl⟩

theorem keep_follows {e : Engine} {x : Appointment} {rest : Agenda}
    (next : e.agenda = x :: rest) : Follows e ((e.proceed x).happen x.what) := by
  have others (h : Happening) (what : x.what = h) (goes_on : h.endsRound = false)
      (no_delay : ∀ n start worked, h ≠ .delayed n start worked) : Follows e (e.proceed x) :=
    proceed_follows next (what ▸ goes_on) (what ▸ no_delay)
  cases what : x.what with
  | delayed n start worked => exact what ▸ delayed_follows next what
  | roundOver cleans => exact what ▸ roundOver_follows next what
  | notice n => exact (others _ what rfl (by simp)).trans (.same rfl rfl rfl rfl)
  | moved => exact (others _ what rfl (by simp)).trans (.same rfl rfl rfl rfl)
  | sampled n start size =>
    exact (others _ what rfl (by simp)).trans
      (.pool_step (.record n.number (.speed _ _)) nofun rfl rfl rfl rfl)
  | checkedAll => exact (others _ what rfl (by simp)).trans (.pool_step .rank nofun rfl rfl rfl rfl)

theorem follows_carries : Carries Follows where
  trans := .trans
  plans := .of_plans
  same := .same
  wake := wake?_follows
  keep := keep_follows

/-- The work of the engine has come from the start in one of the interleavings, with these requests
made on the way. -/
def Tracked (e : Engine) (cs : List Chore) : Prop :=
  ∃ past s, Workload.History past s ∧ Views e s ∧ (Workload.asked past).Perm cs

theorem Tracked.follows {e after : Engine} {cs : List Chore} (tracked : Tracked e cs)
    (follows : Follows e after) : Tracked after cs := by
  obtain ⟨past, s, history, views, asked⟩ := tracked
  obtain ⟨t, ⟨later, nothing, history⟩, views⟩ := follows past s history views
  exact ⟨later ++ past, t, history, views, by rwa [Workload.asked_append, nothing]⟩

theorem Views.ask {e : Engine} {s t : Workload} (views : Views e s) {c : Chore}
    (pool : t.pool = s.pool) (chores : t.chores = s.chores.push c) (calls : t.entering = [])
    (loop : t.loop = s.loop) : Views (e.ask c) t := by
  rw [Engine.ask, if_neg views.going]
  exact {
    pool := pool.trans views.pool
    chores := chores.trans (congrArg (·.push c) views.chores)
    calls
    packed := views.packed.push c
    ordered := views.ordered
    going := views.going
    loop := loop ▸ views.loop }

theorem Tracked.cleanUp {e : Engine} {cs : List Chore} (tracked : Tracked e cs) :
    Tracked e.cleanUp (cs ++ [.cleanUp]) := by
  obtain ⟨past, s, history, views, asked⟩ := tracked
  exact ⟨_, _, history.step (.askCleanUp (.push s.chores .cleanUp)),
    views.ask rfl rfl views.calls rfl,
    (asked.cons _).trans (List.perm_append_singleton _ _).symm⟩

theorem Tracked.register {e : Engine} {cs : List Chore} (tracked : Tracked e cs) (a : Adapter) :
    Tracked (e.register a).1 (cs ++ (e.pool.add a).2.toList.map .check) := by
  obtain ⟨past, s, history, views, asked⟩ := tracked
  have entered := history.step (.enter s a)
  rw [views.calls, views.pool] at entered
  have told : Views ({ e with pool := (e.pool.add a).1 }.tell (.registered a.name))
      { s with pool := (e.pool.add a).1 } := views.repool rfl rfl rfl rfl
  unfold Engine.register
  dsimp only
  cases node : (e.pool.add a).2 with
  | none =>
    rw [node] at entered
    refine ⟨_, _, entered, ⟨told.pool, told.chores, rfl, told.packed, told.ordered, told.going,
      told.loop⟩, ?_⟩
    simpa [Workload.asked_cons, Workload.Event.chore?] using asked
  | some n =>
    rw [node] at entered
    refine ⟨_, _, entered.step (.askCheck (show _ = [] ++ n :: [] from rfl) (.push _ _)),
      told.ask rfl rfl rfl rfl, ?_⟩
    exact (asked.cons _).trans (List.perm_append_singleton _ _).symm

def brings (e : Engine) : Request → List Chore
  | .register a => (e.pool.add a).2.toList.map .check
  | .cleanUp => [.cleanUp]
  | _ => []

def bringsAll (e : Engine) : List Request → List Chore
  | [] => []
  | r :: rest => e.brings r ++ bringsAll (e.after r) rest

theorem start_tracked {e : Engine} {cs : List Chore} (tracked : Tracked e cs) :
    Tracked (e.after .start) cs := by
  simp only [after, start]
  split
  · rename_i off
    have free (due : Schedule) : e.upkeep ≠ .busy due := by simp [off]
    obtain ⟨past, s, history, views, asked⟩ := tracked
    exact ⟨past, s, history, views.rested free (by simp) (by simp), asked⟩
  · exact tracked

theorem after_tracked {e : Engine} {cs : List Chore} (tracked : Tracked e cs) {r : Request}
    (goes_on : r ≠ .stop) : Tracked (e.after r) (cs ++ e.brings r) := by
  have follows (f : Follows e (e.after r)) (nothing : e.brings r = []) :
      Tracked (e.after r) (cs ++ e.brings r) := by
    rw [nothing, List.append_nil]
    exact tracked.follows f
  cases r with
  | register a => exact tracked.register a
  | cleanUp => exact tracked.cleanUp
  | remove identity => exact follows (.pool_step (.remove identity) nofun rfl rfl rfl rfl) rfl
  | sort => exact follows (.pool_step .rank nofun rfl rfl rfl rfl) rfl
  | checkDelay n => exact follows (follows_carries.checkDelay e n) rfl
  | checkSpeed n => exact follows (follows_carries.checkSpeed e n) rfl
  | checkAllDelays => exact follows (follows_carries.checkAll startDelay_plans e) rfl
  | checkAllSpeeds => exact follows (follows_carries.checkAll startSpeed_plans e) rfl
  | connect f => exact follows (follows_carries.connect e f) rfl
  | handle f data => exact follows (follows_carries.handle e f data) rfl
  | addRule r => exact follows (.same rfl rfl rfl rfl) rfl
  | removeRule key => exact follows (.same rfl rfl rfl rfl) rfl
  | storeRules => exact follows (.same rfl rfl rfl rfl) rfl
  | pass span => exact follows (follows_carries.pass e span) rfl
  | start => exact (List.append_nil cs).symm ▸ start_tracked tracked
  | serve => exact follows (.same rfl rfl rfl rfl) rfl
  | stop => exact absurd rfl goes_on

theorem after_all_tracked {e : Engine} {cs : List Chore} (tracked : Tracked e cs)
    {requests : List Request} (unstopped : .stop ∉ requests) :
    Tracked (requests.foldl after e) (cs ++ e.bringsAll requests) := by
  induction requests generalizing e cs with
  | nil => exact (List.append_nil cs).symm ▸ tracked
  | cons r rest ih =>
    obtain ⟨goes_on, unstopped⟩ := List.ne_and_not_mem_of_not_mem_cons unstopped
    rw [bringsAll, ← List.append_assoc]
    exact ih (after_tracked tracked (Ne.symm goes_on)) unstopped

theorem new_tracked (probe : ProbeSettings) (resolves : Bool)
    (peers : List (String × Outbound.Peer)) (stored : List RuleInfo) :
    Tracked (.new probe resolves peers stored) [] :=
  ⟨[], .start, .start, ⟨rfl, rfl, rfl, nofun, .nil, nofun, .resting nofun (List.forall_mem_nil _)⟩,
    .nil⟩

/-- Until a new engine is stopped, its queue and its passes have taken in what it was asked for, in
one of the interleavings. -/
theorem work_of_requests (probe : ProbeSettings) (resolves : Bool)
    (peers : List (String × Outbound.Peer)) (stored : List RuleInfo) {requests : List Request}
    (unstopped : .stop ∉ requests) :
    Tracked (requests.foldl after (.new probe resolves peers stored))
      ((Engine.new probe resolves peers stored).bringsAll requests) :=
  after_all_tracked (new_tracked probe resolves peers stored) unstopped

/-- What an engine was asked for is accounted for until it is stopped. -/
theorem requests_are_accounted (probe : ProbeSettings) (resolves : Bool)
    (peers : List (String × Outbound.Peer)) (stored : List RuleInfo) {requests : List Request}
    (unstopped : .stop ∉ requests) :
    let new := Engine.new probe resolves peers stored
    ∃ past s, Views (requests.foldl after new) s ∧ Workload.Accounted past s ∧
      s.all.Perm (new.bringsAll requests) := by
  obtain ⟨past, s, history, views, asked⟩ :=
    work_of_requests probe resolves peers stored unstopped
  exact ⟨past, s, views, history.accounted, history.accounted.requests.trans asked⟩

/-- What waits in the engine is part of what it was asked for, and no node waits twice. -/
theorem waiting_of_requests (probe : ProbeSettings) (resolves : Bool)
    (peers : List (String × Outbound.Peer)) (stored : List RuleInfo) {requests : List Request}
    (unstopped : .stop ∉ requests) :
    let new := Engine.new probe resolves peers stored
    let waiting := (requests.foldl after new).chores
    (waiting.queued ++ waiting.outside).Subperm (new.bringsAll requests) ∧
      (Chore.nodes (waiting.queued ++ waiting.outside)).Nodup := by
  obtain ⟨past, s, views, accounted, perm⟩ :=
    requests_are_accounted probe resolves peers stored unstopped
  have all : s.all = s.chores.queued ++ s.chores.outside ++ Workload.taken s := by
    rw [List.append_assoc]
    rfl
  have distinct := accounted.distinct
  rw [all, views.chores] at distinct perm
  rw [Chore.nodes_append] at distinct
  exact ⟨(List.sublist_append_left _ _).subperm.trans perm.subperm,
    (List.Nodup.of_map _ distinct).of_append_left⟩

end Engine

end ProxyGateway
