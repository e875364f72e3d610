import Mathlib.Algebra.Order.Group.Multiset
import Mathlib.Data.List.Pairwise
import Mathlib.Tactic.Abel
import ProxyGateway.Pool.Queue
import ProxyGateway.Proofs.Dispatch.Lessons
import ProxyGateway.Proofs.Pool.Roster
/-!
The work of the upkeep in every interleaving: calls bring nodes in and ask for their first checks
and for clean-ups, requests that find the queue full come in when there is room, and a loop takes
what is queued and does it. Main statement: no request is lost or doubled on the way, and every
pass that was asked to clean up leaves no node that is known to be dead. The same of what an engine
was asked for is `Engine.requests_are_accounted`.
-/
namespace ProxyGateway

namespace Chore

theorem nodes_append (cs ds : List Chore) : nodes (cs ++ ds) = nodes cs ++ nodes ds :=
  List.filterMap_append

theorem nodes_perm {cs ds : List Chore} (perm : cs.Perm ds) : (nodes cs).Perm (nodes ds) :=
  perm.filterMap _

theorem asksCleanUp_iff {cs : List Chore} : asksCleanUp cs = true ↔ .cleanUp ∈ cs := by
  rw [asksCleanUp, List.any_eq_true]
  constructor
  · rintro ⟨c, member, asks⟩
    cases c with
    | check n => cases asks
    | cleanUp => exact member
  · exact fun member => ⟨.cleanUp, member, rfl⟩

end Chore

/-- A pass of the loop that is over, with the pool as it was when the checks were done and as the
pass has left it. -/
structure Pass where
  batch : List Chore
  before : Pool
  after : Pool

inductive Loop where
  | idle
  | taking (batch : List Chore)
  | checking (batch : List Chore) (left : List Node)

namespace Loop

def batch : Loop → List Chore
  | idle => []
  | taking batch | checking batch _ => batch

def left : Loop → List Node
  | idle => []
  | taking batch => Chore.nodes batch
  | checking _ left => left

def weight : Loop → Nat
  | idle => 0
  | taking batch => batch.length + 2
  | checking _ left => left.length + 1

end Loop

structure Workload where
  pool : Pool
  /-- The nodes of calls that are under way: they are in the pool, and their checks have not been
  asked for yet. -/
  entering : List Node
  chores : ChoreQueue
  loop : Loop
  passes : List Pass

namespace Workload

def start : Workload := ⟨.empty, [], .empty, .idle, []⟩

inductive Place where
  | queue
  | sender
  | batch
  | done
deriving DecidableEq

def held (s : Workload) : Place → List Chore
  | .queue => s.chores.queued
  | .sender => s.chores.outside
  | .batch => s.loop.batch
  | .done => s.passes.flatMap Pass.batch

def all (s : Workload) : List Chore :=
  s.chores.queued ++ (s.chores.outside ++ (s.loop.batch ++ s.passes.flatMap Pass.batch))

inductive Event where
  /-- A call registers an adapter; without a node it is over and its answer is no. -/
  | enter (a : Adapter) (node : Option Node)
  /-- A request is made; after that of its check a call is over and its answer is yes. -/
  | ask (c : Chore)
  | deliver
  | receive
  | close
  | check (n : Node) (result : Option Nat)
  | finish
  | other (s : Pool.Step)

/-- What becomes of a request: it is queued where there is room, and waits outside where the queue
is full. A slot of the queue may be promised to somebody who waits already. -/
inductive Sent (q : ChoreQueue) (c : Chore) : ChoreQueue → Prop where
  | queued (room : q.queued.length < ChoreQueue.capacity) : Sent q c ⟨q.queued ++ [c], q.outside⟩
  | waiting (full : ChoreQueue.capacity ≤ q.queued.length + q.outside.length) :
      Sent q c ⟨q.queued, q.outside ++ [c]⟩

def tidied (batch : List Chore) (p : Pool) : Pool :=
  if Chore.asksCleanUp batch then p.cleanUp else p.sort

/-- One event. Nothing is assumed of the order of the calls, of who of those that wait comes in
first, of what else happens to the pool, and of the outcomes of the checks. -/
inductive Step : Workload → Event → Workload → Prop where
  | enter (s : Workload) (a : Adapter) :
      Step s (.enter a (s.pool.add a).2)
        { s with pool := (s.pool.add a).1, entering := s.entering ++ (s.pool.add a).2.toList }
  | askCheck {s : Workload} {early late : List Node} {n : Node} {chores : ChoreQueue}
      (under_way : s.entering = early ++ n :: late) (sent : Sent s.chores (.check n) chores) :
      Step s (.ask (.check n)) { s with entering := early ++ late, chores }
  | askCleanUp {s : Workload} {chores : ChoreQueue} (sent : Sent s.chores .cleanUp chores) :
      Step s (.ask .cleanUp) { s with chores }
  | deliver {s : Workload} {early late : List Chore} {c : Chore}
      (waits : s.chores.outside = early ++ c :: late)
      (room : s.chores.queued.length < ChoreQueue.capacity) :
      Step s .deliver { s with chores := ⟨s.chores.queued ++ [c], early ++ late⟩ }
  | wake {s : Workload} {c : Chore} {rest : List Chore} (idle : s.loop = .idle)
      (first : s.chores.queued = c :: rest) :
      Step s .receive { s with chores := ⟨rest, s.chores.outside⟩, loop := .taking [c] }
  | take {s : Workload} {batch : List Chore} {c : Chore} {rest : List Chore}
      (taking : s.loop = .taking batch) (next : s.chores.queued = c :: rest) :
      Step s .receive
        { s with chores := ⟨rest, s.chores.outside⟩, loop := .taking (batch ++ [c]) }
  | close {s : Workload} {batch : List Chore} (taking : s.loop = .taking batch)
      (emptied : s.chores.queued = []) :
      Step s .close { s with loop := .checking batch (Chore.nodes batch) }
  | check {s : Workload} {batch : List Chore} {early late : List Node} {n : Node}
      (checking : s.loop = .checking batch (early ++ n :: late)) (result : Option Nat) :
      Step s (.check n result)
        { s with
          pool := s.pool.update n.number (Measurement.delay result).apply
          loop := .checking batch (early ++ late) }
  | finish {s : Workload} {batch : List Chore} (done : s.loop = .checking batch []) :
      Step s .finish
        { s with
          pool := tidied batch s.pool
          loop := .idle
          passes := s.passes ++ [⟨batch, s.pool, tidied batch s.pool⟩] }
  | other (s : Workload) {p : Pool.Step} (no_entry : ∀ a, p ≠ .register a) :
      Step s (.other p) { s with pool := s.pool.step p }

/-- Events one after the other from the start, the last one in front. -/
inductive History : List Event → Workload → Prop where
  | start : History [] start
  | step {past : List Event} {s s' : Workload} {e : Event} (before : History past s)
      (next : Step s e s') : History (e :: past) s'

def Event.chore? : Event → Option Chore
  | .ask c => some c
  | _ => none

def Event.node? : Event → Option Node
  | .enter _ node => node
  | _ => none

def Event.checked? : Event → Option Node
  | .check n _ => some n
  | _ => none

def asked (past : List Event) : List Chore := past.filterMap Event.chore?

def entered (past : List Event) : List Node := past.filterMap Event.node?

def confirmed (past : List Event) : List Node := Chore.nodes (asked past)

def checked (past : List Event) : List Node := past.filterMap Event.checked?

theorem all_eq_sum (s : Workload) : (s.all : Multiset Chore) =
    (s.chores.queued : Multiset Chore) + s.chores.outside + s.loop.batch +
      s.passes.flatMap Pass.batch := by
  simp only [all, ← Multiset.coe_add, add_assoc]

theorem Sent.sum_eq {q q' : ChoreQueue} {c : Chore} (sent : Sent q c q') :
    (q'.queued : Multiset Chore) + q'.outside = {c} + (q.queued + q.outside) := by
  cases sent <;> simp only [← Multiset.coe_add, Multiset.coe_singleton] <;> abel

/-- No event loses or doubles a request. -/
theorem Step.all_perm {s s' : Workload} {e : Event} (next : Step s e s') :
    s'.all.Perm (e.chore?.toList ++ s.all) := by
  apply Multiset.coe_eq_coe.1
  rw [← Multiset.coe_add, all_eq_sum, all_eq_sum]
  cases next with
  | enter | other =>
    simp only [Event.chore?, Option.toList, Multiset.coe_nil]
    abel
  | askCheck _ sent | askCleanUp sent =>
    simp only [sent.sum_eq, Event.chore?, Option.toList, Multiset.coe_singleton]
    abel
  | deliver waits _ =>
    simp only [waits, Event.chore?, Option.toList, ← Multiset.coe_add, ← Multiset.cons_coe,
      ← Multiset.singleton_add, Multiset.coe_nil]
    abel
  | wake idle first =>
    simp only [idle, first, Loop.batch, Event.chore?, Option.toList, ← Multiset.cons_coe,
      ← Multiset.singleton_add, Multiset.coe_nil]
    abel
  | take taking first =>
    simp only [taking, first, Loop.batch, Event.chore?, Option.toList, ← Multiset.coe_add,
      ← Multiset.cons_coe, ← Multiset.singleton_add, Multiset.coe_nil]
    abel
  | close taking | check taking =>
    simp only [taking, Loop.batch, Event.chore?, Option.toList, Multiset.coe_nil]
    abel
  | finish done =>
    simp only [done, Loop.batch, Event.chore?, Option.toList, List.flatMap_append,
      List.flatMap_singleton, ← Multiset.coe_add, Multiset.coe_nil]
    abel

theorem asked_cons (e : Event) (past : List Event) :
    asked (e :: past) = e.chore?.toList ++ asked past := by
  cases asks : e.chore? <;> simp [asked, asks]

theorem confirmed_cons (e : Event) (past : List Event) :
    confirmed (e :: past) = Chore.nodes e.chore?.toList ++ confirmed past := by
  rw [confirmed, asked_cons, Chore.nodes_append]
  rfl

theorem entered_cons (e : Event) (past : List Event) :
    entered (e :: past) = e.node?.toList ++ entered past := by
  cases enters : e.node? <;> simp [entered, enters]

theorem checked_cons (e : Event) (past : List Event) :
    checked (e :: past) = e.checked?.toList ++ checked past := by
  cases checks : e.checked? <;> simp [checked, checks]

theorem History.all_perm {past : List Event} {s : Workload} (history : History past s) :
    s.all.Perm (asked past) := by
  induction history with
  | start => exact .nil
  | step _ next ih =>
    rw [asked_cons]
    exact next.all_perm.trans (ih.append_left _)

theorem Step.entering_perm {s s' : Workload} {e : Event} (next : Step s e s') :
    (e.node?.toList ++ s.entering).Perm (s'.entering ++ Chore.nodes e.chore?.toList) := by
  cases next with
  | enter a => exact List.perm_append_comm.trans (.of_eq (List.append_nil _).symm)
  | askCheck under_way sent =>
    rw [under_way]
    exact List.perm_middle.trans (List.perm_append_singleton _ _).symm
  | _ => simp [Event.node?, Event.chore?, Chore.nodes]

theorem History.entered_perm {past : List Event} {s : Workload} (history : History past s) :
    (entered past).Perm (s.entering ++ confirmed past) := by
  induction history with
  | start => exact .nil
  | step _ next ih =>
    rw [entered_cons, confirmed_cons, ← List.append_assoc]
    refine (ih.append_left _).trans ?_
    rw [← List.append_assoc]
    exact next.entering_perm.append_right _

structure Apart (past : List Event) (p : Pool) : Prop where
  distinct : ((entered past).map (·.number)).Nodup
  below : ∀ n ∈ entered past, n.number < p.next
  known : ∀ n ∈ entered past, ∃ a, .enter a (some n) ∈ past ∧ n.adapter = Pool.unchecked a

theorem Apart.later {past : List Event} {p q : Pool} {e : Event} (apart : Apart past p)
    (nobody : e.node? = none) (grows : p.next ≤ q.next) : Apart (e :: past) q := by
  have same : entered (e :: past) = entered past := by rw [entered_cons, nobody]; rfl
  constructor
  · rw [same]
    exact apart.distinct
  · intro n member
    exact Nat.lt_of_lt_of_le (apart.below n (same ▸ member)) grows
  · intro n member
    obtain ⟨a, entry, bare⟩ := apart.known n (same ▸ member)
    exact ⟨a, List.mem_cons_of_mem _ entry, bare⟩

theorem Apart.enter {past : List Event} {p : Pool} (apart : Apart past p) (a : Adapter) :
    Apart (.enter a (p.add a).2 :: past) (p.add a).1 := by
  cases entry : (p.add a).2 with
  | none => exact apart.later rfl (Pool.next_le_step p (.register a))
  | some n =>
    have new := Pool.add_number entry
    have next : (p.add a).1.next = p.next + 1 := by
      unfold Pool.add at entry ⊢
      split at entry
      · cases entry
      · rename_i free
        rw [if_neg free]
    have now : entered (.enter a (some n) :: past) = n :: entered past := rfl
    subst new
    refine ⟨?_, ?_, ?_⟩
    · rw [now, List.map_cons, List.nodup_cons]
      refine ⟨fun member => ?_, apart.distinct⟩
      obtain ⟨m, m_member, same⟩ := List.mem_map.1 member
      exact Nat.ne_of_lt (apart.below m m_member) same
    · rw [now, List.forall_mem_cons, next]
      exact ⟨Nat.lt_succ_self _, fun m member => Nat.lt_succ_of_lt (apart.below m member)⟩
    · rw [now, List.forall_mem_cons]
      refine ⟨⟨a, List.mem_cons_self, rfl⟩, fun m member => ?_⟩
      obtain ⟨b, entry, bare⟩ := apart.known m member
      exact ⟨b, List.mem_cons_of_mem _ entry, bare⟩

theorem tidied_next (batch : List Chore) (p : Pool) : (tidied batch p).next = p.next := by
  unfold tidied
  split <;> rfl

theorem Step.apart {past : List Event} {s s' : Workload} {e : Event} (next : Step s e s')
    (apart : Apart past s.pool) : Apart (e :: past) s'.pool := by
  cases next with
  | enter a => exact apart.enter a
  | finish done => exact apart.later rfl (Nat.le_of_eq (tidied_next _ _).symm)
  | @other p no_entry => exact apart.later rfl (Pool.next_le_step s.pool p)
  | _ => exact apart.later rfl (Nat.le_refl _)

theorem History.apart {past : List Event} {s : Workload} (history : History past s) :
    Apart past s.pool := by
  induction history with
  | start => exact ⟨List.nodup_nil, nofun, nofun⟩
  | step _ next ih => exact next.apart ih

def taken (s : Workload) : List Chore := s.loop.batch ++ s.passes.flatMap Pass.batch

/-- The loop checks what it takes: every first check is over or still to come. -/
theorem Step.checked_perm {s s' : Workload} {e : Event} (next : Step s e s') {done : List Node}
    (before : (done ++ s.loop.left).Perm (Chore.nodes (taken s))) :
    (e.checked?.toList ++ done ++ s'.loop.left).Perm (Chore.nodes (taken s')) := by
  cases next with
  | wake idle first =>
    rw [taken, idle] at before
    have old : done.Perm (Chore.nodes (s.passes.flatMap Pass.batch)) := by
      simpa [Loop.left, Loop.batch] using before
    exact (old.append_right _).trans List.perm_append_comm |>.trans
      (.of_eq (Chore.nodes_append _ _).symm)
  | @take batch c rest taking first =>
    rw [taken, taking, Chore.nodes_append] at before
    have grown := before.append_right (Chore.nodes [c])
    rw [List.append_assoc, List.append_assoc] at grown
    rw [taken, Loop.batch, Loop.left, Chore.nodes_append batch, Chore.nodes_append,
      Chore.nodes_append, List.append_assoc (Chore.nodes batch)]
    exact grown.trans (List.perm_append_comm.append_left _)
  | close taking emptied =>
    rw [taken, taking] at before
    exact before
  | check checking result =>
    rw [taken, checking] at before
    refine .trans ?_ before
    exact List.perm_middle.symm.trans (List.perm_middle.symm.append_left done)
  | finish done =>
    rw [taken, done] at before
    refine before.trans (Chore.nodes_perm ?_)
    rw [taken, List.flatMap_append, List.flatMap_singleton]
    exact List.perm_append_comm
  | _ => exact before

theorem History.checked_perm {past : List Event} {s : Workload} (history : History past s) :
    (checked past ++ s.loop.left).Perm (Chore.nodes (taken s)) := by
  induction history with
  | start => exact .nil
  | step _ next ih =>
    rw [checked_cons]
    exact next.checked_perm ih

theorem Sent.room {q q' : ChoreQueue} {c : Chore} (sent : Sent q c q')
    (room : q.queued.length ≤ ChoreQueue.capacity) :
    q'.queued.length ≤ ChoreQueue.capacity := by
  cases sent with
  | queued free => simpa using Nat.succ_le_of_lt free
  | waiting => exact room

theorem Step.room {s s' : Workload} {e : Event} (next : Step s e s')
    (room : s.chores.queued.length ≤ ChoreQueue.capacity) :
    s'.chores.queued.length ≤ ChoreQueue.capacity := by
  cases next with
  | askCheck _ sent | askCleanUp sent => exact sent.room room
  | deliver _ free => simpa using Nat.succ_le_of_lt free
  | wake _ first | take _ first =>
    rw [first] at room
    exact Nat.le_of_succ_le room
  | _ => exact room

theorem History.room {past : List Event} {s : Workload} (history : History past s) :
    s.chores.queued.length ≤ ChoreQueue.capacity := by
  induction history with
  | start => exact Nat.zero_le _
  | step _ next ih => exact next.room ih

theorem History.tidied {past : List Event} {s : Workload} (history : History past s) :
    ∀ pass ∈ s.passes, pass.after = tidied pass.batch pass.before := by
  induction history with
  | start => exact nofun
  | step _ next ih =>
    cases next with
    | finish done =>
      intro pass member
      rcases List.mem_append.1 member with old | new
      · exact ih pass old
      · rw [List.mem_singleton.1 new]
    | _ => exact ih

theorem nodes_all (s : Workload) : Chore.nodes s.all =
    [Place.queue, .sender, .batch, .done].flatMap fun p => Chore.nodes (s.held p) := by
  simp [all, held, Chore.nodes_append]

theorem mem_places (p : Place) : p ∈ [Place.queue, .sender, .batch, .done] := by
  cases p <;> decide

theorem mem_nodes_all {s : Workload} {n : Node} :
    n ∈ Chore.nodes s.all ↔ ∃ p, n ∈ Chore.nodes (s.held p) := by
  rw [nodes_all, List.mem_flatMap]
  exact ⟨fun ⟨p, _, here⟩ => ⟨p, here⟩, fun ⟨p, here⟩ => ⟨p, mem_places p, here⟩⟩

theorem one_place_of_nodup {s : Workload} (distinct : (Chore.nodes s.all).Nodup) {n : Node}
    (somewhere : n ∈ Chore.nodes s.all) : ∃! p, n ∈ Chore.nodes (s.held p) := by
  obtain ⟨p, here⟩ := mem_nodes_all.1 somewhere
  refine ⟨p, here, fun q there => ?_⟩
  by_contra other
  rw [nodes_all, List.nodup_flatMap] at distinct
  have : Std.Symm (Function.onFun List.Disjoint fun p => Chore.nodes (s.held p)) :=
    ⟨fun _ _ apart => apart.symm⟩
  exact distinct.2.forall (mem_places q) (mem_places p) other there here

theorem History.distinct {past : List Event} {s : Workload} (history : History past s) :
    ((Chore.nodes s.all).map (·.number)).Nodup := by
  have all := Chore.nodes_perm history.all_perm
  have came_in := (history.entered_perm.map (·.number)).nodup_iff.1 history.apart.distinct
  rw [List.map_append] at came_in
  exact ((all.map (·.number)).nodup_iff.2 came_in.of_append_right)

theorem History.left_nodup {past : List Event} {s : Workload} (history : History past s) :
    s.loop.left.Nodup := by
  have all : (Chore.nodes s.all).Nodup := .of_map _ history.distinct
  rw [Workload.all, Chore.nodes_append, Chore.nodes_append] at all
  exact (history.checked_perm.nodup_iff.2 all.of_append_right.of_append_right).of_append_right

/-! Whatever waits can still be done: of itself the loop goes on until nothing is left. -/

/-- The events that nobody has to ask for. -/
def Event.own : Event → Bool
  | .deliver | .receive | .close | .check _ _ | .finish => true
  | .enter _ _ | .ask _ | .other _ => false

def weight (s : Workload) : Nat :=
  5 * s.chores.outside.length + 4 * s.chores.queued.length + s.loop.weight

def Quiet (s : Workload) : Prop :=
  s.chores.queued = [] ∧ s.chores.outside = [] ∧ s.loop = .idle

theorem goes_on {s : Workload} (busy : ¬ Quiet s) :
    ∃ e s', Step s e s' ∧ e.own = true ∧ s'.weight < s.weight := by
  cases loop : s.loop with
  | idle =>
    cases queue : s.chores.queued with
    | cons c rest =>
      refine ⟨_, _, .wake loop queue, rfl, ?_⟩
      simp only [weight, loop, queue, Loop.weight, List.length_cons, List.length_nil]
      omega
    | nil =>
      cases senders : s.chores.outside with
      | nil => exact absurd ⟨queue, senders, loop⟩ busy
      | cons c rest =>
        have room : s.chores.queued.length < ChoreQueue.capacity := by
          rw [queue]
          decide
        have first : s.chores.outside = [] ++ c :: rest := senders
        refine ⟨_, _, .deliver first room, rfl, ?_⟩
        simp only [weight, queue, senders, List.length_cons, List.length_nil, List.nil_append]
        omega
  | taking batch =>
    cases queue : s.chores.queued with
    | cons c rest =>
      refine ⟨_, _, .take loop queue, rfl, ?_⟩
      simp only [weight, loop, queue, Loop.weight, List.length_cons, List.length_append,
        List.length_nil]
      omega
    | nil =>
      have fewer : (Chore.nodes batch).length ≤ batch.length := List.length_filterMap_le _ _
      refine ⟨_, _, .close loop queue, rfl, ?_⟩
      simp only [weight, loop, Loop.weight]
      omega
  | checking batch left =>
    cases left with
    | nil =>
      refine ⟨_, _, .finish loop, rfl, ?_⟩
      simp only [weight, loop, Loop.weight]
      omega
    | cons n rest =>
      have first : s.loop = .checking batch ([] ++ n :: rest) := loop
      refine ⟨_, _, .check first none, rfl, ?_⟩
      simp only [weight, loop, Loop.weight, List.length_cons, List.nil_append]
      omega

theorem History.settles {past : List Event} {s : Workload} (history : History past s) :
    ∃ later t, History (later ++ past) t ∧ (∀ e ∈ later, e.own = true) ∧ Quiet t := by
  induction left : s.weight using Nat.strong_induction_on generalizing past s with
  | _ w ih =>
    by_cases quiet : Quiet s
    · exact ⟨[], s, history, List.forall_mem_nil _, quiet⟩
    · obtain ⟨e, t, next, own, less⟩ := goes_on quiet
      obtain ⟨later, u, run, owned, quiet⟩ := ih t.weight (left ▸ less) (history.step next) rfl
      refine ⟨later ++ [e], u, by simpa using run, fun x member => ?_, quiet⟩
      rcases List.mem_append.1 member with after | first
      · exact owned x after
      · rw [List.mem_singleton.1 first]
        exact own

structure Accounted (past : List Event) (s : Workload) : Prop where
  requests : s.all.Perm (asked past)
  /-- A call that has answered yes has its first check in one place. -/
  one_place : ∀ n ∈ confirmed past, ∃! p, n ∈ Chore.nodes (s.held p)
  distinct : ((Chore.nodes s.all).map (·.number)).Nodup
  /-- Nobody else has one; a call that answers no has brought no node in. -/
  known : ∀ p, ∀ n ∈ Chore.nodes (s.held p), n ∈ confirmed past ∧ ∃ a, .enter a (some n) ∈ past
  /-- A node that came in belongs to a call under way or to one that has answered yes. -/
  calls : (entered past).Perm (s.entering ++ confirmed past)
  room : s.chores.queued.length ≤ ChoreQueue.capacity
  checks : (checked past ++ s.loop.left).Perm (Chore.nodes (taken s))
  /-- However many clean-ups a pass has taken, it has done one. -/
  cleaned : ∀ pass ∈ s.passes, .cleanUp ∈ pass.batch → pass.after = pass.before.cleanUp ∧
    ∀ n ∈ pass.after.all, n.adapter.knownDead = false
  /-- If nobody asks for anything more, all of it can be over. -/
  settles : ∃ later t, History (later ++ past) t ∧ (∀ e ∈ later, e.own = true) ∧
    (t.held .done).Perm (asked past)

theorem asked_own {later : List Event} (own : ∀ e ∈ later, e.own = true) (past : List Event) :
    asked (later ++ past) = asked past := by
  induction later with
  | nil => rfl
  | cons e later ih =>
    rw [List.forall_mem_cons] at own
    rw [List.cons_append, asked_cons, ih own.2]
    cases e with
    | ask c => cases own.1
    | _ => rfl

theorem History.settled {past : List Event} {s : Workload} (history : History past s) :
    ∃ later t, History (later ++ past) t ∧ (∀ e ∈ later, e.own = true) ∧
      (t.held .done).Perm (asked past) := by
  obtain ⟨later, t, run, own, queue, senders, idle⟩ := history.settles
  have perm := run.all_perm
  rw [asked_own own, all, queue, senders, idle] at perm
  exact ⟨later, t, run, own, perm⟩

theorem History.accounted {past : List Event} {s : Workload} (history : History past s) :
    Accounted past s where
  requests := history.all_perm
  one_place n yes :=
    one_place_of_nodup (.of_map _ history.distinct)
      ((Chore.nodes_perm history.all_perm).mem_iff.2 yes)
  distinct := history.distinct
  known p n here := by
    have yes : n ∈ confirmed past :=
      (Chore.nodes_perm history.all_perm).mem_iff.1 (mem_nodes_all.2 ⟨p, here⟩)
    have came_in : n ∈ entered past :=
      history.entered_perm.mem_iff.2 (List.mem_append_right _ yes)
    obtain ⟨a, entry, _⟩ := history.apart.known n came_in
    exact ⟨yes, a, entry⟩
  calls := history.entered_perm
  room := history.room
  checks := history.checked_perm
  cleaned pass member asks := by
    have after : pass.after = pass.before.cleanUp := by
      rw [history.tidied pass member, Workload.tidied, Chore.asksCleanUp_iff.2 asks, if_pos rfl]
    refine ⟨after, fun n survivor => ?_⟩
    rw [after] at survivor
    exact (Pool.mem_cleanUp.1 survivor).2
  settles := history.settled

/-- In every interleaving each first check and each clean-up that was asked for is in one place. -/
theorem no_request_is_lost_or_doubled {past : List Event} {s : Workload}
    (history : History past s) : Accounted past s :=
  history.accounted

def newcomer : Adapter := Dispatch.trojan "newcomer"

def newcomerNode : Node := ⟨0, Pool.unchecked newcomer⟩

/-- The newcomer is registered twice, and the second call is turned away; a clean-up is asked for
before the check has failed. -/
theorem failed_newcomer_is_cleaned_up :
    ∃ past s, History past s ∧ .enter newcomer none ∈ past ∧ confirmed past = [newcomerNode] ∧
      (∃! p, newcomerNode ∈ Chore.nodes (s.held p)) ∧
      ∃ pass ∈ s.passes, .cleanUp ∈ pass.batch ∧ pass.before.all ≠ [] ∧
        ∀ n ∈ pass.after.all, n.adapter.knownDead = false := by
  have entered := History.start.step (.enter _ newcomer)
  have refused := entered.step (.enter _ newcomer)
  have asked := refused.step (.askCheck (show _ = [] ++ newcomerNode :: [] from rfl)
    (.queued (by decide)))
  have both := asked.step (.askCleanUp (.queued (by decide)))
  have taken := (both.step (.wake rfl rfl)).step (.take rfl rfl)
  have checked := (taken.step (.close rfl rfl)).step
    (.check (show _ = Loop.checking _ ([] ++ newcomerNode :: []) from rfl) none)
  have finished := checked.step (.finish rfl)
  have accounted := no_request_is_lost_or_doubled finished
  have asks : Chore.cleanUp ∈ [Chore.check newcomerNode, .cleanUp] :=
    List.mem_cons_of_mem _ List.mem_cons_self
  exact ⟨_, _, finished, List.mem_of_getElem? (i := 7) rfl, rfl,
    accounted.one_place newcomerNode List.mem_cons_self, _, List.mem_cons_self, asks,
    List.cons_ne_nil _ _, (accounted.cleaned _ List.mem_cons_self asks).2⟩

/-! The queue in its own order is one of these interleavings. -/

theorem Sent.push (q : ChoreQueue) (c : Chore) : Sent q c (q.push c) := by
  unfold ChoreQueue.push
  split
  · rename_i room
    exact .queued room
  · rename_i full
    exact .waiting (Nat.le_trans (Nat.le_of_not_lt full) (Nat.le_add_right _ _))

theorem asked_append (later past : List Event) : asked (later ++ past) = asked later ++ asked past :=
  List.filterMap_append

/-- The state is one that later events lead to, none of them a request. -/
def Reaches (past : List Event) (s : Workload) : Prop :=
  ∃ later, asked later = [] ∧ History (later ++ past) s

theorem History.reaches {past : List Event} {s : Workload} (history : History past s) :
    Reaches past s := ⟨[], rfl, history⟩

theorem Reaches.step {past : List Event} {s s' : Workload} {e : Event} (reached : Reaches past s)
    (next : Step s e s') (nobody_asks : e.chore? = none) : Reaches past s' := by
  obtain ⟨later, nothing, history⟩ := reached
  exact ⟨e :: later, by rw [asked_cons, nobody_asks, nothing]; rfl, history.step next⟩

theorem Reaches.refill {past : List Event} {s : Workload} (reached : Reaches past s) :
    Reaches past { s with chores := s.chores.refill } := by
  unfold ChoreQueue.refill
  dsimp only
  induction free : ChoreQueue.capacity - s.chores.queued.length generalizing s with
  | zero => simpa using reached
  | succ k ih =>
    cases waits : s.chores.outside with
    | nil =>
      have unchanged : (⟨s.chores.queued, []⟩ : ChoreQueue) = s.chores := by rw [← waits]
      simpa [unchanged] using reached
    | cons c rest =>
      have first : s.chores.outside = [] ++ c :: rest := waits
      have more := ih (reached.step (.deliver first (by omega)) rfl) (by simp; omega)
      simpa using more

theorem Reaches.drain {past : List Event} {s : Workload} (reached : Reaches past s)
    {batch : List Chore} (taking : s.loop = .taking batch) :
    Reaches past
      { s with
        chores := ⟨[], s.chores.outside⟩
        loop := .taking (batch ++ s.chores.queued) } := by
  induction queue : s.chores.queued generalizing s batch with
  | nil =>
    have unchanged : (⟨[], s.chores.outside⟩ : ChoreQueue) = s.chores := by rw [← queue]
    simpa [unchanged, ← taking] using reached
  | cons c rest ih =>
    simpa using ih (reached.step (.take taking queue) rfl) rfl rfl

theorem Reaches.take {past : List Event} {s : Workload} (reached : Reaches past s)
    (idle : s.loop = .idle) (filled : s.chores.queued ≠ []) :
    Reaches past
      { s with
        chores := s.chores.take.2
        loop := .checking s.chores.take.1 (Chore.nodes s.chores.take.1) } := by
  obtain ⟨c, rest, queue⟩ := List.exists_cons_of_ne_nil filled
  have drained := (reached.step (.wake idle queue) rfl).drain rfl
  have closed := (drained.step (.close rfl rfl) rfl).refill
  rw [ChoreQueue.take, queue]
  exact closed

end Workload

end ProxyGateway
