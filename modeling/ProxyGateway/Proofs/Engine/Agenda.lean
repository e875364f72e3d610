import Mathlib.Data.List.Induction
import ProxyGateway.Engine.Connect

namespace ProxyGateway

def Happening.endsRound : Happening → Bool
  | .roundOver _ => true
  | _ => false

namespace Agenda

/-- No round is under way. -/
def Calm (a : List Appointment) : Prop := ∀ x ∈ a, x.what.endsRound = false

def Ordered (a : Agenda) : Prop := a.Pairwise fun x y => x.time ≤ y.time

theorem mem_add {p x : Appointment} {a : Agenda} : x ∈ Agenda.add p a ↔ x = p ∨ x ∈ a := by
  induction a with
  | nil => simp [add]
  | cons b rest ih =>
    unfold add
    split
    · rw [List.mem_cons, ih, List.mem_cons]
      exact or_left_comm
    · exact List.mem_cons

theorem Ordered.add {a : Agenda} (ordered : a.Ordered) (p : Appointment) :
    Ordered (Agenda.add p a) := by
  induction a with
  | nil => exact List.pairwise_singleton _ _
  | cons b rest ih =>
    obtain ⟨first, others⟩ := List.pairwise_cons.1 ordered
    unfold Agenda.add
    split
    · rename_i earlier
      refine List.pairwise_cons.2 ⟨fun x member => ?_, ih others⟩
      rcases mem_add.1 member with rfl | old
      · exact earlier
      · exact first x old
    · rename_i later
      have before : p.time ≤ b.time := Nat.le_of_not_le later
      refine List.pairwise_cons.2 ⟨fun x member => ?_, ordered⟩
      rcases List.mem_cons.1 member with rfl | old
      · exact before
      · exact Nat.le_trans before (first x old)

theorem add_cut (p r : Appointment) (early late : Agenda) :
    Agenda.add p (early ++ r :: late) = Agenda.add p early ++ r :: late ∨
      Agenda.add p (early ++ r :: late) = early ++ r :: Agenda.add p late := by
  induction early with
  | nil =>
    by_cases earlier : r.time ≤ p.time
    · exact .inr (by simp [add, earlier])
    · exact .inl (by simp [add, earlier])
  | cons x early ih =>
    by_cases earlier : x.time ≤ p.time
    · simpa [add, earlier] using ih
    · exact .inl (by simp [add, earlier])

/-- In an agenda that is in order everything up to a time stands before what is added there. -/
theorem Ordered.add_split {a : Agenda} (ordered : a.Ordered) (p : Appointment) :
    ∃ early late, a = early ++ late ∧ Agenda.add p a = early ++ p :: late ∧
      ∀ x ∈ a, x.time ≤ p.time → x ∈ early := by
  induction a with
  | nil => exact ⟨[], [], rfl, rfl, List.forall_mem_nil _⟩
  | cons b rest ih =>
    obtain ⟨first, others⟩ := List.pairwise_cons.1 ordered
    by_cases earlier : b.time ≤ p.time
    · obtain ⟨early, late, cut, added, within⟩ := ih others
      refine ⟨b :: early, late, by rw [cut]; rfl, by simp [Agenda.add, earlier, added], ?_⟩
      intro x member soon
      rcases List.mem_cons.1 member with rfl | old
      · exact List.mem_cons_self
      · exact List.mem_cons_of_mem _ (within x old soon)
    · refine ⟨[], b :: rest, rfl, by simp [Agenda.add, earlier], fun x member soon => ?_⟩
      have after : b.time ≤ x.time := by
        rcases List.mem_cons.1 member with rfl | old
        · exact Nat.le_refl _
        · exact first x old
      exact absurd (Nat.le_trans after soon) earlier

/-- More appointments have come in, none of them the end of a round. -/
inductive Grown (a : Agenda) : Agenda → Prop where
  | still : Grown a a
  | add {b : Agenda} {p : Appointment} (grown : Grown a b) (goes_on : p.what.endsRound = false) :
      Grown a (Agenda.add p b)

namespace Grown

theorem trans {a b c : Agenda} (first : Grown a b) (second : Grown b c) : Grown a c := by
  induction second with
  | still => exact first
  | add _ goes_on ih => exact ih.add goes_on

theorem mem {a b : Agenda} (grown : Grown a b) {x : Appointment} (member : x ∈ a) : x ∈ b := by
  induction grown with
  | still => exact member
  | add _ _ ih => exact mem_add.2 (.inr ih)

theorem ordered {a b : Agenda} (grown : Grown a b) (ordered : a.Ordered) : b.Ordered := by
  induction grown with
  | still => exact ordered
  | add _ _ ih => exact ih.add _

theorem calm {a b : Agenda} (grown : Grown a b) (calm : Calm a) : Calm b := by
  induction grown with
  | still => exact calm
  | add _ goes_on ih =>
    intro x member
    rcases mem_add.1 member with rfl | old
    · exact goes_on
    · exact ih x old

end Grown

end Agenda

namespace Engine

/-- The second engine is the first one with more planned. -/
structure Plans (e after : Engine) : Prop where
  pool : after.pool = e.pool
  chores : after.chores = e.chores
  upkeep : after.upkeep = e.upkeep
  now : after.now = e.now
  agenda : Agenda.Grown e.agenda after.agenda

namespace Plans

theorem still (e : Engine) : Plans e e := ⟨rfl, rfl, rfl, rfl, .still⟩

theorem trans {e middle after : Engine} (first : Plans e middle) (second : Plans middle after) :
    Plans e after :=
  ⟨second.pool.trans first.pool, second.chores.trans first.chores,
    second.upkeep.trans first.upkeep, second.now.trans first.now,
    first.agenda.trans second.agenda⟩

end Plans

theorem tell_plans (e : Engine) (n : Notice) : Plans e (e.tell n) := ⟨rfl, rfl, rfl, rfl, .still⟩

theorem notice_plans (e : Engine) : Plans e e.notice := ⟨rfl, rfl, rfl, rfl, .still⟩

theorem schedule_plans (e : Engine) (wait : Nat) {h : Happening} (goes_on : h.endsRound = false) :
    Plans e (e.schedule wait h) := ⟨rfl, rfl, rfl, rfl, .add .still goes_on⟩

theorem tellHeard_plans (e : Engine) (j : Joined) (data : Bytes) : Plans e (e.tellHeard j data) := by
  unfold tellHeard
  split
  · split
    · exact tell_plans e _
    · exact .still e
  · exact .still e

theorem placeMoves_plans (e : Engine) (opens : Nat) (times : List Nat) :
    Plans e (e.placeMoves opens times) :=
  List.foldlRecOn (motive := Plans e) times _ (.still e)
    fun after plans _ _ => plans.trans (schedule_plans after _ rfl)

theorem placeCall_plans (e : Engine) (a : Adapter) (f : Flow) (c : Outbound.Call) :
    Plans e (e.placeCall a f c) := by
  have told : Plans e (if (e.peer? a).isSome
      then e.tell (.dialed a.record.address f.kind f.remoteAddress) else e) := by
    split
    · exact tell_plans e _
    · exact .still e
  unfold placeCall
  dsimp only
  split
  · exact told
  · split
    · exact told.trans (notice_plans _)
    · exact told.trans (schedule_plans _ _ rfl)

theorem placeProbe_plans (e : Engine) (a : Adapter) (t : Probe.Target) (c : Outbound.Call)
    (p : Probe.Course) : Plans e (e.placeProbe a t c p) := by
  unfold placeProbe
  split
  · split
    · exact (schedule_plans e _ rfl).trans (placeMoves_plans _ _ _)
    · exact .still e
  · exact .still e

theorem startProbe_plans (e : Engine) (a : Adapter) (url : String) (aim : Probe.Aim)
    (limit : Nat) : Plans e (e.startProbe a url aim limit).1 := by
  unfold startProbe
  split
  · exact .still e
  · exact (placeCall_plans e a _ _).trans (placeProbe_plans _ _ _ _ _)

theorem startDelay_plans (e : Engine) (n : Node) : Plans e (e.startDelay n).engine := by
  have started := startProbe_plans e n.adapter e.probe.delayUrl .delay (millis e.probe.timeout)
  unfold startDelay
  generalize e.startProbe _ _ _ _ = probed at started ⊢
  exact started.trans (schedule_plans _ _ rfl)

theorem startSpeed_plans (e : Engine) (n : Node) : Plans e (e.startSpeed n).engine := by
  have started := startProbe_plans e n.adapter e.probe.speedUrl (.speed e.probe.speedSample)
    (millis e.probe.speedTimeout)
  unfold startSpeed
  generalize e.startProbe _ _ _ _ = probed at started ⊢
  exact started.trans (schedule_plans _ _ rfl)

theorem startAll_plans {start : Engine → Node → Started}
    (plans : ∀ e n, Plans e (start e n).engine) (e : Engine) (ns : List Node) :
    Plans e (startAll start e ns).engine :=
  List.foldlRecOn (motive := fun s : Started => Plans e s.engine) ns _ (.still e)
    fun s so_far n _ => so_far.trans (plans s.engine n)

theorem startDelay_delayed (e : Engine) (n : Node) : ∃ x ∈ (e.startDelay n).engine.agenda,
    (∃ start worked, x.what = .delayed n start worked) ∧
      x.time = e.now + (e.startDelay n).took := by
  have now := (startProbe_plans e n.adapter e.probe.delayUrl .delay (millis e.probe.timeout)).now
  unfold startDelay
  generalize e.startProbe _ _ _ _ = probed at now ⊢
  exact ⟨_, Agenda.mem_add.2 (.inl rfl), ⟨_, _, rfl⟩, congrArg (· + _) now⟩

theorem startAll_concat (start : Engine → Node → Started) (e : Engine) (ns : List Node)
    (n : Node) :
    (startAll start e (ns ++ [n])).engine = (start (startAll start e ns).engine n).engine ∧
      (startAll start e (ns ++ [n])).took =
        max (startAll start e ns).took (start (startAll start e ns).engine n).took := by
  rw [startAll, List.foldl_append]
  exact ⟨rfl, rfl⟩

/-- Every check that was started is planned to be over by the time that all are. -/
theorem startAll_delayed (e : Engine) (ns : List Node) :
    ∀ n ∈ ns, ∃ x ∈ (startAll startDelay e ns).engine.agenda,
      (∃ start worked, x.what = .delayed n start worked) ∧
        x.time ≤ e.now + (startAll startDelay e ns).took := by
  induction ns using List.reverseRecOn with
  | nil => exact List.forall_mem_nil _
  | append_singleton ns last ih =>
    obtain ⟨engine, took⟩ := startAll_concat startDelay e ns last
    rw [engine, took]
    intro n member
    rcases List.mem_append.1 member with early | late
    · obtain ⟨x, planned, what, time⟩ := ih n early
      exact ⟨x, (startDelay_plans _ last).agenda.mem planned, what, by omega⟩
    · rw [List.mem_singleton.1 late]
      obtain ⟨x, planned, what, time⟩ :=
        startDelay_delayed (startAll startDelay e ns).engine last
      have now := (startAll_plans startDelay_plans e ns).now
      exact ⟨x, planned, what, by omega⟩

end Engine

end ProxyGateway
