import ProxyGateway.Proofs.Engine.Agenda

namespace ProxyGateway.Engine

/-- The engine has gone on to what comes next on its agenda, and nothing else has happened. -/
def proceed (e : Engine) (x : Appointment) : Engine :=
  { e with agenda := e.agenda.tail, now := max e.now x.time }

theorem proceed_agenda {e : Engine} {x : Appointment} {rest : Agenda}
    (next : e.agenda = x :: rest) : (e.proceed x).agenda = rest := congrArg List.tail next

/-- A relation that holds from each engine to the one after it, whatever the engine goes through of
itself. -/
structure Carries (R : Engine → Engine → Prop) : Prop where
  trans {e middle after : Engine} : R e middle → R middle after → R e after
  plans {e after : Engine} : Plans e after → R e after
  same {e after : Engine} : after.pool = e.pool → after.chores = e.chores →
    after.agenda = e.agenda → after.upkeep = e.upkeep → R e after
  wake {e after : Engine} : e.wake? = some after → R e after
  keep {e : Engine} {x : Appointment} {rest : Agenda} : e.agenda = x :: rest →
    R e ((e.proceed x).happen x.what)

namespace Carries

variable {R : Engine → Engine → Prop} (carries : Carries R)
include carries

theorem still (e : Engine) : R e e := carries.plans (.still e)

theorem step {e after : Engine} {last : Nat} (stepped : e.step? last = some after) :
    R e after := by
  have keeps {x : Appointment} (soon : e.agenda.head?.filter (·.time ≤ last) = some x) :
      R e (step?.keep e x) := by
    obtain ⟨rest, next⟩ := List.head?_eq_some_iff.1 (Option.filter_eq_some_iff.1 soon).1
    exact carries.keep next
  unfold step? at stepped
  split at stepped
  · rename_i woken
    cases stepped
    exact carries.wake woken
  · dsimp only at stepped
    split at stepped
    · rename_i soon _
      split at stepped <;> cases stepped
      · exact carries.same rfl rfl rfl rfl
      · exact keeps soon
    · rename_i soon _
      cases stepped
      exact keeps soon
    · cases stepped
      exact carries.same rfl rfl rfl rfl
    · cases stepped

theorem runSteps (last fuel : Nat) (e : Engine) : R e (runSteps last fuel e) := by
  induction fuel generalizing e with
  | zero => exact carries.still e
  | succ fuel ih =>
    unfold Engine.runSteps
    split
    · rename_i stepped
      exact carries.trans (carries.step stepped) (ih _)
    · exact carries.still e

theorem pass (e : Engine) (span : Nat) : R e (e.pass span) :=
  carries.trans (carries.runSteps (e.now + span) (e.stepsWithin span) e)
    (carries.same rfl rfl rfl rfl)

theorem passCall (e : Engine) (f : Flow) (c : Candidate) : R e (e.passCall f c) := by
  have waits {called : Engine} (plans : Plans e called) (took : Nat) :
      R e (if took = 0 then called else called.pass took) := by
    split
    · exact carries.plans plans
    · exact carries.trans (carries.plans plans) (carries.pass called took)
  unfold Engine.passCall
  cases c with
  | direct | reject => exact waits (.still e) _
  | node n => exact waits (placeCall_plans e n.adapter f _) _

theorem connect (e : Engine) (f : Flow) : R e (e.connect f).1 := by
  have calls (e : Engine) (f : Flow) (cs : List Candidate) :
      R e (cs.foldl (fun (e : Engine) c => e.passCall f c) e) :=
    List.foldlRecOn (motive := R e) cs _ (carries.still e)
      fun _ so_far c _ => carries.trans so_far (carries.passCall _ f c)
  have learned (e : Engine) (rules : RuleTable) : R e { e with rules } :=
    carries.same rfl rfl rfl rfl
  unfold Engine.connect
  generalize e.resolve f = f
  dsimp only
  cases Dispatch.pick (e.rules.route f) e.pool.aliveNodes with
  | none =>
    split
    · exact carries.trans (calls e f _) (learned _ _)
    · exact calls e f _
  | some first =>
    have called := carries.passCall e f first
    split
    · exact carries.trans called (carries.trans (calls _ f _) (learned _ _))
    · exact carries.trans called (calls _ f _)

theorem handle (e : Engine) (f : Flow) (data : Bytes) : R e (e.handle f data).1 := by
  unfold Engine.handle
  dsimp only
  split
  · exact carries.connect e f
  · refine carries.trans (carries.connect e f) (carries.trans (carries.plans ?_) (carries.pass _ _))
    exact (tellHeard_plans _ _ _).trans (placeMoves_plans _ _ _)

theorem checkDelay (e : Engine) (n : Node) : R e (e.checkDelay n).1 :=
  carries.trans (carries.plans (startDelay_plans e n)) (carries.pass _ _)

theorem checkSpeed (e : Engine) (n : Node) : R e (e.checkSpeed n) :=
  carries.trans (carries.plans (startSpeed_plans e n)) (carries.pass _ _)

theorem checkAll {start : Engine → Node → Started} (plans : ∀ e n, Plans e (start e n).engine)
    (e : Engine) : R e (checkAll start e) :=
  carries.trans (carries.plans ((startAll_plans plans e e.pool.all).trans
    (schedule_plans _ _ rfl))) (carries.pass _ _)

end Carries

end ProxyGateway.Engine
