import ProxyGateway.Proofs.Engine.Course
import ProxyGateway.Proofs.Pool.Run

namespace ProxyGateway.Engine

def Moves (before after : Engine) : Prop :=
  ∃ steps : List Pool.Step, after.pool = steps.foldl Pool.step before.pool

namespace Moves

theorem still {e after : Engine} (same : after.pool = e.pool) : Moves e after := ⟨[], same⟩

theorem of_plans {e after : Engine} (plans : Plans e after) : Moves e after := .still plans.pool

theorem once {e after : Engine} (s : Pool.Step) (moved : after.pool = e.pool.step s) :
    Moves e after := ⟨[s], moved⟩

theorem trans {e middle after : Engine} (first : Moves e middle) (second : Moves middle after) :
    Moves e after := by
  obtain ⟨early, here⟩ := first
  obtain ⟨late, there⟩ := second
  exact ⟨early ++ late, by rw [List.foldl_append, ← here, there]⟩

end Moves

theorem ask_pool (e : Engine) (c : Chore) : (e.ask c).pool = e.pool := by
  unfold ask
  split <;> rfl

theorem startRound_pool (e : Engine) (due : Schedule) (r : Round) (ns : List Node) :
    (e.startRound due r ns).pool = e.pool := by
  cases r with
  | delays => exact (startAll_plans startDelay_plans { e with upkeep := .busy due } ns).pool
  | speeds => exact (startAll_plans startSpeed_plans { e with upkeep := .busy due } ns).pool
  | chores cleans => exact (startAll_plans startDelay_plans { e with upkeep := .busy due } ns).pool

theorem startDue?_pool {e after : Engine} {due : Schedule}
    (started : e.startDue? due = some after) : after.pool = e.pool := by
  unfold startDue? at started
  split at started
  · cases started
    exact startRound_pool e _ _ _
  · split at started
    · cases started
      exact startRound_pool e _ _ _
    · split at started
      · cases started
      · cases started
        exact startRound_pool _ _ _ _

theorem wake?_pool {e after : Engine} (woken : e.wake? = some after) : after.pool = e.pool := by
  unfold wake? at woken
  split at woken
  · cases woken
    rfl
  · exact startDue?_pool woken
  · cases woken

theorem finishRound_moves (e : Engine) (cleans : Bool) : Moves e (e.finishRound cleans) := by
  cases cleans with
  | false => exact .once .rank rfl
  | true => exact .once .cleanUp rfl

theorem happen_moves (e : Engine) (h : Happening) : Moves e (e.happen h) := by
  cases h with
  | notice n => exact .still rfl
  | moved => exact .still rfl
  | delayed n start worked => exact .once (.record n.number (.delay _)) rfl
  | sampled n start size => exact .once (.record n.number (.speed _ _)) rfl
  | checkedAll => exact finishRound_moves e false
  | roundOver cleans =>
    refine (finishRound_moves e cleans).trans (.still ?_)
    simp only [happen]
    split <;> rfl

theorem moves_carries : Carries Moves where
  trans := .trans
  plans := .of_plans
  same pool _ _ _ := .still pool
  wake woken := .still (wake?_pool woken)
  keep {e x _} _ := happen_moves (e.proceed x) x.what

theorem register_moves (e : Engine) (a : Adapter) : Moves e (e.register a).1 := by
  refine .once (.register a) ?_
  unfold register
  dsimp only
  split
  · exact ask_pool _ _
  · rfl

theorem stop_moves (e : Engine) : Moves e e.stop.1 := by
  unfold stop
  dsimp only
  split
  · exact (moves_carries.pass _ _).trans (.still rfl)
  · exact .still rfl

inductive Request where
  | register (a : Adapter)
  | remove (identity : String)
  | sort
  | cleanUp
  | checkDelay (n : Node)
  | checkSpeed (n : Node)
  | checkAllDelays
  | checkAllSpeeds
  | connect (f : Flow)
  | handle (f : Flow) (data : Bytes)
  | addRule (r : Rule)
  | removeRule (key : String)
  | storeRules
  | pass (span : Nat)
  | start
  | serve
  | stop

/-- The engine after a request, whatever the answer is. -/
def after (e : Engine) : Request → Engine
  | .register a => (e.register a).1
  | .remove identity => (e.remove identity).1
  | .sort => e.sort
  | .cleanUp => e.cleanUp
  | .checkDelay n => (e.checkDelay n).1
  | .checkSpeed n => e.checkSpeed n
  | .checkAllDelays => e.checkAllDelays
  | .checkAllSpeeds => e.checkAllSpeeds
  | .connect f => (e.connect f).1
  | .handle f data => (e.handle f data).1
  | .addRule r => (e.addRule r).1
  | .removeRule key => (e.removeRule key).1
  | .storeRules => e.storeRules
  | .pass span => e.pass span
  | .start => e.start.toOption.getD e
  | .serve => e.serve
  | .stop => e.stop.1

theorem after_moves (e : Engine) (r : Request) : Moves e (e.after r) := by
  cases r with
  | register a => exact register_moves e a
  | remove identity => exact .once (.remove identity) rfl
  | sort => exact .once .rank rfl
  | cleanUp => exact .still (ask_pool e .cleanUp)
  | checkDelay n => exact moves_carries.checkDelay e n
  | checkSpeed n => exact moves_carries.checkSpeed e n
  | checkAllDelays => exact moves_carries.checkAll startDelay_plans e
  | checkAllSpeeds => exact moves_carries.checkAll startSpeed_plans e
  | connect f => exact moves_carries.connect e f
  | handle f data => exact moves_carries.handle e f data
  | addRule r => exact .still rfl
  | removeRule key => exact .still rfl
  | storeRules => exact .still rfl
  | pass span => exact moves_carries.pass e span
  | start =>
    refine .still ?_
    simp only [after, start]
    split <;> rfl
  | serve => exact .still rfl
  | stop => exact stop_moves e

/-- Whatever a new engine was asked for, its pool is one that a run of steps has left. -/
theorem pool_of_requests (probe : ProbeSettings) (resolves : Bool)
    (peers : List (String × Outbound.Peer)) (stored : List RuleInfo) (requests : List Request) :
    ∃ steps, (requests.foldl after (.new probe resolves peers stored)).pool = Pool.run steps :=
  List.foldlRecOn (motive := Moves (.new probe resolves peers stored)) requests after (.still rfl)
    fun _ moves r _ => moves.trans (after_moves _ r)

end ProxyGateway.Engine
