import ProxyGateway.Proofs.Net.Exchange

namespace ProxyGateway.Net

namespace Exchange

theorem bind_bind (x : Exchange α) (f : α → Exchange β) (g : β → Exchange γ) :
    (x >>= f) >>= g = x >>= fun a => f a >>= g := by
  change (x.bind f).bind g = x.bind fun a => (f a).bind g
  induction x with
  | finish r =>
    cases r with
    | error e => rfl
    | ok a => rfl
  | send bytes next ih => exact congrArg (send bytes) ih
  | receive count e next ih => exact congrArg (receive count e) (funext ih)
  | receiveSome room e next ih => exact congrArg (receiveSome room e) (funext ih)
  | peek e next ih => exact congrArg (peek e) (funext ih)

theorem bind_pure (x : Exchange α) : x >>= pure = x := by
  change x.bind pure = x
  induction x with
  | finish r =>
    cases r with
    | error e => rfl
    | ok a => rfl
  | send bytes next ih => exact congrArg (send bytes) ih
  | receive count e next ih => exact congrArg (receive count e) (funext ih)
  | receiveSome room e next ih => exact congrArg (receiveSome room e) (funext ih)
  | peek e next ih => exact congrArg (peek e) (funext ih)

/-- An exchange that is over without success hangs up. -/
def Failed (x : Exchange α) : Prop := ∃ e, x = .finish (.error e)

/-- One step of a side: the bytes under way to it before and after, and what it sends. It finds the
end of its stream where the other side is gone. -/
inductive Moves (gone : Prop) :
    Exchange α → Bytes → Exchange α → Bytes → (sent : Bytes) → Prop where
  | send {bytes data : Bytes} {next : Exchange α} :
      Moves gone (.send bytes next) data next data bytes
  | receive {count : Nat} {e : Error} {next : Bytes → Exchange α} {block data : Bytes}
      (whole : block.length = count) :
      Moves gone (.receive count e next) (block ++ data) (next block) data []
  | cut {count : Nat} {e : Error} {next : Bytes → Exchange α} {data : Bytes} (away : gone)
      (short : data.length < count) :
      Moves gone (.receive count e next) data (.finish (.error e)) [] []
  | receiveSome {room : Nat} {e : Error} {next : Bytes → Exchange α} {part data : Bytes}
      (some : part ≠ []) (fits : part.length ≤ room) :
      Moves gone (.receiveSome room e next) (part ++ data) (next part) data []
  | ended {room : Nat} {e : Error} {next : Bytes → Exchange α} {data : Bytes}
      (nothing : (gone ∧ data = []) ∨ room = 0) :
      Moves gone (.receiveSome room e next) data (.finish (.error e)) [] []
  | peek {e : Error} {next : UInt8 → Exchange α} {byte : UInt8} {data : Bytes} :
      Moves gone (.peek e next) (byte :: data) (next byte) (byte :: data) []
  | silent {e : Error} {next : UInt8 → Exchange α} (away : gone) :
      Moves gone (.peek e next) [] (.finish (.error e)) [] []

section moves

variable {gone : Prop} {x x' : Exchange α} {data data' sent : Bytes}

theorem Moves.not_failed (moves : Moves gone x data x' data' sent) : ¬ Failed x := by
  rintro ⟨e, rfl⟩
  cases moves

theorem Blockwise.moves (blockwise : Blockwise x) (moves : Moves gone x data x' data' sent) :
    Blockwise x' := by
  cases blockwise with
  | finish => cases moves
  | send on =>
    cases moves
    exact on
  | receive on =>
    cases moves with
    | receive whole => exact on _
    | cut away short => exact .finish

theorem Moves.unique (blockwise : Blockwise x) {y : Exchange α} {rest told : Bytes}
    (moves : Moves gone x data x' data' sent) (other : Moves gone x data y rest told) :
    x' = y ∧ data' = rest ∧ sent = told := by
  cases blockwise with
  | finish => cases moves
  | send on =>
    cases moves
    cases other
    exact ⟨rfl, rfl, rfl⟩
  | receive on =>
    cases moves with
    | receive whole =>
      rename_i block
      generalize split : block ++ data' = whole_data at other
      cases other with
      | receive whole' =>
        obtain ⟨rfl, rfl⟩ := List.append_inj split (whole.trans whole'.symm)
        exact ⟨rfl, rfl, rfl⟩
      | cut away short =>
        rw [← split, List.length_append] at short
        omega
    | cut away short =>
      cases other with
      | receive whole =>
        rw [List.length_append] at short
        omega
      | cut => exact ⟨rfl, rfl, rfl⟩

/-- A step that needs no end of the stream can also be made when more is there. -/
theorem Moves.more (blockwise : Blockwise x) (here : ¬ gone)
    (moves : Moves gone x data x' data' sent) (away : Prop) (late : Bytes) :
    Moves away x (data ++ late) x' (data' ++ late) sent := by
  cases blockwise with
  | finish => cases moves
  | send on =>
    cases moves
    exact .send
  | receive on =>
    cases moves with
    | receive whole =>
      rw [List.append_assoc]
      exact .receive whole
    | cut away short => exact absurd away here

end moves

end Exchange

open Exchange

/-- Two exchanges, and the bytes under way to each of them. -/
structure Talk (α β : Type) where
  client : Exchange α
  server : Exchange β
  toClient : Bytes
  toServer : Bytes

namespace Talk

inductive Step : Talk α β → Talk α β → Prop where
  | client {x x' : Exchange α} {y : Exchange β} {down down' up sent : Bytes}
      (moves : Moves y.Failed x down x' down' sent) :
      Step ⟨x, y, down, up⟩ ⟨x', y, down', up ++ sent⟩
  | server {x : Exchange α} {y y' : Exchange β} {down up up' sent : Bytes}
      (moves : Moves x.Failed y up y' up' sent) :
      Step ⟨x, y, down, up⟩ ⟨x, y', down ++ sent, up'⟩

inductive Runs : Nat → Talk α β → Talk α β → Prop where
  | stay {s : Talk α β} : Runs 0 s s
  | step {n : Nat} {s t u : Talk α β} (first : Step s t) (others : Runs n t u) : Runs (n + 1) s u

/-- Nobody can move any more. -/
def Over (t : Talk α β) : Prop := ∀ u, ¬ Step t u

/-- Every run of a talk is a part of one that comes to this end, and none goes on for ever. -/
def EndsIn (s t : Talk α β) : Prop :=
  t.Over ∧ ∃ n, ∀ m u, Runs m s u → m ≤ n ∧ Runs (n - m) u t

/-- Both sides wait for known numbers of bytes only. -/
structure Orderly (s : Talk α β) : Prop where
  client : s.client.Blockwise
  server : s.server.Blockwise

variable {s t u : Talk α β} {m n : Nat}

theorem Orderly.step (orderly : s.Orderly) (step : Step s t) : t.Orderly := by
  cases step with
  | client moves => exact ⟨orderly.client.moves moves, orderly.server⟩
  | server moves => exact ⟨orderly.client, orderly.server.moves moves⟩

/-- A step of the one side and a step of the other can be made in either order. -/
theorem Step.join (orderly : s.Orderly) (one : Step s t) (other : Step s u) :
    t = u ∨ ∃ v, Step t v ∧ Step u v := by
  cases one with
  | client moves =>
    cases other with
    | client moves' =>
      obtain ⟨rfl, rfl, rfl⟩ := moves.unique orderly.client moves'
      exact .inl rfl
    | server moves' =>
      have later := moves.more orderly.client moves'.not_failed
      have later' := moves'.more orderly.server moves.not_failed
      exact .inr ⟨_, .server (later' _ _), .client (later _ _)⟩
  | server moves =>
    cases other with
    | client moves' =>
      have later := moves.more orderly.server moves'.not_failed
      have later' := moves'.more orderly.client moves.not_failed
      exact .inr ⟨_, .client (later' _ _), .server (later _ _)⟩
    | server moves' =>
      obtain ⟨rfl, rfl, rfl⟩ := moves.unique orderly.server moves'
      exact .inl rfl

/-- After any step a run to the end is one step shorter. -/
theorem Runs.after_step (orderly : s.Orderly) (run : Runs n s t) (ended : t.Over)
    (step : Step s u) : ∃ k, n = k + 1 ∧ Runs k u t := by
  induction run generalizing u with
  | stay => exact absurd step (ended u)
  | step first others ih =>
    rename_i n s s' t
    obtain rfl | ⟨v, here, there⟩ := first.join orderly step
    · exact ⟨n, rfl, others⟩
    · obtain ⟨k, rfl, rest⟩ := ih (orderly.step first) ended here
      exact ⟨k + 1, rfl, .step there rest⟩

/-- Where one run comes to an end, all do. -/
theorem Runs.endsIn (orderly : s.Orderly) (run : Runs n s t) (ended : t.Over) : s.EndsIn t := by
  refine ⟨ended, n, fun m u other => ?_⟩
  induction other generalizing n with
  | stay => exact ⟨Nat.zero_le n, run⟩
  | step first _ ih =>
    obtain ⟨k, rfl, rest⟩ := run.after_step orderly ended first
    obtain ⟨few, on⟩ := ih (orderly.step first) rest
    refine ⟨Nat.succ_le_succ few, ?_⟩
    rwa [Nat.add_sub_add_right]

def Leads (s t : Talk α β) : Prop := ∃ n, Runs n s t

theorem Leads.refl (s : Talk α β) : Leads s s := ⟨0, .stay⟩

theorem Leads.step (first : Step s t) (on : Leads t u) : Leads s u :=
  let ⟨n, run⟩ := on
  ⟨n + 1, .step first run⟩

theorem Leads.trans (one : Leads s t) (two : Leads t u) : Leads s u := by
  obtain ⟨n, run⟩ := one
  induction run with
  | stay => exact two
  | step first _ ih => exact .step first (ih two)

def swap (s : Talk α β) : Talk β α := ⟨s.server, s.client, s.toServer, s.toClient⟩

theorem Step.swap (step : Step s t) : Step s.swap t.swap := by
  cases step with
  | client moves => exact .server moves
  | server moves => exact .client moves

theorem Leads.swap (leads : Leads s t) : Leads s.swap t.swap := by
  obtain ⟨n, run⟩ := leads
  induction run with
  | stay => exact .refl _
  | step first _ ih => exact .step first.swap ih

section sides

variable {y : Exchange β} {data up down sent unread : Bytes}

/-- What the client can do with the bytes that are there, it does. -/
theorem leads_client {x : Exchange α} {f : α → Exchange γ} {a : α}
    (go : Goes x data ⟨.ok a, sent, unread⟩) :
    Leads ⟨x >>= f, y, data, up⟩ ⟨f a, y, unread, up ++ sent⟩ := by
  generalize way : (⟨.ok a, sent, unread⟩ : Ending α) = o at go
  induction go generalizing up sent unread with
  | finish =>
    cases way
    rw [List.append_nil]
    exact .refl _
  | send on ih =>
    cases way
    rw [← List.append_assoc]
    exact .step (.client .send) (ih rfl)
  | receive whole on ih =>
    exact .step (.client (.receive whole)) (by rw [List.append_nil]; exact ih way)
  | cut short => cases way
  | receiveSome some fits on ih =>
    exact .step (.client (.receiveSome some fits)) (by rw [List.append_nil]; exact ih way)
  | ended nothing => cases way
  | peek on ih => exact .step (.client .peek) (by rw [List.append_nil]; exact ih way)
  | silent => cases way

theorem leads_client_done {x : Exchange α} {a : α} (go : Goes x data ⟨.ok a, sent, unread⟩) :
    Leads ⟨x, y, data, up⟩ ⟨.finish (.ok a), y, unread, up ++ sent⟩ := by
  have leads : Leads ⟨x >>= pure, y, data, up⟩ ⟨.finish (.ok a), y, unread, up ++ sent⟩ :=
    leads_client go
  rwa [bind_pure] at leads

theorem leads_client_alone {x : Exchange α} {r : Except Error α} (away : y.Failed)
    (go : Goes x data ⟨r, sent, unread⟩) :
    Leads ⟨x, y, data, up⟩ ⟨.finish r, y, unread, up ++ sent⟩ := by
  generalize way : (⟨r, sent, unread⟩ : Ending α) = o at go
  induction go generalizing up sent unread with
  | finish =>
    cases way
    rw [List.append_nil]
    exact .refl _
  | send on ih =>
    cases way
    rw [← List.append_assoc]
    exact .step (.client .send) (ih rfl)
  | receive whole on ih =>
    exact .step (.client (.receive whole)) (by rw [List.append_nil]; exact ih way)
  | cut short =>
    cases way
    exact .step (.client (.cut away short)) (.refl _)
  | receiveSome some fits on ih =>
    exact .step (.client (.receiveSome some fits)) (by rw [List.append_nil]; exact ih way)
  | ended nothing =>
    cases way
    exact .step (.client (.ended (nothing.imp_left fun empty => ⟨away, empty⟩))) (.refl _)
  | peek on ih =>
    exact .step (.client .peek) (by rw [List.append_nil]; exact ih way)
  | silent =>
    cases way
    exact .step (.client (.silent away)) (.refl _)

variable {x : Exchange α}

theorem leads_server {y : Exchange β} {f : β → Exchange γ} {b : β}
    (go : Goes y data ⟨.ok b, sent, unread⟩) :
    Leads ⟨x, y >>= f, down, data⟩ ⟨x, f b, down ++ sent, unread⟩ :=
  (leads_client go).swap

theorem leads_server_alone {r : Except Error β} (away : x.Failed)
    (go : Goes y data ⟨r, sent, unread⟩) :
    Leads ⟨x, y, down, data⟩ ⟨x, .finish r, down ++ sent, unread⟩ :=
  (leads_client_alone away go).swap

end sides

/-- A talk is over when both sides are. -/
theorem over_finished (r : Except Error α) (r' : Except Error β) (down up : Bytes) :
    Over ⟨.finish r, .finish r', down, up⟩ := by
  intro u step
  cases step with
  | client moves => cases moves
  | server moves => cases moves

end Talk

end ProxyGateway.Net
