import ProxyGateway.Dispatch
import ProxyGateway.Proofs.Rule.Lookup
/-!
The contract of a connection: through what it is dialed first, when and through what it is dialed
once more, and what comes of it. The contract speaks of views and ranks only, so that it can be
compared with the search for candidates. Main statement: every attempt keeps it.
-/
namespace ProxyGateway.Dispatch

/-- The first fit node of a view. Views stand in the order of ranks, so none that is fit ranks
better. -/
def BestFit (view : List Node) (fit : Node → Prop) (n : Node) : Prop :=
  ∃ better worse, view = better ++ n :: worse ∧ fit n ∧ ∀ m ∈ better, ¬ fit m

/-- Where a route leads at first, from the nodes that are alive. -/
inductive LeadsTo (r : Route) (view : List Node) : Option Candidate → Prop where
  | straight (action : r.action = .direct) : LeadsTo r view (some .direct)
  | away (action : r.action = .reject) : LeadsTo r view (some .reject)
  | pinned {n : Node} {identity : String} (action : r.action = .proxy)
      (pin : r.pin = some identity) (best : BestFit view (·.identity = identity) n) :
      LeadsTo r view (some (.node n))
  | ranked {n : Node} (action : r.action = .proxy)
      (gone : ∀ identity, r.pin = some identity → ∀ m ∈ view, m.identity ≠ identity)
      (best : BestFit view (fun _ => True) n) : LeadsTo r view (some (.node n))
  | nowhere (action : r.action = .proxy) (nobody : view = []) : LeadsTo r view none

/-- A node may stand in for every candidate but those of its own identity. -/
def StandsIn (failed : Candidate) (n : Node) : Prop := failed.identity? ≠ some n.identity

structure AttemptContract (r : Route) (atFirst later : List Node)
    (dial : Candidate → Except Error α) (a : Attempt α) : Prop where
  first : LeadsTo r atFirst a.dialed.head?
  /-- Where there is nothing to dial, the failure is one of the connection. -/
  undialed : a.dialed = [] → ∃ reason, a.result = .error (.connection reason)
  /-- Exactly when there is a second dial. -/
  second_iff : ∀ c, a.dialed.head? = some c → ((∃ d, a.dialed = [c, d]) ↔
    (∃ e, dial c = .error e) ∧ c.action ≠ .reject ∧ ∃ n ∈ later, StandsIn c n)
  second_best : ∀ c d, a.dialed = [c, d] → ∃ n, d = .node n ∧ BestFit later (StandsIn c) n
  at_most_two : a.dialed.length ≤ 2
  identities_differ : (a.dialed.map Candidate.identity?).Nodup
  turned_away : r.action = .reject → ∀ c ∈ a.dialed, c = .reject
  ok_iff : ∀ line, a.result = .ok line ↔ ∃ c ∈ a.dialed, dial c = .ok line
  /-- A failure is that of the last dial, unless a node to stand in was wanted and none was
  there. -/
  error_of : ∀ e c, a.result = .error e → a.dialed.getLast? = some c →
    if c.action = .reject ∨ a.dialed.length = 2 then dial c = .error e else e = noUsableProxy
  takeover_iff : ∀ o, a.takeover = some o ↔
    a.dialed = [o.failed, .node o.node] ∧ ∃ line, dial (.node o.node) = .ok line

theorem find?_eq_some_iff_bestFit {view : List Node} {fit : Node → Bool} {n : Node} :
    view.find? fit = some n ↔ BestFit view (fit ·) n := by
  rw [List.find?_eq_some_iff_append]
  constructor
  · rintro ⟨fits, better, worse, rfl, unfit⟩
    exact ⟨better, worse, rfl, fits, fun m member => by simpa using unfit m member⟩
  · rintro ⟨better, worse, rfl, fits, unfit⟩
    exact ⟨fits, better, worse, rfl, fun m member => by simpa using unfit m member⟩

theorem pick_leadsTo (r : Route) (view : List Node) : LeadsTo r view (pick r view) := by
  unfold pick
  cases action : r.action with
  | direct => exact .straight action
  | reject => exact .away action
  | proxy =>
    cases pinned : r.pin.bind fun identity => view.find? (·.identity == identity) with
    | some n =>
      obtain ⟨identity, pin, found⟩ := Option.bind_eq_some_iff.1 pinned
      have best := find?_eq_some_iff_bestFit.1 found
      exact .pinned action pin (by simpa using best)
    | none =>
      have gone : ∀ identity, r.pin = some identity → ∀ m ∈ view, m.identity ≠ identity := by
        intro identity pin m member
        rw [pin, Option.bind_some, List.find?_eq_none] at pinned
        simpa using pinned m member
      cases view with
      | nil => exact .nowhere action rfl
      | cons n worse => exact .ranked action gone ⟨[], worse, rfl, trivial, by simp⟩

theorem passes_iff_standsIn {failed : Candidate} {n : Node} :
    (some n.identity != failed.identity?) = true ↔ StandsIn failed n := by
  rw [bne_iff_ne, StandsIn, ne_comm]

theorem fallback_eq_some {failed : Candidate} {view : List Node} {n : Node} :
    fallback failed view = some n ↔ BestFit view (StandsIn failed) n := by
  unfold fallback
  simp only [find?_eq_some_iff_bestFit, passes_iff_standsIn]

theorem fallback_eq_none {failed : Candidate} {view : List Node} :
    fallback failed view = none ↔ ∀ n ∈ view, ¬ StandsIn failed n := by
  simp only [fallback, List.find?_eq_none, passes_iff_standsIn]

/-- The ways in which an attempt can go, each with what has been found on it. -/
inductive Course (r : Route) (atFirst later : List Node) (dial : Candidate → Except Error α) :
    Attempt α → Prop where
  | undialed (nobody : pick r atFirst = none) :
      Course r atFirst later dial ⟨[], .error noUsableProxy, none⟩
  | served {first : Candidate} {line : α} (picked : pick r atFirst = some first)
      (answered : dial first = .ok line) : Course r atFirst later dial ⟨[first], .ok line, none⟩
  | turnedAway {first : Candidate} {e : Error} (picked : pick r atFirst = some first)
      (failed : dial first = .error e) (away : first.action = .reject) :
      Course r atFirst later dial ⟨[first], .error e, none⟩
  | stranded {first : Candidate} {e : Error} (picked : pick r atFirst = some first)
      (failed : dial first = .error e) (goes_on : first.action ≠ .reject)
      (nobody : fallback first later = none) :
      Course r atFirst later dial ⟨[first], .error noUsableProxy, none⟩
  | takenOver {first : Candidate} {e : Error} {n : Node} {line : α}
      (picked : pick r atFirst = some first) (failed : dial first = .error e)
      (goes_on : first.action ≠ .reject) (found : fallback first later = some n)
      (answered : dial (.node n) = .ok line) :
      Course r atFirst later dial ⟨[first, .node n], .ok line, some ⟨first, n⟩⟩
  | failedTwice {first : Candidate} {e e' : Error} {n : Node}
      (picked : pick r atFirst = some first) (failed : dial first = .error e)
      (goes_on : first.action ≠ .reject) (found : fallback first later = some n)
      (failed_again : dial (.node n) = .error e') :
      Course r atFirst later dial ⟨[first, .node n], .error e', none⟩

theorem connect_course (r : Route) (atFirst later : List Node)
    (dial : Candidate → Except Error α) :
    Course r atFirst later dial (connect r atFirst later dial) := by
  unfold connect
  split
  · exact .undialed ‹_›
  · rename_i first picked
    split
    · exact .served picked ‹_›
    · rename_i e failed
      split
      · exact .turnedAway picked failed ‹_›
      · rename_i goes_on
        split
        · exact .stranded picked failed goes_on ‹_›
        · rename_i n found
          split
          · exact .takenOver picked failed goes_on found ‹_›
          · exact .failedTwice picked failed goes_on found ‹_›

namespace Course

variable {r : Route} {atFirst later : List Node} {dial : Candidate → Except Error α} {a : Attempt α}

theorem head_eq_pick (course : Course r atFirst later dial a) :
    a.dialed.head? = pick r atFirst := by
  cases course with
  | undialed nobody => exact nobody.symm
  | served picked => exact picked.symm
  | turnedAway picked => exact picked.symm
  | stranded picked => exact picked.symm
  | takenOver picked => exact picked.symm
  | failedTwice picked => exact picked.symm

theorem undialed_error (course : Course r atFirst later dial a) (undialed : a.dialed = []) :
    a.result = .error noUsableProxy := by
  cases course with
  | undialed => rfl
  | served => cases undialed
  | turnedAway => cases undialed
  | stranded => cases undialed
  | takenOver => cases undialed
  | failedTwice => cases undialed

theorem second_iff (course : Course r atFirst later dial a) {c : Candidate}
    (first : a.dialed.head? = some c) : (∃ d, a.dialed = [c, d]) ↔
      (∃ e, dial c = .error e) ∧ c.action ≠ .reject ∧ ∃ n ∈ later, StandsIn c n := by
  have stands_in {n : Node} (found : fallback c later = some n) : ∃ m ∈ later, StandsIn c m := by
    obtain ⟨better, worse, rfl, fits, _⟩ := fallback_eq_some.1 found
    exact ⟨n, by simp, fits⟩
  cases course with
  | undialed nobody => cases first
  | served picked answered =>
    cases first
    simp [answered]
  | turnedAway picked failed away =>
    cases first
    simp [away]
  | stranded picked failed goes_on nobody =>
    cases first
    have unfit := fallback_eq_none.1 nobody
    constructor
    · rintro ⟨d, two⟩
      cases two
    · rintro ⟨_, _, n, member, fits⟩
      exact absurd fits (unfit n member)
  | takenOver picked failed goes_on found =>
    cases first
    exact ⟨fun _ => ⟨⟨_, failed⟩, goes_on, stands_in found⟩, fun _ => ⟨_, rfl⟩⟩
  | failedTwice picked failed goes_on found =>
    cases first
    exact ⟨fun _ => ⟨⟨_, failed⟩, goes_on, stands_in found⟩, fun _ => ⟨_, rfl⟩⟩

theorem second_best (course : Course r atFirst later dial a) {c d : Candidate}
    (two : a.dialed = [c, d]) : ∃ n, d = .node n ∧ BestFit later (StandsIn c) n := by
  cases course with
  | undialed => cases two
  | served => cases two
  | turnedAway => cases two
  | stranded => cases two
  | takenOver _ _ _ found =>
    cases two
    exact ⟨_, rfl, fallback_eq_some.1 found⟩
  | failedTwice _ _ _ found =>
    cases two
    exact ⟨_, rfl, fallback_eq_some.1 found⟩

theorem at_most_two (course : Course r atFirst later dial a) : a.dialed.length ≤ 2 := by
  cases course <;> simp

theorem identities_differ (course : Course r atFirst later dial a) :
    (a.dialed.map Candidate.identity?).Nodup := by
  have differ {c : Candidate} {n : Node} (found : fallback c later = some n) :
      ([c, .node n].map Candidate.identity?).Nodup := by
    obtain ⟨_, _, _, fits, _⟩ := fallback_eq_some.1 found
    simpa [StandsIn, Candidate.identity?] using fits
  cases course with
  | undialed => exact List.nodup_nil
  | served => simp
  | turnedAway => simp
  | stranded => simp
  | takenOver _ _ _ found => exact differ found
  | failedTwice _ _ _ found => exact differ found

theorem turned_away (course : Course r atFirst later dial a) (away : r.action = .reject)
    {c : Candidate} (member : c ∈ a.dialed) : c = .reject := by
  have first : a.dialed.head? = some .reject := by
    rw [course.head_eq_pick]
    simp [pick, away]
  have no_second : ¬ ∃ d, a.dialed = [.reject, d] := by
    intro two
    exact ((course.second_iff first).1 two).2.1 rfl
  have short := course.at_most_two
  match dialed : a.dialed with
  | [] => simp [dialed] at member
  | [d] =>
    rw [dialed, List.head?_cons, Option.some.injEq] at first
    rw [dialed, List.mem_singleton] at member
    exact member.trans first
  | [d, e] =>
    simp only [dialed, List.head?_cons, Option.some.injEq] at first
    exact absurd ⟨e, by rw [dialed, first]⟩ no_second
  | d :: e :: g :: rest => simp [dialed] at short

theorem ok_iff (course : Course r atFirst later dial a) (line : α) :
    a.result = .ok line ↔ ∃ c ∈ a.dialed, dial c = .ok line := by
  cases course with
  | undialed => simp
  | served _ answered => simp [answered]
  | turnedAway _ failed => simp [failed]
  | stranded _ failed => simp [failed]
  | takenOver _ failed _ _ answered => simp [failed, answered]
  | failedTwice _ failed _ _ failed_again => simp [failed, failed_again]

theorem error_of (course : Course r atFirst later dial a) {e : Error} {c : Candidate}
    (failure : a.result = .error e) (last : a.dialed.getLast? = some c) :
    if c.action = .reject ∨ a.dialed.length = 2 then dial c = .error e else e = noUsableProxy := by
  cases course with
  | undialed => cases last
  | served => cases failure
  | turnedAway _ failed away =>
    cases last
    cases failure
    rw [if_pos (.inl away)]
    exact failed
  | stranded _ _ goes_on =>
    cases last
    cases failure
    rw [if_neg (by simp [goes_on])]
  | takenOver => cases failure
  | failedTwice _ _ _ _ failed_again =>
    cases last
    cases failure
    rw [if_pos (.inr rfl)]
    exact failed_again

theorem takeover_iff (course : Course r atFirst later dial a) (o : Takeover) :
    a.takeover = some o ↔
      a.dialed = [o.failed, .node o.node] ∧ ∃ line, dial (.node o.node) = .ok line := by
  cases course with
  | undialed => simp
  | served => simp
  | turnedAway => simp
  | stranded => simp
  | takenOver _ _ _ _ answered =>
    constructor
    · rintro ⟨⟩
      exact ⟨rfl, _, answered⟩
    · rintro ⟨two, _⟩
      cases o
      cases two
      rfl
  | failedTwice _ _ _ _ failed_again =>
    constructor
    · rintro ⟨⟩
    · rintro ⟨two, line, answered⟩
      cases o
      cases two
      rw [failed_again] at answered
      cases answered

end Course

/-- Whatever the table, the order in which it is walked, the views of the nodes alive and the
outcomes of the dials, an attempt keeps its contract. -/
theorem connect_keeps_contract (t : RuleTable) (order : t.Order)
    (lookUp : String → Except Error Net.Ip) (f : Flow) (atFirst later : List Node)
    (dial : Candidate → Except Error α) :
    let r := routeAmong order.rules (resolve lookUp f)
    AttemptContract r atFirst later dial (connect r atFirst later dial) := by
  intro r
  have course := connect_course r atFirst later dial
  exact {
    first := course.head_eq_pick ▸ pick_leadsTo r atFirst
    undialed := fun none_dialed => ⟨_, course.undialed_error none_dialed⟩
    second_iff := fun _ => course.second_iff
    second_best := fun _ _ => course.second_best
    at_most_two := course.at_most_two
    identities_differ := course.identities_differ
    turned_away := fun away _ => course.turned_away away
    ok_iff := course.ok_iff
    error_of := fun _ _ => course.error_of
    takeover_iff := course.takeover_iff }

end ProxyGateway.Dispatch
