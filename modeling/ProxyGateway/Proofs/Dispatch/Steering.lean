import ProxyGateway.Proofs.Dispatch.Contract
import ProxyGateway.Proofs.Dispatch.Lessons
/-!
What a learned rule is good for: the next connection to the same destination. Main statement: when
nothing else stands in the way of the lessons, every connection for the same flow is led to the
adapter that served it, and to another one only when that adapter fails.
-/
namespace ProxyGateway.Dispatch

/-- The keys that are learned for a flow: its address, if it is known, and its name, unless that
is the address written out. -/
def learnedKeys (f : Flow) : List String :=
  f.ip.toList.map (·.canonical.toText) ++
    if f.host ≠ "" ∧ f.host ≠ addressText f then [Text.lower f.host] else []

theorem mem_learnedKeys {f : Flow} (tidy : Text.trim f.host = f.host) (a : Adapter) {k : String} :
    k ∈ learnedKeys f ↔ ∃ r ∈ lessons f a, r.key = k := by
  have by_address : k ∈ f.ip.toList.map (·.canonical.toText) ↔
      ∃ ip, f.ip = some ip ∧ (addressLesson ip a).key = k := by
    simp [addressLesson, Rule.key, Matcher.key]
  have by_name : (k ∈ if f.host ≠ "" ∧ f.host ≠ addressText f then [Text.lower f.host] else []) ↔
      f.host ≠ "" ∧ f.host ≠ addressText f ∧ (nameLesson f.host a).key = k := by
    by_cases named : f.host ≠ "" ∧ f.host ≠ addressText f
    · simp [named, nameLesson, Rule.key, Matcher.key, tidy, eq_comm]
    · rw [if_neg named]
      simp only [List.not_mem_nil, false_iff]
      exact fun h => named ⟨h.1, h.2.1⟩
  rw [learnedKeys, List.mem_append, by_address, by_name]
  constructor
  · rintro (⟨ip, known, same⟩ | ⟨named, other, same⟩)
    · exact ⟨_, mem_lessons.2 (.inl ⟨ip, known, rfl⟩), same⟩
    · exact ⟨_, mem_lessons.2 (.inr ⟨named, other, tidy.symm ▸ named, rfl⟩), same⟩
  · rintro ⟨r, member, same⟩
    rcases mem_lessons.1 member with ⟨ip, known, rfl⟩ | ⟨named, other, _, rfl⟩
    · exact .inl ⟨ip, known, same⟩
    · exact .inr ⟨named, other, same⟩

/-- A lesson applies to the flow it was learned from, whatever the form of its address and the
letter case of its name. -/
theorem lesson_applies {f : Flow} {a : Adapter} {r : Rule} (tidy : Text.trim f.host = f.host)
    (member : r ∈ lessons f a) : r.appliesTo f = true := by
  rcases mem_lessons.1 member with ⟨ip, known, rfl⟩ | ⟨named, _, _, rfl⟩
  · simp [addressLesson, Rule.appliesTo, Matcher.holds, known]
  · have same : Text.sameLetters f.host (Text.lower f.host) = true :=
      (Text.sameLetters_iff _ _).2 (Text.lower_lower f.host).symm
    simp [nameLesson, Rule.appliesTo, Matcher.holds, named, tidy, same]

theorem lessons_ne_nil {f : Flow} (destined : f.ip.isSome ∨ f.host ≠ "")
    (tidy : Text.trim f.host = f.host) (a : Adapter) : ∃ r, r ∈ lessons f a := by
  cases known : f.ip with
  | some ip => exact ⟨_, mem_lessons.2 (.inl ⟨ip, known, rfl⟩)⟩
  | none =>
    have named : f.host ≠ "" := by simpa [known] using destined
    have other : f.host ≠ addressText f := by simpa [addressText, known] using named
    exact ⟨_, mem_lessons.2 (.inr ⟨named, other, tidy.symm ▸ named, rfl⟩)⟩

def Held (all : List Rule) (t : RuleTable) (k : String) : Prop := ∃ r ∈ all, t.find? k = some r

/-- A key under which a lesson will be written, if it is not there already. -/
def Ready (failed : Candidate) (all : List Rule) (t : RuleTable) (k : String) : Prop :=
  (∀ old, t.find? k = some old → GivesWay failed old) ∨ Held all t k

section Writing

variable {failed : Candidate} {all : List Rule} (lasting : ∀ r ∈ all, ¬ GivesWay failed r)

include lasting

theorem teach_holds {t : RuleTable} {r : Rule} (member : r ∈ all)
    (ready : Ready failed all t r.key) : Held all (teach failed t r) r.key := by
  rcases ready with gives_way | ⟨s, s_member, held⟩
  · cases found : t.find? r.key with
    | none => exact ⟨r, member, find?_teach_free found⟩
    | some old => exact ⟨r, member, find?_teach_giving_way found (gives_way old found)⟩
  · exact ⟨s, s_member, find?_teach_kept held (lasting s s_member)⟩

theorem teach_keeps_held {t : RuleTable} {r : Rule} {k : String} (member : r ∈ all)
    (held : Held all t k) : Held all (teach failed t r) k := by
  by_cases here : k = r.key
  · subst here
    exact teach_holds lasting member (.inr held)
  · rw [Held, find?_teach_of_ne here]
    exact held

theorem teach_keeps_ready {t : RuleTable} {r : Rule} {k : String} (member : r ∈ all)
    (ready : Ready failed all t k) : Ready failed all (teach failed t r) k := by
  by_cases here : k = r.key
  · subst here
    exact .inr (teach_holds lasting member ready)
  · rcases ready with gives_way | held
    · exact .inl (by rwa [find?_teach_of_ne here])
    · exact .inr (teach_keeps_held lasting member held)

/-- Lessons written in turn all stand in the table in the end, each by itself or by another of them
with its key. -/
theorem foldl_teach_holds (todo : List Rule) {t : RuleTable} (within : ∀ r ∈ todo, r ∈ all)
    (ready : ∀ r ∈ todo, Ready failed all t r.key) :
    (∀ r ∈ todo, Held all (todo.foldl (teach failed) t) r.key) ∧
      ∀ k, Held all t k → Held all (todo.foldl (teach failed) t) k := by
  induction todo generalizing t with
  | nil => exact ⟨fun _ member => absurd member List.not_mem_nil, fun _ held => held⟩
  | cons r rest ih =>
    have r_member := within r List.mem_cons_self
    have first := teach_holds lasting r_member (ready r List.mem_cons_self)
    obtain ⟨written, kept⟩ := ih (t := teach failed t r)
      (fun s member => within s (List.mem_cons_of_mem _ member))
      (fun s member =>
        teach_keeps_ready lasting r_member (ready s (List.mem_cons_of_mem _ member)))
    constructor
    · intro s member
      rcases List.mem_cons.1 member with rfl | member
      · exact kept s.key first
      · exact written s member
    · exact fun k held => kept k (teach_keeps_held lasting r_member held)

end Writing

theorem takeover_standsIn {r : Route} {atFirst later : List Node}
    {dial : Candidate → Except Error α} {o : Takeover}
    (taken : (connect r atFirst later dial).takeover = some o) : StandsIn o.failed o.node := by
  have course := connect_course r atFirst later dial
  obtain ⟨two, _⟩ := (course.takeover_iff o).1 taken
  obtain ⟨n, same, _, _, _, fits, _⟩ := course.second_best two
  cases same
  exact fits

/-- The lessons of a node that is not the one that failed do not give way to each other. -/
theorem lessons_lasting {o : Takeover} (fits : StandsIn o.failed o.node) (f : Flow) :
    ∀ lesson ∈ lessons f o.node.adapter, ¬ GivesWay o.failed lesson := by
  rintro lesson member ⟨n, failed, pinned⟩
  rw [(lesson_of_mem member).pin] at pinned
  rw [StandsIn, failed] at fits
  exact fits pinned.symm

theorem learn_holds {t : RuleTable} {f : Flow} {o : Takeover} (tidy : Text.trim f.host = f.host)
    (lasting : ∀ lesson ∈ lessons f o.node.adapter, ¬ GivesWay o.failed lesson)
    (clear : ∀ k ∈ learnedKeys f, ∀ old, t.find? k = some old → GivesWay o.failed old) :
    ∀ k ∈ learnedKeys f, Held (lessons f o.node.adapter) (learn t f o) k := by
  intro k learned
  obtain ⟨r, member, rfl⟩ := (mem_learnedKeys tidy o.node.adapter).1 learned
  rw [learn_eq_foldl]
  refine (foldl_teach_holds lasting _ (fun _ member => member) ?_).1 r member
  intro s s_member
  exact .inl (clear s.key ((mem_learnedKeys tidy o.node.adapter).2 ⟨s, s_member, rfl⟩))

theorem action_of_kind {k : ProxyKind} (not_direct : k ≠ .direct) (not_reject : k ≠ .reject) :
    k.action = .proxy := by
  cases k <;> first | rfl | contradiction

theorem learned_route {t : RuleTable} {f : Flow} {a : Adapter} (order : t.Order)
    (destined : f.ip.isSome ∨ f.host ≠ "") (tidy : Text.trim f.host = f.host)
    (held : ∀ k ∈ learnedKeys f, Held (lessons f a) t k)
    (exclusive : ∀ r ∈ t.rules, r.appliesTo f → r.key ∈ learnedKeys f) :
    routeAmong order.rules f = ⟨a.action, some a.identity⟩ := by
  apply RuleTable.route_of_agreement order
  · obtain ⟨r, member⟩ := lessons_ne_nil destined tidy a
    obtain ⟨s, s_member, found⟩ := held r.key ((mem_learnedKeys tidy a).2 ⟨r, member, rfl⟩)
    exact ⟨s, (RuleTable.find?_eq_some.1 found).1, lesson_applies tidy s_member⟩
  · intro r member applies
    obtain ⟨s, s_member, found⟩ := held r.key (exclusive r member applies)
    have itself : t.find? r.key = some r := RuleTable.find?_eq_some.2 ⟨member, rfl⟩
    rw [itself] at found
    cases found
    have lesson := lesson_of_mem s_member
    rw [lesson.action, lesson.pin]

theorem led_connection {identity : String} {view later : List Node}
    {dial : Candidate → Except Error α} (alive : ∃ m ∈ view, m.identity = identity) :
    let a := connect ⟨.proxy, some identity⟩ view later dial
    ∃ m ∈ view, m.identity = identity ∧ a.dialed.head? = some (.node m) ∧
      ∀ c ∈ a.dialed, c ≠ .node m → ∃ e, dial (.node m) = .error e := by
  intro a
  have course : Course _ _ _ _ a := connect_course ⟨.proxy, some identity⟩ view later dial
  have leads := course.head_eq_pick ▸ pick_leadsTo ⟨.proxy, some identity⟩ view
  have short := course.at_most_two
  obtain ⟨m, member, named⟩ := alive
  match dialed : a.dialed with
  | [] =>
    rw [dialed] at leads
    cases leads with
    | nowhere _ nobody =>
      rw [nobody] at member
      cases member
  | c :: rest =>
    rw [dialed] at leads
    cases leads with
    | straight action => cases action
    | away action => cases action
    | ranked _ gone => exact absurd named (gone identity rfl m member)
    | @pinned n _ _ pin best =>
      cases pin
      obtain ⟨better, worse, rfl, n_named, _⟩ := best
      refine ⟨n, by simp, n_named, rfl, ?_⟩
      intro d d_member other
      rcases List.mem_cons.1 d_member with rfl | d_member
      · exact absurd rfl other
      · match rest with
        | [e] => exact ((course.second_iff (by rw [dialed]; rfl)).1 ⟨e, dialed⟩).1
        | _ :: _ :: _ => simp [dialed] at short

/-- Let a connection for `f` fail at its first dial and succeed through another node, whose adapter
is a proxy. If the learned keys were free before, or held rules pinned to the node that failed, and
if afterwards no rule under another key applies to `f`, then every connection for `f` is routed to
that adapter, and while it is alive dials it first. -/
theorem lesson_steers_repeat {β : Type} {t : RuleTable} {f : Flow} {r : Route}
    {atFirst later : List Node} {dial : Candidate → Except Error α} {o : Takeover}
    (destined : f.ip.isSome ∨ f.host ≠ "") (tidy : Text.trim f.host = f.host)
    (taken : (connect r atFirst later dial).takeover = some o)
    (proxied : o.node.adapter.kind ≠ .direct ∧ o.node.adapter.kind ≠ .reject)
    (clear : ∀ k ∈ learnedKeys f, ∀ old, t.find? k = some old →
      ∃ n, o.failed = .node n ∧ old.pin = some n.identity)
    (exclusive : ∀ r ∈ (learn t f o).rules, r.appliesTo f → r.key ∈ learnedKeys f) :
    o.failed.identity? ≠ some o.node.identity ∧ ∀ order : (learn t f o).Order,
      routeAmong order.rules f = ⟨.proxy, some o.node.identity⟩ ∧
      ∀ (lookUp : String → Except Error Net.Ip) (g : Flow) (view later' : List Node)
        (dial' : Candidate → Except Error β), resolve lookUp g = f →
        (∃ m ∈ view, m.identity = o.node.identity) →
        let again := connect (routeAmong order.rules (resolve lookUp g)) view later' dial'
        ∃ m ∈ view, m.identity = o.node.identity ∧ again.dialed.head? = some (.node m) ∧
          ∀ c ∈ again.dialed, c ≠ .node m → ∃ e, dial' (.node m) = .error e := by
  have fits := takeover_standsIn taken
  refine ⟨fits, fun order => ?_⟩
  have held := learn_holds tidy (lessons_lasting fits f) clear
  have route := learned_route order destined tidy held exclusive
  have proxy : o.node.adapter.action = .proxy := action_of_kind proxied.1 proxied.2
  rw [proxy] at route
  refine ⟨route, ?_⟩
  intro lookUp g view later' dial' same alive
  rw [same, route]
  exact led_connection alive

/-- A destination in mapped form and a name in capitals, with a rule in the way that is pinned to
the node that fails. -/
theorem lesson_steers_mapped_destination :
    (connect (routeAmong pinnedToStale.rules mappedFlow) [staleNode, freshNode]
        [staleNode, freshNode] onlyFresh).takeover = some freshForStale ∧
      (∀ k ∈ learnedKeys mappedFlow, ∀ old, pinnedToStale.find? k = some old →
        ∃ n, freshForStale.failed = .node n ∧ old.pin = some n.identity) ∧
      ∀ order : (learn pinnedToStale mappedFlow freshForStale).Order,
        routeAmong order.rules mappedFlow = ⟨.proxy, some "fresh"⟩ := by
  have taken : (connect (routeAmong pinnedToStale.rules mappedFlow) [staleNode, freshNode]
      [staleNode, freshNode] onlyFresh).takeover = some freshForStale := rfl
  have clear : ∀ k ∈ learnedKeys mappedFlow, ∀ old, pinnedToStale.find? k = some old →
      ∃ n, freshForStale.failed = .node n ∧ old.pin = some n.identity := by
    intro k _ old held
    obtain ⟨member, _⟩ := RuleTable.find?_eq_some.1 held
    obtain rfl : old = ⟨.dstIp (.v4 ⟨1, 2, 3, 4⟩), .proxy, some "stale"⟩ :=
      List.mem_singleton.1 member
    exact ⟨staleNode, rfl, rfl⟩
  have steers := lesson_steers_repeat (β := Unit) (by decide) (by decide) taken
    ⟨by decide, by decide⟩ clear (by decide)
  exact ⟨taken, clear, fun order => (steers.2 order).1⟩

end ProxyGateway.Dispatch
