import ProxyGateway.Dispatch
import ProxyGateway.Proofs.Rule.Lookup

namespace ProxyGateway.Dispatch

def addressText (f : Flow) : String := (f.ip.map (·.toText)).getD ""

/-- The keys under which something can be learned of a flow: its address in the canonical form, and
its name trimmed and in small letters. -/
def lessonKeys (f : Flow) : List String :=
  f.ip.toList.map (·.canonical.toText) ++ [Text.lower (Text.trim f.host)]

structure LessonOf (a : Adapter) (f : Flow) (r : Rule) : Prop where
  kind : r.kind = .dstIp ∨ r.kind = .domain
  action : r.action = a.action
  pin : r.pin = some a.identity
  key : r.key ∈ lessonKeys f

def addressLesson (ip : Net.Ip) (a : Adapter) : Rule :=
  ⟨.dstIp ip.canonical, a.action, some a.identity⟩

def nameLesson (host : String) (a : Adapter) : Rule :=
  ⟨.domain (Text.lower (Text.trim host)), a.action, some a.identity⟩

/-- One lesson for the address, and one for a name that is not the address written out. -/
theorem mem_lessons {f : Flow} {a : Adapter} {r : Rule} :
    r ∈ lessons f a ↔ (∃ ip, f.ip = some ip ∧ r = addressLesson ip a) ∨
      (f.host ≠ "" ∧ f.host ≠ addressText f ∧ Text.trim f.host ≠ "" ∧ r = nameLesson f.host a) := by
  unfold lessons
  rw [List.mem_append]
  refine or_congr ?by_address ?by_name
  case by_address =>
    simp [addressLesson, Rule.dstIp, Rule.pinnedTo, eq_comm]
  case by_name =>
    change r ∈ (if f.host = "" ∨ f.host = addressText f then [] else _) ↔ _
    split
    · rename_i unnamed
      simp only [List.not_mem_nil, false_iff]
      rintro ⟨named, other, _⟩
      exact unnamed.elim named other
    · rename_i named
      obtain ⟨named, other⟩ := not_or.1 named
      by_cases blank : Text.trim f.host = ""
      · simp [Rule.new, Matcher.ofPayload, blank, Except.map]
      · simp [Rule.new, Matcher.ofPayload, blank, Except.map, named, other, nameLesson,
          Rule.pinnedTo]

theorem lesson_of_mem {f : Flow} {a : Adapter} {r : Rule} (member : r ∈ lessons f a) :
    LessonOf a f r := by
  rcases mem_lessons.1 member with ⟨ip, known, rfl⟩ | ⟨_, _, _, rfl⟩
  · exact ⟨.inl rfl, rfl, rfl, by simp [lessonKeys, known, addressLesson, Rule.key, Matcher.key]⟩
  · exact ⟨.inr rfl, rfl, rfl, by simp [lessonKeys, nameLesson, Rule.key, Matcher.key]⟩

def teach (failed : Candidate) (t : RuleTable) (r : Rule) : RuleTable :=
  match failed.identity? with
  | some stale => (t.repin r stale).1
  | none => (t.add r).1

theorem addAll_eq_foldl (rules : List Rule) (t : RuleTable) :
    (t.addAll rules).1 = rules.foldl (fun t r => (t.add r).1) t := by
  induction rules generalizing t with
  | nil => rfl
  | cons r rest ih =>
    rw [List.foldl_cons, ← ih]
    rfl

theorem learn_eq_foldl (t : RuleTable) (f : Flow) (o : Takeover) :
    learn t f o = (lessons f o.node.adapter).foldl (teach o.failed) t := by
  unfold learn
  cases failed : o.failed.identity? with
  | some stale =>
    have same : teach o.failed = fun t r => (t.repin r stale).1 := by
      funext t r
      simp [teach, failed]
    rw [same]
  | none =>
    have same : teach o.failed = fun t r => (t.add r).1 := by
      funext t r
      simp [teach, failed]
    rw [same]
    exact addAll_eq_foldl _ t

/-- A rule gives way to a lesson when it is pinned to the node that has failed. -/
def GivesWay (failed : Candidate) (r : Rule) : Prop :=
  ∃ n, failed = .node n ∧ r.pin = some n.identity

theorem find?_teach_of_ne {failed : Candidate} {t : RuleTable} {r : Rule} {k : String}
    (elsewhere : k ≠ r.key) : (teach failed t r).find? k = t.find? k := by
  unfold teach
  split
  · rw [RuleTable.find?_repin, if_neg elsewhere]
  · rw [RuleTable.find?_add, if_neg elsewhere]

theorem find?_teach_free {failed : Candidate} {t : RuleTable} {r : Rule}
    (free : t.find? r.key = none) : (teach failed t r).find? r.key = some r := by
  unfold teach
  split
  · simp [RuleTable.find?_repin, free]
  · simp [RuleTable.find?_add, free]

theorem find?_teach_giving_way {failed : Candidate} {t : RuleTable} {r old : Rule}
    (held : t.find? r.key = some old) (gives_way : GivesWay failed old) :
    (teach failed t r).find? r.key = some r := by
  obtain ⟨n, rfl, pinned⟩ := gives_way
  simp [teach, Candidate.identity?, RuleTable.find?_repin, held, Option.filter, pinned]

theorem find?_teach_kept {failed : Candidate} {t : RuleTable} {r old : Rule}
    (held : t.find? r.key = some old) (stays : ¬ GivesWay failed old) :
    (teach failed t r).find? r.key = some old := by
  cases failed with
  | direct => simp [teach, Candidate.identity?, RuleTable.find?_add, held]
  | reject => simp [teach, Candidate.identity?, RuleTable.find?_add, held]
  | node n =>
    have pinned : old.pin ≠ some n.identity := fun pinned => stays ⟨n, rfl, pinned⟩
    simp [teach, Candidate.identity?, RuleTable.find?_repin, held, Option.filter, pinned]

/-- An entry that a lesson has changed held nothing or a rule that gave way, and now holds the
lesson. -/
theorem teach_changes {failed : Candidate} {t : RuleTable} {r : Rule} {k : String}
    (changed : (teach failed t r).find? k ≠ t.find? k) :
    k = r.key ∧ (teach failed t r).find? k = some r ∧ ∀ old, t.find? k = some old →
      GivesWay failed old := by
  by_cases here : k = r.key
  · subst here
    cases held : t.find? r.key with
    | none => exact ⟨rfl, find?_teach_free held, by simp⟩
    | some old =>
      by_cases gives_way : GivesWay failed old
      · exact ⟨rfl, find?_teach_giving_way held gives_way, by simpa using gives_way⟩
      · exact absurd (find?_teach_kept held gives_way) (held ▸ changed)
  · exact absurd (find?_teach_of_ne here) changed

def trojan (identity : String) : Adapter where
  record := .new "trojan" "node.example" 443
  kind := .trojan
  identity := identity
  name := identity
  host := "node.example"
  port := 443
  metrics := []

def staleNode : Node := ⟨0, trojan "stale"⟩

def freshNode : Node := ⟨1, trojan "fresh"⟩

def onlyFresh : Candidate → Except Error Unit
  | .node n => if n.identity = "fresh" then .ok () else .error (.connection "refused")
  | _ => .error (.connection "refused")

/-- The address carries `1.2.3.4`. -/
def mappedFlow : Flow :=
  { Flow.new .tcp .socks5 with
    ip := some (.v6 ⟨#v[0, 0, 0, 0, 0, 0xFFFF, 0x102, 0x304]⟩)
    port := 443
    host := "Example.ORG" }

def pinnedToStale : RuleTable :=
  RuleTable.empty.put ⟨.dstIp (.v4 ⟨1, 2, 3, 4⟩), .proxy, some "stale"⟩

def freshForStale : Takeover := ⟨.node staleNode, freshNode⟩

end ProxyGateway.Dispatch
