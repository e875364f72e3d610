import ProxyGateway.Control.Answer
import ProxyGateway.Proofs.Rule.Export
import ProxyGateway.Proofs.Rule.Lookup
import ProxyGateway.Proofs.Url.Form
/-!
Rules that come and go through the control interface. Main statement: a rule that was taken in is
listed from then on, and a request that names its payload takes it out again and nothing else; only
the payload that is also a fixed name of the interface cannot be named.
-/
namespace ProxyGateway.Control

namespace Request

def listing (r : Request) : Request := ⟨"GET", "/rules", r.headers, ""⟩

def removal (r : Request) (segment : String) : Request :=
  ⟨"DELETE", "/rules/" ++ segment, r.headers, ""⟩

theorem isGranted_of_headers {r s : Request} {secret : String} (granted : r.isGranted secret = true)
    (closed : openPaths.contains r.path = false) (same : s.headers = r.headers) :
    s.isGranted secret = true := by
  have token : s.bearerToken? = r.bearerToken? := by
    simp only [bearerToken?, header?, same]
  unfold isGranted at granted ⊢
  rw [closed, Bool.or_false, Bool.or_eq_true] at granted
  rw [token, Bool.or_eq_true, Bool.or_eq_true]
  exact granted.imp .inl id

theorem path_eq_target {r : Request} (slash : r.target.toList.head? = some '/')
    (plain : ∀ c ∈ r.target.toList, c ≠ '?' ∧ c ≠ '#') : r.path = r.target := by
  have whole : r.target.toList.takeWhile (fun c => c ≠ '?' ∧ c ≠ '#') = r.target.toList :=
    List.takeWhile_eq_self_iff.2 fun c member => decide_eq_true (plain c member)
  unfold path
  simp only [whole, slash, if_true, String.ofList_toList]

theorem path_listing (r : Request) : r.listing.path = "/rules" :=
  path_eq_target (r := r.listing) (show "/rules".toList.head? = some '/' by decide)
    (show ∀ c ∈ "/rules".toList, c ≠ '?' ∧ c ≠ '#' by simp)

theorem path_removal (r : Request) {segment : String}
    (apart : ∀ c ∈ segment.toList, c ≠ '/' ∧ c ≠ '?' ∧ c ≠ '#') :
    (r.removal segment).path = "/rules/" ++ segment := by
  have chars : (r.removal segment).target.toList = "/rules/".toList ++ segment.toList :=
    String.toList_append
  have fixed : ∀ c ∈ "/rules/".toList, c ≠ '?' ∧ c ≠ '#' := by simp
  apply path_eq_target
  · rw [chars]
    rfl
  · intro c member
    rw [chars, List.mem_append] at member
    exact member.elim (fixed c) fun written => (apart c written).2

end Request

namespace Resource

/-- The one name behind the rules that stands for something else. -/
theorem ofPath_rule {segment : String} (filled : segment ≠ "") (apart : '/' ∉ segment.toList) :
    ofPath ("/rules/" ++ segment) =
      some (if segment = "sync" then ruleStore else rule segment) := by
  have chars : ("/rules/" ++ segment).toList = '/' :: ("rules".toList ++ '/' :: segment.toList) :=
    String.toList_append
  have parts : (Text.splitAll '/' ("rules".toList ++ '/' :: segment.toList)).map String.ofList =
      ["rules", segment] := by
    rw [Text.splitAll_front (by decide), Text.splitAll_whole apart]
    simp
  simp only [ofPath, chars, parts]
  by_cases fixed : segment = "sync"
  · rw [if_pos fixed, fixed]
    rfl
  · rw [if_neg fixed]
    unfold ofSegments
    split <;> simp_all

end Resource

def listedRules (infos : List RuleInfo) : Answer :=
  .ok (.obj [("rules", .arr (infos.map ruleJson))])

section answers

variable {e : Engine} {secret : String} {r : Request}

/-- What becomes of a request that is let in and asks for something known. -/
theorem answer_eq {resource : Resource} {method : Method}
    (named : Method.ofText? r.method = some (method, true)) (granted : r.isGranted secret = true)
    (there : Resource.ofPath r.path = some resource) :
    answer e secret r =
      if method ∈ resource.methods then
        match resource.unescape with
        | none => (e, .bare 400)
        | some given => act e r method given
      else (e, .bare 405) := by
  have plain : r.method ≠ "OPTIONS" := by
    intro options
    rw [options] at named
    cases named
  rw [answer, if_neg plain, if_pos granted, answerGranted, there]
  simp only [named]
  by_cases knows : method ∈ resource.methods
  · rw [if_pos knows, if_neg (by simpa using knows)]
    cases resource.unescape <;> rfl
  · rw [if_neg knows, if_pos (by simpa using knows)]

theorem answer_listing (granted : r.listing.isGranted secret = true) :
    answer e secret r.listing = (e, listedRules e.rules.infos) := by
  have there : Resource.ofPath r.listing.path = some .rules := by
    rw [r.path_listing]
    decide
  have named : Method.ofText? r.listing.method = some (.get, true) := rfl
  rw [answer_eq named granted there]
  rfl

theorem answer_removal {segment key : String}
    (granted : (r.removal segment).isGranted secret = true)
    (apart : ∀ c ∈ segment.toList, c ≠ '/' ∧ c ≠ '?' ∧ c ≠ '#') (filled : segment ≠ "")
    (read : Url.decodeComponent segment = .ok key) :
    answer e secret (r.removal segment) =
      if segment = "sync" then (e, .bare 405)
      else
        ((e.removeRule key).1,
          if (e.removeRule key).2.isSome then .bare 204 else .notFound "Rule") := by
  have there : Resource.ofPath (r.removal segment).path =
      some (if segment = "sync" then .ruleStore else .rule segment) := by
    rw [r.path_removal apart, Resource.ofPath_rule filled fun slash => (apart _ slash).1 rfl]
  have named : Method.ofText? (r.removal segment).method = some (.delete, true) := rfl
  rw [answer_eq named granted there]
  by_cases fixed : segment = "sync"
  · simp only [fixed, if_true]
    rfl
  · simp only [fixed, if_false, Resource.unescape, read]
    rfl

theorem added_of_created (posted : r.method = "POST") (to_rules : r.path = "/rules")
    (created : (answer e secret r).2.status = 201) :
    r.isGranted secret = true ∧ ∃ form rule, Json.readForm ruleForm r.body = .ok form ∧
      Rule.ofInfo (ruleInfoOf form) = .ok rule ∧ e.rules.find? rule.key = none ∧
      (answer e secret r).1 = { e with rules := e.rules.put rule } := by
  by_cases granted : r.isGranted secret = true
  · have there : Resource.ofPath r.path = some .rules := by
      rw [to_rules]
      decide
    have named : Method.ofText? r.method = some (.post, true) := by
      rw [posted]
      rfl
    have done : answer e secret r = withForm e r ruleForm (addRule e) :=
      answer_eq named granted there
    refine ⟨granted, ?_⟩
    rw [done] at created ⊢
    unfold withForm at created ⊢
    cases json : r.hasJson with
    | false => simp [json, Answer.bare] at created
    | true =>
      simp only [json, Bool.not_true, Bool.false_eq_true, if_false] at created ⊢
      cases read : Json.readForm ruleForm r.body with
      | error flaw =>
        rw [read] at created
        cases flaw <;> cases created
      | ok form =>
        rw [read] at created
        simp only [addRule] at created ⊢
        cases made : Rule.ofInfo (ruleInfoOf form) with
        | error err =>
          rw [made] at created
          cases err <;> cases created
        | ok rule =>
          rw [made] at created
          refine ⟨form, rule, rfl, made, ?_⟩
          cases found : e.rules.find? rule.key with
          | none => simp [Engine.addRule, RuleTable.add, found]
          | some old => simp [Engine.addRule, RuleTable.add, found, Answer.added] at created
  · have shut : (answer e secret r).2 = .bare 401 := by
      have plain : r.method ≠ "OPTIONS" := by rw [posted]; decide
      rw [answer, if_neg plain, if_neg granted]
    rw [shut] at created
    cases created

/-- A rule that was taken in is listed among the others, and the request that names its payload
leaves everything as it was before. Of all written payloads only the name of the rule store is
taken for another request, and then the rule stays. -/
theorem created_rule_is_removed_unless_sync (posted : r.method = "POST")
    (to_rules : r.path = "/rules") (created : (answer e secret r).2.status = 201)
    {inSet : Char → Bool} (seals : Url.Seals inSet) :
    ∃ form rule front back, Json.readForm ruleForm r.body = .ok form ∧
      Rule.ofInfo (ruleInfoOf form) = .ok rule ∧
      answer e secret r.listing = (e, listedRules (front ++ back)) ∧
      answer (answer e secret r).1 secret r.listing =
        ((answer e secret r).1, listedRules (front ++ rule.info :: back)) ∧
      answer (answer e secret r).1 secret (r.removal (Url.segment inSet rule.info.payload)) =
        if Url.segment inSet rule.info.payload = "sync" then ((answer e secret r).1, .bare 405)
        else (e, .bare 204) := by
  obtain ⟨granted, form, rule, read, made, free, after⟩ := added_of_created posted to_rules created
  obtain ⟨front, back, new, old⟩ := RuleTable.infos_put free
  have closed : Request.openPaths.contains r.path = false := by
    rw [to_rules]
    decide
  have lets_in (s : Request) (same : s.headers = r.headers) : s.isGranted secret = true :=
    Request.isGranted_of_headers granted closed same
  have filled : rule.key ≠ "" := Matcher.key_ne_empty (Rule.canonical_of_ofInfo made).matcher
  refine ⟨form, rule, front, back, read, made, ?_, ?_, ?_⟩
  · rw [answer_listing (lets_in _ rfl), old]
  · rw [answer_listing (lets_in _ rfl), after, new]
  · have key : rule.info.payload = rule.key := rfl
    rw [key, answer_removal (lets_in _ rfl) (fun _ => Url.apart_of_mem_segment seals)
      (fun nothing => filled (Url.segment_eq_empty seals.percent nothing))
      (Url.decodeComponent_segment seals.percent rule.key)]
    congr 1
    rw [after, Engine.removeRule, RuleTable.remove_put free]
    rfl

end answers

def freshEngine : Engine := .new .default false [] []

def domainRequest (domain : String) : Request :=
  ⟨"POST", "/rules", [("Content-Type", "application/json"), ("Authorization", "Bearer s")],
    "\x7b\"rule\":\"Domain\",\"payload\":\"" ++ domain ++ "\",\"adapter\":\"proxy\"\x7d"⟩

/-- A domain with marks of a path, letters of both cases and blanks around it. -/
theorem marked_rule_is_removed :
    let r := domainRequest " A/ü%?.example "
    (answer freshEngine "s" r).2.status = 201 ∧
      answer (answer freshEngine "s" r).1 "s" (r.removal "a%2F%C3%BC%25%3F.example") =
        (freshEngine, .bare 204) := by
  intro r
  have created : (answer freshEngine "s" r).2.status = 201 := by decide +kernel
  have to_rules : r.path = "/rules" := by decide +kernel
  obtain ⟨form, rule, _, _, read, made, _, _, removed⟩ :=
    created_rule_is_removed_unless_sync rfl to_rules created Url.seals_component
  have payload : ((Json.readForm ruleForm r.body).toOption.bind fun form =>
      (Rule.ofInfo (ruleInfoOf form)).toOption.map (·.info.payload)) = some "a/ü%?.example" := by
    decide +kernel
  rw [read] at payload
  simp only [Except.toOption, Option.bind_some, made, Option.map_some, Option.some.injEq] at payload
  have written : Url.segment (fun c => !Url.isUnreserved c) "a/ü%?.example" =
      "a%2F%C3%BC%25%3F.example" := by
    decide +kernel
  rw [payload, written, if_neg (by decide)] at removed
  exact ⟨created, removed⟩

/-- A domain of one label: the request to take the rule out again is none that can be made. -/
theorem sync_rule_stays :
    let r := domainRequest "sync"
    let after := answer freshEngine "s" r
    let removed := answer after.1 "s" (r.removal (Url.encodeComponent "sync"))
    after.2.status = 201 ∧ removed.2.status = 405 ∧ (removed.1.rules.find? "sync").isSome := by
  decide +kernel

end ProxyGateway.Control
