import ProxyGateway.Proofs.Dispatch.Lessons
import ProxyGateway.Proofs.Net.Reading

namespace ProxyGateway

namespace Matcher

/-- The property is given in the spelling that rules are written with. -/
def Canonical : Matcher → Prop
  | domain host => host ≠ "" ∧ Text.trim host = host ∧ Text.lower host = host
  | srcIp ip | dstIp ip => ip.canonical = ip
  | srcPort _ | dstPort _ => True

theorem canonical_ipOfPayload {payload : String} {ip : Net.Ip}
    (accepted : ipOfPayload payload = .ok ip) : ip.canonical = ip := by
  unfold ipOfPayload at accepted
  split at accepted
  · rw [← Except.ok.inj accepted, Net.Ip.canonical_canonical]
  · cases accepted

theorem canonical_domain {payload : String} (filled : Text.trim payload ≠ "") :
    (domain (Text.lower (Text.trim payload))).Canonical :=
  ⟨fun nothing => filled (Text.lower_eq_empty nothing), Text.trim_lower_trim payload,
    Text.lower_lower _⟩

theorem canonical_of_ofPayload {kind : RuleKind} {payload : String} {m : Matcher}
    (accepted : ofPayload kind payload = .ok m) : m.Canonical := by
  cases kind with
  | domain =>
    unfold ofPayload at accepted
    by_cases blank : Text.trim payload = ""
    · simp [blank] at accepted
    · simp only [blank, if_false, Except.ok.injEq] at accepted
      rw [← accepted]
      exact canonical_domain blank
  | srcIp =>
    simp only [ofPayload] at accepted
    obtain ⟨ip, read, rfl⟩ := map_eq_ok.1 accepted
    exact canonical_ipOfPayload read
  | dstIp =>
    simp only [ofPayload] at accepted
    obtain ⟨ip, read, rfl⟩ := map_eq_ok.1 accepted
    exact canonical_ipOfPayload read
  | srcPort =>
    simp only [ofPayload] at accepted
    obtain ⟨port, _, rfl⟩ := map_eq_ok.1 accepted
    exact trivial
  | dstPort =>
    simp only [ofPayload] at accepted
    obtain ⟨port, _, rfl⟩ := map_eq_ok.1 accepted
    exact trivial
  | _ => cases accepted

theorem ipOfPayload_toText {ip : Net.Ip} (canonical : ip.canonical = ip) :
    ipOfPayload (Text.trim ip.toText) = .ok ip := by
  have bare := Net.bare_toText ip.canonical
  have read := Net.readIp_canonical ip
  rw [canonical] at bare read
  have inner : Net.readIp (Flow.unbracket ip.toText) = some ip := by rw [bare.unbracket, read]
  rw [bare.trim]
  unfold ipOfPayload
  rw [inner]
  change Except.ok ip.canonical = _
  rw [canonical]

theorem portOfPayload_decimal (port : UInt16) :
    portOfPayload (Text.trim (Text.decimal port.toNat)) = .ok port := by
  rw [(Net.bare_decimal port.toNat).trim, portOfPayload, Text.readPort_decimal]

theorem ofPayload_key {m : Matcher} (canonical : m.Canonical) : ofPayload m.kind m.key = .ok m := by
  cases m with
  | domain host =>
    obtain ⟨filled, trimmed, small⟩ := canonical
    simp [ofPayload, kind, key, trimmed, filled, small]
  | srcIp ip => simp [ofPayload, kind, key, ipOfPayload_toText canonical, Except.map]
  | dstIp ip => simp [ofPayload, kind, key, ipOfPayload_toText canonical, Except.map]
  | srcPort port => simp [ofPayload, kind, key, portOfPayload_decimal, Except.map]
  | dstPort port => simp [ofPayload, kind, key, portOfPayload_decimal, Except.map]

theorem key_ne_empty {m : Matcher} (canonical : m.Canonical) : m.key ≠ "" := by
  have refused (kind : RuleKind) : (ofPayload kind "").toOption = none := by
    cases kind <;> decide
  intro nothing
  have none := refused m.kind
  rw [← nothing, ofPayload_key canonical] at none
  cases none

end Matcher

namespace Rule

/-- The rule is written in one way only, and an empty pin does not occur. -/
structure Canonical (r : Rule) : Prop where
  matcher : r.matcher.Canonical
  pin : r.pin ≠ some ""

/-- The rule was read from a written one, or learned of a connection through an adapter. -/
inductive Made : Rule → Prop where
  | read {i : RuleInfo} {r : Rule} (written : ofInfo i = .ok r) : Made r
  | learned {f : Flow} {a : Adapter} {r : Rule}
      (identified : Identity.ofRecord a.record = .ok a.identity)
      (lesson : r ∈ Dispatch.lessons f a) : Made r

theorem canonical_of_ofInfo {i : RuleInfo} {r : Rule} (written : ofInfo i = .ok r) :
    r.Canonical := by
  obtain ⟨kind, _, written⟩ := bind_eq_ok.1 written
  obtain ⟨action, _, written⟩ := bind_eq_ok.1 written
  obtain ⟨plain, new_rule, written⟩ := bind_eq_ok.1 written
  obtain ⟨m, accepted, rfl⟩ := map_eq_ok.1 new_rule
  cases written
  exact ⟨Matcher.canonical_of_ofPayload accepted, by simp [Option.filter_eq_some_iff]⟩

theorem canonical_of_lesson {f : Flow} {a : Adapter} {r : Rule}
    (identified : Identity.ofRecord a.record = .ok a.identity)
    (lesson : r ∈ Dispatch.lessons f a) : r.Canonical := by
  have pinned : some a.identity ≠ some "" := by
    simpa using Identity.ofRecord_ne_empty identified
  rcases Dispatch.mem_lessons.1 lesson with ⟨ip, _, rfl⟩ | ⟨_, _, filled, rfl⟩
  · exact ⟨Net.Ip.canonical_canonical ip, pinned⟩
  · exact ⟨Matcher.canonical_domain filled, pinned⟩

theorem Made.canonical {r : Rule} (made : r.Made) : r.Canonical := by
  cases made with
  | read written => exact canonical_of_ofInfo written
  | learned identified lesson => exact canonical_of_lesson identified lesson

theorem ofInfo_info {r : Rule} (canonical : r.Canonical) : ofInfo r.info = .ok r := by
  have pin : r.pin.filter (· ≠ "") = r.pin := by
    have filled := canonical.pin
    cases held : r.pin with
    | none => rfl
    | some p =>
      rw [held] at filled
      simpa [Option.filter] using filled
  have plain : new r.kind r.key r.action = .ok ⟨r.matcher, r.action, none⟩ := by
    rw [new, kind, key, Matcher.ofPayload_key canonical.matcher]
    rfl
  refine bind_eq_ok.2 ⟨r.kind, RuleKind.ofText_toText _, bind_eq_ok.2 ⟨r.action,
    Action.ofText_toText _, bind_eq_ok.2 ⟨_, plain, ?_⟩⟩⟩
  change Except.ok (⟨r.matcher, r.action, r.pin.filter (· ≠ "")⟩ : Rule) = .ok r
  rw [pin]

end Rule

end ProxyGateway
