import ProxyGateway.Proofs.Rule.Reload

namespace ProxyGateway

namespace Matcher

variable {m n : Matcher}

theorem eq_of_key (m_canonical : m.Canonical) (n_canonical : n.Canonical)
    (same_kind : m.kind = n.kind) (same_key : m.key = n.key) : m = n := by
  have read := ofPayload_key m_canonical
  rw [same_kind, same_key, ofPayload_key n_canonical] at read
  exact (Except.ok.inj read).symm

/-- A connection that a matcher takes and no other matcher of its kind does. -/
def sample (m : Matcher) : Flow :=
  let f := Flow.new .tcp .inner
  match m with
  | domain host => { f with host }
  | srcIp ip => { f with sourceIp := ip }
  | dstIp ip => { f with ip := some ip }
  | srcPort port => { f with sourcePort := port }
  | dstPort port => { f with port }

theorem holds_sample (canonical : m.Canonical) : m.holds m.sample = true := by
  cases m with
  | domain host => simp [holds, sample, canonical.1, Text.sameLetters_iff]
  | srcIp ip =>
    have fixed : ip.canonical = ip := canonical
    simp [holds, sample, fixed]
  | dstIp ip =>
    have fixed : ip.canonical = ip := canonical
    simp [holds, sample, fixed]
  | srcPort port => simp [holds, sample]
  | dstPort port => simp [holds, sample]

theorem eq_of_holds_sample (m_canonical : m.Canonical) (n_canonical : n.Canonical)
    (same_kind : m.kind = n.kind) (taken : n.holds m.sample = true) : m = n := by
  cases m with
  | domain host =>
    cases n with
    | domain other =>
      simp only [holds, sample, Bool.and_eq_true, Text.sameLetters_iff] at taken
      have same_host : host = other := by
        rw [← m_canonical.2.2, ← n_canonical.2.2]
        exact taken.2
      rw [same_host]
    | _ => cases same_kind
  | srcIp ip =>
    cases n with
    | srcIp other =>
      have fixed : ip.canonical = ip := m_canonical
      simp only [holds, sample, fixed, beq_iff_eq] at taken
      rw [taken]
    | _ => cases same_kind
  | dstIp ip =>
    cases n with
    | dstIp other =>
      have fixed : ip.canonical = ip := m_canonical
      simp only [holds, sample, Option.map_some, fixed, beq_iff_eq, Option.some.injEq] at taken
      rw [taken]
    | _ => cases same_kind
  | srcPort port =>
    cases n with
    | srcPort other =>
      simp only [holds, sample, beq_iff_eq] at taken
      rw [taken]
    | _ => cases same_kind
  | dstPort port =>
    cases n with
    | dstPort other =>
      simp only [holds, sample, beq_iff_eq] at taken
      rw [taken]
    | _ => cases same_kind

theorem key_eq_iff_holds (m_canonical : m.Canonical) (n_canonical : n.Canonical)
    (same_kind : m.kind = n.kind) : m.key = n.key ↔ ∀ f, m.holds f = n.holds f := by
  constructor
  · intro same_key f
    rw [eq_of_key m_canonical n_canonical same_kind same_key]
  · intro agree
    have taken : n.holds m.sample = true := by
      rw [← agree]
      exact holds_sample m_canonical
    rw [eq_of_holds_sample m_canonical n_canonical same_kind taken]

end Matcher

namespace Rule

inductive Built : Rule → Prop where
  | new {kind : RuleKind} {payload : String} {action : Action} {r : Rule}
      (accepted : Rule.new kind payload action = .ok r) : Built r
  | srcIp (ip : Net.Ip) (action : Action) : Built (.srcIp ip action)
  | dstIp (ip : Net.Ip) (action : Action) : Built (.dstIp ip action)
  | read {i : RuleInfo} {r : Rule} (written : ofInfo i = .ok r) : Built r
  | pinned {r : Rule} {identity : String} (built : Built r) (filled : identity ≠ "") :
      Built (r.pinnedTo identity)

theorem Built.canonical {r : Rule} (built : r.Built) : r.Canonical := by
  induction built with
  | new accepted =>
    obtain ⟨m, read, rfl⟩ := map_eq_ok.1 accepted
    exact ⟨Matcher.canonical_of_ofPayload read, nofun⟩
  | srcIp ip action => exact ⟨Net.Ip.canonical_canonical ip, nofun⟩
  | dstIp ip action => exact ⟨Net.Ip.canonical_canonical ip, nofun⟩
  | read written => exact canonical_of_ofInfo written
  | pinned built filled ih => exact ⟨ih.matcher, by simpa [pinnedTo] using filled⟩

def Alike (r s : Rule) : Prop := r.kind = s.kind ∧ ∀ f, r.appliesTo f = s.appliesTo f

theorem key_eq_iff_appliesTo {r s : Rule} (r_built : r.Built) (s_built : s.Built)
    (same_kind : r.kind = s.kind) : r.key = s.key ↔ ∀ f, r.appliesTo f = s.appliesTo f :=
  Matcher.key_eq_iff_holds r_built.canonical.matcher s_built.canonical.matcher same_kind

theorem Alike.key_eq {r s : Rule} (alike : r.Alike s) (r_built : r.Built) (s_built : s.Built) :
    r.key = s.key :=
  (key_eq_iff_appliesTo r_built s_built alike.1).2 alike.2

end Rule

namespace RuleTable

variable {t : RuleTable} {r s : Rule}

def Built (t : RuleTable) : Prop := ∀ r ∈ t.rules, r.Built

theorem eq_of_alike (built : t.Built) (r_member : r ∈ t.rules) (s_member : s ∈ t.rules)
    (alike : r.Alike s) : r = s := by
  have same_key := alike.key_eq (built r r_member) (built s s_member)
  have found := mem_rules_iff.1 r_member
  rw [same_key, mem_rules_iff.1 s_member] at found
  exact (Option.some.inj found).symm

theorem add_of_alike (built : t.Built) (r_built : r.Built) (s_member : s ∈ t.rules)
    (alike : s.Alike r) : t.add r = (t, false) := by
  have taken : t.find? r.key = some s := by
    rw [← alike.key_eq (built s s_member) r_built]
    exact mem_rules_iff.1 s_member
  rw [add, taken]

theorem add_cases (built : t.Built) (r_built : r.Built) :
    (t.add r).2 = true ∧ r ∈ (t.add r).1.rules ∨
      t.add r = (t, false) ∧ ∃ s ∈ t.rules, s.key = r.key ∧ (s.kind = r.kind → s.Alike r) := by
  cases found : t.find? r.key with
  | none =>
    refine .inl ?_
    rw [add, found]
    exact ⟨rfl, List.mem_cons_self⟩
  | some s =>
    obtain ⟨member, same_key⟩ := find?_eq_some.1 found
    refine .inr ⟨by rw [add, found], s, member, same_key, ?_⟩
    intro same_kind
    exact ⟨same_kind, (Rule.key_eq_iff_appliesTo (built s member) r_built same_kind).1 same_key⟩

end RuleTable

namespace Rule

open RuleTable (Change reached)

/-- A rule however made is the rule of its written form, and among rules of its kind its key tells
what it matches. So no history of a table leaves two rules of one kind that match the same, and a
rule is turned away for another of its kind only if that one matches the same. -/
theorem key_marks_what_is_matched :
    (∀ r : Rule, r.Built → ofInfo r.info = .ok r) ∧
    (∀ r s : Rule, r.Built → s.Built → r.kind = s.kind →
      (r.key = s.key ↔ ∀ f, r.appliesTo f = s.appliesTo f)) ∧
    ∀ changes : List Change, (∀ c ∈ changes, ∀ r ∈ c.writes, r.Built) →
      let t := reached changes
      (∀ r ∈ t.rules, ∀ s ∈ t.rules, r.Alike s → r = s) ∧
      ∀ r : Rule, r.Built →
        (∀ s ∈ t.rules, s.Alike r → t.add r = (t, false)) ∧
        ((t.add r).2 = true ∧ r ∈ (t.add r).1.rules ∨
          t.add r = (t, false) ∧
            ∃ s ∈ t.rules, s.key = r.key ∧ (s.kind = r.kind → s.Alike r)) := by
  refine ⟨?_, ?_, ?_⟩
  · intro r built
    exact ofInfo_info built.canonical
  · intro r s r_built s_built same_kind
    exact key_eq_iff_appliesTo r_built s_built same_kind
  · intro changes written t
    have built : t.Built := RuleTable.mem_reached written
    refine ⟨fun r r_member s s_member => RuleTable.eq_of_alike built r_member s_member, ?_⟩
    intro r r_built
    exact ⟨fun s member => RuleTable.add_of_alike built r_built member,
      RuleTable.add_cases built r_built⟩

/-- An address in brackets that carries another one, and the address that it carries. -/
theorem key_of_carried_address :
    ∃ r s : Rule, Rule.new .dstIp " [::FFFF:1.2.3.4]" .reject = .ok r ∧
      Rule.new .dstIp "1.2.3.4" .direct = .ok s ∧ r.key = s.key ∧
      (∀ f, r.appliesTo f = s.appliesTo f) ∧ ofInfo (s.pinnedTo "a").info = .ok (s.pinnedTo "a") ∧
      (reached [.add s]).add r = (reached [.add s], false) := by
  have first : Rule.new .dstIp " [::FFFF:1.2.3.4]" .reject =
      .ok ⟨.dstIp (.v4 ⟨1, 2, 3, 4⟩), .reject, none⟩ := by rfl
  have second : Rule.new .dstIp "1.2.3.4" .direct =
      .ok ⟨.dstIp (.v4 ⟨1, 2, 3, 4⟩), .direct, none⟩ := by rfl
  obtain ⟨again, marked, histories⟩ := key_marks_what_is_matched
  have r_built := Built.new first
  have s_built := Built.new second
  have match_same := (marked _ _ r_built s_built rfl).1 rfl
  have written : ∀ c ∈ [Change.add ⟨.dstIp (.v4 ⟨1, 2, 3, 4⟩), .direct, none⟩],
      ∀ r ∈ c.writes, r.Built := by
    simpa [Change.writes] using s_built
  obtain ⟨_, offered⟩ := histories _ written
  have turned_away := (offered _ r_built).1 _ List.mem_cons_self ⟨rfl, fun f => (match_same f).symm⟩
  exact ⟨_, _, first, second, rfl, match_same, again _ (.pinned s_built (by decide)), turned_away⟩

end Rule

end ProxyGateway
