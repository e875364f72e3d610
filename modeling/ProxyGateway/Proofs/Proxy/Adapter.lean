import ProxyGateway.Proofs.Identity.Complete
import ProxyGateway.Proofs.Net.HostPort
import ProxyGateway.Proofs.Pool.Roster

namespace ProxyGateway

theorem ProxyRecord.validate_eq_ok {r : ProxyRecord} :
    r.validate = .ok () ↔ Text.trim r.kind ≠ "" ∧ r.server ≠ "" ∧ r.port ≠ 0 := by
  unfold ProxyRecord.validate
  by_cases kind : Text.trim r.kind = "" <;> by_cases server : r.server = "" <;>
    by_cases port : r.port = 0 <;> simp [kind, server, port]

namespace Adapter

structure Made (r : ProxyRecord) (a : Adapter) : Prop where
  valid : r.validate = .ok ()
  identity : Identity.ofRecord r = .ok a.identity
  kind : ProxyKind.ofText r.kind = .ok a.kind
  place : Net.splitHostPort r.address = .ok ⟨a.host, some a.port⟩
  name : a.name = nameFor r a.identity
  record : a.record = r
  metrics : a.metrics = []

variable {r : ProxyRecord} {a : Adapter}

theorem ofRecord_eq_ok : ofRecord r = .ok a ↔ Made r a := by
  constructor
  · intro done
    unfold ofRecord at done
    obtain ⟨_, valid, done⟩ := bind_eq_ok.1 done
    obtain ⟨identity, of_identity, done⟩ := bind_eq_ok.1 done
    obtain ⟨kind, of_kind, done⟩ := bind_eq_ok.1 done
    obtain ⟨⟨host, port⟩, place, done⟩ := bind_eq_ok.1 done
    cases port with
    | none => cases done
    | some port =>
      obtain rfl := Except.ok.inj done
      exact ⟨valid, of_identity, of_kind, place, rfl, rfl, rfl⟩
  · rintro ⟨valid, identity, kind, place, name, record, metrics⟩
    simp only [ofRecord, valid, identity, kind, place, bind, Except.bind, pure, Except.pure]
    rw [← name, ← metrics]
    exact congrArg Except.ok (by rw [← record])

/-- A server that survives being joined with its port is the host of the adapter. -/
theorem Made.endpoint (made : Made r a) (joinable : Net.Joinable r.server) :
    a.host = r.server ∧ a.port = r.port := by
  have joined : Net.splitHostPort r.address = .ok ⟨r.server, some r.port⟩ :=
    Net.splitHostPort_joinHostPort_iff.2 joinable
  have both := made.place
  rw [joined] at both
  obtain ⟨host, port⟩ := Net.HostPort.mk.inj (Except.ok.inj both)
  exact ⟨host.symm, (Option.some.inj port).symm⟩

theorem Made.endpoint_iff (made : Made r a) :
    (a.host = r.server ∧ a.port = r.port) ↔ Net.Joinable r.server := by
  refine ⟨fun kept => ?_, made.endpoint⟩
  have place := made.place
  rw [kept.1, kept.2] at place
  exact Net.splitHostPort_joinHostPort_iff.1 place

theorem Made.kind_of_tag (made : Made r a) {kind : ProxyKind} (tag : r.kind = kind.tag) :
    kind = a.kind := by
  have known := made.kind
  rw [tag, ProxyKind.ofText_tag] at known
  exact Except.ok.inj known

theorem Made.server_ne_empty (made : Made r a) : r.server ≠ "" :=
  (ProxyRecord.validate_eq_ok.1 made.valid).2.1

/-- An adapter can be made of a record whose options hold no tags. -/
theorem exists_made_at {kind : ProxyKind} {host : String} {port : UInt16}
    (valid : r.validate = .ok ()) (known : ProxyKind.ofText r.kind = .ok kind)
    (place : Net.splitHostPort r.address = .ok ⟨host, some port⟩)
    (plain : ∀ e ∈ r.options, ¬ Identity.HoldsTag e.2) :
    ∃ a, Made r a ∧ a.kind = kind ∧ a.host = host ∧ a.port = port := by
  cases written : Identity.canonicalText r with
  | error e =>
    obtain ⟨e, unknown⟩ | ⟨o, member, _, tagged⟩ :=
      (Identity.canonicalText_error_iff r).1 ⟨e, written⟩
    · rw [known] at unknown
      cases unknown
    · exact absurd tagged (plain o member)
  | ok text =>
    obtain ⟨identity, of_identity⟩ : ∃ identity, Identity.ofRecord r = .ok identity :=
      ⟨_, by rw [Identity.ofRecord, written]; rfl⟩
    exact ⟨⟨r, kind, identity, nameFor r identity, host, port, []⟩,
      ⟨valid, of_identity, known, place, rfl, rfl, rfl⟩, rfl, rfl, rfl⟩

theorem exists_made {kind : ProxyKind} (valid : r.validate = .ok ())
    (known : ProxyKind.ofText r.kind = .ok kind) (joinable : Net.Joinable r.server)
    (plain : ∀ e ∈ r.options, ¬ Identity.HoldsTag e.2) : ∃ a, Made r a := by
  have place : Net.splitHostPort r.address = .ok ⟨r.server, some r.port⟩ :=
    Net.splitHostPort_joinHostPort_iff.2 joinable
  obtain ⟨a, made, _⟩ := exists_made_at valid known place plain
  exact ⟨a, made⟩

/-- A record of the same proxy but for its options, each of which its canonical text tells. -/
structure Rewritten (r s : ProxyRecord) : Prop where
  kind : s.kind = r.kind
  server : s.server = r.server
  port : s.port = r.port
  plain : ∀ e ∈ s.options, ¬ Identity.HoldsTag e.2
  told : Identity.SameProxy r s → s.options = r.options

theorem Rewritten.sameProxy_iff {s : ProxyRecord} (rewritten : Rewritten r s) :
    Identity.SameProxy r s ↔ s.options = r.options := by
  refine ⟨rewritten.told, fun same => ⟨?_, rewritten.server.symm, rewritten.port.symm, ?_⟩⟩
  · rw [rewritten.kind]
  · rw [Identity.bag, Identity.bag, same]

theorem text_of_identity {s : String} (made : Identity.ofRecord r = .ok s) :
    ∃ text, Identity.canonicalText r = .ok text := by
  obtain ⟨text, written, _⟩ := map_eq_ok.1 made
  exact ⟨text, written⟩

theorem exists_made_iff (valid : r.validate = .ok ()) (joinable : Net.Joinable r.server) :
    (∃ a, Made r a) ↔ ∃ identity, Identity.ofRecord r = .ok identity := by
  constructor
  · rintro ⟨a, made⟩
    exact ⟨a.identity, made.identity⟩
  · rintro ⟨identity, of_identity⟩
    obtain ⟨text, written⟩ := text_of_identity of_identity
    obtain ⟨kind, known, _⟩ := Identity.kind_of_text written
    exact ⟨⟨r, kind, identity, nameFor r identity, r.server, r.port, []⟩, valid, of_identity, known,
      Net.splitHostPort_joinHostPort_iff.2 joinable, rfl, rfl, rfl⟩

/-- The adapter of a rewritten record is known as the same exactly if no option has changed. -/
theorem Rewritten.twin {s : ProxyRecord} (rewritten : Rewritten r s) (made : Made r a)
    (joinable : Net.Joinable r.server) :
    ∃ b, Made s b ∧
      (Identity.canonicalText s = Identity.canonicalText r ↔ s.options = r.options) ∧
      (s.options = r.options → b.identity = a.identity) := by
  have valid : s.validate = .ok () := by
    rw [← made.valid, ProxyRecord.validate, ProxyRecord.validate, rewritten.kind, rewritten.server,
      rewritten.port]
  obtain ⟨b, twin⟩ := exists_made valid (rewritten.kind ▸ made.kind) (rewritten.server ▸ joinable)
    rewritten.plain
  obtain ⟨text, of_first⟩ := text_of_identity made.identity
  obtain ⟨text', of_second⟩ := text_of_identity twin.identity
  have texts : Identity.canonicalText s = Identity.canonicalText r ↔ s.options = r.options := by
    rw [of_first, of_second, Except.ok.injEq, eq_comm,
      Identity.text_eq_iff_sameProxy of_first of_second, rewritten.sameProxy_iff]
  refine ⟨b, twin, texts, fun same => ?_⟩
  have identities : Identity.ofRecord s = Identity.ofRecord r := by
    rw [Identity.ofRecord, Identity.ofRecord, texts.2 same]
  rw [twin.identity, made.identity] at identities
  exact Except.ok.inj identities

/-- Where a host is found again that was joined with a port, and where an adapter has exactly the
server and the port of its record. -/
theorem joined_endpoint_is_kept :
    (∀ host port, Net.splitHostPort (Net.joinHostPort host port) = .ok ⟨host, some port⟩ ↔
      Net.Joinable host) ∧
    (∀ host, Net.Joinable host ↔
      (':' ∈ host.toList ∧ ']' ∉ host.toList) ∨
      (':' ∉ host.toList ∧ ∀ c, host.toList.head? = some c → c ≠ '[' ∧ Text.isBlank c = false)) ∧
    (∀ r a, ofRecord r = .ok a →
      ((a.host = r.server ∧ a.port = r.port) ↔ Net.Joinable r.server)) ∧
    (∀ r, r.validate = .ok () → Net.Joinable r.server →
      ((∃ a, ofRecord r = .ok a ∧ a.host = r.server ∧ a.port = r.port) ↔
        ∃ identity, Identity.ofRecord r = .ok identity)) := by
  refine ⟨fun host port => Net.splitHostPort_joinHostPort_iff, fun host => ?_, fun r a made => ?_,
    fun r valid joinable => ?_⟩
  · unfold Net.Joinable
    by_cases colon : ':' ∈ host.toList <;> simp [colon]
  · exact (ofRecord_eq_ok.1 made).endpoint_iff
  · rw [← exists_made_iff valid joinable]
    constructor
    · rintro ⟨a, made, _⟩
      exact ⟨a, ofRecord_eq_ok.1 made⟩
    · rintro ⟨a, made⟩
      exact ⟨a, ofRecord_eq_ok.2 made, made.endpoint joinable⟩

end Adapter

namespace Pool

/-- Nothing is known against an adapter that is new in a pool, so it bars all of its identity. -/
theorem hasLiveTwin_add {a : Adapter} (bare : a.metrics = []) (p : Pool) (identity : String) :
    (p.add a).1.hasLiveTwin identity = (p.hasLiveTwin identity || a.identity == identity) := by
  unfold add
  split
  · rename_i twin
    by_cases own : a.identity = identity
    · rw [← own, twin, Bool.true_or]
    · rw [beq_false_of_ne own, Bool.or_false]
  · have hopeful : (unchecked a).knownDead = false :=
      not_knownDead_of_unmeasured (by rw [get?_unchecked, bare]; rfl)
    have own : (unchecked a).identity = a.identity := rfl
    simp [hasLiveTwin, Node.identity, own, hopeful]

theorem add_duplicate {r : ProxyRecord} {a b : Adapter} (made : Adapter.Made r a)
    (same : b.identity = a.identity) (p : Pool) : (p.add a).1.add b = ((p.add a).1, none) := by
  have twin : (p.add a).1.hasLiveTwin b.identity = true := by
    rw [hasLiveTwin_add made.metrics, same, BEq.rfl, Bool.or_true]
  rw [add, if_pos twin]

end Pool

end ProxyGateway
