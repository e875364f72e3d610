import ProxyGateway.Proofs.Pool.Arrivals
import ProxyGateway.Subscription.Provider
/-!
The proxies of a subscription on their way into the pool. Main statement: a document brings in
exactly the proxies that the pool does not have, once, and the same document brings in nothing
more; the order of its entries does not matter for which proxies these are.
-/
namespace ProxyGateway

def adaptersOf (rs : List ProxyRecord) : List Adapter :=
  rs.filterMap fun r => (Adapter.ofRecord r).toOption

theorem adaptersOf_unmeasured (rs : List ProxyRecord) : ∀ a ∈ adaptersOf rs, a.metrics = [] := by
  intro a member
  obtain ⟨r, _, taken⟩ := List.mem_filterMap.1 member
  cases of_record : Adapter.ofRecord r with
  | error e =>
    rw [of_record] at taken
    cases taken
  | ok b =>
    rw [of_record] at taken
    cases taken
    exact (Adapter.ofRecord_eq_ok.1 of_record).metrics

theorem adaptersOf_perm {rs ss : List ProxyRecord} (perm : rs.Perm ss) :
    (adaptersOf rs).Perm (adaptersOf ss) :=
  perm.filterMap _

namespace Engine

theorem register_pool (e : Engine) (a : Adapter) : (e.register a).1.pool = (e.pool.add a).1 := by
  simp only [register, ask]
  cases (e.pool.add a).2 with
  | none => rfl
  | some n =>
    dsimp only
    split <;> rfl

theorem register_of_twin {e : Engine} {a : Adapter} (twin : e.pool.hasLiveTwin a.identity = true) :
    e.register a = (e.tell (.registered a.name), false) := by
  simp only [register, Pool.add, if_pos twin]

theorem register_counts (e : Engine) (a : Adapter) :
    (e.register a).1.pool.all.length =
      e.pool.all.length + (if (e.register a).2 then 1 else 0) := by
  rw [register_pool]
  simp only [register, Pool.add]
  cases e.pool.hasLiveTwin a.identity with
  | true => rfl
  | false => exact List.length_append

theorem registerAll_cons (e : Engine) (r : ProxyRecord) (rs : List ProxyRecord) :
    (∃ error, Adapter.ofRecord r = .error error ∧ adaptersOf (r :: rs) = adaptersOf rs ∧
      e.registerAll (r :: rs) = e.registerAll rs) ∨
    (∃ a, Adapter.ofRecord r = .ok a ∧ adaptersOf (r :: rs) = a :: adaptersOf rs ∧
      e.registerAll (r :: rs) = (((e.register a).1.registerAll rs).1,
        ((e.register a).1.registerAll rs).2 + (if (e.register a).2 then 1 else 0))) := by
  cases of_record : Adapter.ofRecord r with
  | error error =>
    refine .inl ⟨error, rfl, ?_, ?_⟩
    · rw [adaptersOf, List.filterMap_cons, of_record]
      rfl
    · rw [registerAll, registerRecord, of_record]
      rfl
  | ok a =>
    refine .inr ⟨a, rfl, ?_, ?_⟩
    · rw [adaptersOf, List.filterMap_cons, of_record]
      rfl
    · rw [registerAll, registerRecord, of_record]
      change (_, if (e.register a).2 then _ else _) = _
      cases (e.register a).2 <;> rfl

theorem registerAll_pool (e : Engine) (rs : List ProxyRecord) :
    (e.registerAll rs).1.pool = e.pool.addAll (adaptersOf rs) := by
  induction rs generalizing e with
  | nil => rfl
  | cons r rs ih =>
    obtain ⟨_, _, offered, after⟩ | ⟨a, _, offered, after⟩ := e.registerAll_cons r rs
    · rw [after, offered, ih]
    · rw [after, offered, ih, register_pool]
      rfl

theorem registerAll_counts (e : Engine) (rs : List ProxyRecord) :
    (e.registerAll rs).1.pool.all.length = e.pool.all.length + (e.registerAll rs).2 := by
  induction rs generalizing e with
  | nil => rfl
  | cons r rs ih =>
    obtain ⟨_, _, _, after⟩ | ⟨a, _, _, after⟩ := e.registerAll_cons r rs
    · rw [after, ih]
    · rw [after, ih, register_counts, Nat.add_assoc, Nat.add_comm (ite _ _ _)]

/-- Proxies that the pool has are told again, and nothing else happens. -/
theorem registerAll_of_twins {e : Engine} {rs : List ProxyRecord}
    (twins : ∀ a ∈ adaptersOf rs, e.pool.hasLiveTwin a.identity = true) :
    e.registerAll rs =
      ({ e with
        notices := ((adaptersOf rs).map (.registered ·.name)).reverse ++ e.notices }, 0) := by
  induction rs generalizing e with
  | nil => rfl
  | cons r rs ih =>
    obtain ⟨_, _, offered, after⟩ | ⟨a, _, offered, after⟩ := e.registerAll_cons r rs
    · rw [offered] at twins ⊢
      rw [after, ih twins]
    · rw [offered, List.forall_mem_cons] at twins
      have rest := @ih (e.tell (.registered a.name)) twins.2
      rw [after, offered, register_of_twin twins.1, rest]
      simp [tell]

end Engine

namespace Subscription

open Pool (Joined newIdentities)

/-- A content that is no document with proxies is read link by link. -/
theorem records_of_links {content : String} {links : List String}
    (plain : (documentRecords? content).isNone = true)
    (linked : (Text.cutWord [':', '/', '/'] content.toList).isSome = true)
    (lines : ((ShareLink.lines content.toList).map Text.trimChars).filter (· ≠ []) =
      links.map String.toList) :
    records content = links.filterMap fun link => (ShareLink.read link).toOption := by
  rw [records, Option.isNone_iff_eq_none.1 plain]
  simp only [ShareLink.readAll, if_pos linked, lines, List.map_map, List.filterMap_map]
  simp [Function.comp_def]

variable (w : World) (content : String)

theorem register_pool :
    (w.register content).1.engine.pool =
      w.engine.pool.addAll (adaptersOf (records content)) :=
  w.engine.registerAll_pool (records content)

theorem register_count :
    (w.register content).2 =
      (newIdentities w.engine.pool (adaptersOf (records content))).length := by
  obtain ⟨nodes, joined, after⟩ :=
    Pool.addAll_joined (adaptersOf_unmeasured (records content)) w.engine.pool
  have counted : _ = _ + (w.register content).2 := w.engine.registerAll_counts (records content)
  rw [Engine.registerAll_pool, after, List.length_append, Nat.add_left_cancel_iff] at counted
  rw [← counted, ← joined.identities, List.length_map]

theorem register_twice :
    (w.register content).1.register content =
      ({ (w.register content).1 with engine := { (w.register content).1.engine with
          notices := ((adaptersOf (records content)).map (.registered ·.name)).reverse ++
            (w.register content).1.engine.notices } }, 0) := by
  have twins : ∀ a ∈ adaptersOf (records content),
      (w.register content).1.engine.pool.hasLiveTwin a.identity = true := by
    intro a member
    have again : (adaptersOf (records content)).any (·.identity == a.identity) = true :=
      List.any_eq_true.2 ⟨a, member, beq_self_eq_true a.identity⟩
    rw [register_pool, Pool.hasLiveTwin_addAll (adaptersOf_unmeasured _), again, Bool.or_true]
  generalize (w.register content).1 = after at twins
  rw [World.register, Engine.registerAll_of_twins twins]

/-- A document adds one node for each of its proxies without a live twin, and nothing when it comes
again. -/
theorem registration_is_exact :
    (∃ nodes, Joined w.engine.pool (adaptersOf (records content)) nodes ∧
      (w.register content).1.engine.pool = { w.engine.pool with
        all := w.engine.pool.all ++ nodes, next := w.engine.pool.next + nodes.length }) ∧
    (w.register content).2 =
      (newIdentities w.engine.pool (adaptersOf (records content))).length ∧
    (∃ told, (w.register content).1.register content =
      ({ (w.register content).1 with
        engine := { (w.register content).1.engine with notices := told } }, 0)) ∧
    ∀ other, (records content).Perm (records other) →
      (w.register other).2 = (w.register content).2 ∧
      ∀ identity, identity ∈ (w.register other).1.engine.pool.all.map (·.identity) ↔
        identity ∈ (w.register content).1.engine.pool.all.map (·.identity) := by
  have bare := adaptersOf_unmeasured (records content)
  refine ⟨?_, register_count w content, ⟨_, register_twice w content⟩, fun other perm => ⟨?_, ?_⟩⟩
  · rw [register_pool]
    exact Pool.addAll_joined bare w.engine.pool
  · rw [register_count, register_count, Pool.length_newIdentities_perm bare (adaptersOf_perm perm)]
  · intro identity
    rw [register_pool, register_pool, Pool.mem_identities_addAll bare,
      Pool.mem_identities_addAll (adaptersOf_unmeasured _)]
    simp only [(adaptersOf_perm perm).mem_iff]

def idle : World :=
  ⟨.new ⟨"links", "http://127.0.0.1/links", 0, none⟩, .empty, .new .default false [] []⟩

/-- Two links in either order. -/
theorem swapped_links_register_alike :
    (records "ss://a:b@c:80\nss://d:e@f:81").Perm (records "ss://d:e@f:81\nss://a:b@c:80") ∧
    (idle.register "ss://a:b@c:80\nss://d:e@f:81").2 = 2 ∧
    (idle.register "ss://d:e@f:81\nss://a:b@c:80").2 = 2 := by
  have forth := @records_of_links "ss://a:b@c:80\nss://d:e@f:81" ["ss://a:b@c:80", "ss://d:e@f:81"]
    (by decide +kernel) (by decide +kernel) (by decide +kernel)
  have back := @records_of_links "ss://d:e@f:81\nss://a:b@c:80" ["ss://d:e@f:81", "ss://a:b@c:80"]
    (by decide +kernel) (by decide +kernel) (by decide +kernel)
  have perm : (records "ss://a:b@c:80\nss://d:e@f:81").Perm
      (records "ss://d:e@f:81\nss://a:b@c:80") := by
    rw [forth, back]
    exact (List.Perm.swap _ _ _).filterMap _
  have count : (idle.register "ss://a:b@c:80\nss://d:e@f:81").2 = 2 := by decide +kernel
  have alike := ((registration_is_exact idle "ss://a:b@c:80\nss://d:e@f:81").2.2.2 _ perm).1
  exact ⟨perm, count, alike.trans count⟩

end Subscription

end ProxyGateway
