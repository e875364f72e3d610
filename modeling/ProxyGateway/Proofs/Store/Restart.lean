import ProxyGateway.Engine.Basic
import ProxyGateway.Proofs.Rule.Reload
import ProxyGateway.Proofs.Store.Disk
import ProxyGateway.Proofs.Text.Utf8
import ProxyGateway.Proofs.Yaml.Document

namespace ProxyGateway

theorem RuleInfo.ofYaml?_toYaml (i : RuleInfo) : RuleInfo.ofYaml? i.toYaml = some i := by
  obtain ⟨rule, payload, adapter, proxy⟩ := i
  cases proxy <;> rfl

namespace Store

theorem loadRules_of_get? {s : Store} {infos : List RuleInfo}
    (found : s.get? "rule" = some (.seq (infos.map RuleInfo.toYaml))) :
    s.loadRules = .ok infos := by
  rw [loadRules, found]
  simp [List.filterMap_map, RuleInfo.ofYaml?_toYaml]

theorem ruleTable_of_get? {s : Store} {infos : List RuleInfo}
    (found : s.get? "rule" = some (.seq (infos.map RuleInfo.toYaml))) :
    s.ruleTable = RuleTable.ofInfos infos := by
  rw [ruleTable, loadRules_of_get? found]
  rfl

/-- A file with a document that reads back is opened as what the document was written from. -/
theorem openOn_of_document {d : Disk} {path text : String} {m : Yaml.Mapping} (filled : m ≠ [])
    (reads_back : Yaml.ReadsBack m) (written : Yaml.document? m = some text)
    (file : d.read (Path.ofText path) = .ok (Bytes.ofText text)) :
    openOn d path = ⟨path, m, false⟩ := by
  have solid : Text.trim text ≠ "" :=
    Text.trim_ne_empty (Yaml.colon_mem_document filled written) (by decide)
  rw [openOn, file]
  simp only [entriesOf, Text.Utf8.decode_ofText, solid, if_false, reads_back text written]

theorem openOn_flush {root : String} {t : Trouble} {s after : Store} {d e : Disk}
    (dirty : s.dirty = true) (filled : s.values ≠ []) (reads_back : Yaml.ReadsBack s.values)
    (flushed : s.flush root t d = (e, after, .ok ())) :
    openOn e s.path = ⟨s.path, s.values, false⟩ := by
  have outcome := flush_outcome root t d s
  rw [flushed] at outcome
  cases outcome with
  | idle clean => exact absurd (dirty.symm.trans clean) (by decide)
  | saved _ written file => exact openOn_of_document filled reads_back written file

theorem ruleTable_of_saved {s again : Store} {infos : List RuleInfo}
    (kept : again.values = (s.saveRules infos).values) :
    again.ruleTable = RuleTable.ofInfos infos := by
  apply ruleTable_of_get?
  rw [get?, kept]
  exact Yaml.Mapping.get?_insert_self ..

/-- The rules that were handed to a store before it was flushed are there when it is opened again,
and so is all else that the store kept. -/
theorem rules_survive_restart (changes : List RuleTable.Change) (sound : ∀ c ∈ changes, c.Sound)
    {root : String} {trouble : Trouble} {s after : Store} {d e : Disk}
    (reads_back : Yaml.ReadsBack (s.saveRules (RuleTable.reached changes).infos).values)
    (flushed : (s.saveRules (RuleTable.reached changes).infos).flush root trouble d =
      (e, after, .ok ())) :
    let t := RuleTable.reached changes
    let again := Store.openOn e s.path
    (∀ key, again.ruleTable.find? key = t.find? key) ∧
    (∀ f r, (r ∈ again.ruleTable.rules ∧ r.appliesTo f) ↔ (r ∈ t.rules ∧ r.appliesTo f)) ∧
    (∀ key, key ≠ ruleKey →
      Yaml.Mapping.get? again.values key = Yaml.Mapping.get? s.values key) ∧
    (∀ key r, t.find? key = some r → r.key = key) ∧
    ∀ engine : Engine, engine.rules = t → ∀ probe resolves peers key,
      (Engine.new probe resolves peers engine.storeRules.stored).rules.find? key = t.find? key := by
  intro t again
  have canonical : ∀ r ∈ t.rules, r.Canonical := fun r member =>
    (RuleTable.mem_reached sound r member).canonical
  have opened : again = ⟨s.path, (s.saveRules t.infos).values, false⟩ :=
    openOn_flush rfl (Yaml.Mapping.insert_ne_nil _ _ _) reads_back flushed
  have values : again.values = (s.saveRules t.infos).values := by rw [opened]
  have same : ∀ key, again.ruleTable.find? key = t.find? key := fun key => by
    rw [ruleTable_of_saved values, RuleTable.find?_ofInfos_infos canonical]
  refine ⟨same, RuleTable.applies_congr same, fun key other => ?_, fun key r found => ?_, ?_⟩
  · rw [values]
    exact Yaml.Mapping.get?_insert_of_ne s.values other _
  · exact (RuleTable.find?_eq_some.1 found).2
  · intro engine rules probe resolves peers key
    have stored : engine.storeRules.stored = t.infos := by rw [← rules]; rfl
    rw [stored]
    exact RuleTable.find?_ofInfos_infos canonical key

def writtenRules : List RuleInfo :=
  [⟨"dstip", "[2001:DB8::0:1]", "Reject", some ""⟩, ⟨"ScrIp", "::ffff:1.2.3.4", "PROXY", some "x"⟩]

def keptRules : List RuleInfo :=
  [⟨"SrcIp", "1.2.3.4", "Proxy", some "x"⟩, ⟨"DstIp", "2001:db8::1", "Reject", none⟩]

def seeded : Store := ⟨"data/store.yaml", [(.str "seed", .num (.whole 7))], false⟩

theorem infos_writtenRules : (RuleTable.reached [.load writtenRules]).infos = keptRules := by
  have rules : (RuleTable.reached [.load writtenRules]).rules.map Rule.info = keptRules := by
    decide +kernel
  rw [RuleTable.infos, rules]
  exact List.mergeSort_of_pairwise (by decide +kernel)

theorem written_rules_survive :
    Yaml.ReadsBack (seeded.saveRules keptRules).values ∧
      ((seeded.saveRules keptRules).flush "" .none .empty).2.2 = .ok () ∧
      (openOn ((seeded.saveRules keptRules).flush "" .none .empty).1 seeded.path).ruleTable.find?
        "1.2.3.4" = some ⟨.srcIp (.v4 ⟨1, 2, 3, 4⟩), .proxy, some "x"⟩ := by
  have sound : ∀ c ∈ [RuleTable.Change.load writtenRules], c.Sound :=
    List.forall_mem_singleton.2 (RuleTable.Change.sound_load writtenRules)
  have reads_back : Yaml.ReadsBack (seeded.saveRules keptRules).values := by decide +kernel
  have done : ((seeded.saveRules keptRules).flush "" .none .empty).2.2 = .ok () := by decide +kernel
  have flushed : (seeded.saveRules keptRules).flush "" .none .empty =
      (((seeded.saveRules keptRules).flush "" .none .empty).1,
        ((seeded.saveRules keptRules).flush "" .none .empty).2.1, .ok ()) :=
    Prod.ext rfl (Prod.ext rfl done)
  have survive := rules_survive_restart [.load writtenRules] sound
    (by rw [infos_writtenRules]; exact reads_back) (by rw [infos_writtenRules]; exact flushed)
  exact ⟨reads_back, done, (survive.1 "1.2.3.4").trans (by decide +kernel)⟩

end Store

end ProxyGateway
