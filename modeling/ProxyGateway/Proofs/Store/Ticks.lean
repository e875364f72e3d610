import ProxyGateway.Gateway
import ProxyGateway.Proofs.Store.Durable
/-!
A table of rules with a store behind it. Rules are learned and removed in the table alone, a sync
hands the whole table to the store, and the ticks of the flusher write the store. Main statement:
after a tick that has worked the file has the rules of the last sync, which are those of the table
only if it holds the same rules as then.
-/
namespace ProxyGateway

structure Backed where
  table : RuleTable
  kept : Store.Situation

namespace Backed

inductive Event where
  | change (c : RuleTable.Change)
  | sync
  | tick (answer : Except Error Unit)

def opened (d : Disk) (path : String) : Backed :=
  ⟨(Store.openOn d path).ruleTable, ⟨d, Store.openOn d path⟩⟩

/-- One event. Whatever a change writes was read from a written rule or learned. -/
inductive Step : Backed → Event → Backed → Prop where
  | change (s : Backed) {c : RuleTable.Change} (sound : c.Sound) :
      Step s (.change c) { s with table := c.apply s.table }
  | sync (s : Backed) :
      Step s .sync { s with kept.store := s.kept.store.saveRules s.table.infos }
  | tick {s : Backed} {answer : Except Error Unit} {kept : Store.Situation}
      (flushed : Store.Step s.kept (.flush answer) kept) :
      Step s (.tick answer) { s with kept }

/-- Events one after the other since the store was opened, the last one in front. -/
inductive History (path : String) (d : Disk) : List Event → Backed → Prop where
  | opened : History path d [] (opened d path)
  | step {past : List Event} {s s' : Backed} {e : Event} (before : History path d past s)
      (next : Step s e s') : History path d (e :: past) s'

def tableAfter (start : RuleTable) : List Event → RuleTable
  | [] => start
  | .change c :: past => c.apply (tableAfter start past)
  | .sync :: past | .tick _ :: past => tableAfter start past

/-- The table as it was handed to the store last, if it ever was. -/
def synced? (start : RuleTable) : List Event → Option RuleTable
  | [] => none
  | .sync :: past => some (tableAfter start past)
  | .change _ :: past | .tick _ :: past => synced? start past

/-- The table that the store knows: before any sync it is the one that was loaded. -/
def knownTable (start : RuleTable) (past : List Event) : RuleTable :=
  (synced? start past).getD start

def storeEvents (start : RuleTable) : List Event → List Store.Event
  | [] => []
  | .change _ :: past => storeEvents start past
  | .sync :: past => .saveRules (tableAfter start past).infos :: storeEvents start past
  | .tick answer :: past => .flush answer :: storeEvents start past

theorem lastSet?_storeEvents (start : RuleTable) (past : List Event) :
    Store.lastSet? (storeEvents start past) Store.ruleKey =
      (synced? start past).map fun t => .seq (t.infos.map RuleInfo.toYaml) := by
  induction past with
  | nil => rfl
  | cons e past ih =>
    cases e with
    | change c => exact ih
    | sync => simp [storeEvents, synced?, Store.lastSet?, Store.Event.put?, Option.filter]
    | tick answer => exact ih

theorem synced?_eq_none {start : RuleTable} {past : List Event} :
    synced? start past = none ↔ .sync ∉ past := by
  induction past with
  | nil => simp [synced?]
  | cons e past ih => cases e <;> simp [synced?, ih]

theorem anySet_storeEvents {start : RuleTable} {past : List Event} :
    Store.AnySet (storeEvents start past) ↔ .sync ∈ past := by
  induction past with
  | nil => simp [Store.AnySet, storeEvents]
  | cons e past ih =>
    cases e with
    | change c => simpa [storeEvents] using ih
    | sync => exact iff_of_true ⟨_, List.mem_cons_self, nofun⟩ List.mem_cons_self
    | tick answer =>
      have apart : (Event.sync ∈ .tick answer :: past) ↔ .sync ∈ past := by simp
      exact ⟨fun any => apart.2 (ih.1 any.of_flush), fun synced => (ih.2 (apart.1 synced)).later _⟩

theorem made_opened (s : Store) : ∀ r ∈ s.ruleTable.rules, r.Made := by
  have sound : ∀ c ∈ [RuleTable.Change.load (s.loadRules.toOption.getD [])], c.Sound :=
    List.forall_mem_singleton.2 (RuleTable.Change.sound_load _)
  exact RuleTable.mem_reached sound

structure Traced (path : String) (d : Disk) (past : List Event) (s : Backed) : Prop where
  table : s.table = tableAfter (Store.openOn d path).ruleTable past
  made : ∀ r ∈ s.table.rules, r.Made
  synced_made : ∀ t, synced? (Store.openOn d path).ruleTable past = some t →
    ∀ r ∈ t.rules, r.Made
  kept : Store.History path d (storeEvents (Store.openOn d path).ruleTable past) s.kept

theorem Step.traced {path : String} {d : Disk} {past : List Event} {s s' : Backed} {e : Event}
    (traced : Traced path d past s) (next : Step s e s') : Traced path d (e :: past) s' := by
  cases next with
  | @change c sound =>
    refine ⟨congrArg c.apply traced.table, fun r member => ?_, traced.synced_made, traced.kept⟩
    rcases RuleTable.mem_apply member with old | new
    · exact traced.made r old
    · exact sound r new
  | sync =>
    have saved := traced.kept.step (.saveRules s.kept s.table.infos)
    refine ⟨traced.table, traced.made, fun t handed => ?_, ?_⟩
    · obtain rfl := Option.some.inj handed
      exact traced.table ▸ traced.made
    · rw [traced.table] at saved ⊢
      exact saved
  | tick flushed =>
    exact ⟨traced.table, traced.made, traced.synced_made, traced.kept.step flushed⟩

theorem History.traced {path : String} {d : Disk} {past : List Event} {s : Backed}
    (history : History path d past s) : Traced path d past s := by
  induction history with
  | opened => exact ⟨rfl, made_opened _, nofun, .opened⟩
  | step _ next ih => exact next.traced ih

/-- With nothing left to write the file has the rules of the last sync, and else those that it had
when it was opened. -/
theorem Traced.find?_again {path : String} {d : Disk} {past : List Event} {t : Backed}
    (traced : Traced path d past t) (clean : t.kept.store.dirty = false)
    (reads_back : .sync ∈ past → Yaml.ReadsBack t.kept.store.values) (key : String) :
    (Store.openOn t.kept.disk path).ruleTable.find? key =
      (knownTable (Store.openOn d path).ruleTable past).find? key := by
  have coherent := traced.kept.coherent
  unfold knownTable
  cases handed : synced? (Store.openOn d path).ruleTable past with
  | none =>
    have unset : ¬ Store.AnySet (storeEvents (Store.openOn d path).ruleTable past) :=
      mt anySet_storeEvents.1 (synced?_eq_none.1 handed)
    rw [coherent.unset unset]
    rfl
  | some table =>
    have synced : .sync ∈ past := by
      by_contra never
      rw [synced?_eq_none.2 never] at handed
      cases handed
    have again := coherent.found_again clean (anySet_storeEvents.2 synced) (reads_back synced)
    have found : t.kept.store.get? "rule" = some (.seq (table.infos.map RuleInfo.toYaml)) := by
      change Yaml.Mapping.get? t.kept.store.values Store.ruleKey = _
      rw [coherent.values, Store.get?_valuesAfter, lastSet?_storeEvents, handed]
      rfl
    have canonical : ∀ r ∈ table.rules, r.Canonical := fun r member =>
      (traced.synced_made table handed r member).canonical
    rw [again, Store.ruleTable_of_get? found, RuleTable.find?_ofInfos_infos canonical]
    rfl

structure Ticked (start : RuleTable) (past : List Event) (t : Backed) (again : RuleTable) :
    Prop where
  table : t.table = tableAfter start past
  found_again : ∀ key, again.find? key = (knownTable start past).find? key
  complete_iff : (∀ key, again.find? key = t.table.find? key) ↔
    ∀ key, (knownTable start past).find? key = (tableAfter start past).find? key
  complete_after_sync : past.head? = some .sync → ∀ key, again.find? key = t.table.find? key

theorem find?_after_tick {path : String} {d : Disk} {past : List Event} {s t : Backed}
    (history : History path d past s) (ticked : Step s (.tick (.ok ())) t)
    (reads_back : .sync ∈ past → Yaml.ReadsBack s.kept.store.values) (key : String) :
    (Store.openOn t.kept.disk path).ruleTable.find? key =
      (knownTable (Store.openOn d path).ruleTable past).find? key := by
  have traced := (history.step ticked).traced
  cases ticked with
  | tick flushed =>
    obtain ⟨kept, clean⟩ := flushed.of_worked
    refine traced.find?_again clean (fun synced => ?_) key
    rw [kept]
    exact reads_back (by simpa using synced)

/-- After a tick that has worked the file has the rules that were synced last. -/
theorem ticked_file_has_last_sync {path : String} {d : Disk} {past : List Event} {s t : Backed}
    (history : History path d past s) (ticked : Step s (.tick (.ok ())) t)
    (reads_back : .sync ∈ past → Yaml.ReadsBack s.kept.store.values) :
    Ticked (Store.openOn d path).ruleTable past t (Store.openOn t.kept.disk path).ruleTable := by
  have table : t.table = tableAfter (Store.openOn d path).ruleTable past :=
    (history.step ticked).traced.table
  have found_again := find?_after_tick history ticked reads_back
  refine ⟨table, found_again, ?_, fun last key => ?_⟩
  · simp only [found_again, table]
  · obtain ⟨early, rfl⟩ := List.head?_eq_some_iff.1 last
    rw [found_again, table]
    rfl

/-! The gateway is such a table: it loads its rules when it is made, and its end is a sync and one
more flush. -/

def ofGateway (g : Gateway) : Backed := ⟨g.engine.rules, ⟨g.disk, g.store⟩⟩

theorem ofGateway_new {c : Config} {d : Disk} {g : Gateway} (made : Gateway.new c d = .ok g) :
    ofGateway g = opened d c.storePath := by
  unfold Gateway.new at made
  dsimp only at made
  split at made
  · obtain ⟨_, _, made⟩ := bind_eq_ok.1 made
    obtain ⟨_, _, made⟩ := bind_eq_ok.1 made
    cases made
    rfl
  · obtain ⟨_, _, made⟩ := bind_eq_ok.1 made
    cases made
    rfl

theorem Step.of_storeRules (g : Gateway) : Step (ofGateway g) .sync (ofGateway g.storeRules) :=
  .sync (ofGateway g)

theorem Step.of_flush (root : String) (t : Store.Trouble) (g : Gateway) :
    Step (ofGateway g) (.tick (g.flush root t).2) (ofGateway (g.flush root t).1) :=
  .tick (.flush (s := ⟨g.disk, g.store⟩) root t rfl)

/-- A gateway that has ended without a fault has left all its rules on file. -/
theorem find?_after_finish {path root : String} {t : Store.Trouble} {d : Disk} {past : List Event}
    {g : Gateway} (history : History path d past (ofGateway g))
    (done : (g.finish root t).2 = .ok ()) (reads_back : Yaml.ReadsBack g.storeRules.store.values)
    (key : String) :
    (Store.openOn (g.finish root t).1.disk path).ruleTable.find? key = g.engine.rules.find? key := by
  have synced := history.step (.of_storeRules g)
  have ticked := Step.of_flush root t g.storeRules
  have done : (g.storeRules.flush root t).2 = .ok () := done
  rw [done] at ticked
  have table : g.engine.rules = tableAfter (Store.openOn d path).ruleTable past :=
    history.traced.table
  rw [table]
  exact find?_after_tick synced ticked (fun _ => reads_back) key

/-! A lesson that replaces what was pinned to a node that has failed. -/

def freshLesson : Rule := ⟨.dstIp (.v4 ⟨1, 2, 3, 4⟩), .proxy, some "fresh"⟩

theorem freshLesson_sound : (RuleTable.Change.repin freshLesson "stale").Sound := by
  intro r member
  obtain rfl := List.mem_singleton.1 member
  exact .read (Rule.ofInfo_info ⟨rfl, by decide⟩)

def taught : Backed := ⟨.put .empty freshLesson, ⟨.empty, Store.openOn .empty Store.storePath⟩⟩

theorem taught_history :
    History Store.storePath .empty [.change (.repin freshLesson "stale")] taught :=
  .step .opened (.change _ freshLesson_sound)

/-- After a sync the next tick writes the lesson. -/
theorem synced_lesson_is_on_file :
    let handed := taught.kept.store.saveRules [freshLesson.info]
    (handed.flush "" .none .empty).2.2 = .ok () ∧
      (Store.openOn (handed.flush "" .none .empty).1 Store.storePath).ruleTable.find? "1.2.3.4" =
        some freshLesson := by
  intro handed
  have infos : taught.table.infos = [freshLesson.info] := List.mergeSort_singleton _
  have done : (handed.flush "" .none .empty).2.2 = .ok () := by decide +kernel
  have reads_back : Yaml.ReadsBack handed.values := by decide +kernel
  have learned : taught.table.find? "1.2.3.4" = some freshLesson := by decide +kernel
  have ticked (store : Store) (saved : store = taught.kept.store.saveRules taught.table.infos)
      (done : (store.flush "" .none .empty).2.2 = .ok ())
      (reads_back : Yaml.ReadsBack store.values) :
      (Store.openOn (store.flush "" .none .empty).1 Store.storePath).ruleTable.find? "1.2.3.4" =
        some freshLesson := by
    have synced := taught_history.step (.sync taught)
    rw [← saved] at synced
    have flushed : Store.Step ⟨.empty, store⟩ (.flush (.ok ()))
        ⟨(store.flush "" .none .empty).1, (store.flush "" .none .empty).2.1⟩ :=
      .flush "" .none (Prod.ext rfl (Prod.ext rfl done))
    have kept := ticked_file_has_last_sync synced (.tick flushed) fun _ => reads_back
    exact (kept.complete_after_sync rfl "1.2.3.4").trans learned
  have found := ticked handed (by rw [infos]) done reads_back
  exact ⟨done, found⟩

/-- Without one the tick has nothing to write, and a restart forgets the lesson. -/
theorem lesson_misses_tick :
    History Store.storePath .empty [.change (.repin freshLesson "stale")] taught ∧
      ∃ t, Step taught (.tick (.ok ())) t ∧ t.table.find? "1.2.3.4" = some freshLesson ∧
        (Store.openOn t.kept.disk Store.storePath).ruleTable.find? "1.2.3.4" = none := by
  have idle : Step taught (.tick (.ok ())) taught :=
    .tick (.flush "" .none rfl)
  exact ⟨taught_history, taught, idle, by decide +kernel, by decide +kernel⟩

end Backed

end ProxyGateway
