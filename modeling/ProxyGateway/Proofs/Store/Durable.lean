import ProxyGateway.Proofs.Store.Restart
/-!
The life of a store from its opening on: values are set, rules are handed to it, and flushes work or
fail for any reason. Main statement: what was set is in memory at once, no flush that fails takes
anything away, and a store with nothing left to write is found again in its file.
-/
namespace ProxyGateway.Store

structure Situation where
  disk : Disk
  store : Store

inductive Event where
  | set (key : String) (value : Yaml)
  | saveRules (rules : List RuleInfo)
  | flush (answer : Except Error Unit)

/-- One event. A flush may be broken off wherever the system likes. -/
inductive Step : Situation → Event → Situation → Prop where
  | set (s : Situation) (key : String) (value : Yaml) :
      Step s (.set key value) { s with store := s.store.set key value }
  | saveRules (s : Situation) (rules : List RuleInfo) :
      Step s (.saveRules rules) { s with store := s.store.saveRules rules }
  | flush {s : Situation} {e : Disk} {store : Store} {answer : Except Error Unit} (root : String)
      (t : Trouble) (done : s.store.flush root t s.disk = (e, store, answer)) :
      Step s (.flush answer) ⟨e, store⟩

theorem Step.outcome {s t : Situation} {answer : Except Error Unit}
    (next : Step s (.flush answer) t) : Outcome s.disk s.store (t.disk, t.store, answer) := by
  cases next with
  | flush root trouble done => exact done ▸ flush_outcome root trouble s.disk s.store

/-- Events one after the other since a store was opened, the last one in front. -/
inductive History (path : String) (d : Disk) : List Event → Situation → Prop where
  | opened : History path d [] ⟨d, openOn d path⟩
  | step {past : List Event} {s s' : Situation} {e : Event} (before : History path d past s)
      (next : Step s e s') : History path d (e :: past) s'

def Event.put? : Event → Option (Yaml × Yaml)
  | .set key value => some (.str key, value)
  | .saveRules rules => some (ruleKey, .seq (rules.map RuleInfo.toYaml))
  | .flush _ => none

def Event.overlay (e : Event) (m : Yaml.Mapping) : Yaml.Mapping :=
  match e.put? with
  | some (key, value) => m.insert key value
  | none => m

def valuesAfter (opened : Yaml.Mapping) (past : List Event) : Yaml.Mapping :=
  past.foldr Event.overlay opened

def lastSet? (past : List Event) (key : Yaml) : Option Yaml :=
  past.findSome? fun e => (e.put?.filter (·.1 = key)).map (·.2)

def AnySet (past : List Event) : Prop := ∃ e ∈ past, e.put? ≠ none

/-- Whether anything was set since the last flush that has worked. -/
def unsaved : List Event → Bool
  | [] => false
  | .flush (.ok _) :: _ => false
  | .flush (.error _) :: past => unsaved past
  | .set _ _ :: _ | .saveRules _ :: _ => true

/-- Whether a flush that had something to write has worked. -/
def Replaced (past : List Event) : Prop :=
  ∃ early, .flush (.ok ()) :: early <:+ past ∧ unsaved early = true

def Holds (d : Disk) (p : Path) (m : Yaml.Mapping) : Prop :=
  ∃ b text, d.read p = .ok b ∧ Text.Utf8.decode? b = some text ∧ Text.trim text ≠ "" ∧
    Yaml.ofText text = .ok (.map m)

theorem openOn_of_holds {d : Disk} {path : String} {m : Yaml.Mapping}
    (holds : Holds d (Path.ofText path) m) : openOn d path = ⟨path, m, false⟩ := by
  obtain ⟨b, text, file, decoded, solid, parsed⟩ := holds
  rw [openOn, file]
  simp only [entriesOf, decoded, solid, if_false, parsed]

theorem openOn_of_useless {d : Disk} {path : String}
    (useless : ∀ m, ¬ Holds d (Path.ofText path) m) : openOn d path = ⟨path, [], false⟩ := by
  unfold openOn
  split
  · rename_i b file
    unfold entriesOf
    split
    · rfl
    · rename_i text decoded
      split
      · rfl
      · rename_i solid
        split
        · rename_i m parsed
          exact absurd ⟨b, text, file, decoded, solid, parsed⟩ (useless m)
        · rfl
  · rfl

theorem openOn_fresh (d : Disk) (path : String) :
    (openOn d path).path = path ∧ (openOn d path).dirty = false := by
  unfold openOn
  split <;> exact ⟨rfl, rfl⟩

theorem get?_valuesAfter (opened : Yaml.Mapping) (past : List Event) (key : Yaml) :
    Yaml.Mapping.get? (valuesAfter opened past) key =
      (lastSet? past key).or (Yaml.Mapping.get? opened key) := by
  induction past with
  | nil => rfl
  | cons e past ih =>
    have put (k : String) (v : Yaml) (puts : e.put? = some (.str k, v)) :
        Yaml.Mapping.get? (valuesAfter opened (e :: past)) key =
          (lastSet? (e :: past) key).or (Yaml.Mapping.get? opened key) := by
      change Yaml.Mapping.get? (e.overlay (valuesAfter opened past)) key = _
      by_cases own : key = .str k
      · subst own
        simp [Event.overlay, puts, Yaml.Mapping.get?_insert_self, lastSet?, Option.filter]
      · have other : (lastSet? (e :: past) key) = lastSet? past key := by
          simp [lastSet?, puts, Option.filter, Ne.symm own]
        simp only [Event.overlay, puts]
        rw [Yaml.Mapping.get?_insert_of_ne _ own, ih, other]
    cases e with
    | set k v => exact put k v rfl
    | saveRules rules => exact put "rule" _ rfl
    | flush answer => exact ih

theorem valuesAfter_ne_nil {opened : Yaml.Mapping} {past : List Event} (any : AnySet past) :
    valuesAfter opened past ≠ [] := by
  induction past with
  | nil =>
    obtain ⟨e, member, _⟩ := any
    exact absurd member List.not_mem_nil
  | cons e past ih =>
    change e.overlay (valuesAfter opened past) ≠ []
    unfold Event.overlay
    split
    · exact Yaml.Mapping.insert_ne_nil _ _ _
    · rename_i none
      obtain ⟨x, member, sets⟩ := any
      rcases List.mem_cons.1 member with rfl | member
      · exact absurd none sets
      · exact ih ⟨x, member, sets⟩

/-- The invariant of a history: the flag says whether something is left to write, and where nothing
is, the file is the document of what is in memory. -/
structure Coherent (path : String) (first : Disk) (past : List Event) (s : Situation) : Prop where
  place : s.store.path = path
  values : s.store.values = valuesAfter (openOn first path).values past
  dirty : s.store.dirty = unsaved past
  unset : ¬ AnySet past → s.disk = first
  saved : unsaved past = false → AnySet past → ∃ text,
    Yaml.document? s.store.values = some text ∧
      s.disk.read (Path.ofText path) = .ok (Bytes.ofText text)

theorem Replaced.later {past : List Event} (replaced : Replaced past) (e : Event) :
    Replaced (e :: past) := by
  obtain ⟨early, before, left⟩ := replaced
  exact ⟨early, before.trans (List.suffix_cons e past), left⟩

theorem AnySet.later {past : List Event} (any : AnySet past) (e : Event) : AnySet (e :: past) := by
  obtain ⟨x, member, sets⟩ := any
  exact ⟨x, List.mem_cons_of_mem e member, sets⟩

theorem anySet_of_unsaved {past : List Event} (left : unsaved past = true) : AnySet past := by
  induction past with
  | nil => cases left
  | cons e past ih =>
    match e with
    | .set key value => exact ⟨_, List.mem_cons_self, nofun⟩
    | .saveRules rules => exact ⟨_, List.mem_cons_self, nofun⟩
    | .flush (.ok _) => cases left
    | .flush (.error _) => exact (ih left).later _

theorem AnySet.of_flush {past : List Event} {answer : Except Error Unit}
    (any : AnySet (.flush answer :: past)) : AnySet past := by
  obtain ⟨e, member, sets⟩ := any
  rcases List.mem_cons.1 member with rfl | member
  · exact absurd rfl sets
  · exact ⟨e, member, sets⟩

theorem Step.coherent {path : String} {first : Disk} {past : List Event} {s s' : Situation}
    {e : Event} (coherent : Coherent path first past s) (next : Step s e s') :
    Coherent path first (e :: past) s' := by
  cases e with
  | set key value =>
    cases next
    refine ⟨coherent.place, ?_, rfl, fun unset => ?_, nofun⟩
    · exact congrArg (Event.set key value).overlay coherent.values
    · exact absurd ⟨_, List.mem_cons_self, nofun⟩ unset
  | saveRules rules =>
    cases next
    refine ⟨coherent.place, ?_, rfl, fun unset => ?_, nofun⟩
    · exact congrArg (Event.saveRules rules).overlay coherent.values
    · exact absurd ⟨_, List.mem_cons_self, nofun⟩ unset
  | flush answer =>
    obtain ⟨disk, store⟩ := s'
    have something (dirty : s.store.dirty = true) : AnySet (.flush answer :: past) :=
      (anySet_of_unsaved (coherent.dirty ▸ dirty)).later _
    cases next.outcome with
    | idle clean =>
      have nothing : unsaved past = false := coherent.dirty ▸ clean
      exact ⟨coherent.place, coherent.values, clean,
        fun unset => coherent.unset fun any => unset (any.later _),
        fun _ any => coherent.saved nothing any.of_flush⟩
    | saved dirty document file =>
      exact ⟨coherent.place, coherent.values, rfl, fun unset => absurd (something dirty) unset,
        fun _ _ => ⟨_, document, coherent.place ▸ file⟩⟩
    | failed why dirty same =>
      have left : unsaved past = true := coherent.dirty ▸ dirty
      exact ⟨coherent.place, coherent.values, coherent.dirty,
        fun unset => absurd (something dirty) unset,
        fun nothing => absurd (left.symm.trans nothing) (by decide)⟩

theorem History.coherent {path : String} {first : Disk} {past : List Event} {s : Situation}
    (history : History path first past s) : Coherent path first past s := by
  induction history with
  | opened =>
    obtain ⟨own, clean⟩ := openOn_fresh first path
    refine ⟨own, rfl, clean, fun _ => rfl, fun _ any => ?_⟩
    obtain ⟨e, member, _⟩ := any
    exact absurd member List.not_mem_nil
  | step _ next ih => exact next.coherent ih

theorem Step.of_worked {s t : Situation} (worked : Step s (.flush (.ok ())) t) :
    t.store.values = s.store.values ∧ t.store.dirty = false := by
  obtain ⟨disk, store⟩ := t
  cases worked.outcome with
  | idle clean => exact ⟨rfl, clean⟩
  | saved => exact ⟨rfl, rfl⟩

theorem Step.of_failed {s t : Situation} {why : Error} (named : OwnName s.store.path)
    (failed : Step s (.flush (.error why)) t) :
    t.store = s.store ∧ t.store.dirty = true ∧
      t.disk.document? (Path.ofText s.store.path) = s.disk.document? (Path.ofText s.store.path) := by
  obtain ⟨disk, store⟩ := t
  cases failed.outcome with
  | failed _ dirty same => exact ⟨rfl, dirty, same named⟩

theorem Step.of_unneeded {s t : Situation} (worked : Step s (.flush (.ok ())) t)
    (clean : s.store.dirty = false) : t.disk = s.disk := by
  obtain ⟨disk, store⟩ := t
  cases worked.outcome with
  | idle => rfl
  | saved dirty => exact absurd (clean.symm.trans dirty) (by decide)

theorem History.untouched {path : String} {first : Disk} {past : List Event} {s : Situation}
    (named : OwnName path) (history : History path first past s) (other : ¬ Replaced past) :
    s.disk.document? (Path.ofText path) = first.document? (Path.ofText path) := by
  induction history with
  | opened => rfl
  | @step past s t e before next ih =>
    have same := ih fun replaced => other (replaced.later e)
    have place := before.coherent.place
    cases e with
    | set | saveRules =>
      cases next
      exact same
    | flush answer =>
      cases answer with
      | error why =>
        obtain ⟨_, _, kept⟩ := next.of_failed (place.symm ▸ named)
        rw [place] at kept
        exact kept.trans same
      | ok =>
        have clean : s.store.dirty = false := by
          rw [before.coherent.dirty, Bool.eq_false_iff]
          exact fun left => other ⟨past, List.suffix_refl _, left⟩
        rw [next.of_unneeded clean]
        exact same

structure Durable (path : String) (first : Disk) (past : List Event) (s : Situation) : Prop where
  opened : ∀ m, Holds first (Path.ofText path) m → (openOn first path).values = m
  useless : (∀ m, ¬ Holds first (Path.ofText path) m) → (openOn first path).values = []
  values : s.store.values = valuesAfter (openOn first path).values past
  looked_up : ∀ key, Yaml.Mapping.get? s.store.values key =
    (lastSet? past key).or (Yaml.Mapping.get? (openOn first path).values key)
  dirty : s.store.dirty = unsaved past
  untouched : ¬ Replaced past →
    s.disk.document? (Path.ofText path) = first.document? (Path.ofText path)
  /-- A flush that fails changes neither the store nor the file. -/
  refused : ∀ why t, Step s (.flush (.error why)) t → t.store = s.store ∧ t.store.dirty = true ∧
    t.disk.document? (Path.ofText path) = s.disk.document? (Path.ofText path)
  /-- With nothing left to write the file is opened as the store that is in memory. -/
  found_again : s.store.dirty = false → AnySet past → Yaml.ReadsBack s.store.values →
    openOn s.disk path = s.store
  /-- The next flush that works leaves a file with all that was set. -/
  persisted : ∀ t, Step s (.flush (.ok ())) t → AnySet past → Yaml.ReadsBack s.store.values →
    t.store.values = s.store.values ∧ openOn t.disk path = t.store

theorem Coherent.found_again {path : String} {first : Disk} {past : List Event} {s : Situation}
    (coherent : Coherent path first past s) (clean : s.store.dirty = false) (any : AnySet past)
    (reads_back : Yaml.ReadsBack s.store.values) : openOn s.disk path = s.store := by
  obtain ⟨text, document, file⟩ := coherent.saved (coherent.dirty ▸ clean) any
  have filled : s.store.values ≠ [] := by
    rw [coherent.values]
    exact valuesAfter_ne_nil any
  rw [openOn_of_document filled reads_back document file, ← coherent.place, ← clean]

/-- In every history of a store nothing that was set is lost, wherever its flushes are broken off. -/
theorem no_write_is_lost {path : String} {first : Disk} {past : List Event} {now : Situation}
    (named : OwnName path) (history : History path first past now) :
    Durable path first past now where
  opened m holds := by rw [openOn_of_holds holds]
  useless none := by rw [openOn_of_useless none]
  values := history.coherent.values
  looked_up key := by
    rw [history.coherent.values]
    exact get?_valuesAfter _ past key
  dirty := history.coherent.dirty
  untouched := history.untouched named
  refused why t next := by
    have place := history.coherent.place
    have failed := next.of_failed (place.symm ▸ named)
    rwa [place] at failed
  found_again := history.coherent.found_again
  persisted t next any reads_back := by
    obtain ⟨kept, clean⟩ := next.of_worked
    exact ⟨kept, (next.coherent history.coherent).found_again clean (any.later _) (kept ▸ reads_back)⟩

def storePath : String := "data/store.yaml"

def foundDisk : Disk :=
  (Disk.empty.put ["data"] .folder).put ["data", "store.yaml"] (.file (Bytes.ofText "seed: 7\n"))

theorem storePath_own : OwnName storePath := by
  unfold OwnName
  decide +kernel

def changed : Store := (openOn foundDisk storePath).set "a" (.bool true)

def fullDisk : Trouble :=
  ⟨none, some (some (Bytes.ofText "se"), .other 28 "No space left on device"), none⟩

def noRoom : Error :=
  .persistence "/data/store.yaml: No space left on device (os error 28)"

/-- A flush that finds the disk full half-way is made up for by the next one. -/
theorem refused_flush_is_made_up_for :
    let torn := changed.flush "" fullDisk foundDisk
    torn.2.2 = .error noRoom ∧
      torn.1.document? ["data", "store.tmp"] = some (Bytes.ofText "se") ∧
      torn.1.document? ["data", "store.yaml"] = some (Bytes.ofText "seed: 7\n") ∧
      torn.2.1.dirty = true ∧
      (torn.2.1.flush "" .none torn.1).2.2 = .ok () ∧
      (openOn (torn.2.1.flush "" .none torn.1).1 storePath).values =
        [(.str "seed", .num (.whole 7)), (.str "a", .bool true)] := by
  intro torn
  have values : changed.values = [(.str "seed", .num (.whole 7)), (.str "a", .bool true)] := by
    decide +kernel
  have reads_back : Yaml.ReadsBack changed.values := by
    rw [values]
    decide +kernel
  have refused : torn.2.2 = .error noRoom := by decide +kernel
  have draft : torn.1.document? ["data", "store.tmp"] = some (Bytes.ofText "se") := by
    decide +kernel
  have found : foundDisk.document? (Path.ofText storePath) = some (Bytes.ofText "seed: 7\n") := by
    decide +kernel
  have done : (torn.2.1.flush "" .none torn.1).2.2 = .ok () := by decide +kernel
  have made_up (d : Disk) (s : Store) (set : s = (openOn d storePath).set "a" (.bool true))
      (reads_back : Yaml.ReadsBack s.values) (torn : Disk × Store × Except Error Unit)
      (came : s.flush "" fullDisk d = torn) (refused : torn.2.2 = .error noRoom)
      (done : (torn.2.1.flush "" .none torn.1).2.2 = .ok ()) :
      torn.1.document? (Path.ofText storePath) = d.document? (Path.ofText storePath) ∧
        torn.2.1.dirty = true ∧
        (openOn (torn.2.1.flush "" .none torn.1).1 storePath).values = s.values := by
    have before : History storePath d [.set "a" (.bool true)] ⟨d, s⟩ :=
      set ▸ .step .opened (.set ⟨d, openOn d storePath⟩ "a" (.bool true))
    have failed : Step ⟨d, s⟩ (.flush (.error noRoom)) ⟨torn.1, torn.2.1⟩ :=
      .flush "" fullDisk (came.trans (Prod.ext rfl (Prod.ext rfl refused)))
    have worked : Step ⟨torn.1, torn.2.1⟩ (.flush (.ok ()))
        ⟨(torn.2.1.flush "" .none torn.1).1, (torn.2.1.flush "" .none torn.1).2.1⟩ :=
      .flush "" .none (Prod.ext rfl (Prod.ext rfl done))
    have any : AnySet [.flush (.error noRoom), .set "a" (.bool true)] :=
      ⟨.set "a" (.bool true), List.mem_cons_of_mem _ List.mem_cons_self, nofun⟩
    obtain ⟨kept, dirty, same⟩ := (no_write_is_lost storePath_own before).refused _ _ failed
    have durable := no_write_is_lost storePath_own (before.step failed)
    obtain ⟨written, again⟩ := durable.persisted _ worked any (kept ▸ reads_back)
    exact ⟨same, dirty, by rw [again, written, kept]⟩
  obtain ⟨same, dirty, again⟩ := made_up foundDisk changed rfl reads_back torn rfl refused done
  exact ⟨refused, draft, same.trans found, dirty, done, again.trans values⟩

end ProxyGateway.Store
