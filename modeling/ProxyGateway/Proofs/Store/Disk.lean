import ProxyGateway.Store.Basic
/-!
Files that are written by way of a draft. Main statements: after a file was written its bytes are
read from its path, and if that was refused the file is what it was.
-/
namespace ProxyGateway

namespace Disk

theorem lookup_filter {entries : List (Path × Entry)} (keeps : Path → Bool) {q : Path}
    (kept : keeps q = true) :
    (entries.filter fun x => keeps x.1).lookup q = entries.lookup q := by
  induction entries with
  | nil => rfl
  | cons x entries ih =>
    obtain ⟨k, e⟩ := x
    by_cases gone : keeps k = true
    · rw [List.filter_cons_of_pos (by exact gone), List.lookup_cons, List.lookup_cons, ih]
    · have elsewhere : (q == k) = false := by
        rw [beq_eq_false_iff_ne]
        rintro rfl
        exact gone kept
      rw [List.filter_cons_of_neg (by exact gone), ih, List.lookup_cons, elsewhere]

theorem entry?_put_self (d : Disk) {p : Path} (below : p ≠ []) (e : Entry) :
    entry? (d.put p e) p = some e := by
  simp [put, entry?, below]

theorem entry?_put_of_ne (d : Disk) {p q : Path} (other : q ≠ p) (e : Entry) :
    entry? (d.put p e) q = d.entry? q := by
  have elsewhere : (q == p) = false := by simpa using other
  have kept : (q != p) = true := bne_iff_ne.2 other
  simp only [put, entry?, List.lookup_cons, elsewhere, lookup_filter (· != p) kept]

theorem entry?_drop_of_ne (d : Disk) {p q : Path} (other : q ≠ p) :
    entry? (d.drop p) q = d.entry? q := by
  have kept : (q != p) = true := bne_iff_ne.2 other
  simp only [drop, entry?, lookup_filter (· != p) kept]

theorem forM_congr {ε : Type} {ns : List Nat} {f g : Nat → Except ε Unit}
    (same : ∀ n ∈ ns, f n = g n) : ns.forM f = ns.forM g := by
  induction ns with
  | nil => rfl
  | cons n ns ih =>
    rw [List.forall_mem_cons] at same
    change (f n >>= fun _ => ns.forM f) = g n >>= fun _ => ns.forM g
    rw [same.1, ih same.2]

theorem reach_congr {d e : Disk} {p : Path}
    (same : ∀ n < p.length, d.entry? (p.take n) = e.entry? (p.take n)) :
    d.reach p = e.reach p := by
  refine forM_congr fun n member => ?_
  rw [same n (List.mem_range.1 member)]

theorem reach_put (d : Disk) {p q : Path} (deep : p.length ≤ q.length) (e : Entry) :
    (d.put q e).reach p = d.reach p := by
  refine reach_congr fun n above => entry?_put_of_ne d ?_ e
  rintro rfl
  simp at deep
  omega

theorem reach_drop (d : Disk) {p q : Path} (deep : p.length ≤ q.length) :
    (d.drop q).reach p = d.reach p := by
  refine reach_congr fun n above => entry?_drop_of_ne d ?_
  rintro rfl
  simp at deep
  omega

theorem read_of_entry {d : Disk} {p : Path} {b : Bytes} (reached : d.reach p = .ok ())
    (file : d.entry? p = some (.file b)) : d.read p = .ok b := by
  simp [read, reached, file, bind, Except.bind, pure, Except.pure]

theorem ne_nil_of_no_folder {d : Disk} {p : Path} (no_folder : d.entry? p ≠ some .folder) :
    p ≠ [] := by
  rintro rfl
  exact no_folder rfl

theorem write_eq_ok {d e : Disk} {p : Path} {b : Bytes} (written : d.write p b = .ok e) :
    d.reach p = .ok () ∧ d.entry? p ≠ some .folder ∧ e = d.put p (.file b) := by
  obtain ⟨⟨⟩, reached, rest⟩ := bind_eq_ok.1 written
  split at rest
  · cases rest
  · rename_i no_folder
    exact ⟨reached, no_folder, (Except.ok.inj rest).symm⟩

theorem write_of_no_folder {d : Disk} {p : Path} (reached : d.reach p = .ok ())
    (no_folder : d.entry? p ≠ some .folder) (b : Bytes) :
    d.write p b = .ok (d.put p (.file b)) := by
  refine bind_eq_ok.2 ⟨(), reached, ?_⟩
  split
  · rename_i folder
    exact absurd folder no_folder
  · rfl

theorem read_write {d e : Disk} {p : Path} {b : Bytes} (written : d.write p b = .ok e) :
    e.read p = .ok b := by
  obtain ⟨reached, no_folder, rfl⟩ := write_eq_ok written
  refine read_of_entry ?_ (entry?_put_self d (ne_nil_of_no_folder no_folder) _)
  rw [reach_put d (Nat.le_refl _), reached]

theorem rename_eq_ok {d e : Disk} {p q : Path} (moved : d.rename p q = .ok e) :
    ∃ b, d.read p = .ok b ∧ d.reach q = .ok () ∧ d.entry? q ≠ some .folder ∧
      e = (d.drop p).put q (.file b) := by
  obtain ⟨b, found, moved⟩ := bind_eq_ok.1 moved
  obtain ⟨⟨⟩, reached, rest⟩ := bind_eq_ok.1 moved
  split at rest
  · cases rest
  · rename_i no_folder
    exact ⟨b, found, reached, no_folder, (Except.ok.inj rest).symm⟩

theorem read_rename {d e : Disk} {p q : Path} {b : Bytes} (kept : d.read p = .ok b)
    (level : q.length ≤ p.length) (moved : d.rename p q = .ok e) : e.read q = .ok b := by
  obtain ⟨c, found, reached, no_folder, rfl⟩ := rename_eq_ok moved
  obtain rfl := Except.ok.inj (kept.symm.trans found)
  refine read_of_entry ?_ (entry?_put_self _ (ne_nil_of_no_folder no_folder) _)
  rw [reach_put _ (Nat.le_refl _), reach_drop d level, reached]

theorem forM_eq_ok {ε : Type} {ns : List Nat} {f : Nat → Except ε Unit} :
    ns.forM f = .ok () ↔ ∀ n ∈ ns, f n = .ok () := by
  induction ns with
  | nil => exact iff_of_true rfl nofun
  | cons n ns ih =>
    change (f n >>= fun _ => ns.forM f) = .ok () ↔ _
    rw [List.forall_mem_cons, bind_eq_ok, ← ih]
    constructor
    · rintro ⟨⟨⟩, first, rest⟩
      exact ⟨first, rest⟩
    · rintro ⟨first, rest⟩
      exact ⟨(), first, rest⟩

/-- A path is reached if all that is above it are folders. -/
theorem reach_eq_ok {d : Disk} {p : Path} :
    d.reach p = .ok () ↔ ∀ n < p.length, d.entry? (p.take n) = some .folder := by
  rw [reach, forM_eq_ok]
  simp only [List.mem_range]
  refine forall₂_congr fun n _ => ?_
  cases d.entry? (p.take n) with
  | none => simp
  | some e => cases e <;> simp

def document? (d : Disk) (p : Path) : Option Bytes := (d.read p).toOption

theorem document?_congr {d e : Disk} {p : Path} (way : e.reach p = d.reach p)
    (entry : e.entry? p = d.entry? p) : e.document? p = d.document? p := by
  rw [document?, document?, read, read, way, entry]

theorem document?_of_no_file {d : Disk} {p : Path} (no_file : ∀ b, d.entry? p ≠ some (.file b)) :
    d.document? p = none := by
  rw [document?, read]
  cases d.reach p with
  | error f => rfl
  | ok =>
    cases entry : d.entry? p with
    | none => rfl
    | some x =>
      cases x with
      | file b => exact absurd entry (no_file b)
      | folder => rfl

theorem document?_of_unreached {d : Disk} {p : Path} (unreached : d.reach p ≠ .ok ()) :
    d.document? p = none := by
  rw [document?, read]
  cases way : d.reach p with
  | error f => rfl
  | ok => exact absurd way unreached

theorem isBelow_iff {p q : Path} :
    isBelow p q = true ↔ p.length < q.length ∧ q.take p.length = p := by
  simp [isBelow]

theorem entry?_dropBelow_of_not_below (d : Disk) {p q : Path} (outside : isBelow p q = false) :
    entry? (d.dropBelow p) q = d.entry? q := by
  have kept : (!isBelow p q) = true := by rw [outside, Bool.not_false]
  simp only [dropBelow, entry?, lookup_filter (!isBelow p ·) kept]

theorem entry?_dropBelow_of_below (d : Disk) {p q : Path} (inside : isBelow p q = true) :
    entry? (d.dropBelow p) q = none := by
  have deeper := (isBelow_iff.1 inside).1
  rw [ entry?, if_neg (List.ne_nil_of_length_pos (Nat.lt_of_le_of_lt (Nat.zero_le _) deeper))]
  refine List.lookup_eq_none_iff.2 fun x member => ?_
  have outside := (List.mem_filter.1 member).2
  rw [bne_iff_ne]
  rintro rfl
  simp [inside] at outside

theorem makeFolder_eq_ok {d e : Disk} {p : Path} (made : d.makeFolder p = .ok e) :
    d.entry? p = none ∧ e = (d.dropBelow p).put p .folder := by
  obtain ⟨⟨⟩, _, rest⟩ := bind_eq_ok.1 made
  split at rest
  · cases rest
  · rename_i free
    exact ⟨free, (Except.ok.inj rest).symm⟩

theorem isBelow_take_self {q : Path} {n : Nat} (above : n < q.length) :
    isBelow (q.take n) q = true := by
  rw [isBelow_iff, List.length_take, Nat.min_eq_left (Nat.le_of_lt above)]
  exact ⟨above, rfl⟩

theorem isBelow_of_take {p q : Path} {n : Nat} (above : n < q.length)
    (inside : isBelow p (q.take n) = true) : isBelow p q = true := by
  obtain ⟨deeper, start⟩ := isBelow_iff.1 inside
  rw [List.length_take] at deeper
  rw [List.take_take, Nat.min_eq_left (by omega)] at start
  exact isBelow_iff.2 ⟨by omega, start⟩

theorem unreached_of_below {d : Disk} {p q : Path} (free : d.entry? p = none)
    (inside : isBelow p q = true) : d.reach q ≠ .ok () := by
  obtain ⟨deeper, above⟩ := isBelow_iff.1 inside
  intro way
  have folder := reach_eq_ok.1 way p.length deeper
  rw [above, free] at folder
  cases folder

/-- Neither at a new folder nor below it is there a file, before as after. -/
theorem document?_makeFolder {d e : Disk} {p : Path} (made : d.makeFolder p = .ok e) (q : Path) :
    e.document? q = d.document? q := by
  obtain ⟨free, rfl⟩ := makeFolder_eq_ok made
  have filled : p ≠ [] := by
    rintro rfl
    cases free
  by_cases here : q = p
  · subst here
    rw [document?_of_no_file, document?_of_no_file]
    · rw [free]
      exact nofun
    · rw [entry?_put_self _ filled]
      exact nofun
  cases inside : isBelow p q with
  | true =>
    rw [document?_of_unreached (unreached_of_below free inside), document?_of_no_file]
    rw [entry?_put_of_ne _ here, entry?_dropBelow_of_below d inside]
    exact nofun
  | false =>
    have elsewhere {r : Path} (other : r ≠ p) (outside : isBelow p r = false) :
        entry? ((d.dropBelow p).put p .folder) r = d.entry? r := by
      rw [entry?_put_of_ne _ other, entry?_dropBelow_of_not_below d outside]
    refine document?_congr (reach_congr fun n above => elsewhere ?_ ?_) (elsewhere here inside)
    · rintro rfl
      simp [isBelow_take_self above] at inside
    · exact Bool.eq_false_iff.2 fun within => by simp [isBelow_of_take above within] at inside

theorem foldlM_keeps {σ α ε : Type} {P : σ → Prop} {f : σ → α → Except ε σ}
    (step : ∀ s a t, P s → f s a = .ok t → P t) {as : List α} {s t : σ} (start : P s)
    (done : as.foldlM f s = .ok t) : P t := by
  induction as generalizing s with
  | nil => exact Except.ok.inj done ▸ start
  | cons a as ih =>
    rw [List.foldlM_cons] at done
    obtain ⟨m, first, rest⟩ := bind_eq_ok.1 done
    exact ih (step s a m start first) rest

theorem document?_makeFolders {d e : Disk} {p : Path} (made : d.makeFolders p = .ok e) (q : Path) :
    e.document? q = d.document? q := by
  refine foldlM_keeps (P := fun c => c.document? q = d.document? q) ?_ rfl made
  intro c n e kept step
  dsimp only at step
  split at step
  · exact Except.ok.inj step ▸ kept
  · split at step
    · split at step <;> cases step
    · exact (document?_makeFolder step q).trans kept

section attempts

theorem settled_eq_ok {d e : Disk} {r : Except Fault Disk} :
    d.settled r = (e, .ok ()) ↔ r = .ok e := by
  cases r <;> simp [settled]

theorem settled_keeps {P : Disk → Prop} {d : Disk} {r : Except Fault Disk} (before : P d)
    (after : ∀ e, r = .ok e → P e) : P (d.settled r).1 := by
  cases r with
  | ok e => exact after e rfl
  | error f => exact before

theorem settled_of_error {d e : Disk} {r : Except Fault Disk} {f : Fault}
    (failed : d.settled r = (e, .error f)) : e = d := by
  cases r with
  | ok => cases failed
  | error => exact (Prod.mk.inj failed).1.symm

/-- However far it gets, making folders changes no file. -/
theorem document?_attemptFolders (d : Disk) (p : Path) (broken : Option (Nat × Fault)) (q : Path) :
    (d.attemptFolders p broken).1.document? q = d.document? q := by
  unfold attemptFolders
  split <;> exact settled_keeps (P := fun e => e.document? q = d.document? q) rfl
    fun _ made => document?_makeFolders made q

theorem document?_write {d e : Disk} {p q : Path} {b : Bytes} (written : d.write p b = .ok e)
    (other : q ≠ p) (level : q.length ≤ p.length) : e.document? q = d.document? q := by
  obtain ⟨_, _, rfl⟩ := write_eq_ok written
  exact document?_congr (reach_put d level _) (entry?_put_of_ne d other _)

/-- Whatever a write leaves in its own file, a file beside it stays as it is. -/
theorem document?_attemptWrite (d : Disk) {p q : Path} (b : Bytes)
    (broken : Option (Option Bytes × Fault)) (other : q ≠ p) (level : q.length ≤ p.length) :
    (d.attemptWrite p b broken).1.document? q = d.document? q := by
  have kept (left : Bytes) : (d.settled (d.write p left)).1.document? q = d.document? q :=
    settled_keeps (P := fun e => e.document? q = d.document? q) rfl
      fun _ written => document?_write written other level
  unfold attemptWrite
  split
  · exact kept b
  · rfl
  · exact kept _

theorem attemptWrite_of_refused {d : Disk} {p : Path} {b : Bytes}
    {broken : Option (Option Bytes × Fault)} (refused : ∀ left e, d.write p left ≠ .ok e) :
    (d.attemptWrite p b broken).1 = d := by
  have kept (left : Bytes) : (d.settled (d.write p left)).1 = d :=
    settled_keeps (P := (· = d)) rfl fun e written => absurd written (refused left e)
  unfold attemptWrite
  split
  · exact kept b
  · rfl
  · exact kept _

theorem read_attemptWrite {d e : Disk} {p : Path} {b : Bytes}
    {broken : Option (Option Bytes × Fault)}
    (written : d.attemptWrite p b broken = (e, .ok ())) : e.read p = .ok b := by
  unfold attemptWrite at written
  split at written
  · exact read_write (settled_eq_ok.1 written)
  · cases written
  · cases written

theorem read_attemptRename {d e : Disk} {p q : Path} {b : Bytes} {broken : Option Fault}
    (kept : d.read p = .ok b) (level : q.length ≤ p.length)
    (moved : d.attemptRename p q broken = (e, .ok ())) : e.read q = .ok b := by
  unfold attemptRename at moved
  split at moved
  · exact read_rename kept level (settled_eq_ok.1 moved)
  · cases moved

theorem attemptRename_of_error {d e : Disk} {p q : Path} {broken : Option Fault} {f : Fault}
    (failed : d.attemptRename p q broken = (e, .error f)) : e = d := by
  unfold attemptRename at failed
  split at failed
  · exact settled_of_error failed
  · exact (Prod.mk.inj failed).1.symm

end attempts

end Disk

namespace Store

theorem length_draftPath (p : Path) : (draftPath p).length = p.length := by
  cases last : p.getLast? with
  | none =>
    obtain rfl := List.getLast?_eq_none_iff.1 last
    rfl
  | some name =>
    have below : p ≠ [] := by
      rintro rfl
      cases last
    have filled := List.length_pos_iff.2 below
    simp only [draftPath, last, List.length_append, List.length_dropLast, List.length_singleton]
    omega

theorem read_writeFile {root path : String} {t : Trouble} {d e : Disk} {b : Bytes}
    (written : writeFile root t d path b = (e, .ok ())) : e.read (Path.ofText path) = .ok b := by
  unfold writeFile at written
  simp only at written
  split at written
  · cases written
  split at written
  · cases written
  rename_i drafted draft
  split at written
  · cases written
  rename_i final moved
  obtain ⟨rfl, _⟩ := Prod.mk.inj written
  have level : (Path.ofText path).length ≤ (draftPath (Path.ofText path)).length :=
    Nat.le_of_eq (length_draftPath _).symm
  exact Disk.read_attemptRename (Disk.read_attemptWrite draft) level moved

/-- What stands behind the last point of a name, unless that is its first character. -/
def extension? (name : String) : Option String :=
  match Text.cutLast '.' name.toList with
  | some ([], _) | none => none
  | some (_, e) => some (String.ofList e)

theorem draftPath_ne {p : Path} (named : ∀ name ∈ p.getLast?, extension? name ≠ some "tmp")
    (below : p ≠ []) : draftPath p ≠ p := by
  intro same
  obtain ⟨name, last⟩ := Option.ne_none_iff_exists'.1 (mt List.getLast?_eq_none_iff.1 below)
  obtain ⟨front, parts⟩ := List.getLast?_eq_some_iff.1 last
  simp only [draftPath, last] at same
  rw [parts, List.dropLast_concat] at same
  have chars := congrArg String.toList (List.singleton_inj.1 (List.append_cancel_left same))
  have dot : ".tmp".toList = '.' :: "tmp".toList := rfl
  rw [String.toList_ofList, dot] at chars
  have longer : name.toList ++ '.' :: "tmp".toList ≠ name.toList := by simp
  have cut : ∃ first stem, Text.cutLast '.' name.toList = some (first :: stem, "tmp".toList) := by
    split at chars
    · exact absurd chars longer
    · exact absurd chars longer
    · rename_i stem rest leading cut
      rw [(Text.cutLast_eq_some.1 cut).1] at chars
      have behind := (List.cons.inj (List.append_cancel_left chars)).2
      obtain ⟨first, stem, rfl⟩ := List.exists_cons_of_ne_nil leading
      exact ⟨first, stem, by rw [cut, behind]⟩
  obtain ⟨first, stem, cut⟩ := cut
  refine named name last ?_
  simp only [extension?, cut, String.ofList_toList]

/-- The name of the file is none of a draft. -/
def OwnName (path : String) : Prop :=
  ∀ name ∈ (Path.ofText path).getLast?, extension? name ≠ some "tmp"

/-- Wherever the writing of a file is broken off, the file is what it was: all that may be torn is
its draft. -/
theorem document?_writeFile {root path : String} {t : Trouble} {d e : Disk} {b : Bytes}
    {why : Error} (named : OwnName path) (failed : writeFile root t d path b = (e, .error why)) :
    e.document? (Path.ofText path) = d.document? (Path.ofText path) := by
  unfold OwnName at named
  unfold writeFile at failed
  generalize Path.ofText path = p at named failed ⊢
  have root_is_no_file (d : Disk) : d.document? [] = none := rfl
  by_cases below : p = []
  · rw [below, root_is_no_file, root_is_no_file]
  have apart : p ≠ draftPath p := (draftPath_ne named below).symm
  have level : p.length ≤ (draftPath p).length := Nat.le_of_eq (length_draftPath p).symm
  have made := d.document?_attemptFolders p.dropLast t.folders p
  dsimp only at failed
  split at failed
  · rename_i d₁ f folders
    rw [folders] at made
    exact (Prod.mk.inj failed).1 ▸ made
  rename_i d₁ folders
  rw [folders] at made
  have drafted := d₁.document?_attemptWrite b t.draft apart level
  split at failed
  · rename_i d₂ f draft
    rw [draft] at drafted
    exact (Prod.mk.inj failed).1 ▸ drafted.trans made
  rename_i d₂ draft
  rw [draft] at drafted
  split at failed
  · rename_i d₃ f moved
    obtain rfl := Disk.attemptRename_of_error moved
    exact (Prod.mk.inj failed).1 ▸ drafted.trans made
  · cases failed

/-- What comes of a flush. One that fails may have torn the draft, and nothing but that. -/
inductive Outcome (d : Disk) (s : Store) : Disk × Store × Except Error Unit → Prop where
  | idle (clean : s.dirty = false) : Outcome d s (d, s, .ok ())
  | saved {e : Disk} {text : String} (dirty : s.dirty = true)
      (document : Yaml.document? s.values = some text)
      (file : e.read (Path.ofText s.path) = .ok (Bytes.ofText text)) :
      Outcome d s (e, { s with dirty := false }, .ok ())
  | failed {e : Disk} (why : Error) (dirty : s.dirty = true)
      (same : OwnName s.path →
        e.document? (Path.ofText s.path) = d.document? (Path.ofText s.path)) :
      Outcome d s (e, s, .error why)

theorem flush_outcome (root : String) (t : Trouble) (d : Disk) (s : Store) :
    Outcome d s (s.flush root t d) := by
  unfold flush
  cases dirty : s.dirty with
  | false => exact .idle dirty
  | true =>
    simp only [Bool.not_true, Bool.false_eq_true, if_false]
    cases document : Yaml.document? s.values with
    | none => exact .failed _ dirty fun _ => rfl
    | some text =>
      rcases came : writeFile root t d s.path (Bytes.ofText text) with ⟨e, answer⟩
      cases answer with
      | ok =>
        simp only [came]
        exact .saved dirty document (read_writeFile came)
      | error why =>
        simp only [came]
        exact .failed why dirty fun named => document?_writeFile named came

end Store

end ProxyGateway
