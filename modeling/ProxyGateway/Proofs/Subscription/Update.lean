import ProxyGateway.Proofs.Store.Disk
import ProxyGateway.Subscription.Provider
/-!
What an update of a subscription leaves behind, whatever comes of the request. Main statements: an
update that fails never touches the pool, and it leaves no other trace unless a document has come
that is no text; after any number of updates the cache holds the last document that has come.
-/
namespace ProxyGateway.Subscription

namespace Provider

/-- The server has answered with all of a document and with no status of a failure. -/
theorem document_eq_ok {s : SubscriptionSettings} {came : Except Error Answer} {r : Http.Response} :
    document s came = .ok r ↔
      came = .ok ⟨r.head, .ok r.body⟩ ∧ isFailure r.head.code = false := by
  constructor
  · intro fetched
    obtain ⟨⟨head, body⟩, rfl, rest⟩ := bind_eq_ok.1 fetched
    split at rest
    · cases rest
    · rename_i success
      obtain ⟨whole, rfl, rfl⟩ := map_eq_ok.1 rest
      exact ⟨rfl, Bool.eq_false_iff.2 success⟩
  · rintro ⟨rfl, success⟩
    refine bind_eq_ok.2 ⟨_, rfl, ?_⟩
    rw [success]
    rfl

end Provider

/-- A document that came as a whole and is no text. -/
structure Undecodable (came : Except Error Provider.Answer) (r : Http.Response) : Prop where
  whole : came = .ok ⟨r.head, .ok r.body⟩
  success : Provider.isFailure r.head.code = false
  binary : Text.Utf8.decode? r.body = none

namespace Undecodable

variable {came : Except Error Provider.Answer} {r other : Http.Response}
  {s : SubscriptionSettings}

theorem fetched (undecodable : Undecodable came r) : Provider.document s came = .ok r :=
  Provider.document_eq_ok.2 ⟨undecodable.whole, undecodable.success⟩

theorem not_refused (undecodable : Undecodable came r) (e : Error) :
    Provider.document s came ≠ .error e := by
  rw [undecodable.fetched]
  exact nofun

theorem unique (undecodable : Undecodable came r)
    (also : Provider.document s came = .ok other) : other = r := by
  rw [undecodable.fetched] at also
  exact (Except.ok.inj also).symm

end Undecodable

namespace World

variable (w : World) {came : Except Error Provider.Answer} {r : Http.Response}
  {broken : Option (Option Bytes × Disk.Fault)}

theorem keep_provider (content : Bytes) : (w.keep content broken).provider = w.provider := by
  unfold keep
  split <;> rfl

theorem keep_engine (content : Bytes) : (w.keep content broken).engine = w.engine := by
  unfold keep
  split <;> rfl

def HasRoom : Prop :=
  ∃ path, w.provider.settings.path = some path ∧ w.disk.reach (Path.ofText path) = .ok () ∧
    w.disk.entry? (Path.ofText path) ≠ some .folder

variable {w}

theorem HasRoom.keep (room : w.HasRoom) (content : Bytes) :
    (w.keep content none).kept? = some content ∧ (w.keep content none).HasRoom := by
  obtain ⟨path, placed, reached, no_folder⟩ := room
  have below := Disk.ne_nil_of_no_folder no_folder
  have written := Disk.write_of_no_folder reached no_folder content
  have kept : w.keep content none =
      { w with disk := w.disk.put (Path.ofText path) (.file content) } := by
    simp only [World.keep, placed, Disk.attemptWrite, written, Disk.settled]
  rw [kept]
  refine ⟨?_, path, placed, ?_, ?_⟩
  · simp only [kept?, placed]
    exact congrArg Except.toOption (Disk.read_write written)
  · exact (Disk.reach_put _ (Nat.le_refl _) _).trans reached
  · simp [Disk.entry?_put_self _ below]

theorem keep_of_no_room (closed : ¬ w.HasRoom) (content : Bytes) : w.keep content broken = w := by
  unfold keep
  split
  · rfl
  · rename_i path placed
    have refused : (w.disk.attemptWrite (Path.ofText path) content broken).1 = w.disk :=
      Disk.attemptWrite_of_refused fun left e written =>
        have ⟨reached, no_folder, _⟩ := Disk.write_eq_ok written
        closed ⟨path, placed, reached, no_folder⟩
    rw [refused]

variable (w)

theorem update_of_refused {e : Error}
    (refused : Provider.document w.provider.settings came = .error e) :
    w.update came broken = (w, .error e) := by
  simp only [update, fetch, refused]

theorem update_of_binary (fetched : Provider.document w.provider.settings came = .ok r)
    (binary : Text.Utf8.decode? r.body = none) :
    w.update came broken =
      ((w.keep r.body broken).learn r, .error (Provider.notText w.provider.settings.name)) := by
  simp only [update, fetch, fetched, binary, learn, keep_provider]

theorem update_of_text {content : String}
    (fetched : Provider.document w.provider.settings came = .ok r)
    (text : Text.Utf8.decode? r.body = some content) :
    w.update came broken = ((((w.keep r.body broken).learn r).register content).1,
      .ok (((w.keep r.body broken).learn r).register content).2) := by
  simp only [update, fetch, fetched, text]

/-- An update fails with what kept the document away, or with a document that is no text. -/
theorem update_eq_error_iff {e : Error} :
    (w.update came broken).2 = .error e ↔
      Provider.document w.provider.settings came = .error e ∨
        (∃ r, Undecodable came r) ∧ e = Provider.notText w.provider.settings.name := by
  cases fetched : Provider.document w.provider.settings came with
  | error e' =>
    rw [w.update_of_refused fetched]
    constructor
    · intro failed
      exact .inl (congrArg Except.error (Except.error.inj failed))
    · rintro (refused | ⟨⟨r, undecodable⟩, _⟩)
      · exact congrArg Except.error (Except.error.inj refused)
      · exact absurd fetched (undecodable.not_refused e')
  | ok r =>
    obtain ⟨whole, success⟩ := Provider.document_eq_ok.1 fetched
    cases text : Text.Utf8.decode? r.body with
    | none =>
      rw [w.update_of_binary fetched text]
      constructor
      · intro failed
        exact .inr ⟨⟨r, whole, success, text⟩, (Except.error.inj failed).symm⟩
      · rintro (refused | ⟨_, rfl⟩)
        · cases refused
        · rfl
    | some content =>
      rw [w.update_of_text fetched text]
      constructor
      · intro failed
        cases failed
      · rintro (refused | ⟨⟨other, undecodable⟩, _⟩)
        · cases refused
        · have binary := undecodable.binary
          rw [← undecodable.unique fetched, text] at binary
          cases binary

end World

theorem failed_update_leaves (w : World) (came : Except Error Provider.Answer)
    (broken : Option (Option Bytes × Disk.Fault)) {e : Error}
    (failed : (w.update came broken).2 = .error e) :
    (w.update came broken).1.engine = w.engine ∧
    ((¬ ∃ r, Undecodable came r) → (w.update came broken).1 = w) ∧
    ∀ r, Undecodable came r → (w.update came broken).1 = (w.keep r.body broken).learn r ∧
      (w.HasRoom → broken = none → (w.update came broken).1.kept? = some r.body) ∧
      (¬ w.HasRoom → (w.update came broken).1.disk = w.disk) := by
  rcases w.update_eq_error_iff.1 failed with refused | ⟨⟨r, undecodable⟩, rfl⟩
  · rw [w.update_of_refused refused]
    exact ⟨rfl, fun _ => rfl, fun r undecodable => absurd refused (undecodable.not_refused _)⟩
  · have fetched : Provider.document w.provider.settings came = .ok r := undecodable.fetched
    rw [w.update_of_binary fetched undecodable.binary]
    refine ⟨w.keep_engine r.body, fun no_such => absurd ⟨r, undecodable⟩ no_such, ?_⟩
    intro other again
    obtain rfl := again.unique fetched
    refine ⟨rfl, fun room whole => ?_, fun closed => ?_⟩
    · subst whole
      exact (room.keep r.body).1
    · change (w.keep r.body broken).disk = w.disk
      rw [World.keep_of_no_room closed]

def holding : World where
  provider := .new ⟨"links", "http://127.0.0.1/links", 0, some "/cache"⟩
  disk := ⟨[(["cache"], .file (Bytes.ofText "socks5://127.0.0.1:1080"))]⟩
  engine := .new .default false [] []

def binaryAnswer : Provider.Answer where
  head := ⟨1, 200, "OK",
    [⟨Bytes.ofText "subscription-userinfo", Bytes.ofText "upload=1; download=2; total=3"⟩]⟩
  body := .ok [0xFF]

theorem binaryAnswer_undecodable :
    Undecodable (.ok binaryAnswer) ⟨binaryAnswer.head, [0xFF]⟩ :=
  ⟨rfl, rfl, by decide +kernel⟩

theorem holding_fails :
    (holding.update (.ok binaryAnswer) none).2 = .error (Provider.notText "links") := by
  rw [holding.update_of_binary binaryAnswer_undecodable.fetched binaryAnswer_undecodable.binary]
  rfl

/-- The quota and the cached document are new although the update fails. -/
theorem binary_answer_leaves_traces :
    (holding.update (.ok binaryAnswer) none).2 = .error (Provider.notText "links") ∧
    (holding.provider.quota = none ∧
      (holding.update (.ok binaryAnswer) none).1.provider.quota = some ⟨1, 2, 3, 0⟩) ∧
    (holding.kept? = some (Bytes.ofText "socks5://127.0.0.1:1080") ∧
      (holding.update (.ok binaryAnswer) none).1.kept? = some [0xFF]) :=
  ⟨holding_fails, by decide +kernel, by decide +kernel⟩

theorem binary_answer_spares_engine :
    (holding.update (.ok binaryAnswer) none).2 = .error (Provider.notText "links") ∧
    (holding.update (.ok binaryAnswer) none).1.engine = holding.engine ∧
    (holding.update (.ok binaryAnswer) none).1 =
      (holding.keep [0xFF] none).learn ⟨binaryAnswer.head, [0xFF]⟩ := by
  have left := failed_update_leaves holding (.ok binaryAnswer) none holding_fails
  exact ⟨holding_fails, left.1, (left.2.2 _ binaryAnswer_undecodable).1⟩

namespace World

variable {w : World} {came : Except Error Provider.Answer} {r : Http.Response}

theorem update_of_document (fetched : Provider.document w.provider.settings came = .ok r) :
    (w.update came none).1 = { (w.keep r.body none).learn r with
      engine := (Text.Utf8.decode? r.body).elim w.engine fun text =>
        (w.engine.registerAll (records text)).1 } := by
  cases text : Text.Utf8.decode? r.body with
  | none =>
    rw [w.update_of_binary fetched text, Option.elim, ← w.keep_engine r.body]
    rfl
  | some content =>
    rw [w.update_of_text fetched text, Option.elim, ← w.keep_engine r.body]
    rfl

def updates (w : World) (history : List (Except Error Provider.Answer)) : World :=
  history.foldl (fun w came => (w.update came none).1) w

end World

/-- All that some documents, the last of them at the end, have left behind. -/
structure Remembered (w : World) (documents : List Http.Response) (now : World) : Prop where
  quota : now.provider.quota =
    (documents.filterMap Provider.quotaOf?).getLast?.or w.provider.quota
  kept : now.kept? = (documents.map (·.body)).getLast?.or w.kept?
  engine : now.engine =
    (documents.filterMap fun r => Text.Utf8.decode? r.body).foldl
      (fun e text => (e.registerAll (records text)).1) w.engine

theorem getLast?_cons_or (a : α) (l : List α) (o : Option α) :
    (a :: l).getLast?.or o = l.getLast?.or (some a) := by
  rw [List.getLast?_cons]
  cases l.getLast? <;> rfl

theorem Remembered.behind {w next now : World} {r : Http.Response}
    {documents : List Http.Response}
    (quota : next.provider.quota = (Provider.quotaOf? r).or w.provider.quota)
    (kept : next.kept? = some r.body)
    (engine : next.engine = (Text.Utf8.decode? r.body).elim w.engine fun text =>
      (w.engine.registerAll (records text)).1)
    (rest : Remembered next documents now) : Remembered w (r :: documents) now := by
  refine ⟨?_, ?_, ?_⟩
  · rw [rest.quota, quota, List.filterMap_cons]
    cases Provider.quotaOf? r with
    | none => rfl
    | some q => exact (getLast?_cons_or q _ _).symm
  · rw [rest.kept, kept, List.map_cons, getLast?_cons_or]
  · rw [rest.engine, engine, List.filterMap_cons]
    cases Text.Utf8.decode? r.body <;> rfl

/-- Where the cache can be written, each update that fetched a document replaces the one before. -/
theorem updates_remember {w : World} (room : w.HasRoom)
    (history : List (Except Error Provider.Answer)) :
    Remembered w
      (history.filterMap fun came => (Provider.document w.provider.settings came).toOption)
      (w.updates history) := by
  induction history generalizing w with
  | nil => exact ⟨rfl, rfl, rfl⟩
  | cons came history ih =>
    rw [List.filterMap_cons]
    change Remembered _ _ ((w.update came none).1.updates history)
    cases fetched : Provider.document w.provider.settings came with
    | error e =>
      rw [w.update_of_refused fetched]
      exact ih room
    | ok r =>
      obtain ⟨kept, room⟩ := room.keep r.body
      have settings : (w.update came none).1.provider.settings = w.provider.settings := by
        rw [World.update_of_document fetched]
        change (w.keep r.body none).provider.settings = _
        rw [w.keep_provider]
      have quota : (w.update came none).1.provider.quota =
          (Provider.quotaOf? r).or w.provider.quota := by
        rw [World.update_of_document fetched]
        change (Provider.quotaOf? r).or (w.keep r.body none).provider.quota = _
        rw [w.keep_provider]
      rw [← settings]
      refine .behind quota ?_ ?_ (ih ?_) <;> rw [World.update_of_document fetched]
      · exact kept
      · exact room

end ProxyGateway.Subscription
