import ProxyGateway.Error
import ProxyGateway.Store.Disk
import ProxyGateway.Store.Rules
import ProxyGateway.Yaml.Decode
import ProxyGateway.Yaml.Printer
/-!
The store: a document of keys and values that is kept in memory and written to a file when it has
changed. A file that cannot be used counts as empty and stays as it is until the next flush; a
flush that fails leaves the store waiting for the next one.
-/
namespace ProxyGateway

structure Store where
  path : String
  values : Yaml.Mapping
  dirty : Bool

namespace Store

def ruleKey : Yaml := .str "rule"

/-- The entries of a document; one that is not a mapping has none. -/
def entriesOf (b : Bytes) : Yaml.Mapping :=
  match Text.Utf8.decode? b with
  | none => []
  | some text =>
    if Text.trim text = "" then []
    else match Yaml.ofText text with
      | .ok (.map m) => m
      | _ => []

def openOn (d : Disk) (path : String) : Store :=
  match d.read (Path.ofText path) with
  | .ok b => ⟨path, entriesOf b, false⟩
  | .error _ => ⟨path, [], false⟩

def get? (s : Store) (key : String) : Option Yaml := Yaml.Mapping.get? s.values (.str key)

def set (s : Store) (key : String) (v : Yaml) : Store :=
  { s with values := s.values.insert (.str key) v, dirty := true }

/-- The rules that are kept; those that are none are left out. -/
def loadRules (s : Store) : Except Error (List RuleInfo) :=
  match s.get? "rule" with
  | none | some .null => .ok []
  | some (.seq items) => .ok (items.filterMap RuleInfo.ofYaml?)
  | some _ => .error (.persistence "stored rule list is not a sequence")

def saveRules (s : Store) (rules : List RuleInfo) : Store :=
  s.set "rule" (.seq (rules.map RuleInfo.toYaml))

def ruleTable (s : Store) : RuleTable := RuleTable.ofInfos (s.loadRules.toOption.getD [])

/-- The file next to the store that is written first: the store's name with its last part
replaced. -/
def draftPath (p : Path) : Path :=
  match p.getLast? with
  | none => []
  | some name =>
    let stem := match Text.cutLast '.' name.toList with
      | some ([], _) | none => name.toList
      | some (stem, _) => stem
    p.dropLast ++ [String.ofList (stem ++ ".tmp".toList)]

def shown (root path : String) : String := root ++ "/" ++ path

def shownParent (root path : String) : String :=
  match Text.cutLast '/' path.toList with
  | some (parent, _) => shown root (String.ofList parent)
  | none => root

/-- What the system breaks off of one writing, though the tree allows it. -/
structure Trouble where
  folders : Option (Nat × Disk.Fault)
  draft : Option (Option Bytes × Disk.Fault)
  move : Option Disk.Fault

def Trouble.none : Trouble := ⟨Option.none, Option.none, Option.none⟩

def writeFile (root : String) (t : Trouble) (d : Disk) (path : String) (b : Bytes) :
    Disk × Except Error Unit :=
  let p := Path.ofText path
  match d.attemptFolders p.dropLast t.folders with
  | (d, .error f) => (d, .error (.persistence (shownParent root path ++ ": " ++ f.message)))
  | (d, .ok ()) =>
    let failed (f : Disk.Fault) : Error := .persistence (shown root path ++ ": " ++ f.message)
    match d.attemptWrite (draftPath p) b t.draft with
    | (d, .error f) => (d, .error (failed f))
    | (d, .ok ()) =>
      match d.attemptRename (draftPath p) p t.move with
      | (d, .error f) => (d, .error (failed f))
      | (d, .ok ()) => (d, .ok ())

/-- Writes the document if anything changed; the store stays dirty where that fails. -/
def flush (root : String) (t : Trouble) (d : Disk) (s : Store) :
    Disk × Store × Except Error Unit :=
  if !s.dirty then (d, s, .ok ())
  else match Yaml.document? s.values with
    | none =>
      (d, s, .error (.persistence "serializing nested enums in YAML is not supported yet"))
    | some text =>
      let (d, r) := writeFile root t d s.path (Bytes.ofText text)
      match r with
      | .ok _ => (d, { s with dirty := false }, .ok ())
      | .error e => (d, s, .error e)

end Store

end ProxyGateway
