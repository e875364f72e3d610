import ProxyGateway.Text.Cut
import ProxyGateway.Text.Numeral
import ProxyGateway.Text.Utf8
/-!
A tree of files and folders under one root, and what can go wrong on it. What the tree does not
allow leaves it as it is. What it allows may be broken off by the system: a write has then left
some bytes in its file, and the folders of a path are made down to one of them; a move is made or
it is not.
-/
namespace ProxyGateway

inductive Entry where
  | file (bytes : Bytes)
  | folder
deriving DecidableEq, Repr

/-- The names from the root down to an entry. -/
abbrev Path := List String

def Path.ofText (s : String) : Path :=
  ((Text.splitAll '/' s.toList).filter (· ≠ [])).map String.ofList

structure Disk where
  entries : List (Path × Entry)

namespace Disk

inductive Fault where
  | notFound
  | exists
  | notFolder
  | isFolder
  | notEmpty
  /-- Anything else, such as that there is no room or that a device has failed. -/
  | other (number : Nat) (words : String)
deriving DecidableEq, Repr

def Fault.number : Fault → Nat
  | .notFound => 2
  | .exists => 17
  | .notFolder => 20
  | .isFolder => 21
  | .notEmpty => 39
  | .other number _ => number

def Fault.words : Fault → String
  | .notFound => "No such file or directory"
  | .exists => "File exists"
  | .notFolder => "Not a directory"
  | .isFolder => "Is a directory"
  | .notEmpty => "Directory not empty"
  | .other _ words => words

def Fault.message (f : Fault) : String :=
  f.words ++ " (os error " ++ Text.decimal f.number ++ ")"

def empty : Disk := ⟨[]⟩

/-- The entry of a path; the root is a folder. -/
def entry? (d : Disk) (p : Path) : Option Entry :=
  if p = [] then some .folder else d.entries.lookup p

/-- Whether an entry can stand at a path: everything above it has to be a folder. -/
def reach (d : Disk) (p : Path) : Except Fault Unit :=
  (List.range p.length).forM fun n =>
    match d.entry? (p.take n) with
    | some .folder => .ok ()
    | some (.file _) => .error .notFolder
    | none => .error .notFound

def put (d : Disk) (p : Path) (e : Entry) : Disk :=
  ⟨(p, e) :: d.entries.filter fun x => x.1 != p⟩

def drop (d : Disk) (p : Path) : Disk := ⟨d.entries.filter fun x => x.1 != p⟩

def isBelow (p q : Path) : Bool := p.length < q.length && q.take p.length == p

def dropBelow (d : Disk) (p : Path) : Disk := ⟨d.entries.filter fun x => !isBelow p x.1⟩

def read (d : Disk) (p : Path) : Except Fault Bytes := do
  d.reach p
  match d.entry? p with
  | some (.file b) => pure b
  | some .folder => throw .isFolder
  | none => throw .notFound

def write (d : Disk) (p : Path) (b : Bytes) : Except Fault Disk := do
  d.reach p
  match d.entry? p with
  | some .folder => throw .isFolder
  | _ => pure (d.put p (.file b))

def makeFolder (d : Disk) (p : Path) : Except Fault Disk := do
  d.reach p
  match d.entry? p with
  | some _ => throw .exists
  | none => pure ((d.dropBelow p).put p .folder)

/-- Makes a folder with all those above it; one that is there already will do. -/
def makeFolders (d : Disk) (p : Path) : Except Fault Disk :=
  (List.range p.length).foldlM (fun (d : Disk) n =>
    let q := p.take (n + 1)
    if d.entry? q = some .folder then .ok d
    else
      match d.makeFolder q with
      | .error .exists => if n + 1 < p.length then .error .notFolder else .error .exists
      | r => r) d

def rename (d : Disk) (p q : Path) : Except Fault Disk := do
  let b ← d.read p
  d.reach q
  match d.entry? q with
  | some .folder => throw .isFolder
  | _ => pure ((d.drop p).put q (.file b))

def remove (d : Disk) (p : Path) : Except Fault Disk := do
  d.reach p
  match d.entry? p with
  | none => throw .notFound
  | some (.file _) => pure (d.drop p)
  | some .folder =>
    if d.entries.any fun e => isBelow p e.1 then throw .notEmpty
    else pure (d.drop p)

def settled (d : Disk) : Except Fault Disk → Disk × Except Fault Unit
  | .ok e => (e, .ok ())
  | .error f => (d, .error f)

/-- Makes folders. If that is broken off, it has got as far as some of the names. -/
def attemptFolders (d : Disk) (p : Path) (broken : Option (Nat × Fault)) :
    Disk × Except Fault Unit :=
  match broken with
  | none => d.settled (d.makeFolders p)
  | some (made, f) => ((d.settled (d.makeFolders (p.take made))).1, .error f)

/-- Writes a file. If that is broken off, some bytes are in it, or it was not even opened. -/
def attemptWrite (d : Disk) (p : Path) (b : Bytes) (broken : Option (Option Bytes × Fault)) :
    Disk × Except Fault Unit :=
  match broken with
  | none => d.settled (d.write p b)
  | some (none, f) => (d, .error f)
  | some (some left, f) => ((d.settled (d.write p left)).1, .error f)

def attemptRename (d : Disk) (p q : Path) (broken : Option Fault) : Disk × Except Fault Unit :=
  match broken with
  | none => d.settled (d.rename p q)
  | some f => (d, .error f)

end Disk

end ProxyGateway
