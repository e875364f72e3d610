import ProxyGateway.Yaml.Node
/-!
Reading a document as a value or as fields of known types. A field of text takes the text of any
scalar; a number or a truth value has to be written plainly; nothing written is an empty list or
mapping. Aliases are followed, but not without end, and nesting is limited.
-/
namespace ProxyGateway.Yaml

namespace Document

/-- Reading from one document; the state counts the aliases followed. -/
abbrev Decode := ReaderT Document (StateT Nat (Except Flaw))

namespace Decode

def refuse (n : Node) (what : String) : Decode α := throw ⟨what, n.mark⟩

/-- The node itself, or the one that an alias names. -/
def target (n : Node) : Decode Node := do
  match n with
  | .reference mark number =>
    let doc ← read
    let used ← get
    if used + 1 > doc.size * 100 then throw ⟨"repetition limit exceeded", mark⟩
    set (used + 1)
    match doc.anchors.lookup number with
    | some t => pure t
    | none => throw ⟨"recursion limit exceeded", mark⟩
  | n => pure n

def ownTag? (tag : Option String) : Option String :=
  match tag with
  | some t => if 1 < t.length ∧ t.toList.head? = some '!' then some t else none
  | none => none

def ofPlain (n : Node) (text : String) : Decode Yaml :=
  match plain text with
  | .null => pure .null
  | .bool b => pure (.bool b)
  | .whole i => pure (.num (.whole i))
  | .real d => pure (.num (.real d))
  | .tooLarge => refuse n "invalid type: integer too large"
  | .text => pure (.str text)

def coreTag (name : String) : String := "tag:yaml.org,2002:" ++ name

/-- A scalar under one of the core tags, or under none. -/
def scalarValue (n : Node) (tag : Option String) (form : ScalarForm) (text : String) :
    Decode Yaml :=
  if tag = some (coreTag "bool") then
    match boolWord? text with
    | some b => pure (.bool b)
    | none => refuse n "invalid value: expected a boolean"
  else if tag = some (coreTag "int") then
    match whole? 64 text.toList with
    | some i => pure (.num (.whole i))
    | none => refuse n "invalid value: expected an integer"
  else if tag = some (coreTag "float") then
    match real? text.toList with
    | some d => pure (.num (.real d))
    | none => refuse n "invalid value: expected a float"
  else if tag = some (coreTag "null") then
    if isNullWord text then pure .null else refuse n "invalid value: expected null"
  else if form = .plain ∧ (tag = none ∨ tag = some "!") then ofPlain n text
  else pure (.str text)

def wrap (tag : Option String) (v : Yaml) : Yaml :=
  match ownTag? tag with
  | some t => .tagged t v
  | none => v

def distinct (n : Node) : Mapping → Decode Unit
  | [] => pure ()
  | (k, _) :: rest =>
    if rest.any fun e => k.same e.1 then refuse n "duplicate entry" else distinct n rest

def value : (depth : Nat) → Node → Decode Yaml
  | depth, n => do
    match ← target n with
    | .scalar mark tag form text =>
      match ownTag? tag with
      | some t =>
        let v ← if form = .plain then ofPlain (.scalar mark tag form text) text
          else pure (.str text)
        pure (.tagged t v)
      | none => scalarValue (.scalar mark tag form text) tag form text
    | .seq mark tag items =>
      match depth with
      | 0 => throw ⟨"recursion limit exceeded", mark⟩
      | depth + 1 => do
        let vs ← items.mapM (value depth)
        pure (wrap tag (.seq vs))
    | .map mark tag entries =>
      match depth with
      | 0 => throw ⟨"recursion limit exceeded", mark⟩
      | depth + 1 => do
        let es ← entries.mapM fun (k, v) => do pure ((← value depth k), (← value depth v))
        distinct n es
        pure (wrap tag (.map es))
    | .reference mark _ => throw ⟨"recursion limit exceeded", mark⟩
termination_by depth => depth

def text (n : Node) : Decode String := do
  match ← target n with
  | .scalar _ _ _ s => pure s
  | t => refuse t "invalid type: expected a string"

def isLiteral (name : String) (tag : Option String) (form : ScalarForm) : Bool :=
  form == .plain || (form == .literal && tag == some (coreTag name))

def bool (n : Node) : Decode Bool := do
  match ← target n with
  | .scalar mark tag form s =>
    match (if isLiteral "bool" tag form then boolWord? s else none) with
    | some b => pure b
    | none => throw ⟨"invalid type: expected a boolean", mark⟩
  | t => refuse t "invalid type: expected a boolean"

def nat (bound : Nat) (n : Node) : Decode Nat := do
  match ← target n with
  | .scalar mark tag form s =>
    let readable := isLiteral "int" tag form && s.toList.head? != some '-'
    match (if readable then whole? 64 s.toList else none) with
    | some i => if i.toNat < bound then pure i.toNat else throw ⟨"invalid value: too large", mark⟩
    | none => throw ⟨"invalid type: expected an integer", mark⟩
  | t => refuse t "invalid type: expected an integer"

/-- Nothing written and the words for null are no value. -/
def optional (read : Node → Decode α) (n : Node) : Decode (Option α) := do
  match ← target n with
  | .scalar mark tag form s =>
    if form ≠ .plain then some <$> read (.scalar mark tag form s)
    else match tag with
      | some t =>
        if t = coreTag "null" then
          if isNullWord s then pure none else throw ⟨"invalid value: expected null", mark⟩
        else some <$> read (.scalar mark tag form s)
      | none =>
        if s = "" ∨ isNullWord s then pure none else some <$> read (.scalar mark tag form s)
  | t => some <$> read t

def isNothing (form : ScalarForm) (s : String) : Bool := form == .plain && s == ""

def list (read : Node → Decode α) (n : Node) : Decode (List α) := do
  match ← target n with
  | .seq _ _ items => items.mapM read
  | .scalar mark _ form s =>
    if isNothing form s then pure [] else throw ⟨"invalid type: expected a sequence", mark⟩
  | t => refuse t "invalid type: expected a sequence"

/-- The entries of a mapping, its tag aside. -/
def entries (n : Node) : Decode (List (Node × Node)) := do
  match ← target n with
  | .map _ _ es => pure es
  | .scalar mark _ form s =>
    if isNothing form s then pure [] else throw ⟨"invalid type: expected a map", mark⟩
  | t => refuse t "invalid type: expected a map"

def mapping (depth : Nat) (n : Node) : Decode Mapping := do
  let es ← (← entries n).mapM fun (k, v) => do pure ((← value depth k), (← value depth v))
  distinct n es
  pure es

/-- The fields of a record by their names; a name of `known` may stand once, others are ignored. -/
def fields (known : List String) (n : Node) : Decode (List (String × Node)) := do
  let named ← (← entries n).mapM fun (k, v) => do pure ((← text k), v)
  let named := named.filter fun e => known.contains e.1
  if (named.map (·.1)).eraseDups.length < named.length then refuse n "duplicate field"
  pure named

def field (fs : List (String × Node)) (name : String) (default : α) (read : Node → Decode α) :
    Decode α :=
  match fs.lookup name with
  | some n => read n
  | none => pure default

def needed (at_ : Node) (fs : List (String × Node)) (name : String) (read : Node → Decode α) :
    Decode α :=
  match fs.lookup name with
  | some n => read n
  | none => refuse at_ ("missing field " ++ name)

end Decode

/-- Reads the root of a document; an empty one is read as a mapping without entries. -/
def decode (read : Node → Decode α) (d : Document) : Except Flaw α :=
  let root := d.root.getD (.map ⟨0, 0⟩ none [])
  ((read root).run d).run' 0

end Document

def ofText (text : String) : Except Flaw Yaml := do
  let d ← Document.ofText text
  match d.root with
  | none => pure .null
  | some _ => d.decode (Document.Decode.value 128)

end ProxyGateway.Yaml
