import ProxyGateway.Yaml.Token

namespace ProxyGateway.Yaml

inductive Node where
  | reference (mark : Mark) (anchor : Nat)
  | scalar (mark : Mark) (tag : Option String) (form : ScalarForm) (text : String)
  | seq (mark : Mark) (tag : Option String) (items : List Node)
  | map (mark : Mark) (tag : Option String) (entries : List (Node × Node))
deriving Inhabited

namespace Node

def mark : Node → Mark
  | reference m _ | scalar m _ _ _ | seq m _ _ | map m _ _ => m

end Node

/-- A document: its root, unless it is empty, and the nodes that aliases name. -/
structure Document where
  root : Option Node
  anchors : List (Nat × Node)
  /-- The number of marks that delimit nodes, which bounds how often aliases are followed. -/
  size : Nat

namespace Document

structure Builder where
  rest : List (Token × Mark)
  names : List (String × Nat)
  anchors : List (Nat × Node)
  handles : List (String × String)
  size : Nat

abbrev Build := StateT Builder (Except Flaw)

def here : Build Mark := do
  match (← get).rest with
  | (_, m) :: _ => pure m
  | [] => pure ⟨0, 0⟩

def refuse (what : String) : Build α := do
  throw ⟨what, ← here⟩

def peek : Build (Option Token) := do
  pure ((← get).rest.head?.map (·.1))

def advance : Build Unit := modify fun b => { b with rest := b.rest.drop 1 }

def count (n : Nat) : Build Unit := modify fun b => { b with size := b.size + n }

def take? (t : Token) : Build Bool := do
  if (← peek) == some t then
    advance
    pure true
  else pure false

def nextIn (ts : List Token) : Build Bool := do
  match ← peek with
  | some t => pure (ts.contains t)
  | none => pure true

def emptyScalar : Build Node := do
  count 1
  pure (.scalar (← here) none .plain "")

/-- The full tag of a handle and a suffix; the bare mark is no tag. -/
def resolveTag (handle suffix : String) : Build String := do
  if handle = "" then pure suffix
  else match (← get).handles.lookup handle with
    | some lead => pure (lead ++ suffix)
    | none => refuse "found undefined tag handle"

def properties : Build (Option String × Option String) := do
  match ← peek with
  | some (.anchor a) =>
    advance
    match ← peek with
    | some (.tag h s) =>
      advance
      pure (some a, some (← resolveTag h s))
    | _ => pure (some a, none)
  | some (.tag h s) =>
    let mark ← here
    advance
    let anchor ← match ← peek with
      | some (.anchor a) => do
        advance
        pure (some a)
      | _ => pure none
    try pure (anchor, some (← resolveTag h s)) catch e => throw { e with mark }
  | _ => pure (none, none)

/-- Gives the next number to an anchor; a name that is used again means the later node. -/
def openAnchor (name : Option String) : Build (Option Nat) := do
  match name with
  | none => pure none
  | some n =>
    let b ← get
    let number := (b.names.map (·.1)).eraseDups.length
    set { b with names := (n, number) :: b.names }
    pure (some number)

def closeAnchor (number : Option Nat) (node : Node) : Build Node := do
  match number with
  | none => pure node
  | some n =>
    modify fun b => { b with anchors := (n, node) :: b.anchors }
    pure node

mutual

/-- A node; `block` allows block collections, `indentless` a list at the column of its key. -/
def node (block indentless : Bool) : (fuel : Nat) → Build Node
  | 0 => refuse "nesting too deep"
  | fuel + 1 => do
    let mark ← here
    match ← peek with
    | some (.reference name) =>
      match (← get).names.lookup name with
      | some number =>
        advance
        count 1
        pure (.reference mark number)
      | none => refuse "unknown anchor"
    | _ =>
      let (anchor, tag) ← properties
      let number ← openAnchor anchor
      match ← peek with
      | some .entry =>
        if indentless then
          count 2
          closeAnchor number (.seq mark tag (← indentlessItems fuel))
        else bare mark number anchor tag
      | some (.scalar form text) =>
        advance
        count 1
        closeAnchor number (.scalar mark (if tag = some "!" then none else tag) form text)
      | some .flowSequence =>
        advance
        count 2
        closeAnchor number (.seq mark tag (← flowItems true fuel))
      | some .flowMapping =>
        advance
        count 2
        closeAnchor number (.map mark tag (← flowEntries true fuel))
      | some .blockSequence =>
        if block then
          advance
          count 2
          closeAnchor number (.seq mark tag (← blockItems fuel))
        else bare mark number anchor tag
      | some .blockMapping =>
        if block then
          advance
          count 2
          closeAnchor number (.map mark tag (← blockEntries fuel))
        else bare mark number anchor tag
      | _ => bare mark number anchor tag

def bare (mark : Mark) (number : Option Nat) (anchor tag : Option String) : Build Node := do
  if anchor.isSome || tag.isSome then
    count 1
    closeAnchor number (.scalar mark tag .plain "")
  else refuse "did not find expected node content"

def blockItems : (fuel : Nat) → Build (List Node)
  | 0 => refuse "nesting too deep"
  | fuel + 1 => do
    if ← take? .entry then
      let item ← if ← nextIn [.entry, .blockEnd] then emptyScalar else node true false fuel
      pure (item :: (← blockItems fuel))
    else if ← take? .blockEnd then pure []
    else refuse "did not find expected '-' indicator"

def indentlessItems : (fuel : Nat) → Build (List Node)
  | 0 => refuse "nesting too deep"
  | fuel + 1 => do
    if ← take? .entry then
      let item ←
        if ← nextIn [.entry, .key, .value, .blockEnd] then emptyScalar else node true false fuel
      pure (item :: (← indentlessItems fuel))
    else pure []

def blockEntries : (fuel : Nat) → Build (List (Node × Node))
  | 0 => refuse "nesting too deep"
  | fuel + 1 => do
    if ← take? .key then
      let key ← if ← nextIn [.key, .value, .blockEnd] then emptyScalar else node true true fuel
      let value ←
        if ← take? .value then
          if ← nextIn [.key, .value, .blockEnd] then emptyScalar else node true true fuel
        else emptyScalar
      pure ((key, value) :: (← blockEntries fuel))
    else if ← take? .blockEnd then pure []
    else refuse "did not find expected key"

/-- The items of a list in brackets; one with a colon is a mapping of its own. -/
def flowItems (first : Bool) : (fuel : Nat) → Build (List Node)
  | 0 => refuse "nesting too deep"
  | fuel + 1 => do
    if ← take? .flowSequenceEnd then pure []
    else
      if !first then
        if !(← take? .comma) then refuse "did not find expected ',' or ']'"
      if ← take? .flowSequenceEnd then pure []
      else
        let mark ← here
        let item ←
          if ← take? .key then do
            count 2
            pure (.map mark none [← flowPair fuel])
          else node false false fuel
        pure (item :: (← flowItems false fuel))

def flowPair : (fuel : Nat) → Build (Node × Node)
  | 0 => refuse "nesting too deep"
  | fuel + 1 => do
    let key ←
      if ← nextIn [.value, .comma, .flowSequenceEnd] then do
        let key ← emptyScalar
        advance
        pure key
      else node false false fuel
    let value ←
      if ← take? .value then
        if ← nextIn [.comma, .flowSequenceEnd] then emptyScalar else node false false fuel
      else emptyScalar
    pure (key, value)

def flowEntries (first : Bool) : (fuel : Nat) → Build (List (Node × Node))
  | 0 => refuse "nesting too deep"
  | fuel + 1 => do
    if ← take? .flowMappingEnd then pure []
    else
      if !first then
        if !(← take? .comma) then refuse "did not find expected ',' or '\x7d'"
      if ← take? .flowMappingEnd then pure []
      else
        let marked ← take? .key
        let empty ←
          if marked then nextIn [.value, .comma, .flowMappingEnd] else pure false
        let key ← if empty then emptyScalar else node false false fuel
        let value ←
          if marked then
            if ← take? .value then
              if ← nextIn [.comma, .flowMappingEnd] then emptyScalar else node false false fuel
            else emptyScalar
          else emptyScalar
        pure ((key, value) :: (← flowEntries false fuel))

end

def directives : (fuel : Nat) → (versioned : Bool) → Build Unit
  | 0, _ => pure ()
  | fuel + 1, versioned => do
    match ← peek with
    | some (.version major minor) =>
      if versioned then refuse "found duplicate %YAML directive"
      if major ≠ 1 ∨ (minor ≠ 1 ∧ minor ≠ 2) then refuse "found incompatible YAML document"
      advance
      directives fuel true
    | some (.tagDirective handle lead) =>
      if ((← get).handles.lookup handle).isSome then refuse "found duplicate %TAG directive"
      modify fun b => { b with handles := (handle, lead) :: b.handles }
      advance
      directives fuel versioned
    | _ => pure ()

def defaultHandles : List (String × String) := [("!", "!"), ("!!", "tag:yaml.org,2002:")]

def documentEnds : (fuel : Nat) → Build Unit
  | 0 => pure ()
  | fuel + 1 => do
    if ← take? .documentEnd then documentEnds fuel

/-- The one document of a text; a second one is refused. -/
def content (fuel : Nat) : Build (Option Node) := do
  match ← peek with
  | none => pure none
  | some t =>
    let explicit := match t with
      | .version _ _ | .tagDirective _ _ | .documentStart => true
      | _ => false
    if explicit then
      directives fuel false
      if !(← take? .documentStart) then refuse "did not find expected <document start>"
    modify fun b => { b with
      handles := b.handles ++ defaultHandles.filter fun h => (b.handles.lookup h.1).isNone }
    let root ←
      match ← peek with
      | none => emptyScalar
      | some (.version _ _) | some (.tagDirective _ _) | some .documentStart | some .documentEnd =>
        emptyScalar
      | some _ => node true false fuel
    documentEnds fuel
    if (← peek).isSome then refuse "more than one document"
    pure (some root)

def ofTokens (tokens : List (Token × Mark)) : Except Flaw Document := do
  let (root, b) ← (content (2 * tokens.length + 4)).run ⟨tokens, [], [], [], 0⟩
  pure ⟨root, b.anchors, b.size⟩

def ofText (text : String) : Except Flaw Document := do
  ofTokens (← Token.ofText text)

end Document

end ProxyGateway.Yaml
