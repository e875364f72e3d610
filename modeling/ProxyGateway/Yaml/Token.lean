import ProxyGateway.Text.Utf8
import ProxyGateway.Yaml.Printer
/-!
The tokens of a YAML document. Indentation becomes brackets, and a text turns out to be a key when
the colon after it is met, on the same line and at most 1024 characters on; the token that marks
the key is then put in front of it.
-/
namespace ProxyGateway.Yaml

structure Mark where
  line : Nat
  column : Nat
deriving Repr, Inhabited

structure Flaw where
  what : String
  mark : Mark
deriving Repr

def Flaw.message (f : Flaw) : String :=
  f.what ++ " at line " ++ Text.decimal (f.mark.line + 1) ++ " column " ++
    Text.decimal (f.mark.column + 1)

/-- How a scalar is written, as far as its meaning depends on it. -/
inductive ScalarForm where
  | plain
  | quoted
  | literal
  | folded
deriving DecidableEq, Repr

inductive Token where
  | version (major minor : Nat)
  | tagDirective (handle lead : String)
  | documentStart
  | documentEnd
  | blockSequence
  | blockMapping
  | blockEnd
  | flowSequence
  | flowSequenceEnd
  | flowMapping
  | flowMappingEnd
  | entry
  | comma
  | key
  | value
  | reference (name : String)
  | anchor (name : String)
  | tag (handle suffix : String)
  | scalar (form : ScalarForm) (text : String)
deriving DecidableEq, Repr

namespace Token

/-- A place where a key may have started. -/
structure KeyMark where
  required : Bool
  number : Nat
  index : Nat
  line : Nat
  column : Nat

structure Cursor where
  rest : List Char
  index : Nat
  line : Nat
  column : Nat
  /-- The tokens found, the last one first. -/
  found : List (Token × Mark)
  count : Nat
  indent : Int
  outer : List Int
  /-- The possible keys, one for each level of flow brackets, the innermost first. -/
  keys : List (Option KeyMark)
  keyAllowed : Bool

namespace Cursor

def start (text : List Char) : Cursor :=
  let rest := match text with
    | '\uFEFF' :: r => r
    | r => r
  ⟨rest, 0, 0, 0, [], 0, -1, [], [none], true⟩

def flow (c : Cursor) : Nat := c.keys.length - 1

def mark (c : Cursor) : Mark := ⟨c.line, c.column⟩

def fail (c : Cursor) (what : String) : Except Flaw α := .error ⟨what, c.mark⟩

def skip (c : Cursor) (n : Nat) : Cursor :=
  { c with rest := c.rest.drop n, index := c.index + n, column := c.column + n }

def skipBreak (c : Cursor) : Cursor :=
  match c.rest with
  | '\r' :: '\n' :: r => { c with rest := r, index := c.index + 2, line := c.line + 1, column := 0 }
  | _ :: r => { c with rest := r, index := c.index + 1, line := c.line + 1, column := 0 }
  | [] => c

def emit (c : Cursor) (t : Token) : Cursor :=
  { c with found := (t, c.mark) :: c.found, count := c.count + 1 }

def emitAt (c : Cursor) (number : Nat) (t : Token) : Cursor :=
  let after := c.count - number
  { c with
    found := c.found.take after ++ (t, c.mark) :: c.found.drop after, count := c.count + 1 }

end Cursor

def isBlank (c : Char) : Bool := c == ' ' || c == '\t'

def headIs (p : Char → Bool) : List Char → Bool
  | c :: _ => p c
  | [] => false

def breakText : List Char → List Char
  | c :: _ => if c == '\u2028' || c == '\u2029' then [c] else if isBreak c then ['\n'] else []
  | [] => []

def isWordChar (c : Char) : Bool := c.isAlphanum || c == '_' || c == '-'

def lineLength (s : List Char) : Nat := (s.takeWhile fun c => !isBreak c).length

def blankLength (s : List Char) : Nat := (s.takeWhile isBlank).length

/-- A document mark, three dashes or points before a blank, at the start of a line. -/
def atDocumentMark (c : Cursor) : Bool :=
  c.column == 0 &&
    match c.rest with
    | '-' :: '-' :: '-' :: r => isBlankOrEnd r
    | '.' :: '.' :: '.' :: r => isBlankOrEnd r
    | _ => false

/-! ### Keys and indentation -/

/-- Drops possible keys that lie on an earlier line or too far back. -/
def dropStale (c : Cursor) : Except Flaw Cursor := do
  let keys ← c.keys.mapM fun
    | none => pure none
    | some k =>
      if k.line < c.line ∨ k.index + 1024 < c.index then
        if k.required then c.fail "could not find expected ':'" else pure none
      else pure (some k)
  pure { c with keys }

def removeKey (c : Cursor) : Except Flaw Cursor :=
  match c.keys with
  | some k :: outer =>
    if k.required then c.fail "could not find expected ':'" else .ok { c with keys := none :: outer }
  | _ => .ok c

def saveKey (c : Cursor) : Except Flaw Cursor := do
  if c.keyAllowed then
    let required := c.flow == 0 && c.indent == (c.column : Int)
    let mark : KeyMark := ⟨required, c.count, c.index, c.line, c.column⟩
    let c ← removeKey c
    pure { c with keys := some mark :: c.keys.drop 1 }
  else pure c

/-- Opens a block collection at a column unless one is open there. -/
def roll (c : Cursor) (column : Nat) (number : Option Nat) (t : Token) : Cursor :=
  if c.flow = 0 ∧ c.indent < column then
    let c := { c with outer := c.indent :: c.outer, indent := column }
    match number with
    | some n => c.emitAt n t
    | none => c.emit t
  else c

def unrollTo (column : Int) : List Int → Cursor → Cursor
  | [], c => c
  | i :: outer, c =>
    if column < c.indent then unrollTo column outer { c.emit .blockEnd with indent := i, outer }
    else c

def unroll (c : Cursor) (column : Int) : Cursor :=
  if c.flow = 0 then unrollTo column c.outer c else c

/-! ### Spaces, comments and directives -/

def skipToToken : Nat → Cursor → Cursor
  | 0, c => c
  | fuel + 1, c =>
    let c := match c.rest with
      | '\uFEFF' :: _ => if c.index = 0 then c.skip 1 else c
      | _ => c
    let mayTab := c.flow > 0 || !c.keyAllowed
    let c := c.skip (c.rest.takeWhile fun x => x == ' ' || (mayTab && x == '\t')).length
    let c := if headIs (· == '#') c.rest then c.skip (lineLength c.rest) else c
    if headIs isBreak c.rest then
      let c := c.skipBreak
      skipToToken fuel { c with keyAllowed := c.keyAllowed || c.flow == 0 }
    else c

def escapedBytes : (most : Nat) → List Char → Bytes
  | most + 1, '%' :: a :: b :: r =>
    match Text.digits 16 [a, b] with
    | some n => UInt8.ofNat n :: escapedBytes most r
    | none => []
  | _, _ => []

def uriEscape (c : Cursor) : Except Flaw (Char × Cursor) :=
  let bytes := escapedBytes 4 c.rest
  let whole (n : Nat) : Option (Char × Nat) :=
    match Text.Utf8.pieces (bytes.take n) with
    | [.char x] => some (x, n)
    | _ => none
  match [1, 2, 3, 4].findSome? whole with
  | some (x, n) => .ok (x, c.skip (3 * n))
  | none => c.fail "did not find URI escaped octet"

def isUriChar (c : Char) : Bool :=
  isWordChar c || [';', '/', '?', ':', '@', '&', '=', '+', '$', '.', '!', '~', '*', '\'', '(',
    ')'].contains c

/-- The characters of a tag; commas and brackets only where they cannot end the tag. -/
def scanUri (wide : Bool) : Nat → List Char → Cursor → Except Flaw (List Char × Cursor)
  | 0, acc, c => .ok (acc.reverse, c)
  | fuel + 1, acc, c =>
    match c.rest with
    | '%' :: _ => do
      let (x, c) ← uriEscape c
      scanUri wide fuel (x :: acc) c
    | x :: _ =>
      if isUriChar x || (wide && [',', '[', ']'].contains x) then
        scanUri wide fuel (x :: acc) (c.skip 1)
      else .ok (acc.reverse, c)
    | [] => .ok (acc.reverse, c)

def uri (wide : Bool) (head : List Char) (c : Cursor) : Except Flaw (List Char × Cursor) := do
  let (s, c') ← scanUri wide (c.rest.length + 1) [] c
  if head = [] ∧ s = [] then c.fail "did not find expected tag URI"
  else pure (head.drop 1 ++ s, c')

/-- A handle: an exclamation mark, word characters and perhaps a second mark. -/
def scanHandle (directive : Bool) (c : Cursor) : Except Flaw (List Char × Cursor) :=
  match c.rest with
  | '!' :: r =>
    let word := r.takeWhile isWordChar
    let c := c.skip (word.length + 1)
    if headIs (· == '!') c.rest then .ok ('!' :: word ++ ['!'], c.skip 1)
    else if directive ∧ word ≠ [] then c.fail "did not find expected '!'"
    else .ok ('!' :: word, c)
  | _ => c.fail "did not find expected '!'"

def scanTag (c : Cursor) : Except Flaw Cursor := do
  let (handle, suffix, c) ←
    match c.rest with
    | '!' :: '<' :: _ => do
      let (s, c) ← uri true [] (c.skip 2)
      if headIs (· == '>') c.rest then pure ([], s, c.skip 1)
      else c.fail "did not find the expected '>'"
    | _ => do
      let (handle, c) ← scanHandle false c
      if handle.length > 1 ∧ handle.getLast? = some '!' then
        let (s, c) ← uri false [] c
        pure (handle, s, c)
      else
        let (s, c) ← uri false handle c
        pure (if s = [] then ([], ['!'], c) else (['!'], s, c))
  if isBlankOrEnd c.rest || (c.flow > 0 && headIs (· == ',') c.rest) then
    pure (c.emit (.tag (String.ofList handle) (String.ofList suffix)))
  else c.fail "did not find expected whitespace or line break"

def scanNumber (c : Cursor) : Except Flaw (Nat × Cursor) :=
  let ds := c.rest.takeWhile fun x => '0' ≤ x && x ≤ '9'
  if ds = [] then c.fail "did not find expected version number"
  else if ds.length > 9 then c.fail "found extremely long version number"
  else .ok (digitsValue ds, c.skip ds.length)

def scanDirective (c : Cursor) : Except Flaw Cursor := do
  let name := (c.rest.drop 1).takeWhile isWordChar
  let c := c.skip (name.length + 1)
  if name = [] ∨ !isBlankOrEnd c.rest then c.fail "could not find expected directive name"
  let c ←
    match String.ofList name with
    | "YAML" => do
      let (major, c) ← scanNumber (c.skip (blankLength c.rest))
      if !headIs (· == '.') c.rest then c.fail "did not find expected digit or '.' character"
      let (minor, c) ← scanNumber (c.skip 1)
      pure (c.emit (.version major minor))
    | "TAG" => do
      let (handle, c) ← scanHandle true (c.skip (blankLength c.rest))
      if !headIs isBlank c.rest then c.fail "did not find expected whitespace"
      let (lead, c) ← uri true [] (c.skip (blankLength c.rest))
      if !isBlankOrEnd c.rest then c.fail "did not find expected whitespace or line break"
      pure (c.emit (.tagDirective (String.ofList handle) (String.ofList lead)))
    | _ => c.fail "found unknown directive name"
  let c := c.skip (blankLength c.rest)
  let c := if headIs (· == '#') c.rest then c.skip (lineLength c.rest) else c
  match c.rest with
  | [] => pure c
  | x :: _ =>
    if isBreak x then pure c.skipBreak else c.fail "did not find expected comment or line break"

/-! ### Scalars -/

/-- The indentation and the empty lines in front of a line of a block; with no indentation given,
the deepest one met counts, and at least one more than that of the collection around it. -/
def blockBreaks : Nat → (indent deepest : Nat) → List Char → Cursor →
    Except Flaw (Nat × List Char × Cursor)
  | 0, indent, _, breaks, c => .ok (indent, breaks, c)
  | fuel + 1, indent, deepest, breaks, c =>
    let pad := (c.rest.takeWhile (· == ' ')).length
    let c := c.skip (if indent = 0 then pad else min pad (indent - c.column))
    let deepest := max deepest c.column
    if (indent = 0 ∨ c.column < indent) ∧ headIs (· == '\t') c.rest then
      c.fail "found a tab character where an indentation space is expected"
    else if headIs isBreak c.rest then
      blockBreaks fuel indent deepest (breaks ++ breakText c.rest) c.skipBreak
    else
      let indent := if indent = 0 then max (max deepest (c.indent + 1).toNat) 1 else indent
      .ok (indent, breaks, c)

/-- The lines of a block: `acc` is the text so far, reversed; `lead` the break after its last line
and `breaks` the empty lines after that. -/
def blockLines (literal : Bool) (indent : Nat) :
    Nat → (acc lead breaks : List Char) → (wasBlank : Bool) → Cursor →
      Except Flaw (List Char × List Char × List Char × Cursor)
  | 0, acc, lead, breaks, _, c => .ok (acc, lead, breaks, c)
  | fuel + 1, acc, lead, breaks, wasBlank, c =>
    if c.column = indent ∧ c.rest ≠ [] then do
      let blank := headIs isBlank c.rest
      let acc :=
        if !literal && lead == ['\n'] && !wasBlank && !blank then
          if breaks = [] then ' ' :: acc else breaks.reverse ++ acc
        else breaks.reverse ++ lead.reverse ++ acc
      let line := c.rest.take (lineLength c.rest)
      let c := c.skip line.length
      let lead := breakText c.rest
      let c := if c.rest = [] then c else c.skipBreak
      let (_, breaks, c) ← blockBreaks (c.rest.length + 1) indent 0 [] c
      blockLines literal indent fuel (line.reverse ++ acc) lead breaks blank c
    else .ok (acc, lead, breaks, c)

inductive Chomp where
  | strip
  | clip
  | keep
deriving DecidableEq

/-- The signs after a block's mark: how it ends and how deep it is indented. -/
def blockSigns (s : List Char) : Except String (Chomp × Nat × Nat) :=
  let chomp (c : Char) : Option Chomp :=
    if c == '+' then some .keep else if c == '-' then some .strip else none
  let digit (c : Char) : Option Nat := if '0' ≤ c && c ≤ '9' then some (c.toNat - 48) else none
  let depth (n : Nat) (r : Chomp × Nat × Nat) : Except String (Chomp × Nat × Nat) :=
    if n = 0 then .error "found an indentation indicator equal to 0" else .ok r
  match s with
  | a :: b :: _ =>
    match chomp a, digit a, chomp b, digit b with
    | some k, _, _, some n => depth n (k, n, 2)
    | some k, _, _, none => .ok (k, 0, 1)
    | none, some n, some k, _ => depth n (k, n, 2)
    | none, some n, none, _ => depth n (.clip, n, 1)
    | none, none, _, _ => .ok (.clip, 0, 0)
  | [a] =>
    match chomp a, digit a with
    | some k, _ => .ok (k, 0, 1)
    | none, some n => depth n (.clip, n, 1)
    | none, none => .ok (.clip, 0, 0)
  | [] => .ok (.clip, 0, 0)

def scanBlock (literal : Bool) (c : Cursor) : Except Flaw Cursor := do
  let c := c.skip 1
  let (chomp, increment, used) ← match blockSigns c.rest with
    | .ok r => pure r
    | .error what => c.fail what
  let c := c.skip used
  let c := c.skip (blankLength c.rest)
  let c := if headIs (· == '#') c.rest then c.skip (lineLength c.rest) else c
  if !(c.rest.isEmpty || headIs isBreak c.rest) then
    c.fail "did not find expected comment or line break"
  let c := if c.rest = [] then c else c.skipBreak
  let given := if increment = 0 then 0 else c.indent.toNat + increment
  let (indent, breaks, c) ← blockBreaks (c.rest.length + 1) given 0 [] c
  let (acc, lead, breaks, c) ← blockLines literal indent (c.rest.length + 1) [] [] breaks false c
  let acc := if chomp = .strip then acc else lead.reverse ++ acc
  let acc := if chomp = .keep then breaks.reverse ++ acc else acc
  pure (c.emit (.scalar (if literal then .literal else .folded) (String.ofList acc.reverse)))

/-- The blanks and line breaks between two parts of a flowing text. -/
structure Gap where
  blanks : List Char
  lead : List Char
  breaks : List Char
  broken : Bool

/-- What a gap stands for: one break is a blank, more are one fewer. -/
def Gap.text (g : Gap) : List Char :=
  if g.broken then
    if g.lead = ['\n'] then (if g.breaks = [] then [' '] else g.breaks)
    else g.lead ++ g.breaks
  else g.blanks

def scanGap (tabLimit : Option Int) : Nat → Gap → Cursor → Except Flaw (Gap × Cursor)
  | 0, g, c => .ok (g, c)
  | fuel + 1, g, c =>
    match c.rest with
    | x :: _ =>
      if isBlank x then
        if g.broken && x == '\t' && (tabLimit.map fun n => decide ((c.column : Int) < n)) == some true then
          c.fail "found a tab character that violates indentation"
        else
          scanGap tabLimit fuel (if g.broken then g else { g with blanks := g.blanks ++ [x] })
            (c.skip 1)
      else if isBreak x then
        let g :=
          if g.broken then { g with breaks := g.breaks ++ breakText c.rest }
          else { g with blanks := [], lead := breakText c.rest, broken := true }
        scanGap tabLimit fuel g c.skipBreak
      else .ok (g, c)
    | [] => .ok (g, c)

def emptyGap : Gap := ⟨[], [], [], false⟩

def hexValue? (s : List Char) (n : Nat) : Option Nat :=
  let ds := s.take n
  if ds.length = n then Text.digits 16 ds else none

def unescape (s : List Char) : Option (Char × Nat) :=
  match s with
  | '\\' :: e :: r =>
    let coded (n : Nat) : Option (Char × Nat) :=
      match hexValue? r n with
      | some v =>
        if (0xD800 ≤ v ∧ v ≤ 0xDFFF) ∨ v > 0x10FFFF then none else some (Char.ofNat v, n + 2)
      | none => none
    match e with
    | 'x' => coded 2
    | 'u' => coded 4
    | 'U' => coded 8
    | _ =>
      let simple := [('0', 0), ('a', 7), ('b', 8), ('t', 9), ('\t', 9), ('n', 10), ('v', 11),
        ('f', 12), ('r', 13), ('e', 0x1B), (' ', 0x20), ('"', 0x22), ('/', 0x2F), ('\\', 0x5C),
        ('N', 0x85), ('_', 0xA0), ('L', 0x2028), ('P', 0x2029)]
      (simple.lookup e).map fun n => (Char.ofNat n, 2)
  | _ => none

/-- The characters of a quoted text up to a blank, a break or the closing quote; an escaped break
ends them too and leaves a gap that stands for nothing. -/
def quotedPart (single : Bool) : Nat → List Char → Cursor → Except Flaw (List Char × Bool × Cursor)
  | 0, acc, c => .ok (acc, false, c)
  | fuel + 1, acc, c =>
    match c.rest with
    | '\'' :: '\'' :: _ =>
      if single then quotedPart single fuel ('\'' :: acc) (c.skip 2)
      else quotedPart single fuel ('\'' :: acc) (c.skip 1)
    | '\'' :: _ =>
      if single then .ok (acc, false, c) else quotedPart single fuel ('\'' :: acc) (c.skip 1)
    | '"' :: _ =>
      if single then quotedPart single fuel ('"' :: acc) (c.skip 1) else .ok (acc, false, c)
    | '\\' :: r =>
      if single then quotedPart single fuel ('\\' :: acc) (c.skip 1)
      else if headIs isBreak r then .ok (acc, true, (c.skip 1).skipBreak)
      else match unescape c.rest with
        | some (x, n) => quotedPart single fuel (x :: acc) (c.skip n)
        | none => c.fail "found unknown escape character"
    | x :: _ =>
      if isBlank x || isBreak x then .ok (acc, false, c)
      else quotedPart single fuel (x :: acc) (c.skip 1)
    | [] => .ok (acc, false, c)

def quotedText (single : Bool) : Nat → List Char → Cursor → Except Flaw (List Char × Cursor)
  | 0, _, c => c.fail "found unexpected end of stream"
  | fuel + 1, acc, c => do
    if atDocumentMark c then c.fail "found unexpected document indicator"
    if c.rest = [] then c.fail "found unexpected end of stream"
    let (acc, escaped, c) ← quotedPart single (c.rest.length + 1) acc c
    if !escaped && headIs (· == (if single then '\'' else '"')) c.rest then pure (acc, c.skip 1)
    else
      let (g, c) ← scanGap none (c.rest.length + 1) { emptyGap with broken := escaped } c
      quotedText single fuel (g.text.reverse ++ acc) c

def scanQuoted (single : Bool) (c : Cursor) : Except Flaw Cursor := do
  let (acc, c) ← quotedText single (c.rest.length + 2) [] (c.skip 1)
  pure (c.emit (.scalar .quoted (String.ofList acc.reverse)))

def isFlowMark (c : Char) : Bool := [',', '[', ']', '\x7b', '\x7d'].contains c

/-- The number of characters of a plain text up to a blank or to a mark that ends it; none where
a colon stands before a flow mark. -/
def plainLength (inFlow : Bool) : List Char → Option Nat
  | [] => some 0
  | c :: rest =>
    if isBlank c || isBreak c then some 0
    else if inFlow && c == ':' && headIs (fun x => x == '?' || isFlowMark x) rest then none
    else if (c == ':' && isBlankOrEnd rest) || (inFlow && isFlowMark c) then some 0
    else (plainLength inFlow rest).map (· + 1)

/-- The parts of a plain text: those so far, reversed, and the gap after them. -/
def plainText (indent : Int) : Nat → List Char → Gap → Cursor →
    Except Flaw (List Char × Gap × Cursor)
  | 0, acc, g, c => .ok (acc, g, c)
  | fuel + 1, acc, g, c => do
    if atDocumentMark c || headIs (· == '#') c.rest then pure (acc, g, c)
    else
      match plainLength (c.flow > 0) c.rest with
      | none => c.fail "found unexpected ':'"
      | some n =>
        let part := c.rest.take n
        let (acc, g) := if n = 0 then (acc, g) else (part.reverse ++ g.text.reverse ++ acc, emptyGap)
        let c := c.skip n
        if headIs (fun x => isBlank x || isBreak x) c.rest then
          let (g, c) ← scanGap (some indent) (c.rest.length + 1) g c
          if c.flow = 0 ∧ (c.column : Int) < indent then pure (acc, g, c)
          else plainText indent fuel acc g c
        else pure (acc, g, c)

def scanPlain (c : Cursor) : Except Flaw Cursor := do
  let (acc, g, c) ← plainText (c.indent + 1) (c.rest.length + 1) [] emptyGap c
  let c := c.emit (.scalar .plain (String.ofList acc.reverse))
  pure (if g.broken then { c with keyAllowed := true } else c)

def scanName (c : Cursor) (token : String → Token) : Except Flaw Cursor :=
  let name := (c.rest.drop 1).takeWhile isWordChar
  let c := c.skip (name.length + 1)
  let ends := isBlankOrEnd c.rest ||
    headIs ([':', '?', ',', ']', '\x7d', '%', '@', Char.ofNat 0x60].contains ·) c.rest
  if name = [] ∨ !ends then c.fail "did not find expected alphabetic or numeric character"
  else .ok (c.emit (token (String.ofList name)))

/-! ### One token after another -/

/-- A mark that may start a key and keeps one from starting right after it. -/
def startKey (c : Cursor) (scan : Cursor → Except Flaw Cursor) : Except Flaw Cursor := do
  let c ← saveKey c
  scan { c with keyAllowed := false }

def openFlow (c : Cursor) (t : Token) : Except Flaw Cursor := do
  let c ← saveKey c
  pure ({ c with keys := none :: c.keys, keyAllowed := true }.emit t |>.skip 1)

def closeFlow (c : Cursor) (t : Token) : Except Flaw Cursor := do
  let c ← removeKey c
  let keys := if c.flow > 0 then c.keys.drop 1 else c.keys
  pure ({ c with keys, keyAllowed := false }.emit t |>.skip 1)

def scanComma (c : Cursor) : Except Flaw Cursor := do
  let c ← removeKey c
  pure ({ c with keyAllowed := true }.emit .comma |>.skip 1)

def scanEntry (c : Cursor) : Except Flaw Cursor := do
  if c.flow = 0 ∧ !c.keyAllowed then
    c.fail "block sequence entries are not allowed in this context"
  let c ← removeKey (roll c c.column none .blockSequence)
  pure ({ c with keyAllowed := true }.emit .entry |>.skip 1)

def scanKey (c : Cursor) : Except Flaw Cursor := do
  if c.flow = 0 ∧ !c.keyAllowed then c.fail "mapping keys are not allowed in this context"
  let c ← removeKey (roll c c.column none .blockMapping)
  pure ({ c with keyAllowed := c.flow == 0 }.emit .key |>.skip 1)

def scanValue (c : Cursor) : Except Flaw Cursor := do
  match c.keys with
  | some k :: outer =>
    let c := roll (c.emitAt k.number .key) k.column (some k.number) .blockMapping
    pure ({ c with keys := none :: outer, keyAllowed := false }.emit .value |>.skip 1)
  | _ =>
    if c.flow = 0 ∧ !c.keyAllowed then c.fail "mapping values are not allowed in this context"
    let c := roll c c.column none .blockMapping
    pure ({ c with keyAllowed := c.flow == 0 }.emit .value |>.skip 1)

def scanDocumentMark (c : Cursor) (t : Token) : Except Flaw Cursor := do
  let c ← removeKey (unroll c (-1))
  pure ({ c with keyAllowed := false }.emit t |>.skip 3)

def startsPlain (inFlow : Bool) (s : List Char) : Bool :=
  match s with
  | [] => false
  | c :: rest =>
    !(isBlank c || isBreak c || isMark c || c == '-' || c == '?' || c == ':') ||
      (c == '-' && !headIs isBlank rest) ||
      (!inFlow && (c == '?' || c == ':') && !isBlankOrEnd rest)

def scanOne (c : Cursor) : Except Flaw Cursor := do
  let inFlow := c.flow > 0
  let next := c.rest.drop 1
  match c.rest with
  | [] => pure c
  | x :: _ =>
    if c.column = 0 ∧ x = '%' then
      let c ← removeKey (unroll c (-1))
      scanDirective { c with keyAllowed := false }
    else if atDocumentMark c then
      scanDocumentMark c (if x = '-' then .documentStart else .documentEnd)
    else if x = '[' then openFlow c .flowSequence
    else if x = '\x7b' then openFlow c .flowMapping
    else if x = ']' then closeFlow c .flowSequenceEnd
    else if x = '\x7d' then closeFlow c .flowMappingEnd
    else if x = ',' then scanComma c
    else if x = '-' ∧ isBlankOrEnd next then scanEntry c
    else if x = '?' ∧ (inFlow ∨ isBlankOrEnd next) then scanKey c
    else if x = ':' ∧ (inFlow ∨ isBlankOrEnd next) then scanValue c
    else if x = '*' then startKey c (scanName · .reference)
    else if x = '&' then startKey c (scanName · .anchor)
    else if x = '!' then startKey c scanTag
    else if x = '|' ∧ !inFlow then
      let c ← removeKey c
      scanBlock true { c with keyAllowed := true }
    else if x = '>' ∧ !inFlow then
      let c ← removeKey c
      scanBlock false { c with keyAllowed := true }
    else if x = '\'' then startKey c (scanQuoted true)
    else if x = '"' then startKey c (scanQuoted false)
    else if startsPlain inFlow c.rest then startKey c scanPlain
    else c.fail "found character that cannot start any token"

def scanAll : Nat → Cursor → Except Flaw Cursor
  | 0, c => .ok c
  | fuel + 1, c => do
    let c := skipToToken (c.rest.length + 1) c
    let c ← dropStale c
    let c := unroll c c.column
    if c.rest = [] then removeKey (unroll { c with column := 0 } (-1))
    else scanAll fuel (← scanOne c)

def isAllowed (c : Char) : Bool :=
  let n := c.toNat
  n == 9 || n == 10 || n == 13 || (0x20 ≤ n && n ≤ 0x7E) || n == 0x85 || (0xA0 ≤ n && n ≤ 0xFFFD) ||
    0x10000 ≤ n

def ofText (text : String) : Except Flaw (List (Token × Mark)) :=
  let s := text.toList
  if s.all isAllowed then (scanAll (s.length + 1) (Cursor.start s)).map (·.found.reverse)
  else .error ⟨"control characters are not allowed", ⟨0, 0⟩⟩

end Token

end ProxyGateway.Yaml
