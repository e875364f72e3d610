import ProxyGateway.Yaml.Scalar
/-!
Writing YAML in block style. A list stands at the indentation of the key that holds it, any other
collection two columns deeper. A text is written plainly where that reads back as the text, in
single quotes where it would be taken for something else, in double quotes where it holds a
character that has to be escaped, and as a block where it has several lines.
-/
namespace ProxyGateway.Yaml

def isBreak (c : Char) : Bool :=
  c == '\n' || c == '\r' || c == '\u0085' || c == '\u2028' || c == '\u2029'

def isPrintable (c : Char) : Bool :=
  let n := c.toNat
  n == 10 || (0x20 ≤ n && n ≤ 0x7E) || (0xA0 ≤ n && n < 0xFEFF) || (0xFEFF < n && n < 0xFFFE) ||
    0x10000 ≤ n

structure Shape where
  multiline : Bool
  plainInBlock : Bool
  singleQuoted : Bool
  block : Bool
deriving Repr

def isMark (c : Char) : Bool :=
  ['#', ',', '[', ']', '\x7b', '\x7d', '&', '*', '!', '|', '>', '\'', '"', '%', '@',
    Char.ofNat 0x60].contains c

def isBlankOrEnd : List Char → Bool
  | [] => true
  | c :: _ => c == ' ' || c == '\t' || isBreak c

/-- A mark inside a text that ends it: a colon before a blank, or a hash after one. -/
def hasInnerMark : Bool → List Char → Bool
  | _, [] => false
  | blankBefore, c :: rest =>
    (c == ':' && isBlankOrEnd rest) || (c == '#' && blankBefore) ||
      hasInnerMark (isBlankOrEnd [c]) rest

def startsWithMark (s : List Char) : Bool :=
  match s with
  | [] => false
  | c :: rest =>
    isMark c || ((c == '?' || c == ':' || c == '-') && isBlankOrEnd rest) ||
      ['-', '-', '-'].isPrefixOf s || ['.', '.', '.'].isPrefixOf s

def hasPair (p q : Char → Bool) : List Char → Bool
  | a :: b :: rest => (p a && q b) || hasPair p q (b :: rest)
  | _ => false

def shape (s : List Char) : Shape :=
  if s = [] then ⟨false, true, true, false⟩
  else
    let isSpace := fun c => c == ' '
    let edge := fun c => isSpace c || isBreak c
    let lines := s.any isBreak
    let special := s.any fun c => !isPrintable c
    let breakSpace := hasPair isBreak isSpace s
    let spaceBreak := hasPair isSpace isBreak s
    let starts := (s.head?.map edge).getD false
    let ends := (s.getLast?.map edge).getD false
    let endsInSpace := (s.getLast?.map isSpace).getD false
    ⟨lines,
      !(starts || ends || special || lines || startsWithMark s || hasInner s),
      !(breakSpace || spaceBreak || special),
      !(endsInSpace || spaceBreak || special)⟩
where
  hasInner (s : List Char) : Bool :=
    match s with
    | [] => false
    | c :: rest => hasInnerMark (isBlankOrEnd [c]) rest

inductive Style where
  | plain
  | single
  | double
  | literal
deriving DecidableEq

/-- The style that a text asks for: a block for several lines, quotes where the plain text would
stand for something else. -/
def wantedStyle (s : String) : Style :=
  if '\n' ∈ s.toList then .literal
  else match plain s with
    | .text => if zeroLed s.toList then .single else .plain
    | _ => .single

def chosenStyle (key : Bool) (wanted : Style) (s : List Char) : Style :=
  let sh := shape s
  let style := if key && sh.multiline then .double else wanted
  let style := if style = .plain ∧ (!sh.plainInBlock ∨ (s = [] ∧ key)) then .single else style
  let style := if style = .single ∧ !sh.singleQuoted then .double else style
  if style = .literal ∧ (!sh.block ∨ key) then .double else style

def spaces (n : Nat) : List Char := List.replicate n ' '

def upperHex (width n : Nat) : List Char :=
  let ds := (Text.numeral 16 n).map fun c => if 'a' ≤ c then Char.ofNat (c.toNat - 32) else c
  List.replicate (width - ds.length) '0' ++ ds

def escape (c : Char) : List Char :=
  let n := c.toNat
  if c == '"' || c == '\\' then ['\\', c]
  else if isPrintable c && !isBreak c then [c]
  else
    let short := [(0, '0'), (7, 'a'), (8, 'b'), (9, 't'), (10, 'n'), (11, 'v'), (12, 'f'), (13, 'r'),
      (0x1B, 'e'), (0x85, 'N'), (0xA0, '_'), (0x2028, 'L'), (0x2029, 'P')]
    match short.lookup n with
    | some e => ['\\', e]
    | none =>
      if n ≤ 0xFF then '\\' :: 'x' :: upperHex 2 n
      else if n ≤ 0xFFFF then '\\' :: 'u' :: upperHex 4 n
      else '\\' :: 'U' :: upperHex 8 n

/-- The inside of a single-quoted text: a quote is doubled, and what follows a break is indented. -/
def singleInside (indent : Nat) : (afterBreak : Bool) → List Char → List Char
  | false, [] => []
  | true, [] => spaces indent
  | afterBreak, c :: rest =>
    if c = ' ' then c :: singleInside indent afterBreak rest
    else if isBreak c then
      (if !afterBreak && c == '\n' then ['\n'] else []) ++ c :: singleInside indent true rest
    else
      (if afterBreak then spaces indent else []) ++ (if c = '\'' then ['\'', '\''] else [c]) ++
        singleInside indent false rest

def literalLines (indent : Nat) : (lineStart : Bool) → List Char → List Char
  | _, [] => []
  | lineStart, c :: rest =>
    if isBreak c then c :: literalLines indent true rest
    else (if lineStart then spaces indent else []) ++ c :: literalLines indent false rest

/-- The head of a block says where its text starts with a blank, and how it ends. -/
def literalHead (s : List Char) : List Char :=
  let indentHint := match s with
    | c :: _ => if c == ' ' || isBreak c then ['2'] else []
    | [] => []
  let chomp := match s.reverse with
    | [] => ['-']
    | [c] => if isBreak c then ['+'] else ['-']
    | c :: d :: _ => if !isBreak c then ['-'] else if isBreak d then ['+'] else []
  '|' :: indentHint ++ chomp

/-- A scalar in a style; a block ends at the end of its last line. -/
def styled (indent : Nat) (style : Style) (s : List Char) : List Char :=
  match style with
  | .plain => s
  | .single => '\'' :: singleInside (indent + 2) false s ++ ['\'']
  | .double => '"' :: s.flatMap escape ++ ['"']
  | .literal => literalHead s ++ '\n' :: literalLines (indent + 2) true s

def isTagChar (c : Char) : Bool :=
  c.isAlphanum || ['-', '_', ';', '/', '?', ':', '@', '&', '=', '+', '$', ',', '.', '~', '*', '\'',
    '(', ')', '[', ']'].contains c

def tagContent (s : List Char) : List Char :=
  s.flatMap fun c =>
    if isTagChar c then [c]
    else (String.utf8EncodeChar c).flatMap fun b => '%' :: upperHex 2 b.toNat

/-- A tag of more than its mark is written with the mark in front, the bare mark verbatim. -/
def tagText (tag : String) : List Char :=
  match tag.toList with
  | '!' :: c :: rest => '!' :: tagContent (c :: rest)
  | s => '!' :: '<' :: tagContent s ++ ['>']

structure Written where
  style : Style
  text : String

def written? : Yaml → Option Written
  | null => some ⟨.plain, "null"⟩
  | bool b => some ⟨.plain, if b then "true" else "false"⟩
  | num n => some ⟨.plain, numberText n⟩
  | str s => some ⟨wantedStyle s, s⟩
  | _ => none

/-- Whether a key fits on the line of its value: an empty collection or a text of one line, of at
most 128 bytes with its tag. -/
def isSimpleKey : Yaml → Bool
  | seq items => items.isEmpty
  | map entries => entries.isEmpty
  | tagged tag (seq items) => items.isEmpty && tag.utf8ByteSize ≤ 128
  | tagged tag (map entries) => entries.isEmpty && tag.utf8ByteSize ≤ 128
  | tagged tag (str s) =>
    !s.toList.any isBreak && tag.utf8ByteSize + s.utf8ByteSize ≤ 128
  | tagged tag v => tag.utf8ByteSize + ((written? v).map (·.text.utf8ByteSize)).getD 0 ≤ 128
  | str s => !s.toList.any isBreak && s.utf8ByteSize ≤ 128
  | _ => true

structure Place where
  /-- The column at which the entries of the enclosing collection start. -/
  indent : Nat
  inMapping : Bool
  /-- Whether a collection may start on the line of the mark before it. -/
  compact : Bool
  /-- Whether the node is a key on the line of its value. -/
  key : Bool

def opening (p : Place) (column : Nat) : List Char :=
  if p.compact then spaces (column - p.indent - 1) else '\n' :: spaces column

def seqColumn (p : Place) : Nat :=
  if p.inMapping && !p.compact then p.indent else p.indent + 2

def simpleKeyPlace (column : Nat) : Place := ⟨column, true, false, true⟩

def valuePlace (column : Nat) : Place := ⟨column, true, false, false⟩

def longPlace (column : Nat) : Place := ⟨column, true, true, false⟩

/-- Ends a line unless a block has ended it. -/
def lineBreak (s : List Char) : List Char :=
  match s.getLast? with
  | some c => if isBreak c then [] else ['\n']
  | none => ['\n']

def joinEntries (column : Nat) : List (List Char) → List Char
  | [] => []
  | [e] => e
  | e :: rest => e ++ lineBreak e ++ spaces column ++ joinEntries column rest

def scalar (p : Place) (w : Written) : List Char :=
  styled p.indent (chosenStyle p.key w.style w.text.toList) w.text.toList

mutual

def node (p : Place) : Yaml → List Char
  | seq [] => ' ' :: ['[', ']']
  | map [] => ' ' :: ['\x7b', '\x7d']
  | seq items =>
    let column := seqColumn p
    opening p column ++ joinEntries column (seqEntries column items)
  | map entries =>
    let column := p.indent + 2
    opening p column ++ joinEntries column (mapEntries column entries)
  | tagged tag v => ' ' :: tagText tag ++ node { p with compact := false } v
  | null => ' ' :: scalar p ⟨.plain, "null"⟩
  | bool b => ' ' :: scalar p ⟨.plain, if b then "true" else "false"⟩
  | num n => ' ' :: scalar p ⟨.plain, numberText n⟩
  | str s => ' ' :: scalar p ⟨wantedStyle s, s⟩

def seqEntries (column : Nat) : List Yaml → List (List Char)
  | [] => []
  | v :: rest => ('-' :: node ⟨column, false, true, false⟩ v) :: seqEntries column rest

def mapEntries (column : Nat) : List (Yaml × Yaml) → List (List Char)
  | [] => []
  | (k, v) :: rest =>
    (if isSimpleKey k then (node (simpleKeyPlace column) k).drop 1 ++ ':' :: node (valuePlace column) v
    else
      let key := '?' :: node (longPlace column) k
      key ++ lineBreak key ++ spaces column ++ ':' :: node (longPlace column) v) ::
      mapEntries column rest

end

mutual

/-- A tag directly under a tag has no written form. -/
def hasDoubleTag : Yaml → Bool
  | tagged _ (tagged _ _) => true
  | tagged _ v => hasDoubleTag v
  | seq items => anyDoubleTag items
  | map entries => anyDoubleTagEntry entries
  | _ => false

def anyDoubleTag : List Yaml → Bool
  | [] => false
  | v :: rest => hasDoubleTag v || anyDoubleTag rest

def anyDoubleTagEntry : List (Yaml × Yaml) → Bool
  | [] => false
  | (k, v) :: rest => hasDoubleTag k || hasDoubleTag v || anyDoubleTagEntry rest

end

/-- The document of a mapping; none where it holds a tag directly under a tag. -/
def document? (m : Mapping) : Option String :=
  if hasDoubleTag (map m) then none
  else
    let body := match m with
      | [] => ['\x7b', '\x7d']
      | _ => joinEntries 0 (mapEntries 0 m)
    some (String.ofList (body ++ lineBreak body))

end ProxyGateway.Yaml
