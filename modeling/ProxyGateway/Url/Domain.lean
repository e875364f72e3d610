import ProxyGateway.Text.Utf8
import ProxyGateway.Unicode.Mapping
import ProxyGateway.Unicode.Normal
import ProxyGateway.Unicode.Shape
import ProxyGateway.Url.Punycode

namespace ProxyGateway.Url.Domain

open Unicode

def disallowed : Table := Table.ofText disallowedText

def ignored : Table := Table.ofText ignoredText

def mapped : Table := Table.ofText mappedText

def marks : Table := Table.ofText markText

def joinsLeft : Table := Table.ofText joinsLeftText

def joinsRight : Table := Table.ofText joinsRightText

def joinsBoth : Table := Table.ofText joinsBothText

def transparent : Table := Table.ofText transparentText

def rightLetters : Table := Table.ofText rightText

def arabicLetters : Table := Table.ofText arabicText

def arabicNumbers : Table := Table.ofText arabicNumberText

def europeanNumbers : Table := Table.ofText europeanNumberText

def neutrals : Table := Table.ofText neutralText

def nonspacing : Table := Table.ofText nonspacingText

/-- ASCII characters that cannot stand in the name of a host. -/
def isForbidden (c : Char) : Bool :=
  c.toNat ≤ 0x20 || c.toNat == 0x7F ||
    ['%', '#', '/', ':', '<', '>', '?', '@', '[', '\\', ']', '^', '|'].contains c

/-- What a character is replaced by; none where it has no place in a name. -/
def mapChar (c : Char) : Option (List Char) :=
  if c.toNat < 128 then
    some [if 'A' ≤ c ∧ c ≤ 'Z' then Char.ofNat (c.toNat + 32) else c]
  else if disallowed.has c then none
  else if ignored.has c then some []
  else match mapped.find? c.toNat with
    | none => some [c]
    | some e =>
      match e.target with
      | [t] => some [Char.ofNat (if e.first = e.last then t else t + (c.toNat - e.first))]
      | ts => some (ts.map Char.ofNat)

/-- A character that mapping leaves as it is. -/
def isStable (c : Char) : Bool := mapChar c == some [c]

/-- The letters on the two sides of a joiner have to join, marks aside; after a virama it may
always stand, and the other joiner only there. -/
def joinersFit : (before : List Char) → List Char → Bool
  | _, [] => true
  | before, c :: rest =>
    let afterVirama := (before.head?.map fun b => combiningClass b.toNat == 9).getD false
    let joined :=
      let left := (before.dropWhile transparent.has).head?
      let right := (rest.dropWhile transparent.has).head?
      ((left.map fun x => joinsLeft.has x || joinsBoth.has x).getD false) &&
        ((right.map fun x => joinsRight.has x || joinsBoth.has x).getD false)
    let ok :=
      if c == '\u200C' then afterVirama || joined
      else if c == '\u200D' then afterVirama
      else true
    ok && joinersFit (c :: before) rest

inductive Direction where
  | left
  | right
  | arabicNumber
  | europeanNumber
  | neutral
  | nonspacing
deriving DecidableEq

def direction (c : Char) : Direction :=
  if rightLetters.has c || arabicLetters.has c then .right
  else if arabicNumbers.has c then .arabicNumber
  else if europeanNumbers.has c then .europeanNumber
  else if nonspacing.has c then .nonspacing
  else if neutrals.has c then .neutral
  else .left

/-- The rule for labels of names that hold right-to-left text. -/
def directionsFit (label : List Char) : Bool :=
  let ds := label.map direction
  match ds.head?, (ds.reverse.dropWhile (· == .nonspacing)).head? with
  | none, _ => true
  | some .right, last =>
    !ds.contains .left && (last == some .right || last == some .europeanNumber ||
      last == some .arabicNumber) && !(ds.contains .europeanNumber && ds.contains .arabicNumber)
  | some .left, last =>
    !ds.contains .right && !ds.contains .arabicNumber &&
      (last == some .left || last == some .europeanNumber)
  | _, _ => false

def needsDirections (labels : List (List Char)) : Bool :=
  labels.any fun l => l.any fun c => direction c == .right || direction c == .arabicNumber

/-- A label that stands for itself: composed, no mark in front, joiners in their places. -/
def isValidLabel (label : List Char) : Bool :=
  label.all isStable && normalize label == label &&
    !((label.head?.map marks.has).getD false) && joinersFit [] label && !label.contains '.'

def labelChars (label : List Char) : Option (List Char) :=
  match label with
  | 'x' :: 'n' :: '-' :: '-' :: rest =>
    match Punycode.decode rest with
    | some decoded =>
      if rest ≠ [] ∧ decoded.any (128 ≤ ·.toNat) ∧ isValidLabel decoded ∧
          Punycode.encode decoded = rest then some decoded
      else none
    | none => none
  | _ => if isValidLabel label then some label else none

def asciiLabel (label : List Char) : List Char :=
  if label.all (·.toNat < 128) then label else ['x', 'n', '-', '-'] ++ Punycode.encode label

def toAscii (name : String) : Option String := do
  let mappedChars ← name.toList.mapM mapChar
  let s := normalize mappedChars.flatten
  if s.any isForbidden then none
  else
    let labels ← (Text.splitAll '.' s).mapM labelChars
    if needsDirections labels && !labels.all directionsFit then none
    else some (String.ofList (['.'].intercalate (labels.map asciiLabel)))

end ProxyGateway.Url.Domain
