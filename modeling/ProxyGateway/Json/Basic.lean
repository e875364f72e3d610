import ProxyGateway.Fields
import ProxyGateway.Number.Basic

namespace ProxyGateway

inductive Json where
  | null
  | bool (b : Bool)
  | num (n : Number)
  | str (s : String)
  | arr (items : List Json)
  | obj (members : List (String × Json))
deriving Repr, Inhabited

namespace Json

def get? (j : Json) (key : String) : Option Json :=
  match j with
  | obj members => Fields.get? members key
  | _ => none

/-- The last value of a name stays. -/
def ofMembers (members : List (String × Json)) : Json := obj (Fields.ofList members)

def hexDigits4 (n : Nat) : List Char :=
  let ds := Text.numeral 16 n
  List.replicate (4 - ds.length) '0' ++ ds

def escapeChar (c : Char) : List Char :=
  if c = '"' then ['\\', '"']
  else if c = '\\' then ['\\', '\\']
  else if c = '\n' then ['\\', 'n']
  else if c = '\r' then ['\\', 'r']
  else if c = '\t' then ['\\', 't']
  else if c.toNat = 8 then ['\\', 'b']
  else if c.toNat = 12 then ['\\', 'f']
  else if c.toNat < 32 then '\\' :: 'u' :: hexDigits4 c.toNat
  else [c]

def quoteChars (s : List Char) : List Char := '"' :: s.flatMap escapeChar ++ ['"']

def quote (s : String) : String := String.ofList (quoteChars s.toList)

/-- Numbers are written without an exponent from `0.00001` up to sixteen digits before the point,
and an exponent has its sign. -/
def numberLayout : Decimal.Layout := ⟨16, -5, true⟩

def numberText : Number → String
  | .whole n => Text.decimalInt n
  | .real d => if d.isFinite then d.shortText numberLayout else "null"

mutual

/-- The compact text, without any white space. -/
def text : Json → List Char
  | null => ['n', 'u', 'l', 'l']
  | bool true => ['t', 'r', 'u', 'e']
  | bool false => ['f', 'a', 'l', 's', 'e']
  | num n => (numberText n).toList
  | str s => quoteChars s.toList
  | arr items => '[' :: itemsText items ++ [']']
  | obj members => '\x7b' :: membersText members ++ ['\x7d']

def itemsText : List Json → List Char
  | [] => []
  | [j] => text j
  | j :: rest => text j ++ ',' :: itemsText rest

def membersText : List (String × Json) → List Char
  | [] => []
  | [(k, v)] => quoteChars k.toList ++ ':' :: text v
  | (k, v) :: rest => quoteChars k.toList ++ ':' :: text v ++ ',' :: membersText rest

end

def toText (j : Json) : String := String.ofList (text j)

end Json

end ProxyGateway
