import ProxyGateway.Text.Utf8
import ProxyGateway.Text.Numeral

namespace ProxyGateway.Url

def upperHexChar (n : Nat) : Char :=
  if n < 10 then Char.ofNat (48 + n) else Char.ofNat (55 + n)

def escapeByte (b : UInt8) : List Char :=
  ['%', upperHexChar (b.toNat / 16), upperHexChar (b.toNat % 16)]

/-- Escapes the characters of a set, byte by byte. -/
def escape (inSet : Char → Bool) (s : List Char) : List Char :=
  s.flatMap fun c => if inSet c then (String.utf8EncodeChar c).flatMap escapeByte else [c]

/-- The bytes of a text with its escapes undone. -/
def unescape : Bytes → Bytes
  | [] => []
  | a :: rest =>
    if a = 0x25 then
      match rest with
      | b :: c :: rest' =>
        match Text.digitValue 16 (Char.ofNat b.toNat), Text.digitValue 16 (Char.ofNat c.toNat) with
        | some x, some y => UInt8.ofNat (x * 16 + y) :: unescape rest'
        | _, _ => a :: unescape (b :: c :: rest')
      | [b] => a :: unescape [b]
      | [] => [a]
    else a :: unescape rest

/-- Control characters and everything outside ASCII. -/
def isControl (c : Char) : Bool := c.toNat < 0x20 || 0x7E < c.toNat

def inFragment (c : Char) : Bool :=
  isControl c || c == ' ' || c == '"' || c == '<' || c == '>' || c.toNat == 0x60

def inPath (c : Char) : Bool :=
  inFragment c || c == '#' || c == '?' || c == '\x7b' || c == '\x7d'

def inUserinfo (c : Char) : Bool :=
  inPath c || ['/', ':', ';', '=', '@', '[', '\\', ']', '^', '|'].contains c

def inQuery (c : Char) : Bool :=
  isControl c || c == ' ' || c == '"' || c == '#' || c == '<' || c == '>'

def inSpecialQuery (c : Char) : Bool := inQuery c || c == '\''

def isWord (c : Char) : Bool :=
  ('a' ≤ c && c ≤ 'z') || ('A' ≤ c && c ≤ 'Z') || ('0' ≤ c && c ≤ '9')

/-- The characters that stand for themselves in any part of a link. -/
def isUnreserved (c : Char) : Bool := isWord c || c == '-' || c == '_' || c == '.' || c == '~'

def encodeComponent (s : String) : String :=
  String.ofList (escape (fun c => !isUnreserved c) s.toList)

/-- Undoes escapes; the bytes have to be a text. -/
def decodeComponent (s : String) : Except Text.Utf8.Flaw String :=
  Text.Utf8.decode (unescape (Bytes.ofText s))

end ProxyGateway.Url
