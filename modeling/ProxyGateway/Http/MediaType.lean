import ProxyGateway.Text.Ascii
import ProxyGateway.Text.Cut

namespace ProxyGateway.Http

structure MediaType where
  main : String
  sub : String
  suffix : Option String
deriving DecidableEq, Repr

namespace MediaType

def isNameChar (c : Char) : Bool :=
  ('a' ≤ c && c ≤ 'z') || ('A' ≤ c && c ≤ 'Z') || ('0' ≤ c && c ≤ '9') ||
    ['!', '#', '$', '%', '&', '\'', '+', '-', '.', '^', '_', '|', '~'].contains c ||
    c.toNat == 0x60

def isQuotedChar (c : Char) : Bool := 31 < c.toNat && c.toNat != 127 && c != '"'

def afterQuoted (s : List Char) : Option (List Char) :=
  match s.dropWhile (· == ' ') with
  | [] => some []
  | ';' :: rest => some rest
  | _ => none

def afterPlain (s : List Char) : Option (List Char) :=
  match s with
  | [] => some []
  | ';' :: rest => some rest
  | _ => none

/-- What follows a value. A value may be missing at the end only. -/
def dropValue (s : List Char) : Option (List Char) :=
  match s with
  | '"' :: rest =>
    let value := rest.takeWhile isQuotedChar
    match value, rest.drop value.length with
    | _ :: _, '"' :: rest => afterQuoted rest
    | _, _ => none
  | ';' :: _ => none
  | s => afterPlain (s.dropWhile isNameChar)

/-- Whether parameters are well-formed; `fuel` bounds their number. -/
def areParameters : (fuel : Nat) → List Char → Bool
  | 0, _ => false
  | fuel + 1, s =>
    match s.dropWhile (· == ' ') with
    | [] => true
    | s =>
      let name := s.takeWhile isNameChar
      match name, s.drop name.length with
      | _ :: _, '=' :: rest =>
        match dropValue rest with
        | some rest => areParameters fuel rest
        | none => false
      | _, _ => false

/-- A subtype and its suffix, neither of which is empty before its end. -/
def splitSuffix (s : List Char) : List Char × Option (List Char) :=
  match Text.cutLast '+' s with
  | some ([], _) | none => (s, none)
  | some (sub, suffix) => (sub, some suffix)

def ofText? (text : String) : Option MediaType :=
  let s := text.toList
  let main := s.takeWhile isNameChar
  match main, s.drop main.length with
  | _ :: _, '/' :: rest =>
    let sub := rest.takeWhile isNameChar
    let whole (sub : List Char) : MediaType :=
      let (name, suffix) := splitSuffix sub
      let shown (s : List Char) := Text.lower (String.ofList s)
      ⟨shown main, shown name, suffix.map shown⟩
    match sub, rest.drop sub.length with
    | sub, [] => some (whole sub)
    | c :: cs, ';' :: parameters =>
      if areParameters (parameters.length + 1) parameters then some (whole (c :: cs)) else none
    | _, _ => none
  | _, _ => none

def isJson (m : MediaType) : Bool :=
  m.main == "application" && (m.sub == "json" || m.suffix == some "json")

end MediaType

end ProxyGateway.Http
