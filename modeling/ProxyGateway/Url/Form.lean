import ProxyGateway.Text.Cut
import ProxyGateway.Url.Percent

namespace ProxyGateway.Url.Form

def decodePart (s : Bytes) : String :=
  Text.Utf8.repair (unescape (s.map fun b => if b = 0x2B then 0x20 else b))

/-- The pairs of a text in order; empty parts are skipped. -/
def read (s : String) : List (String × String) :=
  ((Text.splitAll 0x26 (Bytes.ofText s)).filter (· ≠ [])).map fun part =>
    match Text.cutFirst 0x3D part with
    | some (k, v) => (decodePart k, decodePart v)
    | none => (decodePart part, "")

def isPlain (c : Char) : Bool := isWord c || c == '*' || c == '-' || c == '.' || c == '_'

def encodePart (s : String) : String :=
  String.ofList (s.toList.flatMap fun c =>
    if c = ' ' then ['+'] else escape (fun x => !isPlain x) [c])

def write (pairs : List (String × String)) : String :=
  "&".intercalate (pairs.map fun (k, v) => encodePart k ++ "=" ++ encodePart v)

end ProxyGateway.Url.Form
