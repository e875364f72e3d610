import ProxyGateway.Json.Basic
import ProxyGateway.Yaml.Basic
/-!
Values of either format in the other. Every JSON value is one of YAML; the other way a key has to
be a scalar, which is written out, a number that is not finite becomes null, and a tag becomes the
only key of a mapping.
-/
namespace ProxyGateway

mutual

def Yaml.ofJson : Json → Yaml
  | .null => .null
  | .bool b => .bool b
  | .num n => .num n
  | .str s => .str s
  | .arr items => .seq (Yaml.ofJsonItems items)
  | .obj members => .map (Yaml.ofJsonMembers members)

def Yaml.ofJsonItems : List Json → List Yaml
  | [] => []
  | j :: rest => Yaml.ofJson j :: Yaml.ofJsonItems rest

def Yaml.ofJsonMembers : List (String × Json) → List (Yaml × Yaml)
  | [] => []
  | (k, v) :: rest => (.str k, Yaml.ofJson v) :: Yaml.ofJsonMembers rest

end

namespace Json

inductive Unwritable where
  | key
  | numberKey
deriving DecidableEq, Repr

def Unwritable.message : Unwritable → String
  | key => "key must be a string"
  | numberKey => "float key must be finite (got NaN or +/-inf)"

def keyText : Yaml → Except Unwritable String
  | .str s => .ok s
  | .bool b => .ok (if b then "true" else "false")
  | .num (.whole n) => .ok (Text.decimalInt n)
  | .num (.real d) => if d.isFinite then .ok (numberText (.real d)) else .error .numberKey
  | .null | .seq _ | .map _ | .tagged _ _ => .error .key

mutual

def ofYaml : Yaml → Except Unwritable Json
  | .null => .ok .null
  | .bool b => .ok (.bool b)
  | .num (.whole n) => .ok (.num (.whole n))
  | .num (.real d) => .ok (if d.isFinite then .num (.real d) else .null)
  | .str s => .ok (.str s)
  | .seq items => (ofYamlItems items).map .arr
  | .map entries => (ofYamlEntries entries).map ofMembers
  | .tagged tag v => (ofYaml v).map fun j => .obj [(tag, j)]

def ofYamlItems : List Yaml → Except Unwritable (List Json)
  | [] => .ok []
  | v :: rest => do
    let j ← ofYaml v
    let js ← ofYamlItems rest
    pure (j :: js)

def ofYamlEntries : List (Yaml × Yaml) → Except Unwritable (List (String × Json))
  | [] => .ok []
  | (k, v) :: rest => do
    let name ← keyText k
    let j ← ofYaml v
    let ms ← ofYamlEntries rest
    pure ((name, j) :: ms)

end

end Json

end ProxyGateway
