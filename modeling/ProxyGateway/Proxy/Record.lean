import ProxyGateway.Fields
import ProxyGateway.Net.HostPort
import ProxyGateway.Yaml.Basic

namespace ProxyGateway

structure ProxyRecord where
  name : Option String
  kind : String
  server : String
  port : UInt16
  options : Fields Yaml
deriving Repr

namespace ProxyRecord

def new (kind server : String) (port : UInt16) : ProxyRecord := ⟨none, kind, server, port, []⟩

/-- An empty name is no name. -/
def named (r : ProxyRecord) (name : String) : ProxyRecord :=
  { r with name := if name = "" then none else some name }

def set (r : ProxyRecord) (key : String) (value : Yaml) : ProxyRecord :=
  { r with options := r.options.put key value }

def setText (r : ProxyRecord) (key value : String) : ProxyRecord := r.set key (.str value)

def setFlag (r : ProxyRecord) (key : String) (value : Bool) : ProxyRecord :=
  r.set key (.bool value)

def setInt (r : ProxyRecord) (key : String) (value : Int) : ProxyRecord :=
  r.set key (.num (.whole value))

def address (r : ProxyRecord) : String := Net.joinHostPort r.server r.port

def validate (r : ProxyRecord) : Except Error Unit :=
  if Text.trim r.kind = "" then .error (.config "Proxy type cannot be empty")
  else if r.server = "" then .error (.config "Proxy server cannot be empty")
  else if r.port = 0 then .error (.config "Proxy port cannot be 0")
  else .ok ()

/-- The text of an option; a number or a truth value is written out. -/
def text? (r : ProxyRecord) (key : String) : Option String :=
  (r.options.get? key).bind Yaml.scalarText?

/-- An option as a truth value, which may also be a word or a number. -/
def flag? (r : ProxyRecord) (key : String) : Option Bool :=
  match r.options.get? key with
  | some (.bool b) => some b
  | some (.str s) =>
    if s = "true" ∨ s = "1" then some true
    else if s = "false" ∨ s = "0" then some false
    else none
  | some (.num n) => n.int?.map (· != 0)
  | _ => none

def int? (r : ProxyRecord) (key : String) : Option Int :=
  match r.options.get? key with
  | some (.num n) => n.int?
  | some (.str s) => Text.readInt 9223372036854775808 (Text.trimChars s.toList)
  | _ => none

def portOf? : Yaml → Option Nat
  | .num n => n.nat?
  | .str s => Text.readNat 18446744073709551616 (Text.trimChars s.toList)
  | _ => none

structure Draft where
  name : Option String
  kind : Option String
  server : Option String
  port : Option Nat
  options : Fields Yaml

/-- Every entry of a name replaces those before it. -/
def Draft.add (d : Draft) (key value : Yaml) : Except Error Draft :=
  match key.scalarText? with
  | none => .error (.config "proxy record keys must be scalars")
  | some "name" => .ok { d with name := value.scalarText? }
  | some "type" => .ok { d with kind := value.scalarText? }
  | some "server" => .ok { d with server := value.scalarText? }
  | some "port" => .ok { d with port := portOf? value }
  | some k => .ok { d with options := d.options.put k value }

def Draft.finish (d : Draft) : Except Error ProxyRecord := do
  let some kind := d.kind | throw (.config "proxy record missing type")
  let some server := d.server | throw (.config "proxy record missing server")
  match d.port with
  | some p =>
    if p < 65536 then
      let r : ProxyRecord :=
        ⟨d.name.filter (· ≠ ""), kind, server, UInt16.ofNat p, d.options⟩
      r.validate
      pure r
    else throw (badPort server)
  | none => throw (badPort server)
where
  badPort (server : String) : Error :=
    .config ("proxy record " ++ server ++ " has invalid port")

/-- The record of a mapping; every key is a scalar. -/
def ofMapping (m : Yaml.Mapping) : Except Error ProxyRecord := do
  let start : Draft := ⟨none, none, none, none, []⟩
  let draft ← m.foldlM (fun (d : Draft) (k, v) => d.add k v) start
  draft.finish

def toMapping (r : ProxyRecord) : Yaml.Mapping :=
  let name := match r.name with
    | some n => [(Yaml.str "name", Yaml.str n)]
    | none => []
  let core : Yaml.Mapping := name ++ [(.str "type", .str r.kind), (.str "server", .str r.server),
    (.str "port", .num (.whole r.port.toNat))]
  r.options.foldl (fun m (k, v) => m.insert (.str k) v) core

def sameOptions : Fields Yaml → Fields Yaml → Bool
  | [], [] => true
  | (k, v) :: xs, (l, w) :: ys => k == l && v.same w && sameOptions xs ys
  | _, _ => false

def same (r s : ProxyRecord) : Bool :=
  r.name == s.name && r.kind == s.kind && r.server == s.server && r.port == s.port &&
    sameOptions r.options s.options

end ProxyRecord

end ProxyGateway
