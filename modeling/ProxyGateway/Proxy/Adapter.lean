import ProxyGateway.Proxy.Identity
import ProxyGateway.Proxy.Metrics
import ProxyGateway.ShareLink.Shadowsocks
import ProxyGateway.ShareLink.Trojan
import ProxyGateway.ShareLink.Vmess
import ProxyGateway.Unicode.Quoted
import ProxyGateway.Yaml.Printer

namespace ProxyGateway

structure Adapter where
  record : ProxyRecord
  kind : ProxyKind
  identity : String
  name : String
  host : String
  port : UInt16
  metrics : Metrics

namespace Adapter

/-- The length of the name that an adapter without one takes from its identity. -/
def shortIdentity : Nat := 12

/-- The name to show: without the line ends that some lists leave behind it. -/
def nameFor (r : ProxyRecord) (identity : String) : String :=
  match r.name.filter (· ≠ "") with
  | some n => Text.trimEndOf ['\r', '\n'] n
  | none => String.ofList (identity.toList.take shortIdentity)

def ofRecord (r : ProxyRecord) : Except Error Adapter := do
  r.validate
  let identity ← Identity.ofRecord r
  let kind ← ProxyKind.ofText r.kind
  let place ← Net.splitHostPort r.address
  let some port := place.port | throw (.config (r.address ++ " has no port"))
  pure ⟨r, kind, identity, nameFor r identity, place.host, port, []⟩

def action (a : Adapter) : Action := a.kind.action

def toText (a : Adapter) : String := a.name ++ "[" ++ a.kind.toText ++ "]"

def outline (a : Adapter) : String :=
  "ProxyAdapter \x7b name: " ++ Unicode.quoted a.name ++ ", type: " ++ a.kind.label ++
    ", identity: " ++ Unicode.quoted a.identity ++ ", host: " ++ Unicode.quoted a.host ++
    ", port: " ++ Text.decimal a.port.toNat ++ " \x7d"

/-- The names under which the prober keeps what it measured. -/
def aliveKey : String := "alive"

def delayKey : String := "delay"

def speedKey : String := "speed"

def speedTextKey : String := "speed_str"

def store (a : Adapter) (key : String) (value : Json) : Adapter :=
  { a with metrics := a.metrics.put key value }

def forget (a : Adapter) (key : String) : Adapter := { a with metrics := a.metrics.erase key }

def unmeasured (a : Adapter) : Adapter := { a with metrics := [] }

def alive (a : Adapter) : Bool := a.metrics.bool aliveKey

/-- A probe has failed, and none has worked since. -/
def knownDead (a : Adapter) : Bool := (a.metrics.get? aliveKey).isSome && !a.alive

def delay (a : Adapter) : UInt16 := a.metrics.word delayKey

def speed (a : Adapter) : Double := a.metrics.double speedKey

def speedText (a : Adapter) : String := a.metrics.text speedTextKey

/-- The record of an adapter: its name, the tag of its kind, the options, and the identity. -/
def normalized (a : Adapter) : Yaml.Mapping :=
  let core : Yaml.Mapping := [(.str "name", .str a.name), (.str "type", .str a.kind.tag),
    (.str "server", .str a.record.server), (.str "port", .num (.whole a.record.port.toNat))]
  let options := a.record.options.filter (·.1 ≠ "unique-id")
  let m := options.foldl (fun (m : Yaml.Mapping) (k, v) => m.insert (.str k) v) core
  m.insert (.str "unique-id") (.str a.identity)

def toYaml (a : Adapter) : Except Error String :=
  match Yaml.document? a.normalized with
  | some text => .ok text
  | none => .error (.config "serializing nested enums in YAML is not supported yet")

def shareLink (a : Adapter) : Except Error String :=
  match a.kind with
  | .trojan => .ok (ShareLink.Trojan.write a.name a.host a.port a.record)
  | .shadowsocks => .ok (ShareLink.Shadowsocks.write a.name a.host a.port a.record)
  | .vmess => .ok (ShareLink.Vmess.write a.name a.host a.port a.record)
  | other => .error (.unsupported ("unsupported kind " ++ other.tag ++ " for share link"))

end Adapter

end ProxyGateway
