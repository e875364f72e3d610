import ProxyGateway.Credentials
import ProxyGateway.Net.HostPort
import ProxyGateway.Text.Blank
import ProxyGateway.Url.Basic
import ProxyGateway.Yaml.Decode
/-!
The configuration: where to listen, whom to let in, which proxies to use and how to probe them. It
is read from a YAML document; what the document does not say has a default, and some of what it
says is checked.
-/
namespace ProxyGateway

/-- How health and speed are probed; times are in seconds, sizes in bytes. -/
structure ProbeSettings where
  delayUrl : String
  delayInterval : Nat
  speedUrl : String
  speedInterval : Nat
  timeout : Nat
  speedTimeout : Nat
  dialTimeout : Nat
  speedSample : Nat
deriving DecidableEq, Repr

def ProbeSettings.default : ProbeSettings where
  delayUrl := "http://www.gstatic.com/generate_204"
  delayInterval := 60
  speedUrl := "http://cachefly.cachefly.net/50mb.test"
  speedInterval := 1800
  timeout := 5
  speedTimeout := 60
  dialTimeout := 5
  speedSample := 1048576

/-- A list of proxies that is fetched again and again; an interval of nought means once. -/
structure SubscriptionSettings where
  name : String
  url : String
  interval : Nat
  path : Option String
deriving DecidableEq, Repr

structure DnsSettings where
  enable : Bool
  nameservers : List String
deriving DecidableEq, Repr

structure Config where
  /-- The port of the listener; nought turns it off. -/
  mixedPort : Nat
  bindAddress : Option String
  allowLan : Bool
  logLevel : String
  externalController : Option String
  secret : Option String
  authentication : List String
  storePath : String
  proxies : List Yaml.Mapping
  links : List String
  subscriptions : List SubscriptionSettings
  probe : ProbeSettings
  dns : DnsSettings

namespace Config

def default : Config where
  mixedPort := 7890
  bindAddress := none
  allowLan := false
  logLevel := "info"
  externalController := none
  secret := none
  authentication := []
  storePath := "nico.yaml"
  proxies := []
  links := []
  subscriptions := []
  probe := .default
  dns := ⟨true, []⟩

section Reading

open Yaml Yaml.Document Yaml.Document.Decode

def word (n : Yaml.Node) : Decode Nat := nat 18446744073709551616 n

def readProbe (n : Yaml.Node) : Decode ProbeSettings := do
  let d := ProbeSettings.default
  let fs ← fields ["delay-url", "delay-interval", "speed-url", "speed-interval", "timeout",
    "speed-timeout", "dial-timeout", "speed-sample"] n
  pure {
    delayUrl := ← field fs "delay-url" d.delayUrl text
    delayInterval := ← field fs "delay-interval" d.delayInterval word
    speedUrl := ← field fs "speed-url" d.speedUrl text
    speedInterval := ← field fs "speed-interval" d.speedInterval word
    timeout := ← field fs "timeout" d.timeout word
    speedTimeout := ← field fs "speed-timeout" d.speedTimeout word
    dialTimeout := ← field fs "dial-timeout" d.dialTimeout word
    speedSample := ← field fs "speed-sample" d.speedSample word }

def readSubscription (n : Yaml.Node) : Decode SubscriptionSettings := do
  let fs ← fields ["name", "url", "interval", "path"] n
  pure {
    name := ← needed n fs "name" text
    url := ← needed n fs "url" text
    interval := ← field fs "interval" 3600 word
    path := ← field fs "path" none (optional text) }

def readDns (n : Yaml.Node) : Decode DnsSettings := do
  let fs ← fields ["enable", "nameserver"] n
  pure {
    enable := ← field fs "enable" true bool
    nameservers := ← field fs "nameserver" [] (list text) }

def readRoot (n : Yaml.Node) : Decode Config := do
  let d := Config.default
  let fs ← fields ["mixed-port", "bind-address", "allow-lan", "log-level", "external-controller",
    "secret", "authentication", "store-path", "proxies", "links", "subscriptions", "probe",
    "dns"] n
  pure {
    mixedPort := ← field fs "mixed-port" d.mixedPort (nat 65536)
    bindAddress := ← field fs "bind-address" none (optional text)
    allowLan := ← field fs "allow-lan" false bool
    logLevel := ← field fs "log-level" d.logLevel text
    externalController := ← field fs "external-controller" none (optional text)
    secret := ← field fs "secret" none (optional text)
    authentication := ← field fs "authentication" [] (list text)
    storePath := ← field fs "store-path" d.storePath text
    proxies := ← field fs "proxies" [] (list (mapping 125))
    links := ← field fs "links" [] (list text)
    subscriptions := ← field fs "subscriptions" [] (list readSubscription)
    probe := ← field fs "probe" d.probe readProbe
    dns := ← field fs "dns" d.dns readDns }

end Reading

/-- An entry of a user: the password stands behind the first colon. -/
def credentialsOf (entry : String) : Except Error Credentials :=
  match Text.cutFirst ':' entry.toList with
  | some (user, password) => .ok ⟨String.ofList user, String.ofList password⟩
  | none => .error (.config ("authentication entry " ++ entry ++ " is not user:pass"))

def credentials (c : Config) : Except Error (List Credentials) :=
  c.authentication.mapM credentialsOf

def listenAddress (c : Config) : String :=
  let host := match c.bindAddress.filter fun a => a ≠ "" ∧ a ≠ "*" with
    | some a => a
    | none => if c.allowLan then "0.0.0.0" else "127.0.0.1"
  Net.joinHostPort host (UInt16.ofNat c.mixedPort)

def checkUrl (what url : String) : Except Error Unit :=
  match Url.read url with
  | .ok _ => .ok ()
  | .error flaw => .error (.config (what ++ ": " ++ flaw.message))

end Config

def ProbeSettings.validate (p : ProbeSettings) : Except Error Unit := do
  if p.delayInterval = 0 ∨ p.speedInterval = 0 then
    throw (.config "probe intervals must be positive")
  if p.speedSample = 0 then throw (.config "speed-sample must be positive")
  Config.checkUrl "invalid delay-url" p.delayUrl
  Config.checkUrl "invalid speed-url" p.speedUrl

namespace Config

def validate (c : Config) : Except Error Unit := do
  if let some address := c.externalController then
    if (Net.readSocketAddress address).isNone then
      throw (.config ("invalid external-controller " ++ address ++
        ": invalid socket address syntax"))
  if Text.trim c.storePath = "" then throw (.config "store-path cannot be empty")
  c.subscriptions.forM fun s => checkUrl ("invalid subscription url for " ++ s.name) s.url
  let _ ← c.credentials
  c.probe.validate

def ofText (text : String) : Except Error Config := do
  match (Yaml.Document.ofText text).bind (·.decode readRoot) with
  | .error flaw => throw (.config flaw.message)
  | .ok c =>
    c.validate
    pure c

def ofBytes (b : Bytes) : Except Error Config :=
  match Text.Utf8.decode? b with
  | some text => ofText text
  | none => .error (.io "stream did not contain valid UTF-8")

end Config

end ProxyGateway
