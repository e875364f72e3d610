import ProxyGateway.Control.Message
import ProxyGateway.Control.Resource
import ProxyGateway.Engine.Basic
import ProxyGateway.Json.Form
import ProxyGateway.Json.Yaml
import ProxyGateway.Probe.Target
/-!
The control interface: looking at the pool and the rules, and changing them. A question from
another site is answered without looking any further; then comes the secret, then the path, then
the method, then what was sent.
-/
namespace ProxyGateway.Control

def adapterMembers (a : Adapter) : List (String × Json) :=
  [("id", .str a.identity), ("name", .str a.name), ("type", .str a.kind.tag),
    ("server", .str a.host), ("port", .num (.whole a.port.toNat)), ("alive", .bool a.alive),
    ("delay", .num (.whole a.delay.toNat)), ("speed", .num (.real a.speed)),
    ("speed_str", .str a.speedText)]

def listed (nodes : List Node) : Answer :=
  .ok (.obj [("proxies", .arr (nodes.map fun n => .ofMembers (adapterMembers n.adapter)))])

def shown (a : Adapter) : Answer :=
  match Json.ofYaml (.map a.normalized) with
  | .ok config => .ok (.ofMembers (adapterMembers a ++ [("config", config)]))
  | .error flaw => .message 500 flaw.message

/-- A rule without a pin does not mention one. -/
def ruleJson (i : RuleInfo) : Json :=
  let pin := match i.proxy with
    | some p => [("proxy", Json.str p)]
    | none => []
  .ofMembers ([("rule", .str i.rule), ("payload", .str i.payload), ("adapter", .str i.adapter)] ++
    pin)

def proxyForm : List Json.FormField :=
  [⟨"link", .textOrNull, false, false⟩, ⟨"config", .anything, false, false⟩]

def ruleForm : List Json.FormField :=
  [⟨"rule", .text, true, false⟩, ⟨"payload", .text, true, false⟩, ⟨"adapter", .text, true, false⟩,
    ⟨"proxy", .textOrNull, false, true⟩]

def refusal : Json.Refusal → Answer
  | .malformed => .bare 400
  | .misfit => .bare 422

def badBody (text : String) : Answer := .message 400 text

/-- A member that is not null. -/
def given? (fs : Fields Json) (name : String) : Option Json :=
  (Fields.get? fs name).filter fun
    | .null => false
    | _ => true

def textOf (j : Option Json) : String :=
  match j with
  | some (.str s) => s
  | _ => ""

def registered (e : Engine) (r : Except Error (Engine × Bool)) : Engine × Answer :=
  match r with
  | .ok (e, isNew) => (e, .added isNew)
  | .error err => (e, .ofError err)

/-- Registers a proxy; a link comes before a record. -/
def addProxy (e : Engine) (fs : Fields Json) : Engine × Answer :=
  match given? fs "link", given? fs "config" with
  | some link, _ => registered e (e.registerLink (textOf (some link)))
  | none, some config =>
    match Yaml.ofJson config with
    | .map m => registered e (e.registerMapping m)
    | _ => (e, badBody "config must be an object")
  | none, none => (e, badBody "link or config required")

def ruleInfoOf (fs : Fields Json) : RuleInfo :=
  let text (name : String) := textOf (Fields.get? fs name)
  ⟨text "rule", text "payload", text "adapter", (given? fs "proxy").map fun j => textOf (some j)⟩

def addRule (e : Engine) (fs : Fields Json) : Engine × Answer :=
  match Rule.ofInfo (ruleInfoOf fs) with
  | .ok r => (e.addRule r).map id .added
  | .error err => (e, .ofError err)

def withForm (e : Engine) (r : Request) (form : List Json.FormField)
    (act : Fields Json → Engine × Answer) : Engine × Answer :=
  if !r.hasJson then (e, .bare 415)
  else match Json.readForm form r.body with
    | .ok fs => act fs
    | .error flaw => (e, refusal flaw)

def findProxy (e : Engine) (identity : String) (act : Adapter → Answer) : Answer :=
  match e.pool.find? identity with
  | some n => act n.adapter
  | none => .notFound "Proxy"

def linkOf (a : Adapter) : Answer :=
  match a.shareLink with
  | .ok link => .ok (.obj [("link", .str link)])
  | .error err => .ofError err

/-- Does what is asked of a resource; the method is one that it knows. -/
def act (e : Engine) (r : Request) (method : Method) : Resource → Engine × Answer
  | .greeting => (e, .ok (.obj [("hello", .str "nico")]))
  | .version => (e, .ok (.obj [("version", .str Probe.version)]))
  | .proxies => if method = .post then withForm e r proxyForm (addProxy e) else (e, listed e.pool.all)
  | .aliveProxies => (e, listed e.pool.aliveNodes)
  | .deadProxies => (e.cleanUp, .bare 202)
  | .proxy identity =>
    if method = .delete then
      let (e, removed) := e.remove identity
      (e, if removed then .bare 204 else .notFound "Proxy")
    else (e, findProxy e identity shown)
  | .proxyLink identity => (e, findProxy e identity linkOf)
  | .rules =>
    if method = .post then withForm e r ruleForm (addRule e)
    else (e, .ok (.obj [("rules", .arr (e.rules.infos.map ruleJson))]))
  | .ruleStore => (e.storeRules, .bare 204)
  | .rule key =>
    let (e, removed) := e.removeRule key
    (e, if removed.isSome then .bare 204 else .notFound "Rule")

def answerGranted (e : Engine) (r : Request) : Engine × Answer :=
  match Resource.ofPath r.path with
  | none => (e, .bare 404)
  | some resource =>
    match Method.ofText? r.method with
    | none => (e, .bare 405)
    | some (method, withBody) =>
      if !resource.methods.contains method then (e, .bare 405)
      else match resource.unescape with
        | none => (e, .bare 400)
        | some resource =>
          let (e, a) := act e r method resource
          (e, if withBody then a else a.withoutBody)

def answer (e : Engine) (secret : String) (r : Request) : Engine × Answer :=
  if r.method = "OPTIONS" then (e, .bare 200)
  else if r.isGranted secret then answerGranted e r
  else (e, .bare 401)

end ProxyGateway.Control
