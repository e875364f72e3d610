import ProxyGateway.Engine.Basic
import ProxyGateway.Http.Framing
import ProxyGateway.Probe.Target
import ProxyGateway.Store.Disk
import ProxyGateway.Subscription

namespace ProxyGateway.Subscription

structure Provider where
  settings : SubscriptionSettings
  quota : Option Quota

structure World where
  provider : Provider
  disk : Disk
  engine : Engine

namespace Provider

def new (s : SubscriptionSettings) : Provider := ⟨s, none⟩

def requestLines (u : Url) : String × String :=
  ("GET " ++ u.target ++ " HTTP/1.1", "user-agent: " ++ Probe.agent)

/-- A status that says that the document did not come. -/
def isFailure (code : Nat) : Bool := 400 ≤ code && code < 600

def badReply : Error := .connection "error sending request"

def badBody : Error := .connection "request or response body error"

def badStatus (code : Nat) (url : String) : Error :=
  .connection ("HTTP status " ++ Text.decimal code ++ " for url (" ++ url ++ ")")

def quotaOf? (r : Http.Response) : Option Quota := do
  let value ← (r.head.values "subscription-userinfo").head?
  if value.all fun b => b == Http.tab || (32 ≤ b && b < 127) then
    Quota.ofHeader? (← Text.Utf8.decode? value)
  else none

/-- What the server of a document answers; the body may break off. -/
structure Answer where
  head : Http.ResponseHead
  body : Except Error Bytes

def Answer.ofReply (reply : Bytes) : Except Error Answer :=
  match Http.headStep Http.maxHeaders (reply.length + 1) reply with
  | .complete head framing rest =>
    .ok ⟨head, (framing.bodyOf? rest).elim (.error badBody) .ok⟩
  | _ => .error badReply

/-- The document, given what came of a request for it: the answer at the end of all redirections, or
what went wrong. -/
def document (s : SubscriptionSettings) (came : Except Error Answer) :
    Except Error Http.Response := do
  let answer ← came
  if isFailure answer.head.code then .error (badStatus answer.head.code s.url)
  else answer.body.map fun body => ⟨answer.head, body⟩

def notText (name : String) : Error := .parse ("subscription " ++ name ++ " is not UTF-8")

end Provider

namespace World

def register (w : World) (content : String) : World × Nat :=
  let (engine, n) := w.engine.registerAll (records content)
  ({ w with engine }, n)

/-- Keeps a document for the next start, as far as the write comes. -/
def keep (w : World) (content : Bytes) (broken : Option (Option Bytes × Disk.Fault)) : World :=
  match w.provider.settings.path with
  | none => w
  | some path => { w with disk := (w.disk.attemptWrite (Path.ofText path) content broken).1 }

def fetch (w : World) (came : Except Error Provider.Answer)
    (broken : Option (Option Bytes × Disk.Fault)) : World × Except Error Http.Response :=
  match Provider.document w.provider.settings came with
  | .error e => (w, .error e)
  | .ok r => (w.keep r.body broken, .ok r)

def learn (w : World) (r : Http.Response) : World :=
  { w with provider := { w.provider with quota := (Provider.quotaOf? r).or w.provider.quota } }

def update (w : World) (came : Except Error Provider.Answer)
    (broken : Option (Option Bytes × Disk.Fault)) : World × Except Error Nat :=
  match w.fetch came broken with
  | (w, .error e) => (w, .error e)
  | (w, .ok r) =>
    let w := w.learn r
    match Text.Utf8.decode? r.body with
    | none => (w, .error (Provider.notText w.provider.settings.name))
    | some content =>
      let (w, n) := w.register content
      (w, .ok n)

/-- The document that was kept. -/
def kept? (w : World) : Option Bytes :=
  w.provider.settings.path.bind fun path => (w.disk.read (Path.ofText path)).toOption

def initial (w : World) (came : Except Error Provider.Answer)
    (broken : Option (Option Bytes × Disk.Fault)) : World × Except Error Nat :=
  let (w, before) := match w.kept? with
    | some content => w.register (Text.Utf8.repair content)
    | none => (w, 0)
  let (w, r) := w.update came broken
  (w, r.map (before + ·))

end World

end ProxyGateway.Subscription
