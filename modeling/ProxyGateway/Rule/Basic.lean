import ProxyGateway.Flow
import ProxyGateway.Text.Ascii

namespace ProxyGateway

inductive Action where
  | direct
  | reject
  | proxy
deriving DecidableEq, Repr

def Action.toText : Action → String
  | .direct => "Direct"
  | .reject => "Reject"
  | .proxy => "Proxy"

def Action.ofText (s : String) : Except Error Action :=
  match Text.lower s with
  | "direct" => .ok .direct
  | "reject" => .ok .reject
  | "proxy" => .ok .proxy
  | _ => .error (.rule ("unknown adapter action: " ++ s))

theorem Action.ofText_toText (a : Action) : Action.ofText a.toText = .ok a := by
  cases a <;> rfl

/-- The kinds that have a name; only some of them can be matched. -/
inductive RuleKind where
  | domain
  | domainKeyword
  | domainSuffix
  | srcIp
  | srcIpCidr
  | srcPort
  | dstIp
  | dstIpCidr
  | dstPort
  | process
  | processPath
  | processDir
deriving DecidableEq, Repr

def RuleKind.toText : RuleKind → String
  | .domain => "Domain"
  | .domainKeyword => "DomainKey"
  | .domainSuffix => "DomainSuffix"
  | .srcIp => "SrcIp"
  | .srcIpCidr => "SrcIPCIDR"
  | .srcPort => "SrcPort"
  | .dstIp => "DstIp"
  | .dstIpCidr => "DstIPCIDR"
  | .dstPort => "DstPort"
  | .process => "Process"
  | .processPath => "ProcessPath"
  | .processDir => "ProcessDir"

/-- The kind of a name in any letter case; stores of old spell the source address "ScrIp". -/
def RuleKind.ofText (s : String) : Except Error RuleKind :=
  match Text.lower s with
  | "domain" => .ok .domain
  | "domainkey" | "domainkeyword" => .ok .domainKeyword
  | "domainsuffix" => .ok .domainSuffix
  | "srcip" | "scrip" => .ok .srcIp
  | "srcipcidr" => .ok .srcIpCidr
  | "srcport" => .ok .srcPort
  | "dstip" => .ok .dstIp
  | "dstipcidr" => .ok .dstIpCidr
  | "dstport" => .ok .dstPort
  | "process" => .ok .process
  | "processpath" => .ok .processPath
  | "processdir" => .ok .processDir
  | _ => .error (.rule ("unknown rule kind: " ++ s))

theorem RuleKind.ofText_toText (k : RuleKind) : RuleKind.ofText k.toText = .ok k := by
  cases k <;> rfl

/-- The written form of a rule. -/
structure RuleInfo where
  rule : String
  payload : String
  adapter : String
  proxy : Option String
deriving DecidableEq, Repr

/-- The one property a rule looks at. -/
inductive Matcher where
  | domain (host : String)
  | srcIp (ip : Net.Ip)
  | dstIp (ip : Net.Ip)
  | srcPort (port : UInt16)
  | dstPort (port : UInt16)
deriving DecidableEq, Repr

namespace Matcher

def kind : Matcher → RuleKind
  | domain _ => .domain
  | srcIp _ => .srcIp
  | dstIp _ => .dstIp
  | srcPort _ => .srcPort
  | dstPort _ => .dstPort

def key : Matcher → String
  | domain host => host
  | srcIp ip | dstIp ip => ip.toText
  | srcPort port | dstPort port => Text.decimal port.toNat

def holds (m : Matcher) (f : Flow) : Bool :=
  match m with
  | domain host => f.host != "" && Text.sameLetters f.host host
  | srcIp ip => f.sourceIp.canonical == ip
  | dstIp ip => f.ip.map Net.Ip.canonical == some ip
  | srcPort port => f.sourcePort == port
  | dstPort port => f.port == port

def badPayload (payload : String) : Error := .rule ("invalid rule payload: " ++ payload)

def ipOfPayload (payload : String) : Except Error Net.Ip :=
  match Net.readIp (Flow.unbracket payload) with
  | some ip => .ok ip.canonical
  | none => .error (badPayload payload)

def portOfPayload (payload : String) : Except Error UInt16 :=
  match Text.readPort payload with
  | some p => .ok p
  | none => .error (badPayload payload)

/-- The matcher of a kind for a payload, in its one canonical spelling. -/
def ofPayload (kind : RuleKind) (payload : String) : Except Error Matcher :=
  let payload := Text.trim payload
  match kind with
  | .domain =>
    if payload = "" then .error (badPayload "empty domain")
    else .ok (.domain (Text.lower payload))
  | .srcIp => (ipOfPayload payload).map .srcIp
  | .dstIp => (ipOfPayload payload).map .dstIp
  | .srcPort => (portOfPayload payload).map .srcPort
  | .dstPort => (portOfPayload payload).map .dstPort
  | other => .error (.rule ("unsupported rule kind: " ++ other.toText))

end Matcher

structure Rule where
  matcher : Matcher
  action : Action
  /-- The identity of the adapter that a learned rule is pinned to. -/
  pin : Option String
deriving DecidableEq, Repr

namespace Rule

def new (kind : RuleKind) (payload : String) (action : Action) : Except Error Rule :=
  (Matcher.ofPayload kind payload).map fun m => ⟨m, action, none⟩

def srcIp (ip : Net.Ip) (action : Action) : Rule := ⟨.srcIp ip.canonical, action, none⟩

def dstIp (ip : Net.Ip) (action : Action) : Rule := ⟨.dstIp ip.canonical, action, none⟩

def pinnedTo (r : Rule) (identity : String) : Rule := { r with pin := some identity }

def kind (r : Rule) : RuleKind := r.matcher.kind

/-- The bare payload, shared between the kinds. -/
def key (r : Rule) : String := r.matcher.key

def appliesTo (r : Rule) (f : Flow) : Bool := r.matcher.holds f

def info (r : Rule) : RuleInfo := ⟨r.kind.toText, r.key, r.action.toText, r.pin⟩

/-- The rule of a written form; an empty pin is no pin. -/
def ofInfo (i : RuleInfo) : Except Error Rule := do
  let kind ← RuleKind.ofText i.rule
  let action ← Action.ofText i.adapter
  let rule ← new kind i.payload action
  pure { rule with pin := i.proxy.filter (· ≠ "") }

def toText (r : Rule) : String := r.kind.toText ++ "(" ++ r.key ++ ") -> " ++ r.action.toText

end Rule

end ProxyGateway
