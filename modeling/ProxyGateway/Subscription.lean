import ProxyGateway.ShareLink.Reader
import ProxyGateway.Yaml.Decode

namespace ProxyGateway.Subscription

def documentRecords? (content : String) : Option (List Yaml) :=
  match Yaml.ofText content with
  | .ok (.map m) =>
    match Yaml.Mapping.get? m (.str "proxies") with
    | some (.seq records) => some records
    | _ => none
  | _ => none

def recordOf? (v : Yaml) : Option ProxyRecord :=
  match v with
  | .map m => (ProxyRecord.ofMapping m).toOption
  | _ => none

/-- The proxies of a content; what cannot be read is left out. -/
def records (content : String) : List ProxyRecord :=
  match documentRecords? content with
  | some values => values.filterMap recordOf?
  | none => (ShareLink.readAll content).filterMap (·.toOption)

/-- The bytes sent and received, the bytes allowed, and the end of the contract in seconds. -/
structure Quota where
  upload : Nat
  download : Nat
  total : Nat
  expire : Nat
deriving DecidableEq, Repr

def Quota.set? (q : Quota) (name value : String) : Option Quota :=
  let n := (Text.readNat 18446744073709551616 (Text.trimChars value.toList)).getD 0
  match Text.fold (Text.trim name) with
  | "upload" => some { q with upload := n }
  | "download" => some { q with download := n }
  | "total" => some { q with total := n }
  | "expire" => some { q with expire := n }
  | _ => none

def Quota.addPart (state : Quota × Bool) (part : List Char) : Quota × Bool :=
  match Text.cutFirst '=' (Text.trimChars part) with
  | some (name, value) =>
    match state.1.set? (String.ofList name) (String.ofList value) with
    | some q => (q, true)
    | none => state
  | none => state

def Quota.ofHeader? (header : String) : Option Quota :=
  let (q, seen) := (Text.splitAll ';' header.toList).foldl Quota.addPart (⟨0, 0, 0, 0⟩, false)
  if seen then some q else none

end ProxyGateway.Subscription
