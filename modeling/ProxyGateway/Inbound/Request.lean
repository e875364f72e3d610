import ProxyGateway.Credentials
import ProxyGateway.Http.Head
import ProxyGateway.Net.HostPort
import ProxyGateway.Text.Base64
import ProxyGateway.Url.Basic
/-!
What an HTTP client asks the gateway for: a tunnel, or to pass on a request whose target is a whole
link. A request that is passed on gets a head of its own: the same request line without scheme and
host, the same headers but those that concern one connection only, and the word that the
connection ends with it.
-/
namespace ProxyGateway.Inbound

def maxHeaders : Nat := 64

def maxHead : Nat := 32768

structure ProxyRequest where
  host : String
  port : UInt16
  /-- The head to send on; a tunnel has none. -/
  forward : Option Bytes
deriving DecidableEq, Repr

def hopByHop : List Bytes :=
  ["connection", "keep-alive", "proxy-authenticate", "proxy-authorization", "te", "trailers",
    "transfer-encoding", "upgrade", "proxy-connection"].map Bytes.ofText

def authorizationKey : Bytes := Bytes.ofText "proxy-authorization"

def credentialsOf? (value : String) : Option (String × String) := do
  let s := Text.trimChars value.toList
  let encoded ← (Text.stripStart "Basic ".toList s).or (Text.stripStart "basic ".toList s)
  let bytes ← Text.Base64.decode Text.Base64.standard true (Text.trimChars encoded)
  let text ← Text.Utf8.decode? bytes
  let (user, password) ← Text.cutFirst ':' text.toList
  some (String.ofList user, String.ofList password)

/-- Whether the first authorization among the headers is that of one of the users. -/
def authorized (users : List Credentials) (headers : List Http.Header) : Bool :=
  match headers.find? (·.key == authorizationKey) with
  | none => false
  | some h =>
    match (Text.Utf8.decode? h.value).bind credentialsOf? with
    | some (user, password) => Credentials.admit users user password
    | none => false

def forwardHead (head : Http.RequestHead) (target : String) : Bytes :=
  let kept := head.headers.filter fun h => !hopByHop.contains h.key
  head.method ++ [Http.space] ++ Bytes.ofText target ++ Bytes.ofText " HTTP/1.1" ++ Http.crlf ++
    kept.flatMap (fun h => h.name ++ Bytes.ofText ": " ++ h.value ++ Http.crlf) ++
    Bytes.ofText "Connection: close" ++ Http.headMark

def isConnect (method : Bytes) : Bool :=
  (Http.Header.key ⟨method, []⟩) == Bytes.ofText "connect"

/-- A tunnel to the target; without a port it is that of the secure web. -/
def tunnel (target : String) : Except Error ProxyRequest := do
  let place ← Net.splitHostPort target
  pure ⟨place.host, place.port.getD 443, none⟩

def absolute (head : Http.RequestHead) : Except Error ProxyRequest := do
  let u ← match Url.read head.target with
    | .ok u => pure u
    | .error flaw =>
      throw (.protocol ("Proxy request must use absolute URI: " ++ flaw.message))
  if u.scheme ≠ "http" then
    throw (.unsupported ("cannot forward " ++ u.scheme ++ " requests"))
  let some host := u.host? | throw (.protocol "Proxy request without host")
  pure ⟨host.toText, u.port?.getD 80, some (forwardHead head u.target)⟩

/-- Reads a complete head; where there are users, it has to carry the credentials of one. -/
def ProxyRequest.ofHead (users : List Credentials) (bytes : Bytes) :
    Except Error ProxyRequest := do
  let head ← match Http.takeRequest maxHeaders bytes with
    | .ok (head, _) => pure head
    | .error .unfinished => throw (.protocol "Incomplete HTTP request")
    | .error (.malformed flaw) =>
      throw (.protocol ("Invalid HTTP request: " ++ flaw.message))
  if users ≠ [] ∧ !authorized users head.headers then
    throw (.auth "Proxy authentication required")
  if isConnect head.method then tunnel head.target else absolute head

end ProxyGateway.Inbound
