import ProxyGateway.Error
import ProxyGateway.Flow
import ProxyGateway.Url.Basic

namespace ProxyGateway.Probe

structure Target where
  /-- The host without brackets. -/
  host : String
  port : UInt16
  secure : Bool
  path : String
  /-- Host and port as the link shows them. -/
  authority : String
deriving DecidableEq, Repr

def version : String := "0.3.0"

def agent : String := "nico/" ++ version

namespace Target

def isSecure (scheme : String) : Except Error Bool :=
  match scheme with
  | "http" => .ok false
  | "https" => .ok true
  | other => .error (.config ("probe url scheme " ++ other ++ " not supported"))

def ofText (text : String) : Except Error Target := do
  let u ← match Url.read text with
    | .ok u => pure u
    | .error flaw => throw (.parse flaw.message)
  let secure ← isSecure u.scheme
  let some host := u.host? | throw (.config ("probe url " ++ text ++ " has no host"))
  let some port := u.port? | throw (.config ("probe url " ++ text ++ " has no port"))
  let authority := (u.authority.map (·.endpoint)).getD ""
  pure ⟨host.toText, port, secure, u.target, authority⟩

def flow (t : Target) : Flow :=
  { Flow.new .tcp .inner with port := t.port }.withDestination t.host

def request (t : Target) : String :=
  "GET " ++ t.path ++ " HTTP/1.1\r\nhost: " ++ t.authority ++ "\r\nuser-agent: " ++ agent ++
    "\r\n\r\n"

end Target

end ProxyGateway.Probe
