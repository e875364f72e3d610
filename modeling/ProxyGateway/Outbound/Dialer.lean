import ProxyGateway.Outbound.HttpConnect
import ProxyGateway.Outbound.Peer
import ProxyGateway.Proxy.Adapter
/-!
The dialers that the gateway has itself: straight to the destination, to nowhere, and through HTTP
and SOCKS proxies. Every other kind of proxy can be listed and ranked, but has no dialer here.
-/
namespace ProxyGateway.Outbound

open Net (Exchange)

inductive Dialer where
  | direct (name : String)
  | reject (name : String)
  | http (name : String) (record : ProxyRecord)
  | socks5 (name : String) (record : ProxyRecord)
  | unavailable (name : String) (kind : ProxyKind) (server : String)

namespace Dialer

def plainDirect : Dialer := direct "DIRECT"

def plainReject : Dialer := reject "REJECT"

def ofRecord (r : ProxyRecord) (name : String) : Except Error Dialer :=
  (ProxyKind.ofText r.kind).map fun
    | .direct => direct name
    | .reject => reject name
    | .http => http name r
    | .socks5 => socks5 name r
    | other => unavailable name other r.server

def name : Dialer → String
  | direct n | reject n | http n _ | socks5 n _ | unavailable n _ _ => n

def kind : Dialer → ProxyKind
  | direct _ => .direct
  | reject _ => .reject
  | http _ _ => .http
  | socks5 _ _ => .socks5
  | unavailable _ k _ => k

/-- Whom the dialer calls; without a proxy it is a word. -/
def server : Dialer → String
  | direct _ => "DIRECT"
  | reject _ => "REJECT"
  | http _ r | socks5 _ r => r.server
  | unavailable _ _ s => s

def supportsUdp : Dialer → Bool
  | direct _ | reject _ => true
  | socks5 _ r => (r.flag? "udp").getD false
  | _ => false

end Dialer

def identityOf (r : ProxyRecord) : Socks.Identity := ⟨r.text? "username", r.text? "password"⟩

structure Hop where
  server : String
  port : UInt16
  /-- Where the line to the proxy has to be secure: whether any certificate will do. -/
  secure : Option Bool
  /-- The failure when the proxy cannot be reached, from the reason. -/
  unreached : String → Error
  /-- What is said to the proxy before the line leads to the destination. -/
  talk : Exchange Unit

inductive Plan where
  /-- The line ends at once and swallows what is written. -/
  | nowhere
  | straight (address : String)
  | through (hop : Hop)

def noRoute (f : Flow) : Error := .connection ("no destination to dial for " ++ f.toText)

def noDestination : Error := .connection "No destination address"

def noBuiltIn (kind : ProxyKind) : Error :=
  .unsupported ("no built-in dialer for " ++ kind.toText ++ " proxies")

def unreached (address reason : String) : Error :=
  .connection ("Failed to connect to " ++ address ++ ": " ++ reason)

/-- A name goes to a SOCKS proxy as it is, even where its address is known. -/
def socksTarget (f : Flow) : Net.Address :=
  match f.ip with
  | some ip => if f.host = "" then .literal ip else .domain f.host
  | none => .domain f.host

def httpHop (r : ProxyRecord) (f : Flow) : Hop where
  server := r.server
  port := r.port
  secure :=
    if (r.flag? "tls").getD false then some ((r.flag? "skip-cert-verify").getD false) else none
  unreached := unreached "HTTP proxy"
  talk := HttpConnect.connect (identityOf r) (Net.joinHostPort f.destination f.port)

def socksHop (r : ProxyRecord) (f : Flow) : Hop where
  server := r.server
  port := r.port
  secure := none
  unreached := unreached "SOCKS5 server"
  talk := Socks.connect (identityOf r) (socksTarget f) f.port

def Dialer.plan (d : Dialer) (f : Flow) : Except Error Plan :=
  match d with
  | direct _ => if f.valid then .ok (.straight f.remoteAddress) else .error (noRoute f)
  | reject _ => .ok .nowhere
  | http _ r => if f.valid then .ok (.through (httpHop r f)) else .error noDestination
  | socks5 _ r => if f.valid then .ok (.through (socksHop r f)) else .error noDestination
  | unavailable _ kind _ => .error (noBuiltIn kind)

def connectionRefused : String := "Connection refused (os error 111)"

def Dialer.callAlone (d : Dialer) (f : Flow) : Call :=
  ⟨0, false, match d.plan f with
    | .error e => .error e
    | .ok .nowhere => .ok .dead
    | .ok (.straight address) => .error (unreached address connectionRefused)
    | .ok (.through hop) => .error (hop.unreached connectionRefused)⟩

structure HopOutcome where
  result : Except Error Bytes
  sent : Bytes

def Hop.run (h : Hop) (reply : Bytes) : HopOutcome :=
  let o := h.talk.run [reply]
  ⟨o.result.map fun _ => o.left.flatten, o.sent⟩

end ProxyGateway.Outbound
