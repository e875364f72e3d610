import ProxyGateway.Config
import ProxyGateway.Flow

namespace ProxyGateway.Dns

inductive Transport where
  | udp
  | tcp
deriving DecidableEq, Repr

structure Server where
  transport : Transport
  address : Net.SocketAddress
deriving DecidableEq, Repr

def Server.transportOf (text : String) : Except Error (Transport × String) :=
  let s := text.toList
  match Text.stripStart "tcp://".toList s, Text.stripStart "udp://".toList s with
  | some rest, _ => .ok (.tcp, String.ofList rest)
  | none, some rest => .ok (.udp, String.ofList rest)
  | none, none =>
    if (Text.cutWord "://".toList s).isSome then
      .error (.config ("Unsupported nameserver: " ++ text))
    else .ok (.udp, text)

/-- A server waits on port 53 unless it says otherwise. -/
def Server.ofText (text : String) : Except Error Server := do
  let (transport, address) ← transportOf text
  match Net.readSocketAddress address, Net.readIp address with
  | some a, _ => pure ⟨transport, a⟩
  | none, some ip => pure ⟨transport, ⟨ip, 53⟩⟩
  | none, none => throw (.config ("Invalid nameserver: " ++ text))

structure Resolver where
  servers : List Server

def Resolver.ofTexts (texts : List String) : Except Error Resolver :=
  (texts.mapM Server.ofText).map Resolver.mk

def isLocal (host : String) : Bool :=
  let labels := Text.splitAll '.' (Text.lower host).toList
  let labels := if labels.getLast? = some [] then labels.dropLast else labels
  labels.getLast? == some "localhost".toList

/-- The first address of a host; `ask` asks the servers for a name. -/
def resolve (ask : String → Option Net.Ip) (host : String) : Except Error Net.Ip :=
  match Net.readIp (Flow.unbracket host) with
  | some ip => .ok ip
  | none =>
    if isLocal host then .ok (.v4 .loopback)
    else match ask host with
      | some ip => .ok ip
      | none => .error (.dns ("lookup " ++ host ++ " failed"))

end ProxyGateway.Dns
