import ProxyGateway.Net.Exchange
import ProxyGateway.Net.Ip
/-!
The address of a destination as it stands on the wire: a tag, the address bytes or a domain name
behind its length, and the port. Domain names of up to 255 bytes have a wire form.
-/
namespace ProxyGateway.Net

inductive Address where
  | literal (ip : Ip)
  | domain (name : String)
deriving DecidableEq, Repr

namespace Address

/-- A literal address is an address, anything else a domain name. -/
def ofHost (host : String) : Address :=
  match readIp host with
  | some ip => .literal ip
  | none => .domain host

def ip? : Address → Option Ip
  | .literal ip => some ip
  | .domain _ => none

def encode (a : Address) (port : UInt16) : Except Error Bytes :=
  match a with
  | .literal (.v4 ip) => .ok (1 :: ip.bytes ++ wordBytes port)
  | .literal (.v6 ip) => .ok (4 :: ip.bytes ++ wordBytes port)
  | .domain name =>
    let b := Bytes.ofText name
    if b.length > 255 then .error (.parse "Domain name too long")
    else .ok (3 :: UInt8.ofNat b.length :: b ++ wordBytes port)

def receivePort : Exchange UInt16 :=
  .receive 2 .unexpectedEnd fun
    | [hi, lo] => pure (wordOfBytes hi lo)
    | _ => .fail .unexpectedEnd

def receiveBody (tag : UInt8) : Exchange Address :=
  if tag = 1 then
    .receive 4 .earlyEnd fun b => match Ipv4.ofBytes? b with
      | some ip => pure (.literal (.v4 ip))
      | none => .fail .earlyEnd
  else if tag = 3 then do
    match Text.Utf8.decode (← Exchange.sized) with
    | .ok name => pure (.domain name)
    | .error flaw => .fail (.parse ("Invalid domain: " ++ flaw.message))
  else if tag = 4 then
    .receive 16 .earlyEnd fun b => match Ipv6.ofBytes? b with
      | some ip => pure (.literal (.v6 ip))
      | none => .fail .earlyEnd
  else .fail (.protocol ("Unknown address type: " ++ Text.decimal tag.toNat))

def receive : Exchange (Address × UInt16) := do
  let a ← receiveBody (← Exchange.byte)
  let port ← receivePort
  pure (a, port)

end Address

end ProxyGateway.Net
