import ProxyGateway.Credentials
import ProxyGateway.Net.Address

namespace ProxyGateway.Inbound.Socks

open Net (Exchange Address)

def version : UInt8 := 5

def noAuthentication : UInt8 := 0

def byPassword : UInt8 := 2

def noMethod : UInt8 := 0xFF

def succeeded : UInt8 := 0

def commandRefused : UInt8 := 7

/-- A reply; the bound address is always reported as `0.0.0.0:0`. -/
def reply (code : UInt8) : Bytes := [version, code, 0, 1, 0, 0, 0, 0, 0, 0]

def field : Exchange String := do
  match Text.Utf8.decode? (← Exchange.sized) with
  | some s => pure s
  | none => .fail (.auth "Credentials are not UTF-8")

/-- The client names itself; the version of the message does not matter. -/
def authenticate (users : List Credentials) : Exchange Unit := do
  let _ ← Exchange.byte
  let username ← field
  let password ← field
  if Credentials.admit users username password then Exchange.write [1, 0]
  else
    Exchange.write [1, 1]
    .fail (.auth "Invalid credentials")

def negotiate (users : List Credentials) : Exchange Unit := do
  let v ← Exchange.byte
  if v ≠ version then
    .fail (.protocol ("Invalid SOCKS version: " ++ Text.decimal v.toNat))
  else
    let methods ← Exchange.sized
    let wanted := if users = [] then noAuthentication else byPassword
    if methods.contains wanted then
      Exchange.write [version, wanted]
      if wanted = byPassword then authenticate users else pure ()
    else
      Exchange.write [version, noMethod]
      .fail (.auth "No acceptable authentication method")

def request : Exchange (Address × UInt16) := do
  let head ← Exchange.block 3
  match head with
  | [v, command, _] =>
    if v ≠ version then .fail (.protocol "Invalid SOCKS5 request version")
    else
      let target ← Address.receive
      if command = 1 then pure target
      else
        Exchange.write (reply commandRefused)
        .fail (.unsupported ("SOCKS5 command " ++ Text.decimal command.toNat ++ " not supported"))
  | _ => .fail .earlyEnd

/-- The whole conversation up to the reply, which is not sent yet. -/
def handshake (users : List Credentials) : Exchange (Address × UInt16) := do
  negotiate users
  request

end ProxyGateway.Inbound.Socks
