import ProxyGateway.Net.Address

namespace ProxyGateway.Outbound.Socks

open Net (Exchange Address)

def version : UInt8 := 5

def ended (what : String) : Error :=
  .connection ("Failed to read SOCKS5 " ++ what ++ ": early eof")

def replyText (code : UInt8) : String :=
  match code.toNat with
  | 1 => "General SOCKS server failure"
  | 2 => "Connection not allowed by ruleset"
  | 3 => "Network unreachable"
  | 4 => "Host unreachable"
  | 5 => "Connection refused"
  | 6 => "TTL expired"
  | 7 => "Command not supported"
  | 8 => "Address type not supported"
  | n => "Unknown error: " ++ Text.decimal n

/-- The user that a client may name itself as. -/
structure Identity where
  username : Option String
  password : Option String
deriving DecidableEq, Repr

def Identity.complete (i : Identity) : Bool := i.username.isSome && i.password.isSome

def greeting (i : Identity) : Bytes := if i.complete then [version, 2, 0, 2] else [version, 1, 0]

def authenticate (i : Identity) : Exchange Unit := do
  let some username := i.username | .fail (.auth "Username required for authentication")
  let some password := i.password | .fail (.auth "Password required for authentication")
  let u := Bytes.ofText username
  let p := Bytes.ofText password
  if u.length > 255 ∨ p.length > 255 then .fail (.auth "Username or password too long")
  else
    Exchange.write (1 :: UInt8.ofNat u.length :: u ++ UInt8.ofNat p.length :: p)
    match ← Exchange.block 2 with
    | [_, status] => if status = 0 then pure () else .fail (.auth "Authentication failed")
    | _ => .fail .earlyEnd

def negotiate (i : Identity) : Exchange Unit := do
  Exchange.write (greeting i)
  .receive 2 (ended "response") fun
    | [v, method] =>
      if v ≠ version then .fail (.protocol "Invalid SOCKS5 version")
      else if method = 0 then pure ()
      else if method = 2 then authenticate i
      else if method = 0xFF then .fail (.auth "No acceptable authentication method")
      else .fail (.protocol ("Unsupported authentication method: " ++
        Text.decimal method.toNat))
    | _ => .fail (ended "response")

/-- Asks for a connection and reads the whole reply; the bound address in it is of no use. -/
def request (target : Address) (port : UInt16) : Exchange Unit := do
  let encoded ← Exchange.ofExcept (target.encode port)
  Exchange.write ([version, 1, 0] ++ encoded)
  .receive 3 (ended "reply") fun
    | [v, code, _] =>
      if v ≠ version then .fail (.protocol "Invalid SOCKS5 version in reply")
      else if code ≠ 0 then .fail (.connection (replyText code))
      else do
        let _ ← Address.receive
        pure ()
    | _ => .fail (ended "reply")

def connect (i : Identity) (target : Address) (port : UInt16) : Exchange Unit := do
  negotiate i
  request target port

end ProxyGateway.Outbound.Socks
