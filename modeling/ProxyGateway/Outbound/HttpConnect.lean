import ProxyGateway.Error
import ProxyGateway.Http.Head
import ProxyGateway.Net.Exchange
import ProxyGateway.Outbound.Socks
import ProxyGateway.Text.Base64

namespace ProxyGateway.Outbound.HttpConnect

open Net (Exchange)

def maxHead : Nat := 4096

def maxHeaders : Nat := 32

/-- The credentials in a header, where both a name and a password are known. -/
def authorization? (i : Socks.Identity) : Option String :=
  match i.username, i.password with
  | some user, some password =>
    some ("Basic " ++ String.ofList (Text.Base64.encode Text.Base64.standard true
      (Bytes.ofText (user ++ ":" ++ password))))
  | _, _ => none

def request (i : Socks.Identity) (target : String) : String :=
  let authorization := match authorization? i with
    | some a => "Proxy-Authorization: " ++ a ++ "\r\n"
    | none => ""
  "CONNECT " ++ target ++ " HTTP/1.1\r\nHost: " ++ target ++
    "\r\nProxy-Connection: keep-alive\r\n" ++ authorization ++ "\r\n"

def judge (head : Bytes) : Except Error Unit :=
  match Http.takeResponse maxHeaders head with
  | .error (.malformed flaw) =>
    .error (.protocol ("Malformed CONNECT response: " ++ flaw.message))
  | .error .unfinished => .error (.protocol "CONNECT response without status")
  | .ok (r, _) =>
    if r.code = 200 then .ok ()
    else if r.code = 407 then .error (.auth "Proxy authentication required")
    else .error (.connection ("CONNECT failed: " ++ Text.decimal r.code ++ " " ++ r.reason))

/-- Reads a head byte by byte; `got` holds what has come so far, the last byte in front. -/
def receiveHead : (room : Nat) → (got : Bytes) → Exchange Bytes
  | 0, _ => .fail (.connection "CONNECT response too large")
  | room + 1, got => .receive 1 (.connection "Connection closed during CONNECT") fun b =>
    let got := b.reverse ++ got
    if (Text.stripStart Http.headMark.reverse got).isSome then pure got.reverse
    else receiveHead room got

def connect (i : Socks.Identity) (target : String) : Exchange Unit := do
  Exchange.write (Bytes.ofText (request i target))
  let head ← receiveHead maxHead []
  Exchange.ofExcept (judge head)

end ProxyGateway.Outbound.HttpConnect
