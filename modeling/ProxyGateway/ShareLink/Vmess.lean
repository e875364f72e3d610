import ProxyGateway.Json.Reader
import ProxyGateway.ShareLink.Basic

namespace ProxyGateway.ShareLink.Vmess

/-- A text that is not empty, or the text of a number. -/
def field (j : Json) (key : String) : Option String :=
  match j.get? key with
  | some (.str s) => if s = "" then none else some s
  | some (.num n) => some (Json.numberText n)
  | _ => none

def secured (j : Json) : Bool :=
  match j.get? "tls" with
  | some (.bool b) => b
  | some (.str s) => s != ""
  | _ => false

def websocket (j : Json) : Yaml :=
  let path := (Yaml.str "path", Yaml.str ((field j "path").getD ""))
  match field j "host" with
  | some host => .map [path, (.str "headers", .map [(.str "Host", .str host)])]
  | none => .map [path]

def ofJson (j : Json) : Except Error ProxyRecord := do
  let some server := (field j "add").or (field j "host")
    | throw (.parse "vmess link missing address")
  let some port := (field j "port").bind Text.readPort
    | throw (.parse "vmess link has invalid port")
  let some id := field j "id" | throw (.parse "vmess link missing id")
  let alterId := ((field j "aid").bind fun a =>
    Text.readInt 9223372036854775808 a.toList).getD 0
  let r := (ProxyRecord.new "vmess" server port).named ((field j "ps").getD "")
  let r := (r.setText "uuid" id).setInt "alterId" alterId
  let r := (r.setText "cipher" ((field j "scy").getD "auto")).setFlag "udp" true
  let r := (r.setFlag "tls" (secured j)).setFlag "skip-cert-verify" true
  let r := match field j "sni" with
    | some sni => r.setText "servername" sni
    | none => r
  match field j "net" with
  | some "ws" => pure ((r.set "ws-opts" (websocket j)).setText "network" "ws")
  | some network => pure (r.setText "network" network)
  | none => pure r

def read (link : String) : Except Error ProxyRecord := do
  let some text := decodeBase64 (body link) | throw (.parse "vmess link is not valid base64")
  match Json.read text with
  | .ok j => ofJson j
  | .error message => throw (.parse message)

/-- The link of a proxy with a name, from its record; the host is the one it listens on. -/
def write (name host : String) (port : UInt16) (r : ProxyRecord) : String :=
  let member (field key : String) := ((r.text? key).map fun v => (field, Json.str v)).toList
  let alterId := ((r.int? "alterId").map fun n => ("aid", Json.num (.whole n))).toList
  let secure := if (r.flag? "tls").getD false then [("tls", Json.str "tls")] else []
  let object := Json.ofMembers ([("v", .str "2"), ("ps", .str name), ("add", .str host),
    ("port", .num (.whole port.toNat))] ++ member "id" "uuid" ++ member "scy" "cipher" ++
    member "net" "network" ++ alterId ++ secure)
  "vmess://" ++ encodeBase64 (Text.Utf8.encode object.text)

end ProxyGateway.ShareLink.Vmess
