import ProxyGateway.ShareLink.Basic
/-!
Links of the kind `ssr://`: six fields with colons between them and some parameters, all in Base64.
The host may hold colons of its own, so the fields are taken from the right.
-/
namespace ProxyGateway.ShareLink.ShadowsocksR

/-- Takes `count` fields from the right; what is left of them is the first one. -/
def fieldsFromRight : (count : Nat) → List Char → List (List Char) → Option (List (List Char))
  | 0, s, acc => some (s :: acc)
  | n + 1, s, acc =>
    match Text.cutLast ':' s with
    | some (rest, last) => fieldsFromRight n rest (last :: acc)
    | none => none

def addParameter (r : ProxyRecord) (key value : String) : ProxyRecord :=
  let decoded := (decodeBase64 value).getD ""
  match key with
  | "remarks" => r.named decoded
  | "obfsparam" => r.setText "obfs-param" decoded
  | "protoparam" => r.setText "protocol-param" decoded
  | _ => r

def unbracket (s : String) : String := Text.trimEndOf ['[', ']'] (Text.trimStartOf ['[', ']'] s)

def read (link : String) : Except Error ProxyRecord := do
  let some decoded := decodeBase64 (body link) | throw (.parse "ssr link is not valid base64")
  let (main, parameters) := match Text.cutWord ['/', '?'] decoded.toList with
    | some (main, parameters) => (main, parameters)
    | none => (decoded.toList, [])
  match fieldsFromRight 5 main [] with
  | some [host, port, protocol, cipher, obfs, password] =>
    let portText := String.ofList port
    let some port := Text.readPort portText
      | throw (.parse ("ssr link has invalid port: " ++ portText))
    let some password := decodeBase64 (String.ofList password)
      | throw (.parse "ssr password is not base64")
    let r := ProxyRecord.new "ssr" (unbracket (String.ofList host)) port
    let r := (r.setText "cipher" (String.ofList cipher)).setText "password" password
    let r := r.setText "protocol" (String.ofList protocol)
    let r := (r.setText "obfs" (String.ofList obfs)).setFlag "udp" true
    pure ((Url.Form.read (String.ofList parameters)).foldl (fun r (k, v) => addParameter r k v) r)
  | _ => throw (.parse "ssr link has too few fields")

end ProxyGateway.ShareLink.ShadowsocksR
