import ProxyGateway.ShareLink.Basic
/-!
Links of the kind `ss://`: a cipher and a password, then where to connect. Either the first two or
all of it may be in Base64.
-/
namespace ProxyGateway.ShareLink.Shadowsocks

def splitOff (sep : Char) (s : List Char) : List Char × Option (List Char) :=
  match Text.cutFirst sep s with
  | some (a, b) => (a, some b)
  | none => (s, none)

/-- A plugin and, behind a semicolon, its options. -/
def addPlugin (r : ProxyRecord) (value : String) : ProxyRecord :=
  match splitOff ';' value.toList with
  | (plugin, none) => r.setText "plugin" (String.ofList plugin)
  | (plugin, some options) =>
    (r.setText "plugin" (String.ofList plugin)).setText "plugin-opts" (String.ofList options)

/-- Cipher and password as they stand or in Base64. -/
def credentials (user : String) : Except Error (String × String) := do
  let plain := unescaped user
  let text ← match decodeBase64 user with
    | some decoded => if ':' ∈ decoded.toList then pure decoded else plain
    | none => plain
  match Text.cutFirst ':' text.toList with
  | some (cipher, password) => pure (String.ofList cipher, String.ofList password)
  | none => throw (.parse "ss link missing cipher or password")

def read (link : String) : Except Error ProxyRecord := do
  let (rest, name) := splitOff '#' (body link).toList
  let name ← unescaped (String.ofList (name.getD []))
  let (main, query) := splitOff '?' rest
  let main ← if '@' ∈ main then pure (Text.dropEnd (· == '/') main)
    else match decodeBase64 (String.ofList main) with
      | some decoded => pure decoded.toList
      | none => throw (.parse "ss link is not valid base64")
  let some (user, where_) := Text.cutLast '@' main | throw (.parse "ss link missing '@'")
  let (cipher, password) ← credentials (String.ofList user)
  let place ← Net.splitHostPort (String.ofList where_)
  let some port := place.port | throw (.parse "ss link missing port")
  let r := (ProxyRecord.new "ss" place.host port).named name
  let r := ((r.setText "cipher" cipher).setText "password" password).setFlag "udp" true
  let pairs := Url.Form.read (String.ofList (query.getD []))
  pure (pairs.foldl (fun r (k, v) => if k = "plugin" ∧ v ≠ "" then addPlugin r v else r) r)

def write (name host : String) (port : UInt16) (r : ProxyRecord) : String :=
  "ss://" ++ Url.encodeComponent ((r.text? "cipher").getD "") ++ ":" ++
    Url.encodeComponent ((r.text? "password").getD "") ++ "@" ++ Net.joinHostPort host port ++
    "#" ++ Url.encodeComponent name

end ProxyGateway.ShareLink.Shadowsocks
