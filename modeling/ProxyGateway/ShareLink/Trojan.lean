import ProxyGateway.ShareLink.Basic

namespace ProxyGateway.ShareLink.Trojan

/-- The application protocols: `h2` for its own transport, then the listed ones, each once. -/
def protocols (network listed : String) : List String :=
  let start := if network = "h2" then ["h2"] else []
  ((Text.splitAll ',' listed.toList).map String.ofList).foldl
    (fun acc p => if p = "" ∨ acc.contains p then acc else acc ++ [p]) start

def read (link : String) : Except Error ProxyRecord := do
  let u ← readUrl link
  let (server, port) ← endpoint u
  let q := Query.ofUrl u
  let password ← unescaped u.username
  if password = "" then throw (.parse "trojan link missing password")
  let sni := (q.filled? "sni").getD server
  let network := (q.get? "type").getD ""
  let alpn := protocols network ((q.get? "alpn").getD "")
  let r := (ProxyRecord.new "trojan" server port).named (← nameOf u)
  let r := (r.setText "password" password).setText "sni" sni
  let r := (r.setFlag "udp" true).setFlag "skip-cert-verify" true
  let r := if alpn = [] then r else r.set "alpn" (.seq (alpn.map .str))
  let path := ((q.get? "wspath").or (q.get? "path")).getD ""
  if network = "ws" ∨ path ≠ "" then
    pure ((r.set "ws-opts" (.map [(.str "path", .str path)])).setText "network" "ws")
  else if network ≠ "" then pure (r.setText "network" network)
  else pure r

/-- The path of a websocket transport, in its own options or beside them. -/
def websocketPath (r : ProxyRecord) : Option String :=
  match r.options.get? "ws-opts" with
  | some (.map opts) =>
    match Yaml.Mapping.get? opts (.str "path") with
    | some v => match v.untag with
      | .str s => some s
      | _ => none
    | none => none
  | _ => r.text? "ws-path"

def query (r : ProxyRecord) : List (String × String) :=
  let sni := ((r.text? "sni").map fun v => ("sni", v)).toList
  let transport := match r.text? "network" with
    | some "ws" => ("type", "ws") :: ((websocketPath r).map fun p => ("wspath", p)).toList
    | some network => [("type", network)]
    | none => []
  [("headerType", "none"), ("security", "tls")] ++ sni ++ transport

def write (name host : String) (port : UInt16) (r : ProxyRecord) : String :=
  "trojan://" ++ Url.encodeComponent ((r.text? "password").getD "") ++ "@" ++
    Net.joinHostPort host port ++ "?" ++ Url.Form.write (query r) ++ "#" ++
    Url.encodeComponent name

end ProxyGateway.ShareLink.Trojan
