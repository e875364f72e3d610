import ProxyGateway.ShareLink.Basic

namespace ProxyGateway.ShareLink.Vless

def read (link : String) : Except Error ProxyRecord := do
  let u ← readUrl link
  let (server, port) ← endpoint u
  let q := Query.ofUrl u
  let id ← unescaped u.username
  if id = "" then throw (.parse "vless link missing uuid")
  let security := (q.get? "security").getD ""
  let network := (q.filled? "type").getD "tcp"
  let r := (ProxyRecord.new "vless" server port).named (← nameOf u)
  let r := (r.setText "uuid" id).setFlag "udp" true
  let r := r.setFlag "tls" (security == "tls" || security == "reality")
  let r := (r.setText "network" network).setFlag "skip-cert-verify" true
  let r := match (q.filled? "host").or (q.filled? "sni") with
    | some name => r.setText "servername" name
    | none => r
  let r := match q.filled? "flow" with
    | some flow => r.setText "flow" flow
    | none => r
  if network = "ws" then
    pure (r.set "ws-opts" (.map [(.str "path", .str ((q.get? "path").getD ""))]))
  else pure r

end ProxyGateway.ShareLink.Vless
