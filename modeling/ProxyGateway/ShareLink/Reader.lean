import ProxyGateway.ShareLink.Shadowsocks
import ProxyGateway.ShareLink.ShadowsocksR
import ProxyGateway.ShareLink.Trojan
import ProxyGateway.ShareLink.Vless
import ProxyGateway.ShareLink.Vmess

namespace ProxyGateway.ShareLink

def addCredentials (u : Url) (r : ProxyRecord) : Except Error ProxyRecord := do
  let username ← unescaped u.username
  let r := if username = "" then r else r.setText "username" username
  match u.password? with
  | some p => pure (r.setText "password" (← unescaped p))
  | none => pure r

def readSocks (link : String) : Except Error ProxyRecord := do
  let u ← readUrl link
  let (server, port) ← endpoint u
  let r := (ProxyRecord.new "socks5" server port).named (← nameOf u)
  addCredentials u (r.setFlag "udp" true)

def readHttp (link : String) : Except Error ProxyRecord := do
  let u ← readUrl link
  let (server, port) ← endpoint u
  let r := (ProxyRecord.new "http" server port).named (← nameOf u)
  addCredentials u (r.setFlag "tls" (u.scheme == "https"))

def read (link : String) : Except Error ProxyRecord :=
  let link := Text.trim (Text.trimEndOf ['\r', '\n'] link)
  match Text.cutWord [':', '/', '/'] link.toList with
  | none => .error (.parse ("not a share link: " ++ link))
  | some (scheme, _) =>
    match String.ofList (scheme.map Text.lowerChar) with
    | "vmess" => Vmess.read link
    | "vless" => Vless.read link
    | "trojan" => Trojan.read link
    | "ss" => Shadowsocks.read link
    | "ssr" => ShadowsocksR.read link
    | "socks5" | "socks" => readSocks link
    | "http" | "https" => readHttp link
    | other => .error (.unsupported ("unsupported scheme: " ++ other))

def lines (s : List Char) : List (List Char) :=
  (Text.splitAll '\n' s).map fun line =>
    match line.getLast? with
    | some '\r' => line.dropLast
    | _ => line

/-- The results of all lines that are not blank; a text without any link is taken for Base64. -/
def readAll (content : String) : List (Except Error ProxyRecord) :=
  let text :=
    if (Text.cutWord [':', '/', '/'] content.toList).isSome then content
    else (decodeBase64 content).getD content
  (((lines text.toList).map Text.trimChars).filter (· ≠ [])).map fun line =>
    read (String.ofList line)

end ProxyGateway.ShareLink
