import ProxyGateway.Rule.Basic
import ProxyGateway.Text.Blank

namespace ProxyGateway

inductive ProxyKind where
  | direct
  | reject
  | shadowsocks
  | shadowsocksR
  | vmess
  | vless
  | trojan
  | hysteria2
  | tuic
  | snell
  | wireGuard
  | http
  | socks5
deriving DecidableEq, Repr

namespace ProxyKind

/-- The word for a kind in records and identities. -/
def tag : ProxyKind → String
  | direct => "direct"
  | reject => "reject"
  | shadowsocks => "ss"
  | shadowsocksR => "ssr"
  | vmess => "vmess"
  | vless => "vless"
  | trojan => "trojan"
  | hysteria2 => "hysteria2"
  | tuic => "tuic"
  | snell => "snell"
  | wireGuard => "wireguard"
  | http => "http"
  | socks5 => "socks5"

def toText : ProxyKind → String
  | direct => "Direct"
  | reject => "Reject"
  | shadowsocks => "Shadowsocks"
  | shadowsocksR => "ShadowsocksR"
  | vmess => "VMess"
  | vless => "VLESS"
  | trojan => "Trojan"
  | hysteria2 => "Hysteria2"
  | tuic => "TUIC"
  | snell => "Snell"
  | wireGuard => "WireGuard"
  | http => "HTTP"
  | socks5 => "SOCKS5"

/-- The name of the kind in the source of a record's developer view. -/
def label : ProxyKind → String
  | direct => "Direct"
  | reject => "Reject"
  | shadowsocks => "Shadowsocks"
  | shadowsocksR => "ShadowsocksR"
  | vmess => "Vmess"
  | vless => "Vless"
  | trojan => "Trojan"
  | hysteria2 => "Hysteria2"
  | tuic => "Tuic"
  | snell => "Snell"
  | wireGuard => "WireGuard"
  | http => "Http"
  | socks5 => "Socks5"

def action : ProxyKind → Action
  | direct => .direct
  | reject => .reject
  | _ => .proxy

def ofText (s : String) : Except Error ProxyKind :=
  match Text.fold (Text.trim s) with
  | "direct" => .ok direct
  | "reject" => .ok reject
  | "ss" | "shadowsocks" => .ok shadowsocks
  | "ssr" | "shadowsocksr" => .ok shadowsocksR
  | "vmess" => .ok vmess
  | "vless" => .ok vless
  | "trojan" => .ok trojan
  | "hysteria2" | "hy2" => .ok hysteria2
  | "tuic" => .ok tuic
  | "snell" => .ok snell
  | "wireguard" | "wg" => .ok wireGuard
  | "http" | "https" => .ok http
  | "socks5" | "socks" => .ok socks5
  | _ => .error (.config ("Unknown proxy type: " ++ s))

theorem ofText_tag (k : ProxyKind) : ofText k.tag = .ok k := by
  cases k <;> rfl

theorem tag_inj {j k : ProxyKind} (same : j.tag = k.tag) : j = k := by
  have read := ofText_tag j
  rw [same, ofText_tag] at read
  exact (Except.ok.inj read).symm

end ProxyKind

end ProxyGateway
