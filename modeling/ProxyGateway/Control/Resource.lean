import ProxyGateway.Text.Cut
import ProxyGateway.Url.Percent
/-!
What a path of the control interface stands for, and which methods each of it knows. A fixed name
comes before a name that is given; a given name is not empty and may be escaped.
-/
namespace ProxyGateway.Control

inductive Resource where
  | greeting
  | version
  | proxies
  | aliveProxies
  | deadProxies
  | proxy (identity : String)
  | proxyLink (identity : String)
  | rules
  | ruleStore
  | rule (key : String)
deriving DecidableEq, Repr

inductive Method where
  | get
  | post
  | put
  | delete
deriving DecidableEq, Repr

namespace Resource

def ofSegments : List String → Option Resource
  | [""] => some greeting
  | ["version"] => some version
  | ["proxies"] => some proxies
  | ["proxies", "alive"] => some aliveProxies
  | ["proxies", "dead"] => some deadProxies
  | ["proxies", identity] => if identity = "" then none else some (proxy identity)
  | ["proxies", identity, "link"] => if identity = "" then none else some (proxyLink identity)
  | ["rules"] => some rules
  | ["rules", "sync"] => some ruleStore
  | ["rules", key] => if key = "" then none else some (rule key)
  | _ => none

def ofPath (path : String) : Option Resource :=
  match path.toList with
  | '/' :: rest => ofSegments ((Text.splitAll '/' rest).map String.ofList)
  | _ => none

def methods : Resource → List Method
  | greeting | version | aliveProxies | proxyLink _ => [.get]
  | proxies | rules => [.get, .post]
  | deadProxies | rule _ => [.delete]
  | proxy _ => [.get, .delete]
  | ruleStore => [.put]

/-- The resource with the given name unescaped; none where that is no text. -/
def unescape : Resource → Option Resource
  | proxy identity => (Url.decodeComponent identity).toOption.map proxy
  | proxyLink identity => (Url.decodeComponent identity).toOption.map proxyLink
  | rule key => (Url.decodeComponent key).toOption.map rule
  | r => some r

end Resource

/-- The method of a word, and whether the answer is to have a body. -/
def Method.ofText? (s : String) : Option (Method × Bool) :=
  match s with
  | "GET" => some (get, true)
  | "HEAD" => some (get, false)
  | "POST" => some (post, true)
  | "PUT" => some (put, true)
  | "DELETE" => some (delete, true)
  | _ => none

end ProxyGateway.Control
