import ProxyGateway.Proxy.Record
import ProxyGateway.Text.Base64
import ProxyGateway.Url.Basic
import ProxyGateway.Url.Form

namespace ProxyGateway.ShareLink

/-- The text behind Base64 in any of the usual forms; white space is skipped. -/
def decodeBase64 (s : String) : Option String :=
  match s.toList.filter (!Text.isBlank ·) with
  | [] => none
  | letters => (Text.Base64.decodeAny letters).bind Text.Utf8.decode?

def encodeBase64 (b : Bytes) : String :=
  String.ofList (Text.Base64.encode Text.Base64.standard true b)

def body (link : String) : String :=
  match Text.cutWord [':', '/', '/'] link.toList with
  | some (_, rest) => String.ofList rest
  | none => link

def unescaped (s : String) : Except Error String :=
  match Url.decodeComponent s with
  | .ok t => .ok t
  | .error flaw => .error (.parse flaw.message)

def readUrl (link : String) : Except Error Url :=
  match Url.read link with
  | .ok u => .ok u
  | .error flaw => .error (.parse flaw.message)

def endpoint (u : Url) : Except Error (String × UInt16) :=
  match u.host?, u.port? with
  | none, _ => .error (.parse ("link has no host: " ++ u.toText))
  | some _, none => .error (.parse ("link has no port: " ++ u.toText))
  | some host, some port => .ok (host.toText, port)

structure Query where
  pairs : List (String × String)

def Query.ofUrl (u : Url) : Query := ⟨Url.Form.read (u.query.getD "")⟩

def Query.get? (q : Query) (name : String) : Option String := q.pairs.reverse.lookup name

/-- The last value of a name unless it is empty. -/
def Query.filled? (q : Query) (name : String) : Option String := (q.get? name).filter (· ≠ "")

/-- The name of a proxy stands in the fragment. -/
def nameOf (u : Url) : Except Error String := unescaped (u.fragment.getD "")

end ProxyGateway.ShareLink
