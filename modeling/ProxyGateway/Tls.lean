import ProxyGateway.Error
import ProxyGateway.Net.Ip
import ProxyGateway.Text.Cut

namespace ProxyGateway.Tls

def isLetter (c : Char) : Bool := ('a' ≤ c && c ≤ 'z') || ('A' ≤ c && c ≤ 'Z') || c == '_'

def isDigit (c : Char) : Bool := '0' ≤ c && c ≤ '9'

/-- A label: up to sixty-three letters, digits and hyphens, with no hyphen at its ends. -/
def isLabel (s : List Char) : Bool :=
  s != [] && s.length ≤ 63 && s.all (fun c => isLetter c || isDigit c || c == '-') &&
    s.head? != some '-' && s.getLast? != some '-'

/-- Labels with points between them, of which the last holds more than digits; a point may follow
it. -/
def isDomain (name : String) : Bool :=
  let labels := Text.splitAll '.' name.toList
  let labels := if labels.getLast? = some [] then labels.dropLast else labels
  name.utf8ByteSize ≤ 253 && labels != [] && labels.all isLabel &&
    match labels.getLast? with
    | some last => !last.all isDigit
    | none => false

def isServerName (name : String) : Bool := isDomain name || (Net.readIp name).isSome

def checkServerName (name : String) : Except Error Unit :=
  if isServerName name then .ok () else .error (.tls ("Invalid server name: " ++ name))

def handshakeFailed (why : String) : Error := .tls ("TLS handshake failed: " ++ why)

end ProxyGateway.Tls
