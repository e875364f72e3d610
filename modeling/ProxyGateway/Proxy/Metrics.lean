import ProxyGateway.Json.Basic
import ProxyGateway.Text.Blank

namespace ProxyGateway

abbrev Metrics := Fields Json

namespace Metrics

/-- A number, or a truth value other than false, an empty text, zero and the word for false. -/
def bool (m : Metrics) (key : String) : Bool :=
  match m.get? key with
  | some (.bool b) => b
  | some (.str s) => !(["", "0", "false"].contains (Text.trim s))
  | some (.num n) => !(n.toDouble.same Double.zero)
  | _ => false

def double (m : Metrics) (key : String) : Double :=
  match m.get? key with
  | some (.num n) => n.toDouble
  | some (.str s) => (readDouble (Text.trimChars s.toList)).getD Double.zero
  | some (.bool true) => Double.ofNat 1
  | _ => Double.zero

/-- The number cut down to a whole one from nought to the greatest word. -/
def word (m : Metrics) (key : String) : UInt16 := (m.double key).toWord

def text (m : Metrics) (key : String) : String :=
  match m.get? key with
  | some (.str s) => s
  | some .null | none => ""
  | some j => j.toText

end Metrics

end ProxyGateway
