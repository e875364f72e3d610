import ProxyGateway.Text.Numeral
import ProxyGateway.Text.Utf8

namespace ProxyGateway

inductive Error where
  | io (text : String)
  | config (text : String)
  | parse (text : String)
  | protocol (text : String)
  | dns (text : String)
  | connection (text : String)
  | timeout (text : String)
  | auth (text : String)
  | rule (text : String)
  | tls (text : String)
  | persistence (text : String)
  | unsupported (text : String)
  | internal (text : String)
deriving DecidableEq, Repr

namespace Error

def message : Error → String
  | io t => "IO error: " ++ t
  | config t => "Configuration error: " ++ t
  | parse t => "Parse error: " ++ t
  | protocol t => "Protocol error: " ++ t
  | dns t => "DNS error: " ++ t
  | connection t => "Connection error: " ++ t
  | timeout t => "Timeout error: " ++ t
  | auth t => "Authentication failed: " ++ t
  | rule t => "Rule error: " ++ t
  | tls t => "TLS error: " ++ t
  | persistence t => "Persistence error: " ++ t
  | unsupported t => "Unsupported: " ++ t
  | internal t => "Internal error: " ++ t

/-- The control interface blames the caller for what the caller wrote and itself for the rest. -/
def status : Error → Nat
  | config _ | parse _ | rule _ | unsupported _ => 400
  | _ => 500

/-- The bytes ended inside a block of known size. -/
def earlyEnd : Error := .io "early eof"

/-- The bytes ended before a number. -/
def unexpectedEnd : Error := .io "unexpected end of file"

end Error

theorem bind_eq_ok {x : Except ε α} {f : α → Except ε β} {b : β} :
    (x >>= f) = .ok b ↔ ∃ a, x = .ok a ∧ f a = .ok b := by
  cases x with
  | error e => simp [bind, Except.bind]
  | ok a => simp [bind, Except.bind]

theorem map_eq_ok {x : Except ε α} {f : α → β} {b : β} :
    x.map f = .ok b ↔ ∃ a, x = .ok a ∧ f a = b := by
  cases x with
  | error e => simp [Except.map]
  | ok a => simp [Except.map]

def Text.Utf8.Flaw.message (f : Text.Utf8.Flaw) : String :=
  match f.size with
  | some n =>
    "invalid utf-8 sequence of " ++ Text.decimal n ++ " bytes from index " ++ Text.decimal f.index
  | none => "incomplete utf-8 byte sequence from index " ++ Text.decimal f.index

end ProxyGateway
