import ProxyGateway.Unicode.Printable
import ProxyGateway.Unicode.Table

namespace ProxyGateway.Unicode

def hidden : Table := Table.ofText hiddenText

def extending : Table := Table.ofText extendingText

def visibleForm (c : Char) : List Char :=
  if c = '"' ∨ c = '\\' then ['\\', c]
  else if c = '\n' then ['\\', 'n']
  else if c = '\r' then ['\\', 'r']
  else if c = '\t' then ['\\', 't']
  else if c.toNat = 0 then ['\\', '0']
  else if hidden.has c ∨ extending.has c then
    if c = ' ' then [c]
    else ['\\', 'u', '\x7b'] ++ Text.numeral 16 c.toNat ++ ['\x7d']
  else [c]

/-- The text in quotes, with nothing in it that cannot be seen. -/
def quoted (s : String) : String := String.ofList ('"' :: s.toList.flatMap visibleForm ++ ['"'])

end ProxyGateway.Unicode
