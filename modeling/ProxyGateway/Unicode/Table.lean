import ProxyGateway.Text.Cut
import ProxyGateway.Text.Numeral
/-!
Tables of code points. A table is written as a text of ranges in hexadecimal, in ascending order,
and searched by halving.
-/
namespace ProxyGateway.Unicode

/-- A range of code points, of which every `step`-th one counts, and what it stands for. -/
structure Entry where
  first : Nat
  last : Nat
  step : Nat
  target : List Nat
deriving Repr, Inhabited

def hexValue (s : List Char) : Nat := (Text.digits 16 s).getD 0

/-- An entry such as `41-5a>61` or `100-12e/2>101` or `df>73.73`. -/
def Entry.ofChars (s : List Char) : Entry :=
  let (source, target) := (Text.cutFirst '>' s).getD (s, [])
  let (range, step) := (Text.cutFirst '/' source).getD (source, ['1'])
  let (first, last) := (Text.cutFirst '-' range).getD (range, range)
  ⟨hexValue first, hexValue last, hexValue step,
    if target = [] then [] else (Text.splitAll '.' target).map hexValue⟩

abbrev Table := Array Entry

def Table.ofText (s : String) : Table :=
  let words := Text.splitAll ' ' (s.toList.map fun c => if c = '\n' then ' ' else c)
  ((words.filter (· ≠ [])).map Entry.ofChars).toArray

def Table.search (t : Table) (n : Nat) : (fuel lo hi : Nat) → Nat
  | 0, lo, _ => lo
  | fuel + 1, lo, hi =>
    if hi ≤ lo + 1 then lo
    else
      let mid := (lo + hi) / 2
      match t[mid]? with
      | some e => if e.first ≤ n then t.search n fuel mid hi else t.search n fuel lo mid
      | none => lo

/-- The entry of a code point among the last few that start at or before it: ranges with a step
may overlap. -/
def Table.find? (t : Table) (n : Nat) : Option Entry :=
  let i := t.search n 24 0 t.size
  let covers (e : Entry) : Bool := e.first ≤ n && n ≤ e.last && (n - e.first) % e.step == 0
  [i, i - 1, i - 2].findSome? fun k => (t[k]?).filter covers

def Table.has (t : Table) (c : Char) : Bool := (t.find? c.toNat).isSome

end ProxyGateway.Unicode
