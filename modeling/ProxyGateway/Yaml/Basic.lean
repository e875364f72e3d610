import ProxyGateway.Number.Basic
/-!
YAML values. A mapping keeps its entries in order and holds a key once; keys are values of any
kind, equal when they read the same, whatever the order of their own entries.
-/
namespace ProxyGateway

inductive Yaml where
  | null
  | bool (b : Bool)
  | num (n : Number)
  | str (s : String)
  | seq (items : List Yaml)
  | map (entries : List (Yaml × Yaml))
  /-- A value under a tag of its own; the tag starts with an exclamation mark. -/
  | tagged (tag : String) (value : Yaml)
deriving Repr, Inhabited

namespace Yaml

abbrev Mapping := List (Yaml × Yaml)

mutual

def same : Yaml → Yaml → Bool
  | null, null => true
  | bool a, bool b => a == b
  | num a, num b => a.same b
  | str a, str b => a == b
  | seq xs, seq ys => sameItems xs ys
  | map xs, map ys => xs.length == ys.length && sameEntries xs ys
  | tagged t x, tagged u y => t == u && same x y
  | _, _ => false

def sameItems : List Yaml → List Yaml → Bool
  | [], [] => true
  | x :: xs, y :: ys => same x y && sameItems xs ys
  | _, _ => false

def sameEntries : Mapping → Mapping → Bool
  | [], _ => true
  | (k, v) :: rest, ys => ys.any (fun e => same k e.1 && same v e.2) && sameEntries rest ys

end

namespace Mapping

def get? (m : Mapping) (key : Yaml) : Option Yaml := (m.find? fun e => key.same e.1).map (·.2)

/-- Replaces the value of a key in its place, or adds the key at the end. -/
def insert (m : Mapping) (key value : Yaml) : Mapping :=
  match m with
  | [] => [(key, value)]
  | (k, v) :: rest => if key.same k then (k, value) :: rest else (k, v) :: insert rest key value

end Mapping

def untag : Yaml → Yaml
  | tagged _ v => untag v
  | v => v

/-- Numbers are written without an exponent from `0.00001` up to sixteen digits before the point,
and an exponent has no plus sign. -/
def numberLayout : Decimal.Layout := ⟨16, -5, false⟩

/-- Infinities and the value that is no number have words of their own. -/
def numberText : Number → String
  | .whole n => Text.decimalInt n
  | .real d =>
    if d.isFinite then d.shortText numberLayout
    else if d.isNaN then ".nan"
    else if d.negative then "-.inf" else ".inf"

def scalarText? : Yaml → Option String
  | str s => some s
  | num n => some (numberText n)
  | bool b => some (if b then "true" else "false")
  | _ => none

end Yaml

end ProxyGateway
