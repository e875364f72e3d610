import ProxyGateway.Unicode.Composition
import ProxyGateway.Unicode.Table

namespace ProxyGateway.Unicode

def decompositions : Table := Table.ofText decompositionText

def classes : Table := Table.ofText classText

def excluded : Table := Table.ofText excludedText

def pairs : List (Nat × Nat × Nat) :=
  decompositions.toList.filterMap fun e =>
    match e.target with
    | [a, b] => if (excluded.find? e.first).isSome then none else some (a, b, e.first)
    | _ => none

/-- The order class of a mark; a character that marks stand on has class zero. -/
def combiningClass (n : Nat) : Nat :=
  match classes.find? n with
  | some e => e.target.headD 0
  | none => 0

def hangulParts? (n : Nat) : Option (List Nat) :=
  if 0xAC00 ≤ n ∧ n < 0xAC00 + 11172 then
    let s := n - 0xAC00
    let l := 0x1100 + s / 588
    let v := 0x1161 + s % 588 / 28
    let t := 0x11A7 + s % 28
    some (if s % 28 = 0 then [l, v] else [l, v, t])
  else none

def parts : (depth : Nat) → Nat → List Nat
  | 0, n => [n]
  | depth + 1, n =>
    match hangulParts? n with
    | some ps => ps
    | none =>
      match decompositions.find? n with
      | some e => e.target.flatMap (parts depth)
      | none => [n]

/-- Puts a mark behind all marks of its class or a lower one. -/
def insertMark (c : Nat) : List Nat → List Nat
  | [] => [c]
  | d :: rest =>
    if combiningClass c ≥ combiningClass d then d :: insertMark c rest else c :: d :: rest

/-- Orders each run of marks; `marks` is the run so far. -/
def orderMarks (marks : List Nat) : List Nat → List Nat
  | [] => marks
  | c :: rest =>
    if combiningClass c = 0 then marks ++ c :: orderMarks [] rest
    else orderMarks (insertMark c marks) rest

def composeHangul? (a b : Nat) : Option Nat :=
  if 0x1100 ≤ a ∧ a < 0x1113 ∧ 0x1161 ≤ b ∧ b < 0x1176 then
    some (0xAC00 + ((a - 0x1100) * 21 + (b - 0x1161)) * 28)
  else if 0xAC00 ≤ a ∧ a < 0xAC00 + 11172 ∧ (a - 0xAC00) % 28 = 0 ∧ 0x11A7 < b ∧ b < 0x11C3 then
    some (a + (b - 0x11A7))
  else none

def composePair? (a b : Nat) : Option Nat :=
  match composeHangul? a b with
  | some c => some c
  | none => (pairs.find? fun p => p.1 == a && p.2.1 == b).map (·.2.2)

/-- Composes onto `base` what is not blocked by a mark in between; `skipped` holds the characters
left standing after it, `blocked` their highest class if there are any. -/
def composeOnto (base : Nat) (skipped : List Nat) (blocked : Option Nat) : List Nat → List Nat
  | [] => base :: skipped
  | c :: rest =>
    let k := combiningClass c
    let free := match blocked with
      | none => true
      | some b => b < k
    match (if free then composePair? base c else none) with
    | some made => composeOnto made skipped blocked rest
    | none =>
      if k = 0 then base :: skipped ++ composeOnto c [] none rest
      else composeOnto base (skipped ++ [c]) (some k) rest

def normalize (s : List Char) : List Char :=
  let ordered := orderMarks [] (s.flatMap fun c => parts 4 c.toNat)
  let composed := match ordered with
    | [] => []
    | c :: rest => composeOnto c [] (if combiningClass c = 0 then none else some (combiningClass c)) rest
  composed.map Char.ofNat

end ProxyGateway.Unicode
