import ProxyGateway.Text.Numeral
import ProxyGateway.Text.Utf8
/-!
Internet addresses: their bytes, their text, and the form in which two spellings of one address
agree. An IPv6 address is printed with its longest run of zero groups as a double colon, and one
that carries an IPv4 address with that address in dotted form.
-/
namespace ProxyGateway.Net

structure Ipv4 where
  a : UInt8
  b : UInt8
  c : UInt8
  d : UInt8
deriving DecidableEq, Repr

structure Ipv6 where
  groups : Vector UInt16 8
deriving DecidableEq, Repr

inductive Ip where
  | v4 (ip : Ipv4)
  | v6 (ip : Ipv6)
deriving DecidableEq, Repr

namespace Ipv4

def bytes (ip : Ipv4) : Bytes := [ip.a, ip.b, ip.c, ip.d]

def ofBytes? : Bytes → Option Ipv4
  | [a, b, c, d] => some ⟨a, b, c, d⟩
  | _ => none

def unspecified : Ipv4 := ⟨0, 0, 0, 0⟩

def loopback : Ipv4 := ⟨127, 0, 0, 1⟩

def toText (ip : Ipv4) : String :=
  Text.decimal ip.a.toNat ++ "." ++ Text.decimal ip.b.toNat ++ "." ++ Text.decimal ip.c.toNat ++
    "." ++ Text.decimal ip.d.toNat

end Ipv4

/-- The two bytes of a word, the high one first. -/
def wordBytes (w : UInt16) : Bytes := [UInt8.ofNat (w.toNat / 256), UInt8.ofNat (w.toNat % 256)]

def wordOfBytes (hi lo : UInt8) : UInt16 := UInt16.ofNat (hi.toNat * 256 + lo.toNat)

theorem wordBytes_wordOfBytes (hi lo : UInt8) : wordBytes (wordOfBytes hi lo) = [hi, lo] := by
  have hh := hi.toNat_lt
  have hl := lo.toNat_lt
  have hw : (wordOfBytes hi lo).toNat = hi.toNat * 256 + lo.toNat := by
    unfold wordOfBytes
    rw [UInt16.toNat_ofNat', Nat.mod_eq_of_lt (by omega)]
  unfold wordBytes
  rw [hw, show (hi.toNat * 256 + lo.toNat) / 256 = hi.toNat by omega,
    show (hi.toNat * 256 + lo.toNat) % 256 = lo.toNat by omega, UInt8.ofNat_toNat, UInt8.ofNat_toNat]

theorem wordOfBytes_wordBytes (w : UInt16) :
    wordOfBytes (UInt8.ofNat (w.toNat / 256)) (UInt8.ofNat (w.toNat % 256)) = w := by
  have hw := w.toNat_lt
  unfold wordOfBytes
  rw [UInt8.toNat_ofNat', UInt8.toNat_ofNat',
    show w.toNat / 256 % 2 ^ 8 * 256 + w.toNat % 256 % 2 ^ 8 = w.toNat by omega, UInt16.ofNat_toNat]

namespace Ipv6

def bytes (ip : Ipv6) : Bytes := ip.groups.toList.flatMap wordBytes

def ofBytes? : Bytes → Option Ipv6
  | [a, b, c, d, e, f, g, h, i, j, k, l, m, n, o, p] =>
    some ⟨#v[wordOfBytes a b, wordOfBytes c d, wordOfBytes e f, wordOfBytes g h, wordOfBytes i j,
      wordOfBytes k l, wordOfBytes m n, wordOfBytes o p]⟩
  | _ => none

/-- The IPv4 address that `::ffff:0:0/96` carries. -/
def mapped? (ip : Ipv6) : Option Ipv4 :=
  match ip.groups.toList with
  | [0, 0, 0, 0, 0, 0xFFFF, x, y] =>
    some ⟨UInt8.ofNat (x.toNat / 256), UInt8.ofNat (x.toNat % 256), UInt8.ofNat (y.toNat / 256),
      UInt8.ofNat (y.toNat % 256)⟩
  | _ => none

/-- The number of zero groups at the start. -/
def zeroRun : List UInt16 → Nat
  | 0 :: rest => zeroRun rest + 1
  | _ => 0

/-- Start and length of the first longest run of zero groups. -/
def longestZeros : List UInt16 → Nat × Nat
  | [] => (0, 0)
  | g :: rest =>
    let here := zeroRun (g :: rest)
    let (start, len) := longestZeros rest
    if here ≥ len then (0, here) else (start + 1, len)

def groupText (g : UInt16) : List Char := Text.numeral 16 g.toNat

def groupsText (gs : List UInt16) : List Char := [':'].intercalate (gs.map groupText)

/-- The groups in hexadecimal, the longest run of zeros left out. -/
def groupForm (ip : Ipv6) : String :=
  let gs := ip.groups.toList
  let (start, len) := longestZeros gs
  if len > 1 then
    String.ofList (groupsText (gs.take start) ++ [':', ':'] ++ groupsText (gs.drop (start + len)))
  else String.ofList (groupsText gs)

def toText (ip : Ipv6) : String :=
  match ip.mapped? with
  | some v4 => "::ffff:" ++ v4.toText
  | none => ip.groupForm

end Ipv6

namespace Ip

def toText : Ip → String
  | v4 ip => ip.toText
  | v6 ip => ip.toText

/-- An IPv4 address carried by an IPv6 one counts as itself. -/
def canonical : Ip → Ip
  | v4 ip => v4 ip
  | v6 ip => match ip.mapped? with
    | some inner => v4 inner
    | none => v6 ip

end Ip

/-- Reads digits as far as they go: at most `most` of them, and with no leading zero unless that
is allowed. -/
def takeNumber (base most : Nat) (zeros : Bool) (s : List Char) : Option (Nat × List Char) :=
  let ds := s.takeWhile fun c => (Text.digitValue base c).isSome
  match Text.digits base ds with
  | none => none
  | some n =>
    if ds.length > most || (!zeros && ds.head? == some '0' && ds.length > 1) then none
    else some (n, s.drop ds.length)

def takeByte (s : List Char) : Option (UInt8 × List Char) :=
  match takeNumber 10 3 false s with
  | some (n, rest) => if n < 256 then some (UInt8.ofNat n, rest) else none
  | none => none

def takeChar (c : Char) : List Char → Option (List Char)
  | x :: rest => if x = c then some rest else none
  | [] => none

/-- An IPv4 address at the start of a text, and what follows it. -/
def takeIpv4 (s : List Char) : Option (Ipv4 × List Char) := do
  let (a, s) ← takeByte s
  let s ← takeChar '.' s
  let (b, s) ← takeByte s
  let s ← takeChar '.' s
  let (c, s) ← takeByte s
  let s ← takeChar '.' s
  let (d, s) ← takeByte s
  some (⟨a, b, c, d⟩, s)

def takeGroup (s : List Char) : Option (UInt16 × List Char) :=
  (takeNumber 16 4 true s).map fun (n, rest) => (UInt16.ofNat n, rest)

/-- Groups found in a row, whether they end in a dotted address, and what follows. -/
structure GroupRow where
  groups : List UInt16
  dotted : Bool
  rest : List Char

/-- Up to `room` groups with colons between them; a dotted address stands for two groups. -/
def takeGroups (first : Bool) : (room : Nat) → List Char → GroupRow
  | 0, s => ⟨[], false, s⟩
  | room + 1, s =>
    match (if first then some s else takeChar ':' s) with
    | none => ⟨[], false, s⟩
    | some s' =>
      match (if room > 0 then takeIpv4 s' else none) with
      | some (ip, rest) => ⟨[wordOfBytes ip.a ip.b, wordOfBytes ip.c ip.d], true, rest⟩
      | none =>
        match takeGroup s' with
        | none => ⟨[], false, s⟩
        | some (g, rest) =>
          let more := takeGroups false room rest
          ⟨g :: more.groups, more.dotted, more.rest⟩

def ipv6OfList? (gs : List UInt16) : Option Ipv6 :=
  if h : gs.length = 8 then some ⟨⟨gs.toArray, by simpa using h⟩⟩ else none

def takeIpv6 (s : List Char) : Option (Ipv6 × List Char) :=
  let front := takeGroups true 8 s
  if front.groups.length = 8 then (ipv6OfList? front.groups).map (·, front.rest)
  else if front.dotted then none
  else match front.rest with
    | ':' :: ':' :: s' =>
      let back := takeGroups true (7 - front.groups.length) s'
      let zeros := List.replicate (8 - front.groups.length - back.groups.length) 0
      (ipv6OfList? (front.groups ++ zeros ++ back.groups)).map (·, back.rest)
    | _ => none

def whole (r : Option (α × List Char)) : Option α :=
  match r with
  | some (a, []) => some a
  | _ => none

def readIpv4 (s : String) : Option Ipv4 := whole (takeIpv4 s.toList)

def readIpv6 (s : String) : Option Ipv6 := whole (takeIpv6 s.toList)

def readIp (s : String) : Option Ip :=
  match readIpv4 s with
  | some ip => some (.v4 ip)
  | none => (readIpv6 s).map .v6

end ProxyGateway.Net
