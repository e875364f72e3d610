/-!
UTF-8. A byte sequence is read as a row of pieces: characters, and the longest stretches of bytes
that begin a character but cannot go on. Decoding refuses the first such stretch and says where it
is; repairing puts the replacement character in its place.
-/
namespace ProxyGateway

/-- What is sent over a connection or kept in a file. -/
abbrev Bytes := List UInt8

namespace Text.Utf8

def encode (s : List Char) : Bytes := s.flatMap String.utf8EncodeChar

/-- One step of reading: a character, a stretch of `size` bytes that no character starts with, or
the start of a character at the very end. -/
inductive Piece where
  | char (c : Char)
  | broken (size : Nat)
  | unfinished
deriving DecidableEq

def isTail (b : UInt8) : Bool := 0x80 ≤ b && b ≤ 0xBF

/-- The second byte that may follow a lead byte of three or four bytes. -/
def mayFollow (lead b : UInt8) : Bool :=
  if lead == 0xE0 then 0xA0 ≤ b && b ≤ 0xBF
  else if lead == 0xED then 0x80 ≤ b && b ≤ 0x9F
  else if lead == 0xF0 then 0x90 ≤ b && b ≤ 0xBF
  else if lead == 0xF4 then 0x80 ≤ b && b ≤ 0x8F
  else isTail b

def scalar2 (a b : UInt8) : Char := Char.ofNat ((a.toNat - 0xC0) * 64 + (b.toNat - 0x80))

def scalar3 (a b c : UInt8) : Char :=
  Char.ofNat ((a.toNat - 0xE0) * 4096 + (b.toNat - 0x80) * 64 + (c.toNat - 0x80))

def scalar4 (a b c d : UInt8) : Char :=
  Char.ofNat ((a.toNat - 0xF0) * 262144 + (b.toNat - 0x80) * 4096 + (c.toNat - 0x80) * 64 +
    (d.toNat - 0x80))

def pieces : Bytes → List Piece
  | [] => []
  | a :: s =>
    if a < 0x80 then .char (Char.ofNat a.toNat) :: pieces s
    else if 0xC2 ≤ a ∧ a ≤ 0xDF then
      match s with
      | [] => [.unfinished]
      | b :: s' =>
        if isTail b then .char (scalar2 a b) :: pieces s' else .broken 1 :: pieces (b :: s')
    else if 0xE0 ≤ a ∧ a ≤ 0xEF then
      match s with
      | [] => [.unfinished]
      | b :: s' =>
        if mayFollow a b then
          match s' with
          | [] => [.unfinished]
          | c :: s'' =>
            if isTail c then .char (scalar3 a b c) :: pieces s'' else .broken 2 :: pieces (c :: s'')
        else .broken 1 :: pieces (b :: s')
    else if 0xF0 ≤ a ∧ a ≤ 0xF4 then
      match s with
      | [] => [.unfinished]
      | b :: s' =>
        if mayFollow a b then
          match s' with
          | [] => [.unfinished]
          | c :: s'' =>
            if isTail c then
              match s'' with
              | [] => [.unfinished]
              | d :: s''' =>
                if isTail d then .char (scalar4 a b c d) :: pieces s'''
                else .broken 3 :: pieces (d :: s''')
            else .broken 2 :: pieces (c :: s'')
        else .broken 1 :: pieces (b :: s')
    else .broken 1 :: pieces s
termination_by structural s => s

/-- Why bytes are not a text: the place of the first bad stretch and its size, which is unknown
where the bytes end inside a character. -/
structure Flaw where
  index : Nat
  size : Option Nat
deriving DecidableEq, Repr

def gather (index : Nat) : List Piece → Except Flaw (List Char)
  | [] => .ok []
  | .char c :: rest => (gather (index + (String.utf8EncodeChar c).length) rest).map (c :: ·)
  | .broken n :: _ => .error ⟨index, some n⟩
  | .unfinished :: _ => .error ⟨index, none⟩

def decode (s : Bytes) : Except Flaw String := (gather 0 (pieces s)).map String.ofList

def decode? (s : Bytes) : Option String := (decode s).toOption

/-- Every bad stretch becomes one replacement character. -/
def repair (s : Bytes) : String :=
  String.ofList ((pieces s).map fun
    | .char c => c
    | _ => '\uFFFD')

end Text.Utf8

def Bytes.ofText (s : String) : Bytes := Text.Utf8.encode s.toList

end ProxyGateway
