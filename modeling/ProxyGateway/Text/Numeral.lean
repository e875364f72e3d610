namespace ProxyGateway.Text

def digitValue (base : Nat) (c : Char) : Option Nat :=
  let n := c.toNat
  let v :=
    if 48 ≤ n ∧ n ≤ 57 then n - 48
    else if 97 ≤ n ∧ n ≤ 102 then n - 87
    else if 65 ≤ n ∧ n ≤ 70 then n - 55
    else 16
  if v < base then some v else none

/-- The value of a text made of digits alone; the empty text has none. -/
def digits (base : Nat) : List Char → Option Nat
  | [] => none
  | s => s.foldl (fun acc c => acc.bind fun n => (digitValue base c).map (n * base + ·)) (some 0)

/-- A whole number below `bound`, with an optional plus sign. -/
def readNat (bound : Nat) (s : List Char) : Option Nat :=
  let body := match s with
    | '+' :: rest => rest
    | _ => s
  (digits 10 body).bind fun n => if n < bound then some n else none

/-- A whole number from `-bound` to `bound - 1`, with an optional sign. -/
def readInt (bound : Nat) (s : List Char) : Option Int :=
  match s with
  | '-' :: rest => (digits 10 rest).bind fun n => if n ≤ bound then some (-(n : Int)) else none
  | _ => (readNat bound s).map Int.ofNat

def readPort (s : String) : Option UInt16 := (readNat 65536 s.toList).map UInt16.ofNat

def digitChar (n : Nat) : Char :=
  if n < 10 then Char.ofNat (48 + n) else Char.ofNat (87 + n)

/-- The digits of a number in a base of at most sixteen, the most significant first. -/
def numeral (base n : Nat) : List Char := Nat.toDigits base n

def decimal (n : Nat) : String := String.ofList (numeral 10 n)

def decimalInt (n : Int) : String :=
  match n with
  | .ofNat m => decimal m
  | .negSucc m => "-" ++ decimal (m + 1)

def hex (bytes : List UInt8) : String :=
  String.ofList (bytes.flatMap fun b => [digitChar (b.toNat / 16), digitChar (b.toNat % 16)])

theorem length_hex (bytes : List UInt8) : (hex bytes).length = 2 * bytes.length := by
  have chars : ∀ bytes : List UInt8, (bytes.flatMap fun b =>
      [digitChar (b.toNat / 16), digitChar (b.toNat % 16)]).length = 2 * bytes.length := by
    intro bytes
    induction bytes with
    | nil => rfl
    | cons b bytes ih =>
      rw [List.flatMap_cons, List.length_append, ih, List.length_cons]
      simp only [List.length_cons, List.length_nil]
      omega
  rw [hex, String.length_ofList, chars]

end ProxyGateway.Text
