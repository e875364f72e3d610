import ProxyGateway.Number.Shortest

namespace ProxyGateway

namespace Double

def mul (x y : Double) : Double := ofFloat (x.toFloat * y.toFloat)

def div (x y : Double) : Double := ofFloat (x.toFloat / y.toFloat)

def add (x y : Double) : Double := ofFloat (x.toFloat + y.toFloat)

instance : Add Double := ⟨add⟩

instance : Mul Double := ⟨mul⟩

instance : Div Double := ⟨div⟩

/-- The order of numbers; what is no number is below nothing. -/
def less (x y : Double) : Bool := x.toFloat < y.toFloat

end Double

namespace Speed

/-- Bytes per second after a time in nanoseconds, in any arithmetic. Below a second the time counts
in whole milliseconds, below a millisecond in whole microseconds, below a microsecond in
nanoseconds; no time at all is no speed. -/
def rate [Add α] [Mul α] [Div α] (num : Nat → α) (bytes nanos : Nat) : α :=
  if nanos = 0 then num 0
  else if nanos < 1000 then num bytes * num 1000000000 / num nanos
  else if nanos < 1000000 then num bytes * num 1000000 / num (nanos / 1000)
  else if nanos < 1000000000 then num bytes * num 1000 / num (nanos / 1000000)
  else num bytes / (num (nanos / 1000000000) + num (nanos % 1000000000) / num 1000000000)

def bytesPerSecond (bytes nanos : Nat) : Double := rate Double.ofNat bytes nanos

/-- A number with two places, or a word where it is not finite. -/
def places (d : Double) : String :=
  if d.isNaN then "NaN"
  else if d.isFinite then d.fixedText 2
  else if d.negative then "-inf" else "inf"

def label (d : Double) : String :=
  let k := 1024
  let below (n : Nat) := d.less (Double.ofNat n)
  let scaled (n : Nat) := places (d / Double.ofNat n)
  if d.same Double.zero then "0bps"
  else if below k then places (d * Double.ofNat 8) ++ "bps"
  else if below (k * 128) then scaled 128 ++ "Kbps"
  else if below (k * k * 128) then scaled (128 * k) ++ "Mbps"
  else if below (k * k * k * 128) then scaled (128 * k * k) ++ "Gbps"
  else scaled (128 * k * k * k) ++ "Tbps"

end Speed

end ProxyGateway
