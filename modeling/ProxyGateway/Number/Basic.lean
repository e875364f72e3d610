import ProxyGateway.Number.Shortest

namespace ProxyGateway

inductive Number where
  | whole (n : Int)
  | real (d : Double)
deriving DecidableEq, Repr

namespace Number

def least : Int := -9223372036854775808

def greatestSigned : Int := 9223372036854775807

def greatest : Int := 18446744073709551615

def int? : Number → Option Int
  | whole n => if least ≤ n ∧ n ≤ greatestSigned then some n else none
  | real _ => none

def nat? : Number → Option Nat
  | whole n => if 0 ≤ n then some n.toNat else none
  | real _ => none

def toDouble : Number → Double
  | whole n => Double.ofInt n
  | real d => d

/-- Equality of numbers; a whole number is never equal to one with a point. -/
def same : Number → Number → Bool
  | whole m, whole n => m == n
  | real x, real y => x.same y
  | _, _ => false

end Number

end ProxyGateway
