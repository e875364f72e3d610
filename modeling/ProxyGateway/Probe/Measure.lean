import ProxyGateway.Proxy.Adapter
import ProxyGateway.Speed
/-!
What a probe leaves with an adapter. A delay that was measured makes the adapter alive; a failure
makes it dead and keeps the delay of before. A speed that was measured replaces the one of before
with its label; where no time has passed only the label is kept.
-/
namespace ProxyGateway

inductive Measurement where
  | delay (millis : Option Nat)
  | speed (sample : Option Nat) (nanos : Nat)
deriving DecidableEq, Repr

namespace Measurement

def greatestDelay : Nat := 65535

/-- Kilobytes per second. -/
def kilobytes (speed : Double) : Double := speed / Double.ofNat 1024

def apply (m : Measurement) (a : Adapter) : Adapter :=
  match m with
  | delay (some millis) =>
    (a.store Adapter.aliveKey (.bool true)).store Adapter.delayKey
      (.num (.whole (min millis greatestDelay)))
  | delay none => a.store Adapter.aliveKey (.bool false)
  | speed (some sample) nanos =>
    let speed := Speed.bytesPerSecond sample nanos
    let a :=
      if Double.zero.less speed then a.store Adapter.speedKey (.num (.real (kilobytes speed)))
      else a
    a.store Adapter.speedTextKey (.str (Speed.label speed))
  | speed none _ =>
    (a.store Adapter.speedKey (.num (.real (Double.ofNat 1).negate))).store Adapter.speedTextKey
      (.str "0bps")

end Measurement

end ProxyGateway
