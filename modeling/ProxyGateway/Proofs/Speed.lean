import Mathlib.Algebra.Order.Field.Rat
import Mathlib.Tactic.NormNum
import Mathlib.Tactic.Positivity
import ProxyGateway.Speed
/-!
The rate of a transfer in exact numbers. What counts of a time are its whole units, which is more
than half of it and never less for a longer time, and the rate is the one of the time that counts.
Main statement: nothing is divided by zero, and the rate is at least the true one and below twice
of it, never rises with the time and rises with the bytes.
-/
namespace ProxyGateway

/-- Exact numbers, and none where something was divided by zero. -/
def Checked := Option ℚ
deriving DecidableEq

namespace Checked

def exact (q : ℚ) : Checked := some q

def ofNat (n : ℕ) : Checked := exact n

instance : Add Checked := ⟨Option.map₂ (· + ·)⟩

instance : Mul Checked := ⟨Option.map₂ (· * ·)⟩

instance : Div Checked :=
  ⟨fun x y => Option.bind x fun p => Option.bind y fun q => if q = 0 then none else exact (p / q)⟩

theorem exact_add (p q : ℚ) : exact p + exact q = exact (p + q) := rfl

theorem exact_mul (p q : ℚ) : exact p * exact q = exact (p * q) := rfl

theorem exact_div (p : ℚ) {q : ℚ} (divisor : q ≠ 0) : exact p / exact q = exact (p / q) :=
  if_neg divisor

end Checked

namespace Speed

def trueRate (bytes nanos : ℕ) : ℚ := bytes * 1000000000 / nanos

/-- What `bytesPerSecond` gives in the numbers of the machine, in exact ones. -/
def exactRate (bytes nanos : ℕ) : ℚ := rate Nat.cast bytes nanos

/-- The nanoseconds of the unit in which a time is counted. -/
def unit (nanos : ℕ) : ℕ :=
  if nanos < 1000 then 1
  else if nanos < 1000000 then 1000
  else if nanos < 1000000000 then 1000000
  else 1

def counted (nanos : ℕ) : ℕ := nanos / unit nanos * unit nanos

theorem unit_pos (nanos : ℕ) : 0 < unit nanos := by
  unfold unit
  split_ifs <;> decide

theorem unit_le {nanos : ℕ} (some_time : 0 < nanos) : unit nanos ≤ nanos := by
  unfold unit
  split_ifs <;> omega

/-- A unit above the nanosecond is in use from its own length on. -/
theorem unit_eq_of_le {nanos later : ℕ} (coarse : unit later ≠ 1) (reached : unit later ≤ nanos)
    (le : nanos ≤ later) : unit nanos = unit later := by
  unfold unit at *
  split_ifs at * <;> omega

theorem counted_le (nanos : ℕ) : counted nanos ≤ nanos := Nat.div_mul_le_self _ _

theorem unit_le_counted {nanos : ℕ} (some_time : 0 < nanos) : unit nanos ≤ counted nanos :=
  Nat.le_mul_of_pos_left _ (Nat.div_pos (unit_le some_time) (unit_pos nanos))

theorem counted_pos {nanos : ℕ} (some_time : 0 < nanos) : 0 < counted nanos :=
  Nat.lt_of_lt_of_le (unit_pos nanos) (unit_le_counted some_time)

theorem lt_two_mul_counted {nanos : ℕ} (some_time : 0 < nanos) : nanos < 2 * counted nanos := by
  have lost : nanos < counted nanos + unit nanos := Nat.lt_div_mul_add (unit_pos nanos)
  have kept := unit_le_counted some_time
  omega

theorem counted_of_unit_one {nanos : ℕ} (fine : unit nanos = 1) : counted nanos = nanos := by
  rw [counted, fine, Nat.div_one, Nat.mul_one]

/-- No longer time counts less, though the coarser unit may lose more of it. -/
theorem counted_mono {nanos later : ℕ} (le : nanos ≤ later) : counted nanos ≤ counted later := by
  by_cases fine : unit later = 1
  · rw [counted_of_unit_one fine]
    exact (counted_le nanos).trans le
  by_cases reached : unit later ≤ nanos
  · rw [counted, counted, unit_eq_of_le fine reached le]
    exact Nat.mul_le_mul_right _ (Nat.div_le_div_right le)
  · have later_time : 0 < later := by
      by_contra no_time
      exact fine (by rw [Nat.eq_zero_of_not_pos no_time]; rfl)
    calc counted nanos ≤ nanos := counted_le nanos
      _ ≤ unit later := Nat.le_of_not_ge reached
      _ ≤ counted later := unit_le_counted later_time

theorem seconds_eq (nanos : ℕ) :
    ((nanos / 1000000000 : ℕ) : ℚ) + ((nanos % 1000000000 : ℕ) : ℚ) / 1000000000 =
      nanos / 1000000000 := by
  have parts : (1000000000 : ℚ) * (nanos / 1000000000 : ℕ) + (nanos % 1000000000 : ℕ) = nanos :=
    mod_cast Nat.div_add_mod nanos 1000000000
  rw [← parts, add_div, mul_div_cancel_left₀ _ (by norm_num)]

theorem rate_in_units (bytes scale whole : ℚ) {unit : ℚ} (size : unit ≠ 0) :
    bytes * scale / whole = bytes * (scale * unit) / (whole * unit) := by
  rw [← mul_assoc, mul_div_mul_right _ _ size]

/-- The rate is the true one of the time that counts. -/
theorem exactRate_eq {nanos : ℕ} (bytes : ℕ) (some_time : 0 < nanos) :
    exactRate bytes nanos = trueRate bytes (counted nanos) := by
  unfold exactRate rate trueRate counted unit
  rw [if_neg some_time.ne']
  split_ifs
  · simp
  · rw [rate_in_units _ _ _ (show (1000 : ℚ) ≠ 0 by norm_num)]
    norm_num
  · rw [rate_in_units _ _ _ (show (1000000 : ℚ) ≠ 0 by norm_num)]
    norm_num
  · rw [Nat.div_one, Nat.mul_one, Nat.cast_ofNat, seconds_eq, div_div_eq_mul_div]

theorem rate_checked (bytes nanos : ℕ) :
    rate Checked.ofNat bytes nanos = .exact (exactRate bytes nanos) := by
  have whole (unit : ℕ) (size : 0 < unit) (reached : ¬ nanos < unit) :
      ((nanos / unit : ℕ) : ℚ) ≠ 0 :=
    Nat.cast_ne_zero.2 (Nat.div_pos (Nat.le_of_not_gt reached) size).ne'
  unfold exactRate rate
  simp only [Checked.ofNat, Checked.exact_mul]
  split_ifs with some_time below_micro below_milli
  · rfl
  · exact Checked.exact_div _ (Nat.cast_ne_zero.2 some_time)
  · exact Checked.exact_div _ (whole 1000 (by decide) below_micro)
  · exact Checked.exact_div _ (whole 1000000 (by decide) below_milli)
  · have seconds : ((nanos / 1000000000 : ℕ) : ℚ) +
        ((nanos % 1000000000 : ℕ) : ℚ) / (1000000000 : ℕ) ≠ 0 := by
      rw [Nat.cast_ofNat, seconds_eq]
      exact div_ne_zero (Nat.cast_ne_zero.2 some_time) (by norm_num)
    rw [Checked.exact_div _ (by norm_num), Checked.exact_add, Checked.exact_div _ seconds]

/-- One time of each unit, and none. -/
example :
    [rate Checked.ofNat 1 500, rate Checked.ofNat 10 10000, rate Checked.ofNat 1000 500000000,
      rate Checked.ofNat 1024 2000000000, rate Checked.ofNat 1 0] =
    [.exact 2000000, .exact 1000000, .exact 2000, .exact 512, .exact 0] := by decide +kernel

theorem trueRate_antitone (bytes : ℕ) {nanos later : ℕ} (some_time : 0 < nanos)
    (le : nanos ≤ later) : trueRate bytes later ≤ trueRate bytes nanos := by
  unfold trueRate
  gcongr

theorem trueRate_strictMono {nanos : ℕ} (some_time : 0 < nanos) {bytes more : ℕ}
    (lt : bytes < more) : trueRate bytes nanos < trueRate more nanos := by
  unfold trueRate
  gcongr

theorem trueRate_le_exactRate (bytes : ℕ) {nanos : ℕ} (some_time : 0 < nanos) :
    trueRate bytes nanos ≤ exactRate bytes nanos := by
  rw [exactRate_eq bytes some_time]
  exact trueRate_antitone bytes (counted_pos some_time) (counted_le nanos)

theorem exactRate_lt_two_mul {bytes nanos : ℕ} (some_bytes : 0 < bytes) (some_time : 0 < nanos) :
    exactRate bytes nanos < 2 * trueRate bytes nanos := by
  have half : (nanos : ℚ) < 2 * counted nanos := mod_cast lt_two_mul_counted some_time
  have kept : (0 : ℚ) < counted nanos := mod_cast counted_pos some_time
  rw [exactRate_eq bytes some_time, trueRate, trueRate, ← mul_div_assoc,
    div_lt_div_iff₀ kept (by positivity)]
  calc (bytes * 1000000000 : ℚ) * nanos < bytes * 1000000000 * (2 * counted nanos) := by gcongr
    _ = 2 * (bytes * 1000000000) * counted nanos := by rw [← mul_assoc, mul_comm _ (2 : ℚ)]

theorem exactRate_antitone (bytes : ℕ) {nanos later : ℕ} (some_time : 0 < nanos)
    (le : nanos ≤ later) : exactRate bytes later ≤ exactRate bytes nanos := by
  rw [exactRate_eq bytes some_time, exactRate_eq bytes (some_time.trans_le le)]
  exact trueRate_antitone bytes (counted_pos some_time) (counted_mono le)

theorem exactRate_strictMono {nanos : ℕ} (some_time : 0 < nanos) {bytes more : ℕ}
    (lt : bytes < more) : exactRate bytes nanos < exactRate more nanos := by
  rw [exactRate_eq bytes some_time, exactRate_eq more some_time]
  exact trueRate_strictMono (counted_pos some_time) lt

/-- A measured rate is a number, is off by less than a factor of two and always upwards, and keeps
the order of times and of byte counts, whatever the units are in which the times are counted. -/
theorem rate_is_bounded_and_monotone {bytes nanos : ℕ} (some_bytes : 0 < bytes)
    (some_time : 0 < nanos) :
    rate Checked.ofNat bytes nanos = .exact (exactRate bytes nanos) ∧
      trueRate bytes nanos ≤ exactRate bytes nanos ∧
      exactRate bytes nanos < 2 * trueRate bytes nanos ∧
      (∀ later, nanos ≤ later → exactRate bytes later ≤ exactRate bytes nanos) ∧
      ∀ more, bytes < more → exactRate bytes nanos < exactRate more nanos :=
  ⟨rate_checked bytes nanos, trueRate_le_exactRate bytes some_time,
    exactRate_lt_two_mul some_bytes some_time,
    fun _ le => exactRate_antitone bytes some_time le,
    fun _ lt => exactRate_strictMono some_time lt⟩

/-- A time one nanosecond below two microseconds counts as one, so the rate is nearly doubled; the
next time is counted in milliseconds. -/
theorem nearly_lost_microsecond :
    rate Checked.ofNat 1 1999 = .exact 1000000 ∧ trueRate 1 1999 ≤ 1000000 ∧
      1000000 < 2 * trueRate 1 1999 ∧ exactRate 1 1000000 ≤ 1000000 ∧
      1000000 < exactRate 2 1999 := by
  have doubled : exactRate 1 1999 = 1000000 := by norm_num [exactRate, rate]
  obtain ⟨checked, lower, upper, later, more⟩ :=
    @rate_is_bounded_and_monotone 1 1999 (by decide) (by decide)
  rw [doubled] at checked lower upper later more
  exact ⟨checked, lower, upper, later 1000000 (by decide), more 2 (by decide)⟩

end Speed

end ProxyGateway
