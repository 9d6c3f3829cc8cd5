import Mediation.Policy
import Mediation.Proofs.Number.Powers

/-!
# How the delays of a policy lie to each other

With a multiplier of at least one the power of the multiplier grows with its exponent, and so does
the delay that backoff makes of it (`backoffDelay_mono`): rounding keeps the order, and so do the
cap and the cut to whole milliseconds. Two things stand between that and delays which grow with the
attempt (`growing_spaced`).

* The first delay is the policy's own, to the nanosecond; the later ones are made of a double of
  whole milliseconds. So the first one is not longer than the rest if such a double holds it
  (`HeldInMillis`) or the cap cuts it; otherwise it may be, by less than a millisecond as long as
  doubles hold every whole number of milliseconds.
* The exponent is counted in 32 bits with a sign. It grows with the attempt up to `turn`, turns
  negative there, and grows again: on either side the delays grow, and beyond the turn they are no
  longer than before it.
-/

set_option autoImplicit false

namespace Mediation

namespace Duration

/-- Whole milliseconds, as many as a double and 64 bits can count. -/
structure HeldInMillis (d : Duration) : Prop where
  whole : d.totalNanos % nanosPerMilli = 0
  held : Binary64.Held d.millis
  counted : d.millis ≤ Policy.mostMillis

theorem millis_lt (d : Duration) : d.millis < 2 ^ 75 := by
  have := d.bounded
  simp only [millis, nanosPerMilli, UInt64.size] at *
  omega

theorem millis_mul_le (d : Duration) : d.millis * nanosPerMilli ≤ d.totalNanos :=
  Nat.div_mul_le_self _ _

theorem lt_millis_mul (d : Duration) : d.totalNanos < (d.millis + 1) * nanosPerMilli := by
  simp only [millis, nanosPerMilli]
  omega

theorem totalNanos_ofMillis {n : Nat} (counted : n ≤ Policy.mostMillis) :
    (ofMillis n).totalNanos = n * nanosPerMilli := by
  have fits : n * nanosPerMilli < UInt64.size * 1000000000 := by
    simp only [Policy.mostMillis, UInt64.size, nanosPerMilli] at *
    omega
  rw [ofMillis, ofNanos, ofNanos?, dif_pos fits, Option.getD_some]

end Duration

namespace Policy

open Binary64 Duration

variable {policy : Policy}

/-! ## Exponents -/

/-- The last attempt whose exponent is not negative. -/
def turn : Attempts := 2147483648

theorem exponent_before {n : Attempts} (first : 1 ≤ n) (before : n ≤ turn) :
    exponent n = (n.toNat : Int) - 1 := by
  rw [UInt32.le_iff_toNat_le] at first before
  simp only [turn, UInt32.reduceToNat] at first before
  simp only [exponent, Int.bmod_def, UInt32.size]
  omega

theorem exponent_beyond {n : Attempts} (beyond : turn < n) :
    exponent n = (n.toNat : Int) - 1 - UInt32.size := by
  have bounded := n.toNat_lt
  rw [UInt32.lt_iff_toNat_lt] at beyond
  simp only [turn, UInt32.reduceToNat] at beyond
  simp only [exponent, Int.bmod_def, UInt32.size]
  omega

theorem exponent_mono {n m : Attempts} (first : 1 ≤ n) (le : n ≤ m)
    (side : m ≤ turn ∨ turn < n) : exponent n ≤ exponent m := by
  have := UInt32.le_iff_toNat_le.mp le
  rcases side with before | beyond
  · rw [exponent_before first (UInt32.le_trans le before),
      exponent_before (UInt32.le_trans first le) before]
    omega
  · rw [exponent_beyond beyond, exponent_beyond (UInt32.lt_of_lt_of_le beyond le)]
    omega

theorem exponent_nonneg {n : Attempts} (first : 1 ≤ n) (before : n ≤ turn) : 0 ≤ exponent n := by
  rw [exponent_before first before]
  have := UInt32.le_iff_toNat_le.mp first
  simp only [UInt32.reduceToNat] at this
  omega

theorem exponent_turned {n m : Attempts} (first : 1 ≤ n) (before : n ≤ turn) (beyond : turn < m) :
    exponent m ≤ exponent n := by
  have := exponent_nonneg first before
  have := m.toNat_lt
  rw [exponent_beyond beyond]
  simp only [UInt32.size]
  omega

/-! ## From a number of milliseconds to a delay -/

/-- The delay that backoff makes of a number of milliseconds. -/
def within (policy : Policy) (millis : Binary64) : Duration :=
  if millis.isFinite && millis.lt (Binary64.ofNat policy.cap.millis) then
    Duration.ofMillis (millis.truncate mostMillis)
  else policy.cap

theorem backoffDelay_eq (attempt : Attempts) :
    policy.backoffDelay attempt = policy.within (policy.backoffMillis attempt) := rfl

theorem truncate_le_mostMillis (x : Binary64) : x.truncate mostMillis ≤ mostMillis := by
  cases x with
  | finite => simp only [truncate]; split <;> omega
  | infinite => simp only [truncate]; split <;> omega
  | nan => exact Nat.zero_le _

theorem totalNanos_truncate (x : Binary64) :
    (Duration.ofMillis (x.truncate mostMillis)).totalNanos =
      x.truncate mostMillis * nanosPerMilli :=
  totalNanos_ofMillis (truncate_le_mostMillis x)

theorem within_le_cap {x : Binary64} (proper : x.Proper) : policy.within x ≤ policy.cap := by
  unfold within
  split
  · rename_i below
    simp only [Bool.and_eq_true] at below
    show (Duration.ofMillis _).totalNanos ≤ _
    rw [totalNanos_truncate]
    exact (Nat.mul_le_mul_right _ (truncate_le_of_lt proper below.1 below.2 _)).trans
      (millis_mul_le policy.cap)
  · exact Nat.le_refl _

/-- A larger number of milliseconds, or none that is a number, gives no shorter delay. -/
theorem within_mono {x y : Binary64} (proper : x.Proper) (le : x.AtMost y ∨ y = .nan) :
    policy.within x ≤ policy.within y := by
  by_cases below : (y.isFinite && y.lt (Binary64.ofNat policy.cap.millis)) = true
  · obtain ⟨isFinite, lt⟩ := Bool.and_eq_true_iff.mp below
    obtain le | rfl := le
    · rw [within, within, if_pos below, if_pos (Bool.and_eq_true_iff.mpr
        ⟨le.isFinite_of_isFinite isFinite, le.lt_of_lt lt⟩)]
      show (Duration.ofMillis _).totalNanos ≤ (Duration.ofMillis _).totalNanos
      rw [totalNanos_truncate, totalNanos_truncate]
      exact Nat.mul_le_mul_right _ (le.truncate_le mostMillis)
    · exact absurd isFinite (by decide)
  · rw [within.eq_def policy y, if_neg below]
    exact within_le_cap proper

theorem within_whole (policy : Policy) (x : Binary64) :
    policy.within x = policy.cap ∨ (policy.within x).totalNanos % nanosPerMilli = 0 := by
  unfold within
  split
  · exact .inr (by rw [totalNanos_truncate, Nat.mul_mod_left])
  · exact .inl rfl

/-! ## Backoff -/

/-- The multiplier, if it is used, makes nothing shorter. -/
def Grows (policy : Policy) : Prop :=
  policy.exponential = true → Binary64.one.le policy.multiplier = true

theorem proper_backoffMillis (attempt : Attempts) : (policy.backoffMillis attempt).Proper :=
  proper_mul _ _

theorem ofNat_millis_eq (d : Duration) : ∃ u, Binary64.ofNat d.millis = .finite false u := by
  have held := held_mul_two_pow (show 1 ≤ 2 ^ 53 by decide) 75
  rw [Nat.one_mul] at held
  have le := ofNat_mono (Nat.le_of_lt d.millis_lt)
  rw [ofNat_of_held held (by decide +kernel)] at le
  obtain ⟨u, -, same⟩ := le.eq_finite
  exact ⟨u, same⟩

theorem nonneg_ofNat_millis (d : Duration) :
    (Binary64.ofNat d.millis).AtMost (Binary64.ofNat d.millis) := ofNat_mono (Nat.le_refl _)

/-- The product with a larger factor is no smaller, if it is a number. -/
theorem scaled_mono (d : Duration) {x y : Binary64} (le : x.AtMost y) :
    ((Binary64.ofNat d.millis).mul x).AtMost ((Binary64.ofNat d.millis).mul y) ∨
      (Binary64.ofNat d.millis).mul y = .nan := by
  obtain ⟨u, same⟩ := ofNat_millis_eq d
  rw [same]
  by_cases number : (Binary64.finite false u).mul y = .nan
  · exact .inr number
  · refine .inl (.mul (.finite (Nat.le_refl u)) le ?_ number)
    cases le with
    | finite => exact ofUnits_ne_nan _ _
    | beyond => exact ofUnits_ne_nan _ _
    | infinite => exact number

/-- **A larger exponent gives no shorter delay.** -/
theorem backoffDelay_mono (large : Binary64.one.AtMost policy.multiplier) {n m : Attempts}
    (le : exponent n ≤ exponent m) : policy.backoffDelay n ≤ policy.backoffDelay m :=
  within_mono (proper_backoffMillis n) (scaled_mono policy.delay (pow_mono large le))

/-- What the delay makes without any multiplier is the least. -/
theorem within_le_backoffDelay (large : Binary64.one.AtMost policy.multiplier) {n : Attempts}
    (first : 1 ≤ n) (before : n ≤ turn) :
    policy.within (Binary64.ofNat policy.delay.millis) ≤ policy.backoffDelay n := by
  have := scaled_mono policy.delay (one_atMost_pow large (exponent_nonneg first before))
  rw [Binary64.mul_one (proper_ofNat _) (nonneg_ofNat_millis _)] at this
  exact within_mono (proper_ofNat _) this

/-! ## The first delay -/

theorem within_of_le (capped : policy.cap ≤ policy.delay) :
    policy.within (Binary64.ofNat policy.delay.millis) = policy.cap := by
  have le := ofNat_mono (Nat.div_le_div_right (c := nanosPerMilli) capped)
  refine if_neg fun below => ?_
  have below := le.lt_of_lt (Bool.and_eq_true_iff.mp below).2
  rw [millis, lt_irrefl] at below
  exact absurd below (by decide)

theorem totalNanos_truncate_ofNat {n : Nat} (held : Held n) (counted : n ≤ mostMillis) :
    (Duration.ofMillis ((Binary64.ofNat n).truncate mostMillis)).totalNanos =
      n * nanosPerMilli := by
  have small : n < 2 ^ 1024 := counted.trans_lt (by decide +kernel)
  rw [totalNanos_truncate, truncate_ofNat held small, Nat.min_eq_left counted]

/-- Of what a double holds, backoff leaves all. -/
theorem within_ofNat_millis (held : Held policy.delay.millis)
    (counted : policy.delay.millis ≤ mostMillis) :
    policy.within (Binary64.ofNat policy.delay.millis) = policy.cap ∨
      (policy.within (Binary64.ofNat policy.delay.millis)).totalNanos =
        policy.delay.millis * nanosPerMilli := by
  unfold within
  split
  · exact .inr (totalNanos_truncate_ofNat held counted)
  · exact .inl rfl

theorem counted_of_small {n : Nat} (small : n < 2 ^ 53) : n ≤ mostMillis :=
  Nat.le_of_lt (small.trans (by decide))

theorem shorter_le_within (fits : policy.cap ≤ policy.delay ∨ policy.delay.HeldInMillis) :
    policy.delay.shorter policy.cap ≤ policy.within (Binary64.ofNat policy.delay.millis) := by
  rcases fits with capped | held
  · rw [within_of_le capped]
    exact shorter_le_right _ _
  · rcases within_ofNat_millis held.held held.counted with same | same
    · rw [same]
      exact shorter_le_right _ _
    · refine Nat.le_trans (shorter_le_left _ _) ?_
      rw [same, millis, Nat.div_mul_cancel (Nat.dvd_of_mod_eq_zero held.whole)]

theorem shorter_lt_within (small : policy.delay.millis < 2 ^ 53) :
    (policy.delay.shorter policy.cap).totalNanos <
      (policy.within (Binary64.ofNat policy.delay.millis)).totalNanos + nanosPerMilli := by
  rcases within_ofNat_millis (held_of_le (Nat.le_of_lt small)) (counted_of_small small)
    with same | same
  · rw [same]
    exact Nat.lt_of_le_of_lt (shorter_le_right _ _) (Nat.lt_add_of_pos_right (by decide))
  · rw [same, ← Nat.succ_mul]
    exact Nat.lt_of_le_of_lt (shorter_le_left _ _) (lt_millis_mul policy.delay)

/-! ## All delays -/

theorem delayBefore_of_one_lt {n : Attempts} (exponential : policy.exponential = true)
    (later : 1 < n) : policy.delayBefore n = policy.backoffDelay n :=
  if_pos (by simp [exponential, later])

theorem delayBefore_one (policy : Policy) :
    policy.delayBefore 1 = policy.delay.shorter policy.cap :=
  if_neg (by simp)

theorem delayBefore_fixed (fixed : policy.exponential = false) (n : Attempts) :
    policy.delayBefore n = policy.delay.shorter policy.cap :=
  if_neg (by simp [fixed])

/-- How the delays of a policy lie to each other. -/
structure Spaced (policy : Policy) : Prop where
  /-- No delay is longer than the cap. -/
  capped : ∀ n, policy.delayBefore n ≤ policy.cap
  /-- Without backoff all delays are the same. -/
  fixed : policy.exponential = false → ∀ n m, policy.delayBefore n = policy.delayBefore m
  /-- On either side of the turn the delays do not shrink; of the first one that is said if a double
  of milliseconds holds it or the cap cuts it. -/
  growing : ∀ n m, 1 ≤ n → n ≤ m → m ≤ turn ∨ turn < n →
    (n = 1 → policy.cap ≤ policy.delay ∨ policy.delay.HeldInMillis) →
    policy.delayBefore n ≤ policy.delayBefore m
  /-- If doubles hold every number of milliseconds up to the first delay, less than one is lost
  after it, -/
  kept : policy.delay.millis < 2 ^ 53 → ∀ m, 1 ≤ m → m ≤ turn →
    (policy.delayBefore 1).totalNanos < (policy.delayBefore m).totalNanos + nanosPerMilli
  /-- and without a multiplier just that is lost. -/
  lost : policy.delay.millis < 2 ^ 53 → policy.delay.millis < policy.cap.millis →
    policy.exponential = true → policy.multiplier = Binary64.one → ∀ m, 1 < m →
    (policy.delayBefore m).totalNanos = policy.delay.millis * nanosPerMilli
  /-- With backoff, whatever is not the cap is whole milliseconds from the second delay on. -/
  whole : policy.exponential = true → ∀ n, 1 < n →
    policy.delayBefore n = policy.cap ∨ (policy.delayBefore n).totalNanos % nanosPerMilli = 0
  /-- Beyond the turn no delay is longer than those before it. -/
  turned : ∀ n m, 1 < n → n ≤ turn → turn < m → policy.delayBefore m ≤ policy.delayBefore n

theorem delayBefore_le_cap (policy : Policy) (n : Attempts) :
    policy.delayBefore n ≤ policy.cap := by
  unfold delayBefore
  split
  · exact within_le_cap (proper_backoffMillis n)
  · exact shorter_le_right _ _

/-- From the second one on a larger exponent gives no shorter delay. -/
theorem delayBefore_mono (grows : policy.Grows) {n m : Attempts} (later : 1 < n) (later' : 1 < m)
    (le : exponent n ≤ exponent m) : policy.delayBefore n ≤ policy.delayBefore m := by
  cases exponential : policy.exponential with
  | false =>
    rw [delayBefore_fixed exponential, delayBefore_fixed exponential]
    exact Nat.le_refl _
  | true =>
    rw [delayBefore_of_one_lt exponential later, delayBefore_of_one_lt exponential later']
    exact backoffDelay_mono (atMost_of_one_le (grows exponential)) le

/-- A delay up to the turn is the first one, or no shorter than what the first one makes of itself
without a multiplier. -/
theorem delayBefore_cases (grows : policy.Grows) {m : Attempts} (first : 1 ≤ m) (before : m ≤ turn) :
    policy.delayBefore m = policy.delay.shorter policy.cap ∨
      policy.within (Binary64.ofNat policy.delay.millis) ≤ policy.delayBefore m := by
  cases exponential : policy.exponential with
  | false => exact .inl (delayBefore_fixed exponential m)
  | true =>
    by_cases later : 1 < m
    · rw [delayBefore_of_one_lt exponential later]
      exact .inr (within_le_backoffDelay (atMost_of_one_le (grows exponential)) first before)
    · rw [show m = 1 from UInt32.le_antisymm (UInt32.not_lt.mp later) first, delayBefore_one]
      exact .inl rfl

theorem delayBefore_one_le (grows : policy.Grows)
    (fits : policy.cap ≤ policy.delay ∨ policy.delay.HeldInMillis) {m : Attempts} (first : 1 ≤ m)
    (before : m ≤ turn) : policy.delayBefore 1 ≤ policy.delayBefore m := by
  rw [delayBefore_one]
  rcases delayBefore_cases grows first before with same | least
  · rw [same]
    exact Nat.le_refl _
  · exact Nat.le_trans (shorter_le_within fits) least

theorem delayBefore_one_lt (grows : policy.Grows) (small : policy.delay.millis < 2 ^ 53)
    {m : Attempts} (first : 1 ≤ m) (before : m ≤ turn) :
    (policy.delayBefore 1).totalNanos < (policy.delayBefore m).totalNanos + nanosPerMilli := by
  rw [delayBefore_one]
  rcases delayBefore_cases grows first before with same | least
  · rw [same]
    exact Nat.lt_add_of_pos_right (by decide)
  · have least : (policy.within (Binary64.ofNat policy.delay.millis)).totalNanos ≤
        (policy.delayBefore m).totalNanos := least
    exact (shorter_lt_within small).trans_le (Nat.add_le_add_right least _)

/-- Backoff by a multiplier of one cuts the delay to whole milliseconds. -/
theorem delayBefore_of_one (small : policy.delay.millis < 2 ^ 53)
    (below : policy.delay.millis < policy.cap.millis) (exponential : policy.exponential = true)
    (constant : policy.multiplier = Binary64.one) {m : Attempts} (later : 1 < m) :
    (policy.delayBefore m).totalNanos = policy.delay.millis * nanosPerMilli := by
  have millis : policy.backoffMillis m = Binary64.ofNat policy.delay.millis := by
    rw [backoffMillis, constant, one_pow,
      Binary64.mul_one (proper_ofNat _) (nonneg_ofNat_millis _)]
  obtain ⟨u, isFinite⟩ := ofNat_millis_eq policy.delay
  rw [delayBefore_of_one_lt exponential later, backoffDelay_eq, millis, within, if_pos
    (Bool.and_eq_true_iff.mpr ⟨by rw [isFinite]; rfl, ofNat_lt_ofNat small below⟩),
    totalNanos_truncate_ofNat (held_of_le (Nat.le_of_lt small)) (counted_of_small small)]

/-- **The delays of a policy whose multiplier makes nothing shorter.** -/
theorem growing_spaced (policy : Policy) (grows : policy.Grows) : policy.Spaced where
  capped := delayBefore_le_cap policy
  fixed flat n m := by rw [delayBefore_fixed flat, delayBefore_fixed flat]
  growing n m start le side fits := by
    rcases UInt32.lt_or_eq_of_le start with later | rfl
    · exact delayBefore_mono grows later (UInt32.lt_of_lt_of_le later le)
        (exponent_mono start le side)
    · exact delayBefore_one_le grows (fits rfl) le (side.resolve_right (by decide))
  kept small m start before := delayBefore_one_lt grows small start before
  lost small below exponential constant m later :=
    delayBefore_of_one small below exponential constant later
  whole exponential n later := by
    rw [delayBefore_of_one_lt exponential later]
    exact within_whole policy _
  turned n m later before beyond :=
    delayBefore_mono grows (UInt32.lt_trans later (UInt32.lt_of_le_of_lt before beyond)) later
      (exponent_turned (UInt32.le_of_lt later) before beyond)

/-- A first delay of 1.9 ms and a multiplier of one. -/
def fractional : Policy :=
  { standard with delay := ⟨1900000, by decide⟩, multiplier := Binary64.one, exponential := true }

theorem growing_spaced_fractional : fractional.Grows ∧ fractional.Spaced := by
  have grows : fractional.Grows := fun _ => by decide +kernel
  exact ⟨grows, growing_spaced fractional grows⟩

/-- The second delay is shorter than the first one. -/
example : (fractional.delayBefore 1).totalNanos = 1900000 ∧
    (fractional.delayBefore 2).totalNanos = 1000000 := by
  decide +kernel

/-- The doubling delays have long reached the cap when they start again from nothing. -/
example : ({ standard with exponential := true }.delayBefore turn) = standard.cap ∧
    ({ standard with exponential := true }.delayBefore (turn + 1)) = Duration.zero := by
  decide +kernel

end Policy

end Mediation
