import Mediation.Number.Binary64

/-!
# Durations and instants

A `Duration` is a number of nanoseconds whose whole seconds fit into 64 bits, so seconds and
nanoseconds below a second determine it. An `Instant` counts nanoseconds from the start of the
clock; timers have the resolution of a millisecond and fire at the first whole millisecond at or
after their instant (`Instant.tick`). A sleep lasts thirty years at most (`Instant.wakeUp`), and so
does the time between two sweeps. What is proved of them does not depend on that number: it needs no
more than that a sleep takes time (`Instant.lt_wakeUp`), but no more than it is meant to
(`Instant.wakeUp_le`). A wait with a limit lasts as long as it is meant to, if timers count that far
(`Instant.giveUp?`).
-/

set_option autoImplicit false

namespace Mediation

def nanosPerSecond : Nat := 1000000000

def nanosPerMilli : Nat := 1000000

/-- A span of time, counted in nanoseconds. -/
structure Duration where
  totalNanos : Nat
  bounded : totalNanos < UInt64.size * 1000000000
deriving DecidableEq, Repr

namespace Duration

def zero : Duration := ⟨0, by decide⟩

instance : Inhabited Duration := ⟨zero⟩

def longest : Duration := ⟨UInt64.size * 1000000000 - 1, by decide⟩

/-- The duration of so many nanoseconds, if it is not too long. -/
def ofNanos? (nanos : Nat) : Option Duration :=
  if fits : nanos < UInt64.size * 1000000000 then some ⟨nanos, fits⟩ else none

/-- The duration of so many nanoseconds, or the longest one. -/
def ofNanos (nanos : Nat) : Duration := (ofNanos? nanos).getD longest

/-- The duration of so many milliseconds, or the longest one. -/
def ofMillis (millis : Nat) : Duration := ofNanos (millis * nanosPerMilli)

/-- The duration of so many seconds, or the longest one. -/
def ofSeconds (seconds : Nat) : Duration := ofNanos (seconds * nanosPerSecond)

/-- Whole seconds and further nanoseconds; nanoseconds of a second or more carry over. -/
def ofParts? (seconds nanos : Nat) : Option Duration := ofNanos? (seconds * nanosPerSecond + nanos)

def seconds (d : Duration) : Nat := d.totalNanos / nanosPerSecond

/-- Nanoseconds beyond the whole seconds. -/
def nanos (d : Duration) : Nat := d.totalNanos % nanosPerSecond

def millis (d : Duration) : Nat := d.totalNanos / nanosPerMilli

def isZero (d : Duration) : Bool := d.totalNanos = 0

instance : LE Duration := ⟨fun a b => a.totalNanos ≤ b.totalNanos⟩

instance : LT Duration := ⟨fun a b => a.totalNanos < b.totalNanos⟩

instance (a b : Duration) : Decidable (a ≤ b) :=
  inferInstanceAs (Decidable (a.totalNanos ≤ b.totalNanos))

instance (a b : Duration) : Decidable (a < b) :=
  inferInstanceAs (Decidable (a.totalNanos < b.totalNanos))

def shorter (a b : Duration) : Duration := if a ≤ b then a else b

theorem shorter_le_left (a b : Duration) : a.shorter b ≤ a := by
  unfold shorter
  split
  · exact Nat.le_refl _
  · exact Nat.le_of_not_le (by assumption)

theorem shorter_le_right (a b : Duration) : a.shorter b ≤ b := by
  unfold shorter
  split
  · assumption
  · exact Nat.le_refl _

theorem shorter_pos {a b : Duration} (first : 0 < a.totalNanos) (second : 0 < b.totalNanos) :
    0 < (a.shorter b).totalNanos := by
  unfold shorter
  split
  · exact first
  · exact second

theorem ofNanos?_totalNanos (d : Duration) : ofNanos? d.totalNanos = some d :=
  dif_pos d.bounded

/-- **Seconds and nanoseconds determine a duration.** -/
theorem ofParts?_seconds_nanos (d : Duration) : ofParts? d.seconds d.nanos = some d := by
  have parts : d.seconds * nanosPerSecond + d.nanos = d.totalNanos := by
    simp only [seconds, nanos]
    rw [Nat.mul_comm]
    exact Nat.div_add_mod _ _
  rw [ofParts?, parts, ofNanos?_totalNanos]

/-! ## Seconds -/

/-- A duration in seconds, as a double: the whole seconds and the rest are rounded apart. -/
def inSeconds (d : Duration) : Binary64 :=
  (Binary64.ofNat d.seconds).add
    ((Binary64.ofNat d.nanos).div (Binary64.ofNat nanosPerSecond))

/-- The duration nearest to so many seconds, a half going to the even neighbour. What is no number
of seconds from zero on, or too many, gives the longest one. -/
def nearest : Binary64 → Duration
  | .finite false units =>
    ofNanos (Binary64.nearestEven (units * nanosPerSecond) Binary64.unitsPerOne)
  | _ => longest

/-! ## Text -/

/-- A count of `width` decimals after the point, without trailing zeros and without a point that
nothing follows. -/
def decimals (value width : Nat) : List Char :=
  let digits := Nat.toDigits 10 value
  let padded := List.replicate (width - digits.length) '0' ++ digits
  let kept := (padded.reverse.dropWhile (· == '0')).reverse
  if kept.isEmpty then [] else '.' :: kept

/-- A duration is written exactly, in the largest of `s`, `ms`, `µs` and `ns` of which it holds at
least one. -/
def text (d : Duration) : String :=
  let write (value base width : Nat) (suffix : String) : String :=
    toString (value / base) ++ String.ofList (decimals (value % base) width) ++ suffix
  if d.totalNanos ≥ nanosPerSecond then write d.totalNanos nanosPerSecond 9 "s"
  else if d.totalNanos ≥ nanosPerMilli then write d.totalNanos nanosPerMilli 6 "ms"
  else if d.totalNanos ≥ 1000 then write d.totalNanos 1000 3 "µs"
  else write d.totalNanos 1 0 "ns"

end Duration

/-! ## Instants -/

/-- Nanoseconds since the start of the clock. -/
abbrev Instant := Nat

namespace Instant

/-- The clock starts a million seconds after the earliest instant it can hold. -/
def origin : Nat := 1000000 * nanosPerSecond

/-- The least distance from the earliest instant that the clock cannot hold. -/
def beyond : Nat := UInt64.size / 2 * nanosPerSecond

/-- The instant a duration after another one, if the clock can hold it. -/
def after? (now : Instant) (d : Duration) : Option Instant :=
  if origin + now + d.totalNanos < beyond then some (now + d.totalNanos) else none

/-- What is said of an instant that the clock cannot hold. -/
def overflowText : String := "overflow when adding duration to instant"

/-- The instant a duration after another one, whether or not the clock can hold it. -/
def plus (now : Instant) (d : Duration) : Instant := now + d.totalNanos

theorem after?_eq {now sum : Instant} {span : Duration} (fits : now.after? span = some sum) :
    sum = now.plus span := by
  obtain ⟨_, same⟩ := Option.ite_none_right_eq_some.mp fits
  exact (Option.some_inj.mp same).symm

/-- The longest time that anyone sleeps: thirty years of 365 days. -/
def longestSleep : Duration := Duration.ofSeconds (30 * 365 * 86400)

/-- The instant at which a sleep of `d` that begins at `now` is over. -/
def wakeUp (now : Instant) (d : Duration) : Instant := now.plus (d.shorter longestSleep)

/-- A sleep does not end before it begins. -/
theorem le_wakeUp (now : Instant) (d : Duration) : now ≤ now.wakeUp d := Nat.le_add_right now _

/-- A sleep takes time, unless it is meant to take none. -/
theorem lt_wakeUp {now : Instant} {d : Duration} (lasts : d.isZero = false) :
    now < now.wakeUp d := by
  have nonzero : d.totalNanos ≠ 0 := by simpa [Duration.isZero] using lasts
  exact Nat.lt_add_of_pos_right (Duration.shorter_pos (Nat.pos_of_ne_zero nonzero) (by decide))

/-- No sleep is longer than it is meant to be. -/
theorem wakeUp_le (now : Instant) (d : Duration) : now.wakeUp d ≤ now.plus d :=
  Nat.add_le_add_left (Duration.shorter_le_left d longestSleep) now

/-- The last instant at which a timer fires. Timers count milliseconds in 64 bits, and the two
largest counts have other meanings. -/
def lastTimer : Instant := (UInt64.size - 3) * nanosPerMilli

/-- The instant at which a timer set for `due` fires at the latest. There is no such timer if the
clock cannot hold the millisecond that `due` is rounded up to. -/
def timer? (due : Instant) : Option Instant :=
  if origin + due + (nanosPerMilli - 1) < beyond then some (min due lastTimer) else none

/-- The instant at which someone gives up who begins at `now` to wait for at most `d`, if there is a
timer for it. An instant that the clock cannot hold is behind all timers, and so the last of them
stands for it. -/
def giveUp? (now : Instant) (d : Duration) : Option Instant :=
  match now.after? d with
  | some due => due.timer?
  | none => some lastTimer

/-- The whole millisecond at which a timer due at `at` fires. -/
def tick (due : Instant) : Instant := (due + (nanosPerMilli - 1)) / nanosPerMilli * nanosPerMilli

/-- A timer does not fire before it is due. -/
theorem le_tick (due : Instant) : due ≤ tick due := by
  have general : ∀ nanos : Nat, nanos ≤ (nanos + (1000000 - 1)) / 1000000 * 1000000 :=
    fun nanos => by omega
  exact general due

/-- A timer fires within a millisecond. -/
theorem tick_lt (due : Instant) : tick due < due + 1000000 := by
  have general : ∀ nanos : Nat,
      (nanos + (1000000 - 1)) / 1000000 * 1000000 < nanos + 1000000 := fun nanos => by omega
  exact general due

theorem tick_mono {first second : Instant} (before : first ≤ second) :
    tick first ≤ tick second := by
  unfold tick
  exact Nat.mul_le_mul_right _ (Nat.div_le_div_right (Nat.add_le_add_right before _))

/-- Whole milliseconds since the start. -/
def millis (now : Instant) : Nat := now / nanosPerMilli

/-! ### What the clock can hold -/

variable {now : Instant} {span : Duration}

/-- The clock can hold the instant a span after another one. -/
def Holds (now : Instant) (span : Duration) : Prop := origin + now + span.totalNanos < beyond

/-- Besides, it can hold the whole millisecond that a timer rounds that instant up to. -/
def Times (now : Instant) (span : Duration) : Prop :=
  origin + now + span.totalNanos + (nanosPerMilli - 1) < beyond

theorem Times.holds (times : now.Times span) : now.Holds span := by
  unfold Times at times
  unfold Holds
  omega

theorem after?_eq_some_iff {sum : Instant} :
    now.after? span = some sum ↔ now.Holds span ∧ sum = now.plus span := by
  constructor
  · intro fits
    exact ⟨(Option.ite_none_right_eq_some.mp fits).1, after?_eq fits⟩
  · rintro ⟨holds, rfl⟩
    exact if_pos holds

theorem after?_eq_none_iff : now.after? span = none ↔ ¬ now.Holds span := by
  constructor
  · intro unfit holds
    rw [after?_eq_some_iff.mpr ⟨holds, rfl⟩] at unfit
    simp at unfit
  · exact fun exceeds => if_neg exceeds

theorem timer?_plus_eq_some_iff {due : Instant} :
    (now.plus span).timer? = some due ↔ now.Times span ∧ due = min (now.plus span) lastTimer := by
  rw [timer?, Option.ite_none_right_eq_some, Option.some_inj, plus, ← Nat.add_assoc, Times,
    eq_comm]

theorem giveUp?_of_holds (holds : now.Holds span) :
    now.giveUp? span = (now.plus span).timer? := by
  rw [giveUp?, after?_eq_some_iff.mpr ⟨holds, rfl⟩]

theorem giveUp?_of_not_holds (exceeds : ¬ now.Holds span) : now.giveUp? span = some lastTimer := by
  rw [giveUp?, after?_eq_none_iff.mpr exceeds]

/-- All timers fire before an instant that the clock cannot hold. -/
theorem lastTimer_le_plus (exceeds : ¬ now.Holds span) : lastTimer ≤ now.plus span := by
  have far : origin + lastTimer ≤ beyond := by decide
  have further : beyond ≤ origin + (now + span.totalNanos) := by
    rw [← Nat.add_assoc]
    exact Nat.le_of_not_lt exceeds
  exact Nat.le_of_add_le_add_left (Nat.le_trans far further)

/-- **The longest duration never fits.** -/
theorem not_holds_longest (now : Instant) : ¬ now.Holds Duration.longest := by
  have exceeds : beyond ≤ Duration.longest.totalNanos := by decide
  unfold Holds
  omega

end Instant

end Mediation
