import Mediation.Exchange.Basic

/-!
# Redelivery policies

A policy bounds the number of redeliveries and spaces them. Without backoff every redelivery waits
the same time; with backoff the wait grows by a factor with every attempt, up to a cap. With jitter
it waits a random part of that time, at least half of it. What is random is a parameter: the double
by which a wait is scaled (`Scale`).
-/

set_option autoImplicit false

namespace Mediation

/-- How often and how far apart an exchange is redelivered. -/
structure Policy where
  maxRedeliveries : Attempts
  delay : Duration
  cap : Duration
  multiplier : Binary64
  exponential : Bool
  jitter : Bool
deriving DecidableEq, Repr

namespace Policy

/-- No redelivery; were there any, they would be a second apart, and never more than a minute. -/
def standard : Policy :=
  { maxRedeliveries := 0
    delay := Duration.ofSeconds 1
    cap := Duration.ofSeconds 60
    multiplier := Binary64.ofNat 2
    exponential := false
    jitter := false }

instance : Inhabited Policy := ⟨standard⟩

/-- One setting of a policy. -/
inductive Setting
  | max (count : Attempts)
  | delay (wait : Duration)
  | cap (most : Duration)
  | backoff (multiplier : Binary64)
  | jitter (value : Bool)

/-- The policy with one setting changed. A multiplier turns backoff on. -/
def set (policy : Policy) : Setting → Policy
  | .max count => { policy with maxRedeliveries := count }
  | .delay wait => { policy with delay := wait }
  | .cap most => { policy with cap := most }
  | .backoff multiplier => { policy with multiplier, exponential := true }
  | .jitter value => { policy with jitter := value }

/-- The standard policy with settings changed in turn. -/
def ofSettings (settings : List Setting) : Policy := settings.foldl set standard

/-- Equality of all settings; a multiplier that is no number differs from itself. -/
def same (policy other : Policy) : Bool :=
  policy.maxRedeliveries == other.maxRedeliveries && policy.delay == other.delay &&
    policy.cap == other.cap && policy.multiplier.same other.multiplier &&
    policy.exponential == other.exponential && policy.jitter == other.jitter

/-- Whether an exchange may be redelivered after so many redeliveries. -/
def allows (policy : Policy) (attempts : Attempts) : Bool := attempts < policy.maxRedeliveries

/-! ## Delays -/

/-- The exponent of the multiplier at an attempt: one less than its number, in 32 bits with a
sign. -/
def exponent (attempt : Attempts) : Int := Int.bmod ((attempt.toNat : Int) - 1) UInt32.size

/-- The delay in milliseconds that backoff gives an attempt. -/
def backoffMillis (policy : Policy) (attempt : Attempts) : Binary64 :=
  (Binary64.ofNat policy.delay.millis).mul (policy.multiplier.pow (exponent attempt))

def mostMillis : Nat := UInt64.size - 1

/-- The delay of an attempt under backoff: whole milliseconds if they stay below the cap, the cap
if not. -/
def backoffDelay (policy : Policy) (attempt : Attempts) : Duration :=
  let millis := policy.backoffMillis attempt
  if millis.isFinite && millis.lt (Binary64.ofNat policy.cap.millis) then
    Duration.ofMillis (millis.truncate mostMillis)
  else policy.cap

/-- The delay before an attempt, counted from one, before any jitter. -/
def delayBefore (policy : Policy) (attempt : Attempts) : Duration :=
  if policy.exponential && decide (1 < attempt) then policy.backoffDelay attempt
  else policy.delay.shorter policy.cap

end Policy

/-! ## Jitter -/

/-- What a wait is scaled by: a double between one half and one. -/
structure Scale where
  value : Binary64
  least : Binary64.half.le value = true
  most : value.le Binary64.one = true

/-- The whole of a wait. -/
instance : Inhabited Scale := ⟨Binary64.one, by decide +kernel, by decide +kernel⟩

/-- A part of a duration: its seconds are scaled as a double. -/
def Duration.scaled (d : Duration) (scale : Scale) : Duration :=
  Duration.nearest (scale.value.mul d.inSeconds)

/-- How far apart two runs of a region are: a length of time, or with jitter a part of it. -/
structure Spacing where
  length : Duration
  jitter : Bool
deriving DecidableEq, Repr

/-- The time that someone waits who draws a scale. -/
def Spacing.time (spacing : Spacing) (scale : Scale) : Duration :=
  if spacing.jitter then spacing.length.scaled scale else spacing.length

namespace Policy

/-- The wait before an attempt. -/
def spacing (policy : Policy) (attempt : Attempts) : Spacing :=
  { length := policy.delayBefore attempt, jitter := policy.jitter }

/-! ## Developer texts -/

def described (policy : Policy) : String :=
  Described.record "RedeliveryPolicy"
    [("max_redeliveries", toString policy.maxRedeliveries.toNat),
     ("redelivery_delay", policy.delay.text),
     ("max_delay", policy.cap.text),
     ("backoff_multiplier", Described.double policy.multiplier),
     ("use_exponential_backoff", Described.bool policy.exponential),
     ("jitter", Described.bool policy.jitter)]

end Policy

end Mediation
