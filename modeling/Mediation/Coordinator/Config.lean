import Mediation.Text.Described

/-!
# Settings of a coordinator
-/

set_option autoImplicit false

namespace Mediation

/-- The times that a coordinator keeps. -/
structure CoordinatorConfig where
  /-- How often expired requests are looked for. -/
  sweepInterval : Duration
  /-- How long a reply waits for its request. -/
  earlyReplyWait : Duration
  /-- How long a request waits for the reply address. -/
  replyAddressTimeout : Duration
  /-- The timeout of a request that names none. -/
  defaultRequestTimeout : Duration
  /-- How long a stop waits for the background tasks. -/
  shutdownGrace : Duration
  /-- Whether a reply with a fault fails its exchange. -/
  transferFaults : Bool
deriving DecidableEq, Repr

namespace CoordinatorConfig

/-- The settings that hold unless others are chosen. -/
def standard : CoordinatorConfig :=
  { sweepInterval := Duration.ofMillis 1000
    earlyReplyWait := Duration.ofSeconds 5
    replyAddressTimeout := Duration.ofSeconds 10
    defaultRequestTimeout := Duration.ofSeconds 20
    shutdownGrace := Duration.ofSeconds 5
    transferFaults := false }

instance : Inhabited CoordinatorConfig := ⟨standard⟩

def described (config : CoordinatorConfig) : String :=
  Described.record "CoordinatorConfig"
    [("sweep_interval", config.sweepInterval.text),
     ("early_reply_wait", config.earlyReplyWait.text),
     ("reply_address_timeout", config.replyAddressTimeout.text),
     ("default_request_timeout", config.defaultRequestTimeout.text),
     ("shutdown_grace", config.shutdownGrace.text),
     ("transfer_faults", Described.bool config.transferFaults)]

end CoordinatorConfig

end Mediation
