import Mathlib.Data.Rat.Floor
import Orcheo.Defs.Base

namespace Orcheo.Triggers

/-- Delays are exact rationals here; the source holds them as floats. -/
structure RetryPolicyConfig where
  maxAttempts : Nat := 3
  initialDelaySeconds : ℚ := 30
  backoffFactor : ℚ := 2
  maxDelaySeconds : Option ℚ := some 300
  jitterFactor : ℚ := 1 / 10
  deriving DecidableEq

/-- `draw` is the fraction in `[0, 1)` behind `rng.uniform(-window, window)`. -/
def RetryPolicyConfig.computeDelaySeconds (c : RetryPolicyConfig) (attemptIndex : Nat)
    (draw : ℚ) : ℚ :=
  let delay := c.initialDelaySeconds * c.backoffFactor ^ attemptIndex
  let delay := match c.maxDelaySeconds with
    | some ceiling => min delay ceiling
    | none => delay
  if c.jitterFactor = 0 ∨ delay = 0 then delay
  else
    let jitterWindow := delay * c.jitterFactor
    max 0 (delay + (-jitterWindow + (jitterWindow + jitterWindow) * draw))

structure RetryDecision where
  retryNumber : Nat
  scheduledFor : Instant
  delaySeconds : ℚ
  deriving DecidableEq

structure RetryPolicyState where
  config : RetryPolicyConfig
  scheduledRetries : Nat := 0
  deriving DecidableEq

namespace RetryPolicyState

def remainingAttempts (s : RetryPolicyState) : Nat :=
  (s.config.maxAttempts - 1) - s.scheduledRetries

/-- `timedelta(seconds=x)`: the nearest microsecond, ties to even. -/
def timedelta (x : ℚ) : Duration :=
  let micros := x * 1000000
  let low := ⌊micros⌋
  let rest := micros - low
  if rest < 1 / 2 then low
  else if 1 / 2 < rest then low + 1
  else if low % 2 = 0 then low else low + 1

def nextRetry (s : RetryPolicyState) (failedAt : Instant) (draw : ℚ) :
    RetryPolicyState × Option RetryDecision :=
  if s.remainingAttempts = 0 then (s, none)
  else
    let attemptIndex := s.scheduledRetries
    let delay := s.config.computeDelaySeconds attemptIndex draw
    ({ s with scheduledRetries := s.scheduledRetries + 1 },
      some ⟨attemptIndex + 1, failedAt + timedelta delay, delay⟩)

end RetryPolicyState

end Orcheo.Triggers
