import RuleBound.Document.Arithmetic

/-!
Trying again: an operation that fails for a reason that may pass is repeated after a delay.

Which faults may pass is a matter of policy; a family that never passes wins over one that may.
The delay grows by the policy's rule and never exceeds its greatest delay.
-/

namespace RuleBound

/-- How delays grow from one attempt to the next. -/
inductive Backoff
  | fixed
  | linear
  | exponential
  /-- Exponential, with a random part on top. -/
  | exponentialJitter
  deriving DecidableEq, Repr, Inhabited

/-- When and how often to try again. Numbers are kept as they were given; whether they are numbers
shows when they are needed. -/
structure RetryPolicy where
  maxAttempts : Document
  baseDelay : Document
  maxDelay : Document
  backoff : Backoff
  /-- The random part is at most this share of the delay. -/
  jitter : Document
  passing : List Fault.Family
  lasting : List Fault.Family
  deriving DecidableEq

/-- Counts over all runs under a policy. -/
structure RetryMetrics where
  attempts : Nat := 0
  succeeded : Nat := 0
  failed : Nat := 0
  exhausted : Nat := 0
  delay : Document := .real (Binary64.zero false)
  deriving DecidableEq

/-- Counts as a document. -/
def RetryMetrics.toDocument (m : RetryMetrics) : Document :=
  .object [("total_attempts", .integer m.attempts), ("successful_attempts", .integer m.succeeded),
    ("failed_attempts", .integer m.failed), ("retries_exhausted", .integer m.exhausted),
    ("total_retry_delay_seconds", m.delay)]

namespace RetryPolicy

/-- A whole number as a double. -/
def double (n : Nat) : Document := .real (Binary64.ofRatio false n 1)

/-- One half, as a double. -/
def half : Document := .real (Binary64.ofRatio false 1 2)

/-- Three attempts, growing delays from one second up to a minute, a random part of up to a half,
and every fault may pass. -/
def standard : RetryPolicy where
  maxAttempts := .integer 3
  baseDelay := double 1
  maxDelay := double 60
  backoff := .exponentialJitter
  jitter := half
  passing := [.any]
  lasting := []

/-- Limit the number of attempts; at least one is needed. -/
def withAttempts (p : RetryPolicy) (attempts : Document) : Except Fault RetryPolicy := do
  if ← attempts.isBelow (.integer 1) then throw .attemptLimit
  return { p with maxAttempts := attempts }

/-- The number of attempts, which has to be whole. -/
def attemptCount (p : RetryPolicy) : Except Fault Nat :=
  match p.maxAttempts with
  | .integer n => .ok n.toNat
  | .bool b => .ok b.toNat
  | _ => .error .wrongType

/-- The base delay multiplied by the power of two that belongs to an attempt. -/
def scaled (p : RetryPolicy) (attempt : Document) : Except Fault Document := do
  let exponent ← (← attempt.toNumber).sub (.whole 1)
  let factor ← exponent.twoTo
  return (← (← p.baseDelay.toNumber).mul factor).toDocument

/-- A random number between zero and a bound, given a random share. -/
def randomUpTo (share bound : Document) : Except Fault Document := do
  Document.plus (.integer 0) (← Document.times (← Document.minus bound (.integer 0)) share)

/-- The delay before it is cut to the greatest one. -/
def growth (p : RetryPolicy) (share attempt : Document) : Except Fault Document :=
  match p.backoff with
  | .fixed => .ok p.baseDelay
  | .linear => p.baseDelay.times attempt
  | .exponential => p.scaled attempt
  | .exponentialJitter => do
    let delay ← p.scaled attempt
    delay.plus (← randomUpTo share (← p.jitter.times delay))

/-- The delay after a failed attempt. -/
def delayAfter (p : RetryPolicy) (share attempt : Document) : Except Fault Document := do
  (← p.growth share attempt).lesser p.maxDelay

/-- Whether a fault may pass. -/
def mayPass (p : RetryPolicy) (f : Fault) : Bool :=
  !p.lasting.any f.isIn && p.passing.any f.isIn

end RetryPolicy

/-- A delay that was kept before trying again. -/
structure Pause where
  attempt : Nat
  fault : Fault
  delay : Document
  deriving DecidableEq

/-- What a run under a policy leaves: the state of what was tried, counts, and the pauses. -/
structure RetryAccount (σ : Type) where
  state : σ
  metrics : RetryMetrics := {}
  pauses : List Pause := []

namespace RetryPolicy

variable {σ α : Type}

/-- Run an action from an attempt on, with `more` attempts after it. -/
def runFrom (p : RetryPolicy) (share : Document) (action : σ → Except Fault α × σ) :
    (more attempt : Nat) → RetryAccount σ → Except Fault α × RetryAccount σ
  | more, attempt, account =>
    let (result, state) := action account.state
    let m := { account.metrics with attempts := account.metrics.attempts + 1 }
    match result with
    | .ok a => (.ok a, { account with state, metrics := { m with succeeded := m.succeeded + 1 } })
    | .error f =>
      let m := { m with failed := m.failed + 1 }
      if !p.mayPass f then (.error f, { account with state, metrics := m })
      else
        match more with
        | 0 =>
          (.error (.exhausted p.maxAttempts f),
            { account with state, metrics := { m with exhausted := m.exhausted + 1 } })
        | more + 1 =>
          let waited : Except Fault (Document × Document) := do
            let delay ← p.delayAfter share (.integer attempt)
            return (delay, ← m.delay.plus delay)
          match waited with
          | .error g => (.error g, { account with state, metrics := m })
          | .ok (delay, total) =>
            runFrom p share action more (attempt + 1)
              { state := state
                metrics := { m with delay := total }
                pauses := account.pauses ++ [⟨attempt, f, delay⟩] }

/-- Run an action, again and again if need be, until it succeeds, fails for a reason that will
not pass, or has used up its attempts. -/
def run (p : RetryPolicy) (share : Document) (action : σ → Except Fault α × σ)
    (account : RetryAccount σ) : Except Fault α × RetryAccount σ :=
  match p.attemptCount with
  | .error f => (.error f, account)
  | .ok n => p.runFrom share action (n - 1) 1 account

end RetryPolicy

end RuleBound
