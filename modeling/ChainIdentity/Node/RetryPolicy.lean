/-!
# Repeating posts

How often a post that failed in passing is repeated, and how long the client waits in between.
The waiting time grows with every repetition up to a bound and may be varied at random, so only
the number of repetitions decides what comes out.
-/

namespace ChainIdentity

/-- How posts are repeated. -/
structure RetryPolicy where
  /-- How often a post may be repeated. -/
  maxRetries : Nat
  /-- The factor by which the waiting time grows. -/
  growth : Nat
  /-- The first waiting time in milliseconds. -/
  initialWait : Nat
  /-- The longest waiting time in milliseconds. -/
  longestWait : Nat
  /-- Whether the waiting time is varied. -/
  jitter : Bool
deriving DecidableEq, Repr

namespace RetryPolicy

/-- The usual policy. -/
def standard : RetryPolicy := ⟨3, 2, 250, 10000, true⟩

/-- The longest time in milliseconds that passes before a repetition, counted from one. -/
def waitBefore (policy : RetryPolicy) (repetition : Nat) : Nat :=
  min policy.longestWait (policy.initialWait * Nat.pow policy.growth (repetition - 1))

/-- The usual policy without any repetition. -/
def never : RetryPolicy := { standard with maxRetries := 0 }

end RetryPolicy

end ChainIdentity
