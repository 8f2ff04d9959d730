import EdgePolicy.Text.Digits

/-
Retrying with growing delays.

Only a failure to send is retried.  The delay doubles with every retry up to a bound; it is computed
in words of 64 bits that stay at their largest value instead of overflowing.
-/

set_option autoImplicit false
set_option relaxedAutoImplicit false

namespace EdgePolicy.Http.Retry

def baseDelay : Nat := 200

def maxDelay : Nat := 30000

/-- The nearest value of a word of 64 bits. -/
def saturated (n : Nat) : Nat := min n Text.maxWord64

def delay (index : Nat) : Nat :=
  min (saturated (saturated (Nat.pow 2 (min index 64)) * baseDelay)) maxDelay

/-- Attempt something, and again after a pause while it fails and retries are left; `index` counts
the retries so far. -/
def attemptFrom {m : Type → Type} [Monad m] {ε α : Type} (pause : Nat → m Unit)
    (attempt : m (Except ε α)) (index : Nat) : Nat → m (Except ε α)
  | 0 => attempt
  | retries + 1 => do
    match ← attempt with
    | .ok value => return .ok value
    | .error _ =>
      pause (delay index)
      attemptFrom pause attempt (index + 1) retries

def attempt {m : Type → Type} [Monad m] {ε α : Type} (pause : Nat → m Unit) (retries : Nat)
    (once : m (Except ε α)) : m (Except ε α) :=
  attemptFrom pause once 0 retries

end EdgePolicy.Http.Retry
