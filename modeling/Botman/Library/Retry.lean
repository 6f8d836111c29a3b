import Mathlib.Order.Basic

/-!
A call that is repeated while its outcome asks for it, at most a fixed number
of times.

The outcomes are those of numbered attempts.  A retried call is known by the
number of its last attempt, and the next call starts after it.
-/

namespace Botman.Library.Retry

universe u

variable {α : Type u} (attempts : Nat → α) (again : α → Bool)

/-- The last attempt of a call that starts with attempt `first` and may be
repeated `retries` times. -/
def lastAttempt : Nat → Nat → Nat
  | 0, first => first
  | retries + 1, first =>
      if again (attempts first) then lastAttempt retries (first + 1) else first

theorem lastAttempt_of_settled {attempts : Nat → α} {again : α → Bool} {first : Nat}
    (h : again (attempts first) = false) (retries : Nat) :
    lastAttempt attempts again retries first = first := by
  cases retries with
  | zero => rfl
  | succ retries => simp [lastAttempt, h]

theorem lastAttempt_le (retries first : Nat) :
    lastAttempt attempts again retries first ≤ first + retries := by
  induction retries generalizing first with
  | zero => exact Nat.le_refl first
  | succ retries ih =>
      rw [lastAttempt]
      split
      · have hrest := ih (first + 1)
        omega
      · exact Nat.le_add_right first (retries + 1)

theorem le_lastAttempt (retries first : Nat) :
    first ≤ lastAttempt attempts again retries first := by
  induction retries generalizing first with
  | zero => exact Nat.le_refl first
  | succ retries ih =>
      rw [lastAttempt]
      split
      · exact Nat.le_of_succ_le (ih (first + 1))
      · exact Nat.le_refl first

theorem again_of_lt_lastAttempt {attempts : Nat → α} {again : α → Bool} {retries first k : Nat}
    (hfirst : first ≤ k) (hlast : k < lastAttempt attempts again retries first) :
    again (attempts k) = true := by
  induction retries generalizing first with
  | zero => exact absurd hlast (Nat.not_lt.mpr hfirst)
  | succ retries ih =>
      rw [lastAttempt] at hlast
      split at hlast
      · rename_i hagain
        rcases Nat.eq_or_lt_of_le hfirst with rfl | hlt
        · exact hagain
        · exact ih hlt hlast
      · exact absurd hlast (Nat.not_lt.mpr hfirst)

theorem lastAttempt_iff {attempts : Nat → α} {again : α → Bool} {P : α → Prop}
    (hagain : ∀ a, again a = true → P a) (retries first : Nat) :
    P (attempts (lastAttempt attempts again retries first)) ↔
      ∀ n ≤ retries, (∀ m < n, again (attempts (first + m)) = true) → P (attempts (first + n)) := by
  induction retries generalizing first with
  | zero => simp [lastAttempt]
  | succ retries ih =>
      rw [lastAttempt]
      split
      · rename_i hfirst
        rw [ih]
        constructor
        · rintro h (_ | n) hn hbefore
          · exact hagain _ hfirst
          · have hrest := h n (Nat.le_of_succ_le_succ hn) fun m hm => by
              have hnext := hbefore (m + 1) (Nat.succ_lt_succ hm)
              rwa [← Nat.add_assoc, Nat.add_right_comm] at hnext
            rwa [Nat.add_right_comm] at hrest
        · intro h n hn hbefore
          have hnext := h (n + 1) (Nat.succ_le_succ hn) fun m hm => by
            cases m with
            | zero => exact hfirst
            | succ m =>
                rw [← Nat.add_assoc, Nat.add_right_comm]
                exact hbefore m (Nat.lt_of_succ_lt_succ hm)
          rwa [← Nat.add_assoc, Nat.add_right_comm] at hnext
      · rename_i hfirst
        constructor
        · rintro h (_ | n) hn hbefore
          · exact h
          · exact absurd (hbefore 0 (Nat.succ_pos n)) hfirst
        · intro h
          exact h 0 (Nat.zero_le _) fun m hm => absurd hm (Nat.not_lt_zero m)

theorem lastAttempt_of_again {attempts : Nat → α} {again : α → Bool} {retries first : Nat}
    (h : again (attempts (lastAttempt attempts again retries first)) = true) :
    lastAttempt attempts again retries first = first + retries := by
  induction retries generalizing first with
  | zero => rfl
  | succ retries ih =>
      rw [lastAttempt] at h ⊢
      split at h
      · rename_i hfirst
        rw [if_pos hfirst, ih h, Nat.add_right_comm]
        rfl
      · rename_i hfirst
        exact absurd h hfirst

section Raising

variable {ε σ β γ : Type}

/-- A computation that ends as given, in the state as given. -/
def settle (outcome : Except ε β) (s : σ) : EStateM.Result ε σ β :=
  match outcome with
  | .ok b => .ok b s
  | .error e => .error e s

/-- An exception goes to the handler, in the state in which it was raised. -/
def handled (handler : ε → EStateM ε σ β) (s : σ) : Except ε β → EStateM.Result ε σ β
  | .ok b => .ok b s
  | .error e => handler e s

theorem tryCatch_of_settle {call : EStateM ε σ β} {s t : σ} {outcome : Except ε β}
    (h : call s = settle outcome t) (handler : ε → EStateM ε σ β) :
    tryCatch call handler s = handled handler t outcome := by
  cases outcome with
  | ok b =>
      rw [settle] at h
      simp only [tryCatch, tryCatchThe, MonadExceptOf.tryCatch, EStateM.tryCatch, h]
      rfl
  | error e =>
      rw [settle] at h
      simp only [tryCatch, tryCatchThe, MonadExceptOf.tryCatch, EStateM.tryCatch, h]
      rfl

theorem bind_of_settle {call : EStateM ε σ β} {s t : σ} {outcome : Except ε β}
    {rest : β → EStateM ε σ γ} {reading : β → Except ε γ} (h : call s = settle outcome t)
    (hrest : ∀ b, rest b t = settle (reading b) t) :
    (call >>= rest) s = settle (outcome >>= reading) t := by
  cases outcome with
  | ok b =>
      rw [settle] at h
      simp only [bind, EStateM.bind, h]
      exact hrest b
  | error e =>
      rw [settle] at h
      simp only [bind, EStateM.bind, h]
      rfl

/-- `backoff.on_exception`: a call that raises is repeated while the exception
asks for it, at most the given number of times. -/
def onException (again : ε → Bool) (call : EStateM ε σ β) : Nat → EStateM ε σ β
  | 0 => call
  | retries + 1 =>
      tryCatch call fun e => if again e then onException again call retries else throw e

/-- The attempt ends with an exception that asks for another one. -/
def raisesAgain (again : ε → Bool) : Except ε β → Bool
  | .ok _ => false
  | .error e => again e

/-- A repeated call ends as its last attempt does. -/
theorem onException_eq {asks : α → Bool} {result : α → Except ε β} {again : ε → Bool}
    {call : EStateM ε σ β} {state : Nat → σ} {first : Nat}
    (hasks : ∀ a, asks a = raisesAgain again (result a))
    (hcall : ∀ n, first ≤ n → call (state n) = settle (result (attempts n)) (state (n + 1)))
    (retries : Nat) :
    onException again call retries (state first) =
      settle (result (attempts (lastAttempt attempts asks retries first)))
        (state (lastAttempt attempts asks retries first + 1)) := by
  induction retries generalizing first with
  | zero => exact hcall first (Nat.le_refl first)
  | succ retries ih =>
      have hrun := hcall first (Nat.le_refl first)
      rw [onException, lastAttempt, hasks (attempts first)]
      rw [tryCatch_of_settle hrun]
      cases hresult : result (attempts first) with
      | ok b =>
          rw [raisesAgain, if_neg Bool.false_ne_true, hresult]
          rfl
      | error e =>
          rw [raisesAgain, handled]
          split
          · exact ih fun n hn => hcall n (Nat.le_of_succ_le hn)
          · rw [hresult]
            rfl

end Raising

end Botman.Library.Retry
