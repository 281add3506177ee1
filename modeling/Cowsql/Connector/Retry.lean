import Cowsql.Wire.Errors

/-!
# Retrying with backoff

`makeRetryStrategies` of `request.go`, and the loop that runs its strategies: `retry.Retry`,
`strategy.Limit` and `backoff.BinaryExponential` of the retry library (`Rican7/retry` in `go.mod`),
which is not among the sources and is modelled from its documented contract.

A `time.Duration` is a signed 64-bit count of nanoseconds, here a `BitVec 64` read through
`toInt`, and `BinaryExponential(f)(a)` is `f * (1 << a)` with wrapping multiplication.  The
strategies allow attempt `a` exactly when the limit is zero or `a` is at most the limit, so with
a limit that is positive and below the largest `uint` the loop ends within `limit + 2` rounds.
The delay before an attempt is positive, at most the cap, and `min(f * 2^a, cap)` while the
product stays below `2^63`; the guard against overflow only catches products that wrap to a
value that is not positive or is above the cap, so a product that wraps to a small positive
value goes through.
-/

namespace Cowsql

/-- `time.Duration`: nanoseconds, a signed 64-bit integer. -/
abbrev Duration := BitVec 64

/-- Go's `uint`, 64 bits wide on the platforms the client is built for. -/
abbrev GoUint := BitVec 64

/-- `backoff.BinaryExponential(factor)`: the delay before attempt `a` is `factor * (1 << a)`. -/
def binaryExponential (factor : Duration) (attempt : GoUint) : Duration :=
  factor * (1#64 <<< attempt.toNat)

/-- A `strategy.Strategy`: whether to make the attempt, and the sleep it takes first, if any. -/
abbrev Strategy := GoUint → Bool × Option Duration

/-- `strategy.Limit(limit)`: the attempts below `limit`. -/
def strategyLimit (limit : GoUint) : Strategy := fun attempt => (attempt < limit, none)

/-- The guard of the backoff strategy: the cap replaces a delay above it or not positive. -/
def capDelay (cap duration : Duration) : Duration :=
  if cap.slt duration || duration.sle 0 then cap else duration

/-- The backoff strategy of `makeRetryStrategies`: before every attempt but the first, sleep for
`backoff(attempt)`, capped. -/
def backoffStrategy (factor cap : Duration) : Strategy := fun attempt =>
  if attempt > 0 then (true, some (capDelay cap (binaryExponential factor attempt)))
  else (true, none)

/-- `makeRetryStrategies`: the limit, bumped by one for the library's strict comparison, when it
is above one, then the backoff. -/
def makeRetryStrategies (factor cap : Duration) (limit : GoUint) : List Strategy :=
  let limit := limit + 1
  (if limit > 1 then [strategyLimit limit] else []) ++ [backoffStrategy factor cap]

/-- `shouldAttempt` of the retry library: ask the strategies in order until one refuses; also
the sleeps they take on the way. -/
def shouldAttempt (attempt : GoUint) : List Strategy → Bool × List Duration
  | [] => (true, [])
  | s :: ss =>
    match s attempt with
    | (true, d) => ((shouldAttempt attempt ss).1, d.toList ++ (shouldAttempt attempt ss).2)
    | (false, d) => (false, d.toList)

/-! ## The retry loop -/

section Loop

variable {σ : Type} (strategies : List Strategy) (sleep : Duration → σ → σ)
  (action : GoUint → σ → Option GoError × σ)

/-- The loop of `retry.Retry`, for at most `fuel` more rounds: attempt `a` runs when it is the
first or the one before failed, and the strategies allow it, after the sleeps they take; the
loop returns the last attempt's error.  `none` means it had not ended after `fuel` rounds. -/
def retryLoop : Nat → GoUint → Option GoError → σ → Option (Option GoError × σ)
  | 0, _, _, _ => none
  | fuel + 1, attempt, err, s =>
    if attempt = 0 ∨ err.isSome then
      let s := (shouldAttempt attempt strategies).2.foldl (fun s d => sleep d s) s
      if (shouldAttempt attempt strategies).1 then
        match action attempt s with
        | (err, s) => retryLoop fuel (attempt + 1) err s
      else some (err, s)
    else some (err, s)

/-- `retry.Retry(action, strategies...)`, for at most `fuel` rounds. -/
def retry (fuel : Nat) (s : σ) : Option (Option GoError × σ) :=
  retryLoop strategies sleep action fuel 0 none s

/-- When the strategies allow attempt zero without a sleep, the first round runs the action. -/
theorem retry_succ (h : shouldAttempt 0 strategies = (true, [])) (fuel : Nat) (s : σ) :
    retry strategies sleep action (fuel + 1) s =
      retryLoop strategies sleep action fuel 1 (action 0 s).1 (action 0 s).2 := by
  rw [retry, retryLoop, if_pos (Or.inl rfl), h]
  rfl

theorem foldl_sleep_inv {P : σ → Prop} (hsleep : ∀ d s, P s → P (sleep d s))
    (ds : List Duration) {s : σ} (h : P s) : P (ds.foldl (fun s d => sleep d s) s) := by
  induction ds generalizing s with
  | nil => exact h
  | cons d ds ih => exact ih (hsleep d s h)

/-- **Run lemma.** What the sleeps and the action keep, a whole loop keeps. -/
theorem retryLoop_inv (P : Option GoError → σ → Prop)
    (hsleep : ∀ e d s, P e s → P e (sleep d s))
    (haction : ∀ a e s, P e s → P (action a s).1 (action a s).2) :
    ∀ (fuel : Nat) (a : GoUint) (err : Option GoError) (s : σ) (r : Option GoError × σ),
      P err s → retryLoop strategies sleep action fuel a err s = some r → P r.1 r.2
  | 0, _, _, _, _, _, h => by simp [retryLoop] at h
  | fuel + 1, a, err, s, r, hP, h => by
    have hs := foldl_sleep_inv sleep (hsleep err) (shouldAttempt a strategies).2 hP
    unfold retryLoop at h
    split at h
    · split at h
      · exact retryLoop_inv P hsleep haction fuel _ _ _ r (haction a err _ hs) h
      · cases h
        exact hs
    · cases h
      exact hP

/-- A loop that ended within `fuel` rounds ends the same with one more round allowed. -/
theorem retryLoop_fuel_succ :
    ∀ (fuel : Nat) (a : GoUint) (err : Option GoError) (s : σ) (r : Option GoError × σ),
      retryLoop strategies sleep action fuel a err s = some r →
      retryLoop strategies sleep action (fuel + 1) a err s = some r
  | 0, _, _, _, _, h => by simp [retryLoop] at h
  | fuel + 1, a, err, s, r, h => by
    rw [retryLoop] at h ⊢
    split at h
    · rw [if_pos ‹_›]
      split at h
      · rw [if_pos ‹_›]
        exact retryLoop_fuel_succ fuel _ _ _ r h
      · rw [if_neg ‹_›]; exact h
    · rw [if_neg ‹_›]; exact h

/-- A loop that ended within `fuel` rounds ends the same with any more rounds allowed. -/
theorem retryLoop_fuel_le {fuel fuel' : Nat} (hle : fuel ≤ fuel') {a : GoUint}
    {err : Option GoError} {s : σ} {r : Option GoError × σ}
    (h : retryLoop strategies sleep action fuel a err s = some r) :
    retryLoop strategies sleep action fuel' a err s = some r := by
  induction hle with
  | refl => exact h
  | step _ ih => exact retryLoop_fuel_succ strategies sleep action _ a err s r ih

end Loop

/-! ## The strategies of the connector -/

theorem shouldAttempt_limit (limit attempt : GoUint) (ss : List Strategy) :
    shouldAttempt attempt (strategyLimit limit :: ss) =
      if attempt < limit then shouldAttempt attempt ss else (false, []) := by
  by_cases h : attempt < limit <;> simp [shouldAttempt, strategyLimit, h]

theorem shouldAttempt_backoff (factor cap : Duration) (attempt : GoUint) :
    shouldAttempt attempt [backoffStrategy factor cap] =
      (true, if attempt > 0 then [capDelay cap (binaryExponential factor attempt)] else []) := by
  by_cases h : attempt > 0
  · simp only [shouldAttempt, backoffStrategy, if_pos h]; rfl
  · simp only [shouldAttempt, backoffStrategy, if_neg h]; rfl

/-- Attempt `a` is allowed exactly when the limit is zero or `a` is at most the limit; it sleeps
first unless it is attempt zero. -/
theorem shouldAttempt_makeRetryStrategies (factor cap : Duration) (limit attempt : GoUint) :
    shouldAttempt attempt (makeRetryStrategies factor cap limit) =
      if limit = 0 ∨ attempt ≤ limit then
        (true, if attempt > 0 then [capDelay cap (binaryExponential factor attempt)] else [])
      else (false, []) := by
  simp only [makeRetryStrategies]
  by_cases hlim : limit + 1 > 1
  · rw [if_pos hlim, List.singleton_append, shouldAttempt_limit, shouldAttempt_backoff]
    by_cases ha : attempt < limit + 1
    · have h : limit = 0 ∨ attempt ≤ limit := by bv_omega
      rw [if_pos ha, if_pos h]
    · have h : ¬ (limit = 0 ∨ attempt ≤ limit) := by bv_omega
      rw [if_neg ha, if_neg h]
  · have h : limit = 0 ∨ attempt ≤ limit := by bv_omega
    rw [if_neg hlim, List.nil_append, shouldAttempt_backoff, if_pos h]

/-- **Bounded retries.** Under the strategies of a connector whose retry limit is positive and
below the largest `uint`, the loop from an attempt `a ≤ limit + 1` has ended after
`limit + 2 - a` more rounds, whatever the attempts answer. -/
theorem retryLoop_makeRetryStrategies_isSome {σ : Type} (sleep : Duration → σ → σ)
    (action : GoUint → σ → Option GoError × σ) (factor cap limit : Duration)
    (hpos : 0 < limit.toNat) (hmax : limit.toNat + 1 < 2 ^ 64) :
    ∀ (fuel : Nat) (a : GoUint) (err : Option GoError) (s : σ), a.toNat ≤ limit.toNat + 1 →
      limit.toNat + 2 ≤ fuel + a.toNat →
      (retryLoop (makeRetryStrategies factor cap limit) sleep action fuel a err s).isSome
  | 0, a, _, _, ha, hf => absurd hf (by omega)
  | fuel + 1, a, err, s, ha, hf => by
    rw [retryLoop, shouldAttempt_makeRetryStrategies]
    by_cases hle : a.toNat ≤ limit.toNat
    · have hlim : limit = 0 ∨ a ≤ limit := .inr (BitVec.le_def.2 hle)
      have hsucc : (a + 1).toNat = a.toNat + 1 := by bv_omega
      split
      · simp only [if_pos hlim]
        exact retryLoop_makeRetryStrategies_isSome sleep action factor cap limit hpos hmax fuel
          _ _ _ (by omega) (by omega)
      · rfl
    · have hlim : ¬ (limit = 0 ∨ a ≤ limit) := by
        rintro (h | h)
        · subst h; simp at hpos
        · exact hle (BitVec.le_def.1 h)
      simp only [if_neg hlim]
      split <;> rfl

/-- The sleep the guard lets through is positive. -/
theorem capDelay_pos {cap : Duration} (hcap : 0 < cap.toInt) (duration : Duration) :
    0 < (capDelay cap duration).toInt := by
  unfold capDelay
  split
  · exact hcap
  · rename_i h
    simp only [Bool.or_eq_true, BitVec.slt, BitVec.sle, decide_eq_true_eq, not_or] at h
    simp at h
    omega

/-- The sleep the guard lets through is at most the cap. -/
theorem capDelay_le_cap (cap duration : Duration) :
    (capDelay cap duration).toInt ≤ cap.toInt := by
  unfold capDelay
  split
  · exact Int.le_refl _
  · rename_i h
    simp only [Bool.or_eq_true, BitVec.slt, BitVec.sle, decide_eq_true_eq, not_or] at h
    omega

/-- A duration below `2^63` reads as itself. -/
theorem toInt_of_lt {x : Duration} (h : 2 * x.toNat < 2 ^ 64) : x.toInt = x.toNat := by
  rw [BitVec.toInt_eq_toNat_cond, if_pos h]

theorem toNat_lt_of_toInt_pos {x : Duration} (h : 0 < x.toInt) : 2 * x.toNat < 2 ^ 64 := by
  rw [BitVec.toInt_eq_toNat_cond] at h
  split at h
  · assumption
  · have := x.isLt
    omega

/-- While `f * 2^a` stays below `2^63`, `BinaryExponential(f)(a)` is that product. -/
theorem toInt_binaryExponential {factor : Duration} {attempt : GoUint} (hf : 0 < factor.toInt)
    (h : factor.toInt * 2 ^ attempt.toNat < 2 ^ 63) :
    (binaryExponential factor attempt).toInt = factor.toInt * 2 ^ attempt.toNat := by
  have hn := toNat_lt_of_toInt_pos hf
  rw [toInt_of_lt hn] at hf h ⊢
  have h' : factor.toNat * 2 ^ attempt.toNat < 2 ^ 63 := by exact_mod_cast h
  have hk : 2 ^ attempt.toNat < 2 ^ 63 :=
    Nat.lt_of_le_of_lt (Nat.le_mul_of_pos_left _ (by omega)) h'
  have hshift : (1#64 <<< attempt.toNat).toNat = 2 ^ attempt.toNat := by
    rw [BitVec.toNat_shiftLeft, Nat.shiftLeft_eq, BitVec.toNat_ofNat,
      Nat.mod_eq_of_lt (show 1 < 2 ^ 64 by decide), Nat.one_mul,
      Nat.mod_eq_of_lt (Nat.lt_trans hk (by decide))]
  have hmul : (binaryExponential factor attempt).toNat = factor.toNat * 2 ^ attempt.toNat := by
    rw [binaryExponential, BitVec.toNat_mul, hshift, Nat.mod_eq_of_lt (by omega)]
  rw [toInt_of_lt (by omega), hmul]
  push_cast
  rfl

/-- The guard lets a positive duration through up to the cap. -/
theorem capDelay_of_pos {cap duration : Duration} (hd : 0 < duration.toInt) :
    (capDelay cap duration).toInt = min duration.toInt cap.toInt := by
  unfold capDelay
  by_cases h : cap.toInt < duration.toInt
  · rw [if_pos (by simp [BitVec.slt, h])]
    omega
  · rw [if_neg (by simp [BitVec.slt, BitVec.sle, h]; omega)]
    omega

/-- **Backoff.** With a positive factor and cap, before every attempt `a ≥ 1` the strategies
allow, they sleep once, a positive delay at most the cap, and `min(f * 2^a, cap)` while
`f * 2^a < 2^63`. -/
theorem makeRetryStrategies_sleep {factor cap : Duration} (limit attempt : GoUint)
    (hf : 0 < factor.toInt) (hc : 0 < cap.toInt) (ha : 0 < attempt)
    (hallow : limit = 0 ∨ attempt ≤ limit) :
    ∃ d, shouldAttempt attempt (makeRetryStrategies factor cap limit) = (true, [d]) ∧
      0 < d.toInt ∧ d.toInt ≤ cap.toInt ∧
      (factor.toInt * 2 ^ attempt.toNat < 2 ^ 63 →
        d.toInt = min (factor.toInt * 2 ^ attempt.toNat) cap.toInt) := by
  refine ⟨_, by rw [shouldAttempt_makeRetryStrategies, if_pos hallow, if_pos ha],
    capDelay_pos hc _, capDelay_le_cap _ _, fun h => ?_⟩
  have hb := toInt_binaryExponential hf h
  rw [capDelay_of_pos (by rw [hb]; exact Int.mul_pos hf (by exact_mod_cast Nat.two_pow_pos _)),
    hb]

/-- The default backoff of 100 ms, capped at one second, before attempt 1. -/
theorem makeRetryStrategies_sleep_default :
    (0 < (100000000#64).toInt ∧ 0 < (1000000000#64).toInt ∧ 0 < 1#64 ∧
      ((0#64 : GoUint) = 0 ∨ 1#64 ≤ 0#64)) ∧
      ∃ d, shouldAttempt 1#64 (makeRetryStrategies 100000000#64 1000000000#64 0#64) =
          (true, [d]) ∧
        0 < d.toInt ∧ d.toInt ≤ (1000000000#64).toInt ∧
        ((100000000#64).toInt * 2 ^ (1#64).toNat < 2 ^ 63 →
          d.toInt = min ((100000000#64).toInt * 2 ^ (1#64).toNat) (1000000000#64).toInt) :=
  ⟨by decide, makeRetryStrategies_sleep 0#64 1#64 (by decide) (by decide) (by decide) (.inl rfl)⟩

/-- With a factor of `2^61 + 1` ns and a cap of one second, `f * 2^3` wraps to 8 ns, which the
guard lets through: attempt 3 sleeps 8 ns where `min(f * 2^3, cap)` is the cap, and less than
attempt 2, which sleeps the cap. -/
theorem backoff_wraps_below_cap :
    shouldAttempt 3 (makeRetryStrategies (BitVec.ofNat 64 (2 ^ 61 + 1)) 1000000000#64 0) =
        (true, [8#64]) ∧
      shouldAttempt 2 (makeRetryStrategies (BitVec.ofNat 64 (2 ^ 61 + 1)) 1000000000#64 0) =
        (true, [1000000000#64]) ∧
      (1000000000#64).toInt < (BitVec.ofNat 64 (2 ^ 61 + 1)).toInt * 2 ^ 3 := by
  decide

end Cowsql
