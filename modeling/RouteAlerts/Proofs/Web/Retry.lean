import RouteAlerts.Web.Retry
import Mathlib.Order.Bounds.Basic
import Mathlib.Order.Lattice.Nat

/-!
Where a run of attempts ends. It ends at the first attempt whose outcome is no passing failure, and
at the last one that the policy allows if there is none before it. `retryFrom_of_passing` says what
one passing failure does, whatever the attempts and the waits are effects of; `retry_ends_at` is the
whole run: the attempts are made in order, each passing failure is followed by its wait, and the
last outcome is handed on as it is.
-/

namespace RouteAlerts

variable {ε α : Type} {policy : RetryPolicy} {passing : ε → Bool} {outcomes : Nat → Except ε α}

/-- A failure that another attempt may mend. -/
def FailsInPassing (passing : ε → Bool) (outcome : Except ε α) : Prop :=
  ∃ e, outcome = .error e ∧ passing e = true

/-- The attempts behind which there is no other one: the last that is allowed, one in any case, and
those that do not fail in passing. -/
def finalAttempts (policy : RetryPolicy) (passing : ε → Bool) (outcomes : Nat → Except ε α) :
    Set Nat :=
  {n | n = max policy.maxAttempts 1 ∨ 1 ≤ n ∧ ¬ FailsInPassing passing (outcomes n)}

theorem one_le_of_mem_finalAttempts {n : Nat} (h : n ∈ finalAttempts policy passing outcomes) :
    1 ≤ n := by
  rcases h with rfl | ⟨counted, -⟩
  · exact le_max_right _ _
  · exact counted

theorem exists_isLeast_finalAttempts (policy : RetryPolicy) (passing : ε → Bool)
    (outcomes : Nat → Except ε α) : ∃ k, IsLeast (finalAttempts policy passing outcomes) k := by
  have some : (finalAttempts policy passing outcomes).Nonempty := ⟨_, .inl rfl⟩
  exact ⟨_, Nat.sInf_mem some, fun _ => Nat.sInf_le⟩

/-! ### Attempts with effects of any kind -/

section Effects

variable {m : Type → Type} [Monad m] [LawfulMonad m] {mark : Nat → m Unit}
  {wait : Duration → m Unit} {n : Nat}

/-- The attempts that have known outcomes, each with an effect of its own. -/
def marked (mark : Nat → m Unit) (outcomes : Nat → Except ε α) (n : Nat) : m (Except ε α) := do
  mark n
  pure (outcomes n)

/-- After a passing failure comes a wait and the next attempt. -/
theorem retryFrom_of_passing (h : FailsInPassing passing (outcomes n)) (left : Nat) :
    retryFrom policy passing wait (marked mark outcomes) n (left + 1) =
      (do
        mark n
        wait (policy.delayAfter n)
        retryFrom policy passing wait (marked mark outcomes) (n + 1) left) := by
  obtain ⟨e, failed, passes⟩ := h
  simp [retryFrom, marked, failed, passes]

/-- Any other outcome is the outcome of the run, however many attempts are left. -/
theorem retryFrom_of_not_passing (h : ¬ FailsInPassing passing (outcomes n)) (left : Nat) :
    retryFrom policy passing wait (marked mark outcomes) n left = marked mark outcomes n := by
  cases left with
  | zero => rfl
  | succ left =>
    cases outcome : outcomes n with
    | ok a => simp [retryFrom, marked, outcome]
    | error e =>
      have final : ¬ passing e = true := fun passes => h ⟨e, outcome, passes⟩
      simp [retryFrom, marked, outcome, final]

/-- Several passing failures, one after the other, each with its wait. -/
theorem retryFrom_of_all_passing {i : Nat}
    (h : ∀ j, n ≤ j → j < n + i → FailsInPassing passing (outcomes j)) (left : Nat) :
    retryFrom policy passing wait (marked mark outcomes) n (i + left) =
      (do
        (List.range' n i).forM fun j => do
          mark j
          wait (policy.delayAfter j)
        retryFrom policy passing wait (marked mark outcomes) (n + i) left) := by
  induction i generalizing n with
  | zero => simp
  | succ i ih =>
    have first := h n le_rfl (by omega)
    have others : ∀ j, n + 1 ≤ j → j < n + 1 + i → FailsInPassing passing (outcomes j) :=
      fun j later before => h j (by omega) (by omega)
    rw [show i + 1 + left = i + left + 1 by omega, retryFrom_of_passing first, ih others,
      List.range'_succ, show n + (i + 1) = n + 1 + i by omega]
    simp

/-- A run makes its passing attempts and the first final one. -/
theorem retry_eq {k : Nat} (least : IsLeast (finalAttempts policy passing outcomes) k) :
    retry policy passing wait (marked mark outcomes) =
      (do
        (List.range' 1 (k - 1)).forM fun n => do
          mark n
          wait (policy.delayAfter n)
        marked mark outcomes k) := by
  have counted : 1 ≤ k := one_le_of_mem_finalAttempts least.1
  have allowed : k ≤ max policy.maxAttempts 1 := least.2 (.inl rfl)
  have earlier : ∀ n, 1 ≤ n → n < 1 + (k - 1) → FailsInPassing passing (outcomes n) := by
    intro n counted before
    by_contra settled
    have := least.2 (.inr ⟨counted, settled⟩)
    omega
  obtain ⟨left, split⟩ : ∃ left, policy.maxAttempts - 1 = k - 1 + left :=
    ⟨policy.maxAttempts - k, by omega⟩
  rw [retry, split, retryFrom_of_all_passing earlier, show 1 + (k - 1) = k by omega]
  congr 1
  funext _
  rcases least.1 with last | ⟨-, settled⟩
  · -- No attempt is left behind the last one that is allowed, so its outcome is not looked at.
    obtain rfl : left = 0 := by omega
    rfl
  · exact retryFrom_of_not_passing settled left

end Effects

/-! ### Waits -/

namespace RetryPolicy

theorem nanos_delayAfter (p : RetryPolicy) (n : Nat) :
    (p.delayAfter n).nanos =
      min (min n (2 ^ 32 - 1) * p.baseDelay.nanos) ((2 ^ 64 - 1) * 10 ^ 9 + 999999999) := by
  rw [Nat.mul_comm]
  rfl

theorem monotone_delayAfter (p : RetryPolicy) : Monotone fun n => (p.delayAfter n).nanos := by
  intro n n' le
  simp only [nanos_delayAfter]
  gcongr

end RetryPolicy

/-! ### Runs that are written down -/

namespace RetryTrace

def noteAttempt (n : Nat) : StateM RetryTrace Unit :=
  modify fun t => { t with attempts := t.attempts ++ [n] }

def noteWait (d : Duration) : StateM RetryTrace Unit :=
  modify fun t => { t with waits := t.waits ++ [d] }

theorem forM_note (delay : Nat → Duration) (ns : List Nat) (t : RetryTrace) :
    (ns.forM fun n => do
      noteAttempt n
      noteWait (delay n)).run t = ((), ⟨t.attempts ++ ns, t.waits ++ ns.map delay⟩) := by
  induction ns generalizing t with
  | nil =>
    simp only [List.append_nil, List.map_nil]
    rfl
  | cons n ns ih =>
    have rest := ih ⟨t.attempts ++ [n], t.waits ++ [delay n]⟩
    simpa [noteAttempt, noteWait] using rest

end RetryTrace

theorem retryTrace_eq {k : Nat} (least : IsLeast (finalAttempts policy passing outcomes) k) :
    retryTrace policy passing outcomes =
      (outcomes k, ⟨List.range' 1 k, (List.range' 1 (k - 1)).map policy.delayAfter⟩) := by
  have run : retryTrace policy passing outcomes =
      (retry policy passing RetryTrace.noteWait (marked RetryTrace.noteAttempt outcomes)).run
        ⟨[], []⟩ := rfl
  have counted : 1 ≤ k := one_le_of_mem_finalAttempts least.1
  have last : List.range' 1 k = List.range' 1 (k - 1) ++ [k] := by
    obtain ⟨i, rfl⟩ := Nat.exists_eq_add_of_le' counted
    simp [List.range'_concat, Nat.add_comm]
  rw [run, retry_eq least, StateT.run_bind, RetryTrace.forM_note, last]
  rfl

/-- A run of attempts, whatever they and the waits are effects of, ends with the first attempt that
does not fail in passing or, at the latest, with the last one that is allowed, which is the first
one where none is. Up to there it makes the attempts from one on in their order, each with its wait
behind it, and its outcome is the one of its last attempt. The wait after an attempt is the base
delay as many times as the number of the attempt, which stops growing at 32 bits, and at most the
longest span, so the waits never get shorter. -/
theorem retry_ends_at (policy : RetryPolicy) (passing : ε → Bool) (outcomes : Nat → Except ε α) :
    ∃ k, IsLeast (finalAttempts policy passing outcomes) k ∧
      (∀ (m : Type → Type) [Monad m] [LawfulMonad m] (mark : Nat → m Unit)
          (wait : Duration → m Unit),
        retry policy passing wait (marked mark outcomes) =
          (do
            (List.range' 1 (k - 1)).forM fun n => do
              mark n
              wait (policy.delayAfter n)
            marked mark outcomes k)) ∧
      retryTrace policy passing outcomes =
        (outcomes k, ⟨List.range' 1 k, (List.range' 1 (k - 1)).map policy.delayAfter⟩) ∧
      (∀ n, (policy.delayAfter n).nanos =
        min (min n (2 ^ 32 - 1) * policy.baseDelay.nanos) ((2 ^ 64 - 1) * 10 ^ 9 + 999999999)) ∧
      Monotone fun n => (policy.delayAfter n).nanos := by
  obtain ⟨k, least⟩ := exists_isLeast_finalAttempts policy passing outcomes
  exact ⟨k, least, fun m _ _ mark wait => retry_eq least, retryTrace_eq least,
    policy.nanos_delayAfter, policy.monotone_delayAfter⟩

/-- Two failures in passing, and an answer before the attempts are used up. -/
example : retryTrace ⟨5, .ofMillis 200⟩ id (fun n => if n < 3 then .error true else .ok n) =
    (.ok 3, ⟨[1, 2, 3], [.ofMillis 200, .ofMillis 400]⟩) := rfl

/-- A policy without attempts makes one. -/
example : retryTrace ⟨0, .ofMillis 200⟩ id (fun _ => .error true : Nat → Except Bool Unit) =
    (.error true, ⟨[1], []⟩) := rfl

end RouteAlerts
