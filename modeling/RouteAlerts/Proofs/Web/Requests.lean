import RouteAlerts.Proofs.Web.Retry
import RouteAlerts.Web.Client

/-!
What a client asks of the web. A fetch makes the attempts that its policy calls for, each of them
one request on the same target, and its outcome is that of the last (`fetch_eq`). Candidates that
are fetched in turn are asked for up to the first that is of use and not beyond it
(`firstOf_eq_iff`), and the record of the web grows by their requests alone, in their order
(`FindsFirst.received`).
-/

namespace RouteAlerts

/-! ### One attempt, made again and again -/

section Again

variable {ε α σ : Type} {policy : RetryPolicy} {passing : ε → Bool}

/-- The state behind a number of attempts. -/
def stateAfter (attempt : StateM σ (Except ε α)) (s : σ) (n : Nat) : σ :=
  (fun s => (attempt s).2)^[n] s

def outcomeOf (attempt : StateM σ (Except ε α)) (s : σ) (n : Nat) : Except ε α :=
  (attempt (stateAfter attempt s (n - 1))).1

/-- The attempts of such a run, each with the outcome and the state that it is known to have. -/
def foreseen (attempt : StateM σ (Except ε α)) (s : σ) : Nat → StateM σ (Except ε α) :=
  marked (fun n => set (stateAfter attempt s n)) (outcomeOf attempt s)

variable {attempt : StateM σ (Except ε α)} {s : σ}

theorem stateAfter_succ (n : Nat) :
    stateAfter attempt s (n + 1) = (attempt (stateAfter attempt s n)).2 :=
  Function.iterate_succ_apply' _ n s

theorem foreseen_succ (n : Nat) :
    foreseen attempt s (n + 1) (stateAfter attempt s n) = attempt (stateAfter attempt s n) :=
  congrArg (Prod.mk _) (stateAfter_succ n)

theorem bind_apply {β γ : Type} (x : StateM σ β) (f : β → StateM σ γ) (s : σ) :
    (x >>= f) s = f (x s).1 (x s).2 := rfl

/-- What an attempt leaves to the others. -/
theorem retryFrom_succ_apply (f : Nat → StateM σ (Except ε α)) (n left : Nat) (s : σ) :
    retryFrom policy passing (fun _ => pure ()) f n (left + 1) s =
      match (f n s).1 with
      | .ok a => (.ok a, (f n s).2)
      | .error e =>
        if passing e then
          retryFrom policy passing (fun _ => pure ()) f (n + 1) left (f n s).2
        else (.error e, (f n s).2) := by
  rw [retryFrom, bind_apply]
  rcases f n s with ⟨outcome, t⟩
  cases outcome with
  | ok a => rfl
  | error e =>
    cases h : passing e with
    | false => simp only [h]; rfl
    | true => simp only [h]; rfl

theorem retryFrom_foreseen (left n : Nat) :
    retryFrom policy passing (fun _ => pure ()) (foreseen attempt s) (n + 1) left
        (stateAfter attempt s n) =
      retryFrom policy passing (fun _ => pure ()) (fun _ => attempt) (n + 1) left
        (stateAfter attempt s n) := by
  induction left generalizing n with
  | zero => exact foreseen_succ n
  | succ left ih => rw [retryFrom_succ_apply, retryFrom_succ_apply, foreseen_succ,
      ← stateAfter_succ, ih]

/-- An attempt that is made again and again has its outcome from the first final one. -/
theorem retry_run {k : Nat}
    (least : IsLeast (finalAttempts policy passing (outcomeOf attempt s)) k) :
    retry policy passing (fun _ => pure ()) (fun _ => attempt) s =
      (outcomeOf attempt s k, stateAfter attempt s k) := by
  have ends : retry policy passing (fun _ => pure ()) (foreseen attempt s) s =
      (outcomeOf attempt s k, stateAfter attempt s k) := by
    rw [foreseen, retry_eq least]
    rfl
  exact (retryFrom_foreseen (policy.maxAttempts - 1) 0).symm.trans ends

end Again

namespace Web

/-! ### The record of the web -/

/-- What the server of a request sees of it, if it can be sent and the server can be reached. -/
def World.sees (w : World) (r : Request) : Option Received := do
  let url ← r.url?
  if (r.fields.all fun (_, value) => isFieldValue value) && w.reachable then
    some ⟨url.target, r.fields⟩
  else none

theorem received_exchange (r : Request) (w : World) :
    (exchange r w).2.received = w.received ++ (w.sees r).toList ∧
      (exchange r w).2.reachable = w.reachable := by
  unfold exchange World.sees
  cases r.url? with
  | none => simp
  | some url =>
    simp only [Option.bind_eq_bind, Option.bind_some]
    cases r.fields.all fun (_, value) => isFieldValue value with
    | false => simp
    | true =>
      cases near : w.reachable with
      | false => simp [near]
      | true =>
        have asked : (w.ask url.target r.fields).2.received =
              w.received ++ [⟨url.target, r.fields⟩] ∧
            (w.ask url.target r.fields).2.reachable = w.reachable := ⟨rfl, rfl⟩
        rw [near] at asked
        generalize w.ask url.target r.fields = answered at asked ⊢
        obtain ⟨_ | ⟨reply⟩ | _, w'⟩ := answered
        · simpa [near] using asked
        · by_cases success : 200 ≤ reply.status ∧ reply.status ≤ 299 <;> simpa [success] using asked
        · simpa [near] using asked

theorem sees_congr {w w' : World} (h : w'.reachable = w.reachable) (r : Request) :
    w'.sees r = w.sees r := by
  rw [World.sees, World.sees, h]

/-- The record grows with every attempt by what the server sees of it. -/
theorem stateAfter_exchange (r : Request) (w : World) (n : Nat) :
    (stateAfter (exchange r) w n).received =
        w.received ++ (List.replicate n (w.sees r).toList).flatten ∧
      (stateAfter (exchange r) w n).reachable = w.reachable := by
  induction n with
  | zero => simp [stateAfter]
  | succ n ih =>
    obtain ⟨received, reachable⟩ := ih
    obtain ⟨grown, same⟩ := received_exchange r (stateAfter (exchange r) w n)
    rw [stateAfter_succ]
    refine ⟨?_, same.trans reachable⟩
    rw [grown, received, sees_congr reachable, List.replicate_succ', List.flatten_append]
    simp

namespace Client

variable (c : Client)

def sent (r : Request) : Request := { r with fields := c.standingFields ++ r.fields }

/-- A fetch makes attempts up to the first final one, each of them one request on the same target,
and its outcome is that of the last. -/
theorem fetch_eq (r : Request) (w : World) :
    ∃ k, IsLeast (finalAttempts c.retry FetchError.isPassing
        (outcomeOf (exchange (c.sent r)) w)) k ∧
      (c.fetch r w).1 = outcomeOf (exchange (c.sent r)) w k ∧
      (c.fetch r w).2.received =
        w.received ++ (List.replicate k (w.sees (c.sent r)).toList).flatten ∧
      (c.fetch r w).2.reachable = w.reachable := by
  obtain ⟨k, least⟩ :=
    exists_isLeast_finalAttempts c.retry FetchError.isPassing (outcomeOf (exchange (c.sent r)) w)
  have ends : c.fetch r w =
      (outcomeOf (exchange (c.sent r)) w k, stateAfter (exchange (c.sent r)) w k) := retry_run least
  rw [ends]
  exact ⟨k, least, rfl, stateAfter_exchange (c.sent r) w k⟩

/-- What the server of a request may have seen of it when it has been fetched: as many copies of it
as there were attempts, or nothing where it cannot be sent or the server cannot be reached. -/
def Logs (w : World) (r : Request) (log : List Received) : Prop :=
  ∃ k, 1 ≤ k ∧ k ≤ max c.retry.maxAttempts 1 ∧
    log = (List.replicate k (w.sees (c.sent r)).toList).flatten

theorem received_fetch (r : Request) (w : World) :
    (c.fetch r w).2.reachable = w.reachable ∧
      ∃ log, c.Logs w r log ∧ (c.fetch r w).2.received = w.received ++ log := by
  obtain ⟨k, least, -, received, reachable⟩ := c.fetch_eq r w
  exact ⟨reachable, _, ⟨k, one_le_of_mem_finalAttempts least.1, least.2 (.inl rfl), rfl⟩, received⟩

/-! ### The first candidate of use -/

section First

variable {α β : Type} (request : α → Request) (useful : α → Response → β → Prop)

/-- Candidates that are fetched one after the other, none of them of use. -/
inductive PassesOver : List α → World → World → Prop where
  | nil {w : World} : PassesOver [] w w
  | cons {a : α} {l : List α} {w w₁ w' : World} {outcome : Except FetchError Response}
      (asked : c.fetch (request a) w = (outcome, w₁))
      (useless : ∀ response b, outcome = .ok response → ¬ useful a response b)
      (later : PassesOver l w₁ w') : PassesOver (a :: l) w w'

/-- The first candidate that can be fetched and is of use, or nothing; and the candidates that have
been fetched then: those up to it, or all. -/
inductive FindsFirst : List α → World → List α → Option β → World → Prop where
  | found {before after : List α} {a : α} {b : β} {w w₁ w' : World} {response : Response}
      (passes : PassesOver c request useful before w w₁)
      (asked : c.fetch (request a) w₁ = (.ok response, w')) (own : useful a response b) :
      FindsFirst (before ++ a :: after) w (before ++ [a]) (some b) w'
  | nothing {l : List α} {w w' : World} (passes : PassesOver c request useful l w w') :
      FindsFirst l w l none w'

/-- Fetches candidates in turn up to the first that is accepted. -/
def firstOf (accept : α → Response → Option β) : List α → StateM World (Option β)
  | [] => pure none
  | a :: l => do
    match ← c.fetch (request a) with
    | .ok response =>
      match accept a response with
      | some b => pure (some b)
      | none => firstOf accept l
    | .error _ => firstOf accept l

variable {c request useful} {accept : α → Response → Option β}

theorem FindsFirst.cons {a : α} {l tried : List α} {found : Option β} {w w₁ w' : World}
    {outcome : Except FetchError Response} (asked : c.fetch (request a) w = (outcome, w₁))
    (useless : ∀ response b, outcome = .ok response → ¬ useful a response b)
    (later : c.FindsFirst request useful l w₁ tried found w') :
    c.FindsFirst request useful (a :: l) w (a :: tried) found w' := by
  cases later with
  | found passes askedNext own => exact .found (.cons asked useless passes) askedNext own
  | nothing passes => exact .nothing (.cons asked useless passes)

theorem firstOf_of_error {a : α} {w w₁ : World} {e : FetchError}
    (asked : c.fetch (request a) w = (.error e, w₁)) (l : List α) :
    c.firstOf request accept (a :: l) w = c.firstOf request accept l w₁ := by
  rw [firstOf, bind_apply, asked]

theorem firstOf_of_refused {a : α} {w w₁ : World} {response : Response}
    (asked : c.fetch (request a) w = (.ok response, w₁)) (refused : accept a response = none)
    (l : List α) : c.firstOf request accept (a :: l) w = c.firstOf request accept l w₁ := by
  rw [firstOf, bind_apply, asked]
  simp only [refused]

theorem firstOf_of_accepted {a : α} {b : β} {w w₁ : World} {response : Response}
    (asked : c.fetch (request a) w = (.ok response, w₁)) (accepted : accept a response = some b)
    (l : List α) : c.firstOf request accept (a :: l) w = (some b, w₁) := by
  rw [firstOf, bind_apply, asked]
  simp only [accepted]
  rfl

/-- What is of no use is left behind. -/
theorem firstOf_of_passesOver
    (spec : ∀ {a response b}, accept a response = some b ↔ useful a response b) {l : List α}
    {w w' : World} (h : c.PassesOver request useful l w w') (rest : List α) :
    c.firstOf request accept (l ++ rest) w = c.firstOf request accept rest w' := by
  induction h with
  | nil => rfl
  | @cons a l w w₁ w' outcome asked useless _ ih =>
    cases outcome with
    | error e => rw [List.cons_append, firstOf_of_error asked, ih]
    | ok response =>
      have refused : accept a response = none := by
        rw [Option.eq_none_iff_forall_not_mem]
        exact fun b accepted => useless response b rfl (spec.mp accepted)
      rw [List.cons_append, firstOf_of_refused asked refused, ih]

/-- Fetching candidates in turn finds the first of use, and fetches none behind it. -/
theorem firstOf_eq_iff
    (spec : ∀ {a response b}, accept a response = some b ↔ useful a response b) {l : List α}
    {w w' : World} {found : Option β} :
    c.firstOf request accept l w = (found, w') ↔
      ∃ tried, c.FindsFirst request useful l w tried found w' := by
  constructor
  · -- Each candidate that is left behind changes the state of the web for those behind it.
    intro h
    induction l generalizing w with
    | nil =>
      obtain ⟨rfl, rfl⟩ := Prod.mk.inj h
      exact ⟨[], .nothing .nil⟩
    | cons a l ih =>
      rcases asked : c.fetch (request a) w with ⟨e | response, w₁⟩
      · rw [firstOf_of_error asked] at h
        obtain ⟨tried, later⟩ := ih h
        exact ⟨_, later.cons asked fun _ _ eq => nomatch eq⟩
      · cases answer : accept a response with
        | none =>
          rw [firstOf_of_refused asked answer] at h
          obtain ⟨tried, later⟩ := ih h
          refine ⟨_, later.cons asked fun other b eq own => ?_⟩
          obtain rfl := Except.ok.inj eq
          rw [spec.mpr own] at answer
          cases answer
        | some b =>
          rw [firstOf_of_accepted asked answer] at h
          obtain ⟨rfl, rfl⟩ := Prod.mk.inj h
          exact ⟨_, @FindsFirst.found c _ _ request useful [] l a b w w w₁ response .nil asked
            (spec.mp answer)⟩
  · rintro ⟨tried, h⟩
    cases h with
    | found passes asked own =>
      rw [firstOf_of_passesOver spec passes, firstOf_of_accepted asked (spec.mpr own)]
    | nothing passes =>
      have last := firstOf_of_passesOver spec passes []
      rwa [List.append_nil] at last

/-! ### The record of candidates -/

theorem Logs.congr {w w' : World} (h : w'.reachable = w.reachable) {r : Request}
    {log : List Received} (logs : c.Logs w' r log) : c.Logs w r log := by
  obtain ⟨k, counted, allowed, rfl⟩ := logs
  exact ⟨k, counted, allowed, by rw [sees_congr h]⟩

theorem PassesOver.received {l : List α} {w w' : World} (h : c.PassesOver request useful l w w') :
    w'.reachable = w.reachable ∧ ∃ logs, List.Forall₂ (c.Logs w) (l.map request) logs ∧
      w'.received = w.received ++ logs.flatten := by
  induction h with
  | nil => exact ⟨rfl, [], .nil, by simp⟩
  | @cons a l w w₁ w' outcome asked _ _ ih =>
    obtain ⟨same, log, own, grown⟩ := c.received_fetch (request a) w
    rw [asked] at same grown
    obtain ⟨reachable, logs, others, received⟩ := ih
    refine ⟨reachable.trans same, log :: logs, .cons own ?_, ?_⟩
    · exact others.imp fun _ _ logged => logged.congr same
    · rw [received, grown, List.flatten_cons, List.append_assoc]

/-- The record grows by the requests for the candidates that have been fetched, in their order. -/
theorem FindsFirst.received {l tried : List α} {found : Option β} {w w' : World}
    (h : c.FindsFirst request useful l w tried found w') :
    ∃ logs, List.Forall₂ (c.Logs w) (tried.map request) logs ∧
      w'.received = w.received ++ logs.flatten := by
  cases h with
  | @found before after a b w w₁ w' response passes asked own =>
    obtain ⟨reachable, logs, passed, received⟩ := passes.received
    obtain ⟨-, log, last, grown⟩ := c.received_fetch (request a) w₁
    rw [asked] at grown
    refine ⟨logs ++ [log], ?_, ?_⟩
    · rw [List.map_append]
      exact List.rel_append passed (.cons (last.congr reachable) .nil)
    · rw [grown, received, List.flatten_append, List.append_assoc]
      simp
  | nothing passes => exact passes.received.2

end First

end Client

end Web

end RouteAlerts
