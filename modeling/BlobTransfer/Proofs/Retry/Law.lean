import BlobTransfer.Proofs.Retry.Round

/-!
What a request sent with retries does in a scope that never ends: which tries it makes, what an
observer is told of them, and what it returns.
-/

namespace BlobTransfer

theorem RetryOptions.positive_of_validated {given options : RetryOptions}
    (valid : given.validated = .ok options) :
    0 < options.maxTries.toNat ∧ 0 < options.tryTimeout.nanos := by
  unfold validated at valid
  split at valid
  · contradiction
  · split at valid
    · contradiction
    · obtain rfl := Except.ok.inj valid
      constructor
      · by_cases unset : given.maxTries = 0
        · simp [unset, defaultMaxTries]
        · have counted : given.maxTries.toNat ≠ 0 := fun none => unset (UInt32.toNat_inj.mp none)
          simpa [unset] using Nat.pos_of_ne_zero counted
      · by_cases unset : given.tryTimeout.isZero = true
        · simp only [unset, if_true]
          decide
        · have timed : given.tryTimeout.nanos ≠ 0 := by simpa [Duration.isZero] using unset
          simpa [unset] using Nat.pos_of_ne_zero timed

namespace RetryPolicy

variable {Service : Type}

variable (policy : RetryPolicy) (lastMile : LastMile Service) (caller : Scope)
  (request : Request) (start : Progress Service)

/-- Tries made so far, each of which was worth another one. -/
structure Retried (tries : List Try) : Prop where
  history : ∀ earlier tried later, tries = earlier ++ tried :: later →
    policy.Follows lastMile request start earlier tried
  retryable : ∀ past ∈ tries, past.IsRetryable policy.options.tryTimeout
  told : ∀ past ∈ tries, past.event.willRetry = true

/-- The tries of a request that got its result. They end with the first that is not worth another
one, or with the last of so many. -/
structure Concluded (most : Nat) (tries : List Try) (last : Try) (final : Progress Service) :
    Prop where
  after : policy.After lastMile caller start (tries ++ [last]) final
  retried : policy.Retried lastMile request start tries
  follows : policy.Follows lastMile request start tries last
  told : last.event.willRetry = false
  bounded : tries.length + 1 ≤ most
  ended : last.IsRetryable policy.options.tryTimeout → tries.length + 1 = most

def Overflowed (most : Nat) : Prop :=
  ∃ tries, policy.Retried lastMile request start tries ∧ tries.length < most ∧
    policy.Overflows request start tries

variable {policy lastMile caller request start} {tries : List Try} {progress : Progress Service}

theorem Retried.nil : policy.Retried lastMile request start [] where
  history := fun earlier tried later split => by simp at split
  retryable := fun past member => absurd member List.not_mem_nil
  told := fun past member => absurd member List.not_mem_nil

theorem Retried.snoc {tried : Try} (retried : policy.Retried lastMile request start tries)
    (follows : policy.Follows lastMile request start tries tried)
    (again : tried.event.willRetry = true)
    (retryable : tried.IsRetryable policy.options.tryTimeout) :
    policy.Retried lastMile request start (tries ++ [tried]) where
  history := by
    intro earlier other later split
    obtain rfl | ⟨others, final, rfl⟩ := List.eq_nil_or_concat later
    · obtain ⟨rfl, last⟩ := List.append_inj' split rfl
      obtain rfl := List.singleton_inj.mp last
      exact follows
    · rw [List.concat_eq_append, ← List.cons_append, ← List.append_assoc] at split
      exact retried.history earlier other others (List.append_inj' split rfl).1
  retryable := by
    simpa only [List.forall_mem_append, List.forall_mem_singleton] using
      And.intro retried.retryable retryable
  told := by
    simpa only [List.forall_mem_append, List.forall_mem_singleton] using
      And.intro retried.told again

theorem tryFrom_ends (positive : 0 < policy.options.tryTimeout.nanos)
    (hosted : policy.Hosted request) (spares : lastMile.Spares start.timeline caller) (left : Nat)
    (after : policy.After lastMile caller start tries progress)
    (retried : policy.Retried lastMile request start tries) :
    (policy.tryFrom lastMile caller request (policy.stateAfter request tries) (left + 1)
          progress = .error .overflow ∧
        policy.Overflowed lastMile request start (tries.length + left + 1)) ∨
      ∃ made last final,
        policy.tryFrom lastMile caller request (policy.stateAfter request tries) (left + 1)
          progress = .ok (last.result, final) ∧
        policy.Concluded lastMile caller request start (tries.length + left + 1) made last
          final := by
  induction left generalizing tries progress with
  | zero =>
      obtain ⟨failed, overflows⟩ | ⟨tried, later, follows, stands, again, round⟩ :=
        tryFrom_step 0 after positive hosted spares
      · exact .inl ⟨failed, tries, retried, Nat.lt_succ_self _, overflows⟩
      · have told : tried.event.willRetry = false := by simpa using again
        rw [if_neg (by simp [told])] at round
        exact .inr ⟨tries, tried, later, round,
          ⟨stands, retried, follows, told, Nat.le_refl _, fun _ => rfl⟩⟩
  | succ left ih =>
      obtain ⟨failed, overflows⟩ | ⟨tried, later, follows, stands, again, round⟩ :=
        tryFrom_step (left + 1) after positive hosted spares
      · exact .inl ⟨failed, tries, retried, by omega, overflows⟩
      · have judged : tried.event.willRetry = tried.event.decision.isRetryable := by
          simpa using again
        cases told : tried.event.willRetry with
        | false =>
            rw [if_neg (by simp [told])] at round
            refine .inr ⟨tries, tried, later, round,
              ⟨stands, retried, follows, told, by omega, fun retryable => ?_⟩⟩
            rw [← follows.isRetryable, ← judged, told] at retryable
            contradiction
        | true =>
            rw [if_pos told] at round
            have retryable := follows.isRetryable.mp (judged.symm.trans told)
            have further := ih stands (retried.snoc follows told retryable)
            have counted : (tries ++ [tried]).length + left + 1 =
                tries.length + (left + 1) + 1 := by
              simp only [List.length_append, List.length_singleton]
              omega
            rw [counted] at further
            rw [round]
            exact further

/-- A request is sent again until its outcome is not worth another try or all tries are made, and
that outcome is the result. There is no result if a delay or the deadline of a try is too long. -/
theorem retries_end_with_first_final_outcome {given : RetryOptions}
    (valid : given.validated = .ok policy.options)
    (hosted : policy.Hosted request) (lasting : start.timeline.Lasting caller)
    (spares : lastMile.Spares start.timeline caller) :
    (policy.send lastMile start caller request = .error .overflow ∧
        policy.Overflowed lastMile request start policy.options.maxTries.toNat) ∨
      ∃ tries last final,
        policy.send lastMile start caller request = .ok (last.result, final) ∧
        policy.Concluded lastMile caller request start policy.options.maxTries.toNat tries last
          final := by
  obtain ⟨many, positive⟩ := RetryOptions.positive_of_validated valid
  obtain ⟨left, most⟩ := Nat.exists_eq_add_one.mpr many
  have after : policy.After lastMile caller start [] start := {
    calls := (List.append_nil _).symm
    events := (List.append_nil _).symm
    draws := rfl
    service := rfl
    origin := rfl
    clock := rfl
    lasting
    grown := Nat.le_refl _ }
  have ends := tryFrom_ends positive hosted spares left after Retried.nil
  simp only [List.length_nil, Nat.zero_add] at ends
  rw [send, most]
  exact ends

def scripted (script : Nat → TransportReply) : LastMile Nat where
  transport count _ := (script count, count + 1)

def mainPage : Request where
  url := {
    scheme := "https", authority := some { host := .name "main.example" }, path := .segments [""]
    query := none, fragment := none }

def brokenThenMissing : Nat → TransportReply
  | 0 => { outcome := .error (.network ⟨.temporary, "connection reset"⟩) }
  | 1 => { outcome := .ok { status := .notFound }, delay := some 5 }
  | _ => { outcome := .ok { status := ⟨200⟩ } }

def soleScope : Scope := { lineage := [0] }

def freshStart : Progress Nat where
  timeline := { scopes := { fresh := 1 } }
  service := 0

theorem freshStart_lasting : freshStart.timeline.Lasting soleScope where
  endless := Timeline.endless_iff.mpr ⟨rfl, rfl, fun _ member => absurd member List.not_mem_nil⟩
  ancestry := by decide
  planned := fun _ member => absurd member List.not_mem_nil
  canceled := by decide

theorem missing_copy_is_asked_once :
    ∃ policy : RetryPolicy, policy.options.maxTries = 4 ∧ ∃ tries last final,
      policy.send (scripted brokenThenMissing) freshStart soleScope mainPage =
        .ok (last.result, final) ∧
      policy.Concluded (scripted brokenThenMissing) soleScope mainPage freshStart 4 tries last
        final ∧
      final.events.map (·.target) = [.primary, .secondary, .primary] := by
  let given : RetryOptions := {
    policy := .fixed, maxTries := 4, retryDelay := .ofSeconds 1, maxRetryDelay := .ofSeconds 1
    secondaryHost := some "copy.example" }
  let policy : RetryPolicy := ⟨{ given with tryTimeout := .ofSeconds 30 }, fun _ => 1⟩
  have targets : (policy.send (scripted brokenThenMissing) freshStart soleScope
      mainPage).toOption.map (fun result => result.2.events.map (·.target)) =
        some [.primary, .secondary, .primary] := by
    decide +kernel
  have hosted : policy.Hosted mainPage := by
    rintro _ host ⟨⟩
    exact ⟨_, rfl⟩
  have spares : (scripted brokenThenMissing).Spares freshStart.timeline soleScope := {
    gentle := by rintro (_ | _ | count) request <;> rfl
    apart := by
      rintro (_ | _ | count) request response ⟨⟩ scope member <;>
        exact absurd member List.not_mem_nil }
  obtain ⟨failed, _⟩ | ⟨tries, last, final, sent, concluded⟩ :=
    @retries_end_with_first_final_outcome _ policy _ soleScope mainPage freshStart given rfl
      hosted freshStart_lasting spares
  · rw [failed] at targets
    contradiction
  · rw [sent] at targets
    exact ⟨policy, rfl, tries, last, final, sent, concluded, Option.some.inj targets⟩

/-- These delays pass validation under a ceiling that is the longest duration there is, but the
one before the second try is too long once stretched. -/
theorem longest_delay_leaves_no_result :
    ∃ (given : RetryOptions) (policy : RetryPolicy), given.validated = .ok policy.options ∧
      policy.options.secondaryHost = none ∧
      (∀ draw, 8 / 10 ≤ policy.jitter draw ∧ policy.jitter draw < 13 / 10) ∧
      freshStart.timeline.Lasting soleScope ∧
      policy.send (scripted brokenThenMissing) freshStart soleScope mainPage =
        .error .overflow := by
  let given : RetryOptions := {
    policy := .fixed, maxTries := 4, tryTimeout := .ofSeconds 30, retryDelay := .largest
    maxRetryDelay := .largest }
  let policy : RetryPolicy := ⟨given, fun _ => 12 / 10⟩
  have common : (8 / 10 : Rat) ≤ 12 / 10 ∧ (12 / 10 : Rat) < 13 / 10 := by decide +kernel
  have halted : (match policy.send (scripted brokenThenMissing) freshStart soleScope mainPage with
      | .error halt => some halt
      | .ok _ => none) = some .overflow := by
    decide +kernel
  refine ⟨given, policy, rfl, rfl, fun _ => common, freshStart_lasting, ?_⟩
  cases sent : policy.send (scripted brokenThenMissing) freshStart soleScope mainPage with
  | ok result =>
      rw [sent] at halted
      contradiction
  | error halt =>
      rw [sent] at halted
      exact congrArg Except.error (Option.some.inj halted)

end RetryPolicy

end BlobTransfer
