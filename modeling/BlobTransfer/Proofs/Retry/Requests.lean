import BlobTransfer.Proofs.Fallible
import BlobTransfer.Proofs.Retry.Course
import BlobTransfer.Proofs.Retry.Round
import BlobTransfer.Proofs.Url.Form

/-!
What the tries of one request ask for. Each of them is that request once more: no host, parameter
or payload of a try goes over to the next one.
-/

namespace BlobTransfer

variable {Service : Type}

namespace Url

def readHost (url : Url) (text : List Char) : Except UrlFailure Host :=
  if isWeb url.scheme || url.scheme = "file" then Host.ofWeb text else Host.ofOther text

def withHost (url : Url) (host : Host) : Url :=
  { url with
    authority := some (match url.authority with
      | some authority => { authority with host }
      | none => { host }) }

theorem setHost_cases (url : Url) (text : String) :
    (∃ failure, url.setHost text = .error failure) ∨
      url.setHost text = do
        let bare ← bareHost text.toList
        let host ← url.readHost bare
        return url.withHost host := by
  rcases url with ⟨scheme, authority, path, query, fragment⟩
  by_cases empty : (text.isEmpty && isWeb scheme) = true
  · left
    cases authority with
    | some authority => exact ⟨.emptyHost, by simp only [setHost, empty]; rfl⟩
    | none =>
        cases path with
        | rootless path => exact ⟨.hostlessUrl, rfl⟩
        | segments names => exact ⟨.emptyHost, by simp only [setHost, empty]; rfl⟩
  · rw [Bool.not_eq_true] at empty
    have read : ∀ (wrap : Host → Except UrlFailure Url),
        (bareHost text.toList >>= fun bare =>
          if isWeb scheme || scheme = "file" then Host.ofWeb bare >>= wrap
          else Host.ofOther bare >>= wrap) =
        (bareHost text.toList >>= fun bare =>
          (if isWeb scheme || scheme = "file" then Host.ofWeb bare else Host.ofOther bare) >>=
            wrap) := by
      intro wrap
      congr
      funext bare
      split <;> rfl
    cases authority with
    | some authority =>
        right
        simp only [setHost, empty]
        exact read _
    | none =>
        cases path with
        | rootless path => exact .inl ⟨.hostlessUrl, rfl⟩
        | segments names =>
            right
            simp only [setHost, empty]
            exact read _

theorem withHost_of_setHost {url changed : Url} {text : String}
    (accepted : url.setHost text = .ok changed) :
    ∃ bare host, bareHost text.toList = .ok bare ∧ url.readHost bare = .ok host ∧
      changed = url.withHost host := by
  rcases url.setHost_cases text with ⟨failure, refused⟩ | parsed
  · rw [refused] at accepted
    contradiction
  · rw [parsed] at accepted
    obtain ⟨bare, shortened, accepted⟩ := bind_eq_ok.mp accepted
    obtain ⟨host, read, changed⟩ := bind_eq_ok.mp accepted
    exact ⟨bare, host, shortened, read, (Except.ok.inj changed).symm⟩

end Url

namespace RetryPolicy

theorem asTry_of_prepare {state : RetryState} {request prepared : Request} {timeout : Duration}
    (ready : prepare state request timeout = .ok prepared) :
    ∃ url, (state.target = .primary ∧ url = request.url ∨
        state.target = .secondary ∧ ∃ host, state.secondary = some host ∧
          request.url.setHost host = .ok url) ∧
      prepared = request.asTry url state.tryNumber timeout := by
  rcases prepare_cases state request timeout with ⟨url, addressed, same⟩ | ⟨_, _, _, _, refused⟩
  · rw [same] at ready
    exact ⟨url, addressed, (Except.ok.inj ready).symm⟩
  · rw [refused] at ready
    contradiction

theorem refusal_of_prepare {state : RetryState} {request : Request} {timeout : Duration}
    {error : TransferError} (refusal : prepare state request timeout = .error error) :
    ∃ host failure, state.secondary = some host ∧ request.url.setHost host = .error failure ∧
      error = .invalid (.secondaryHost host failure) := by
  rcases prepare_cases state request timeout with
    ⟨_, _, prepared⟩ | ⟨host, failure, configured, refused, same⟩
  · rw [prepared] at refusal
    contradiction
  · rw [same] at refusal
    exact ⟨host, failure, configured, refused, (Except.error.inj refusal).symm⟩

theorem nanos_timeout (policy : RetryPolicy) (timeline : Timeline) (caller : Scope) :
    (policy.timeout timeline caller).nanos = match caller.deadline with
      | some limit => min policy.options.tryTimeout.nanos (limit - timeline.instant)
      | none => policy.options.tryTimeout.nanos := by
  cases deadline : caller.deadline with
  | none => simp only [timeout, Scope.remaining, deadline, Option.map_none]
  | some limit =>
      have bounded := policy.options.tryTimeout.inRange
      simp only [timeout, Scope.remaining, deadline, Option.map_some, Duration.nanos_min,
        Duration.saturating]
      omega

theorem Reaches.target {policy : RetryPolicy} {lastMile : LastMile Service} {caller : Scope}
    {request : Request} {start progress : Progress Service} {earlier : List (Round Service)}
    {state : RetryState} {left : Nat}
    (reached : policy.Reaches lastMile caller request start earlier state left progress) :
    state.target = .secondary ↔ request.isRead = true ∧
      policy.options.secondaryHost.isSome = true ∧ (earlier.length + 1) % 2 = 0 ∧
        ∀ past ∈ earlier, past.decision caller ≠ .secondaryNotFound := by
  have begins : (policy.firstState request).secondary =
      if request.isRead then policy.options.secondaryHost else none := rfl
  rw [RetryState.target_eq_secondary, reached.secondary, reached.tryNumber, begins]
  by_cases spared : ∀ past ∈ earlier, past.decision caller ≠ .secondaryNotFound
  · simp only [iff_true_intro spared, if_true, and_true]
    cases request.isRead <;> simp
  · simp only [iff_false_intro spared, if_false, and_false, Option.isSome_none,
      Bool.false_eq_true, false_and]

end RetryPolicy

structure Round.Repeats (round : Round Service) (request : Request) (headers : Headers)
    (retry : RetryOptions) (caller : Scope) (earlier : List (Round Service)) : Prop where
  same : round.request = { request with
    url := round.request.url, headers
    payload := if earlier = [] then request.payload else request.payload.rewind
    timeout := some round.timeout }
  primary : round.state.target = .primary →
    round.request.url = { request.url with query := round.request.url.query }
  secondary : round.state.target = .secondary → ∃ text bare host,
    retry.secondaryHost = some text ∧ Url.bareHost text.toList = .ok bare ∧
      request.url.readHost bare = .ok host ∧
      round.request.url = { request.url.withHost host with query := round.request.url.query }
  turn : round.state.target = .secondary ↔
    request.isRead = true ∧ retry.secondaryHost.isSome = true ∧ (earlier.length + 1) % 2 = 0 ∧
      ∀ past ∈ earlier, past.decision caller ≠ .secondaryNotFound
  pairs : round.request.url.pairs =
    request.url.pairs.filter (·.1 ≠ "timeout") ++ [("timeout", toString round.timeout.seconds)]
  budget : round.timeout.nanos = match caller.deadline with
    | some limit => min retry.tryTimeout.nanos (limit - round.begun.instant)
    | none => retry.tryTimeout.nanos

theorem Round.MadeBy.repeats {policy : RetryPolicy} {lastMile : LastMile Service} {caller : Scope}
    {request : Request} {headers : Headers} {start : Progress Service}
    {earlier : List (Round Service)} {round : Round Service}
    (made : round.MadeBy caller policy lastMile { request with headers })
    (reached : policy.Reaches lastMile caller { request with headers } start earlier round.state
      (round.left + 1) round.before) :
    round.Repeats request headers policy.options caller earlier := by
  obtain ⟨url, addressed, prepared⟩ := RetryPolicy.asTry_of_prepare made.prepared
  have first : round.state.tryNumber = 1 ↔ earlier = [] := by
    rw [reached.tryNumber, Nat.add_eq_right, List.length_eq_zero_iff]
  have address : round.request.url =
      url.setParameter "timeout" (toString round.timeout.seconds) := by
    rw [prepared]
    rfl
  have queried : round.request.url = { url with query := round.request.url.query } := by
    rw [address]
    rfl
  refine ⟨?_, ?_, ?_, ?_, ?_, ?_⟩
  · rw [address, prepared]
    simp only [Request.asTry, first]
  · intro target
    rcases addressed with ⟨_, rfl⟩ | ⟨other, _⟩
    · exact queried
    · rw [target] at other
      contradiction
  · intro target
    rcases addressed with ⟨other, _⟩ | ⟨_, text, here, accepted⟩
    · rw [target] at other
      contradiction
    · obtain ⟨bare, host, shortened, read, rfl⟩ := Url.withHost_of_setHost accepted
      exact ⟨text, bare, host, reached.configured here, shortened, read, queried⟩
  · exact reached.target
  · have queries : url.pairs = request.url.pairs := by
      rcases addressed with ⟨_, rfl⟩ | ⟨_, text, _, accepted⟩
      · rfl
      · obtain ⟨bare, host, _, _, rfl⟩ := Url.withHost_of_setHost accepted
        rfl
    rw [address, Url.pairs_setParameter, queries]
  · rw [made.timeout, RetryPolicy.nanos_timeout, made.begun_instant]

end BlobTransfer
