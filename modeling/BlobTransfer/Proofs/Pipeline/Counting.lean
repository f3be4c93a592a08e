import BlobTransfer.Proofs.Log.Entries
import BlobTransfer.Proofs.Pipeline.Traffic
import Mathlib.Data.List.Induction

/-!
The tries of a request are counted twice: among the retries, and by the request log, which counts
those that come to it. So the log is behind by as many as were over before that.
-/

namespace BlobTransfer

variable {Service : Type}

namespace LogRecord

def tryNumber : LogRecord → Nat
  | .tried event => event.tryNumber
  | .request entry => entry.tryNumber

/-- How many tries are over when so much is told. -/
def ended (records : List LogRecord) : Nat := (records.filterMap (·.event?)).length

def Concerns (entered : List (Nat × Nat)) (number : Nat) : LogRecord → Prop
  | .tried event => event.tryNumber = number
  | .request entry => (entry.tryNumber, number) ∈ entered

/-- What is told between the ends of two tries, and at the second one, is told of that. -/
def Ordered (entered : List (Nat × Nat)) (records : List LogRecord) : Prop :=
  ∀ before record after, records = before ++ record :: after →
    record.Concerns entered (ended before + 1)

variable {records : List LogRecord} {record : LogRecord} {entered others : List (Nat × Nat)}

theorem ended_append (records others : List LogRecord) :
    ended (records ++ others) = ended records + ended others := by
  simp [ended]

theorem ended_tried (records : List LogRecord) (event : RetryEvent) :
    ended (records ++ [.tried event]) = ended records + 1 := ended_append _ _

theorem ended_entries (records : List LogRecord) (entries : List LogEntry) :
    ended (records ++ entries.map .request) = ended records := by
  have silent : (entries.map LogRecord.request).filterMap (·.event?) = [] :=
    List.filterMap_eq_nil_iff.mpr (by simp [event?])
  rw [ended_append, ended, ended, silent]
  rfl

theorem Concerns.more {number : Nat} (concerns : record.Concerns entered number) :
    record.Concerns (entered ++ others) number := by
  cases record with
  | tried => exact concerns
  | request => exact List.mem_append_left _ concerns

theorem ordered_nil : Ordered [] [] := by
  intro before record after parts
  simp at parts

theorem Ordered.more (ordered : Ordered entered records) : Ordered (entered ++ others) records :=
  fun before record after parts => (ordered before record after parts).more

theorem Ordered.snoc (ordered : Ordered entered records)
    (next : record.Concerns entered (ended records + 1)) :
    Ordered entered (records ++ [record]) := by
  intro before other after parts
  obtain rfl | ⟨others, last, rfl⟩ := List.eq_nil_or_concat after
  · obtain ⟨rfl, same⟩ := List.append_inj' parts rfl
    obtain rfl := List.singleton_inj.mp same
    exact next
  · rw [List.concat_eq_append, ← List.cons_append, ← List.append_assoc] at parts
    exact ordered before other others (List.append_inj' parts rfl).1

theorem Ordered.entries (ordered : Ordered entered records) {entries : List LogEntry}
    (next : ∀ entry ∈ entries, (entry.tryNumber, ended records + 1) ∈ entered) :
    Ordered entered (records ++ entries.map .request) := by
  induction entries generalizing records with
  | nil => simpa using ordered
  | cons entry others ih =>
      have first : Ordered entered (records ++ [.request entry]) :=
        ordered.snoc (next entry List.mem_cons_self)
      have same : ended (records ++ [.request entry]) = ended records :=
        ended_entries records [entry]
      have rest := ih first fun other member => by
        rw [same]
        exact next other (List.mem_cons_of_mem _ member)
      rw [List.append_assoc] at rest
      exact rest

theorem Ordered.event_le (ordered : Ordered entered records) {event : RetryEvent}
    (member : .tried event ∈ records) : event.tryNumber ≤ ended records := by
  obtain ⟨before, after, rfl⟩ := List.append_of_mem member
  have number : event.tryNumber = ended before + 1 := ordered before _ after rfl
  have counted : ended (before ++ .tried event :: after) = ended before + (ended after + 1) :=
    ended_append _ _
  omega

theorem Ordered.last (ordered : Ordered entered records) {before earlier after : List LogRecord}
    {event other : RetryEvent} (parts : records = before ++ .tried event :: after)
    (ending : records = earlier ++ [.tried other]) (same : event.tryNumber = other.tryNumber) :
    after = [] ∧ event = other := by
  have number : event.tryNumber = ended before + 1 := ordered before _ after parts
  have number' : other.tryNumber = ended earlier + 1 := ordered earlier _ [] ending
  rw [parts] at ending
  obtain rfl | ⟨others, last, rfl⟩ := List.eq_nil_or_concat after
  · obtain ⟨_, equal⟩ := List.append_inj' ending rfl
    exact ⟨rfl, LogRecord.tried.inj (List.singleton_inj.mp equal)⟩
  · rw [List.concat_eq_append, ← List.cons_append, ← List.append_assoc] at ending
    obtain rfl := (List.append_inj' ending rfl).1
    have passed : ended (before ++ .tried event :: others) = ended before + (ended others + 1) :=
      ended_append _ _
    omega

theorem Ordered.front {others : List LogRecord} (ordered : Ordered entered (records ++ others)) :
    Ordered entered records := by
  intro before record after parts
  apply ordered before record (after ++ others)
  rw [parts, List.append_assoc]
  rfl

theorem Ordered.events (ordered : Ordered entered records) :
    (records.filterMap (·.event?)).map (·.tryNumber) = List.range' 1 (ended records) := by
  induction records using List.reverseRecOn with
  | nil => rfl
  | append_singleton records record ih =>
      have before := ih ordered.front
      cases record with
      | request entry => simpa [ended, event?] using before
      | tried event =>
          have next : event.tryNumber = ended records + 1 := ordered records _ [] rfl
          rw [ended_tried, List.range'_1_concat, ← before, List.filterMap_append, List.map_append,
            Nat.add_comm 1, ← next]
          rfl

end LogRecord

open LogRecord

/-- What holds of the numbers of the tries that came to the log, and of those that did not. -/
structure SendTrace.Tallied (options : RequestLogOptions) (trace : SendTrace)
    (entered : List (Nat × Nat)) (skipped : List Nat) : Prop where
  counted : trace.log.tries = entered.length
  passed : trace.calls.length = entered.length
  logged : entered.map Prod.fst = List.range' 1 entered.length
  shared : (entered.map Prod.snd ++ skipped).Perm
    (List.range' 1 (entered.length + skipped.length))
  /-- The log is behind by the tries that did not come to it before. -/
  behind : ∀ pair ∈ entered, pair.2 = pair.1 + skipped.countP (· < pair.2)
  ordered : Ordered entered trace.records
  shown : .info ∈ options.minLevel.shown → ∀ pair ∈ entered,
    ∃ entry, .request entry ∈ trace.records ∧ entry.tryNumber = pair.1
  /-- Of the tries that did not come to the log, only those out of time are followed by others. -/
  retried : ∀ event, .tried event ∈ trace.records → event.tryNumber ∈ skipped →
    event.willRetry = true → event.decision = .tryTimeout

namespace SendTrace.Tallied

variable {options : RequestLogOptions} {trace : SendTrace} {entered : List (Nat × Nat)}
  {skipped : List Nat} {number : Nat}

theorem start (options : RequestLogOptions) : SendTrace.Tallied options {} [] [] where
  counted := rfl
  passed := rfl
  logged := rfl
  shared := .refl _
  behind := fun _ member => absurd member List.not_mem_nil
  ordered := ordered_nil
  shown := fun _ _ member => absurd member List.not_mem_nil
  retried := fun _ member => absurd member List.not_mem_nil

theorem bounds_of_mem (tallied : trace.Tallied options entered skipped)
    (member : number ∈ entered.map Prod.snd ∨ number ∈ skipped) :
    1 ≤ number ∧ number ≤ entered.length + skipped.length := by
  have listed := tallied.shared.mem_iff.mp (List.mem_append.mpr member)
  rw [List.mem_range'_1] at listed
  omega

theorem mem_of_bounds (tallied : trace.Tallied options entered skipped) (positive : 1 ≤ number)
    (most : number ≤ entered.length + skipped.length) :
    number ∈ entered.map Prod.snd ∨ number ∈ skipped := by
  rw [← List.mem_append, tallied.shared.mem_iff, List.mem_range'_1]
  omega

theorem tell (tallied : trace.Tallied options entered skipped) {others : List LogRecord}
    (ordered : Ordered entered (trace.records ++ others))
    (retried : ∀ event, .tried event ∈ others → event.tryNumber ∈ skipped →
      event.willRetry = true → event.decision = .tryTimeout) :
    SendTrace.Tallied options { trace with records := trace.records ++ others } entered
      skipped where
  counted := tallied.counted
  passed := tallied.passed
  logged := tallied.logged
  shared := tallied.shared
  behind := tallied.behind
  ordered := ordered
  shown := by
    intro loud pair member
    obtain ⟨entry, told, same⟩ := tallied.shown loud pair member
    exact ⟨entry, List.mem_append_left _ told, same⟩
  retried := by
    intro event member
    rcases List.mem_append.mp member with old | new
    · exact tallied.retried event old
    · exact retried event new

theorem entries (tallied : trace.Tallied options entered skipped) {entries : List LogEntry}
    (here : (number, ended trace.records + 1) ∈ entered)
    (next : ∀ entry ∈ entries, entry.tryNumber = number) :
    SendTrace.Tallied options { trace with records := trace.records ++ entries.map .request }
      entered skipped := by
  refine tallied.tell (tallied.ordered.entries fun entry member => ?_) (by simp)
  rw [next entry member]
  exact here

theorem tried (tallied : trace.Tallied options entered skipped) {event : RetryEvent}
    (next : event.tryNumber = ended trace.records + 1)
    (late : event.tryNumber ∈ skipped → event.willRetry = true → event.decision = .tryTimeout) :
    SendTrace.Tallied options { trace with records := trace.records ++ [.tried event] }
      entered skipped := by
  refine tallied.tell (tallied.ordered.snoc next) fun other member => ?_
  obtain rfl := LogRecord.tried.inj (List.mem_singleton.mp member)
  exact late

theorem enter (tallied : trace.Tallied options entered skipped) {started : SendTrace}
    {request : Request} {call : TransportCall}
    (here : entered.length + skipped.length = ended trace.records)
    (tries : started.log.tries = trace.log.tries + 1)
    (records : started.records = trace.records ++
      (LastMile.heralds options (trace.log.tries + 1) request).map LogRecord.request)
    (calls : started.calls = trace.calls ++ [call]) :
    started.Tallied options (entered ++ [(trace.log.tries + 1, ended trace.records + 1)])
      skipped where
  counted := by rw [tries, tallied.counted, List.length_append, List.length_singleton]
  passed := by
    rw [calls, List.length_append, List.length_append, tallied.passed, List.length_singleton,
      List.length_singleton]
  logged := by
    rw [List.length_append, List.length_singleton, List.range'_1_concat, List.map_append,
      tallied.logged, tallied.counted, Nat.add_comm 1]
    rfl
  shared := by
    have moved : ((entered ++ [(trace.log.tries + 1, ended trace.records + 1)]).map Prod.snd ++
        skipped).Perm (entered.map Prod.snd ++ skipped ++ [ended trace.records + 1]) := by
      rw [List.map_append, List.append_assoc, List.append_assoc]
      exact List.perm_append_comm.append_left _
    have next : entered.length + 1 + skipped.length = ended trace.records + 1 := by omega
    rw [List.length_append, List.length_singleton, next, List.range'_1_concat, Nat.add_comm 1,
      ← here]
    rw [← here] at moved
    exact moved.trans (tallied.shared.append_right _)
  behind := by
    intro pair member
    rcases List.mem_append.mp member with old | new
    · exact tallied.behind pair old
    · have all : skipped.countP (· < ended trace.records + 1) = skipped.length :=
        List.countP_eq_length.mpr fun number listed => by
          have most := (tallied.bounds_of_mem (.inr listed)).2
          exact decide_eq_true (by omega)
      rw [List.mem_singleton.mp new]
      dsimp only
      rw [all, tallied.counted]
      omega
  ordered := by
    rw [records]
    apply tallied.ordered.more.entries
    intro entry member
    rw [(LastMile.told_of_heralds member).2.1]
    exact List.mem_append_right _ (List.mem_singleton_self _)
  shown := by
    intro loud pair member
    rw [records]
    rcases List.mem_append.mp member with old | new
    · obtain ⟨entry, told, same⟩ := tallied.shown loud pair old
      exact ⟨entry, List.mem_append_left _ told, same⟩
    · refine ⟨.outgoing (trace.log.tries + 1) request, List.mem_append_right _ ?_, ?_⟩
      · rw [LastMile.heralds, if_pos loud]
        exact List.mem_singleton_self _
      · rw [List.mem_singleton.mp new]
        rfl
  retried := by
    intro event member
    rw [records] at member
    rcases List.mem_append.mp member with old | new
    · exact tallied.retried event old
    · simp at new

theorem skip (tallied : trace.Tallied options entered skipped)
    (here : entered.length + skipped.length = ended trace.records)
    (next : number = ended trace.records + 1) :
    trace.Tallied options entered (skipped ++ [number]) where
  counted := tallied.counted
  passed := tallied.passed
  logged := tallied.logged
  shared := by
    rw [List.length_append, List.length_singleton, ← Nat.add_assoc, List.range'_1_concat,
      Nat.add_comm 1, here, ← next, ← List.append_assoc, ← here]
    exact tallied.shared.append_right _
  behind := by
    intro pair member
    have most := (tallied.bounds_of_mem (.inl (List.mem_map_of_mem member))).2
    have later : ¬number < pair.2 := by omega
    rw [List.countP_append, List.countP_singleton, if_neg (by simpa using later), Nat.add_zero]
    exact tallied.behind pair member
  ordered := tallied.ordered
  shown := tallied.shown
  retried := by
    intro event told listed
    rcases List.mem_append.mp listed with old | new
    · exact tallied.retried event told old
    · have most := tallied.ordered.event_le told
      rw [List.mem_singleton] at new
      omega

/-- The numbers agree as long as no try comes to the log after one that did not. -/
theorem alike (tallied : trace.Tallied options entered skipped)
    (last : ∀ number ∈ skipped, number = entered.length + skipped.length) :
    ∀ pair ∈ entered, pair.1 = pair.2 := by
  intro pair member
  have most := (tallied.bounds_of_mem (.inl (List.mem_map_of_mem member))).2
  have none : skipped.countP (· < pair.2) = 0 :=
    List.countP_eq_zero.mpr fun number listed => by
      have same := last number listed
      simpa using (by omega : pair.2 ≤ number)
  have number := tallied.behind pair member
  omega

end SendTrace.Tallied

structure Turn.Next (turn : Turn) (most : Nat) (records : List LogRecord) : Prop where
  number : turn.state.tryNumber = ended records + 1
  left : turn.state.tryNumber + turn.left = most

/-- How the tries begun stand to those that are over, in each phase. -/
def SendPhase.Stands (most : Nat) (trace : SendTrace) (entered : List (Nat × Nat))
    (skipped : List Nat) : SendPhase → Prop
  | .idle state left =>
      state.tryNumber = ended trace.records + 1 ∧ state.tryNumber + left = most + 1 ∧
        entered.length + skipped.length = ended trace.records
  | .resting turn _ | .ready turn _ _ =>
      turn.Next most trace.records ∧ entered.length + skipped.length = ended trace.records
  | .trying turn _ _ =>
      turn.Next most trace.records ∧ entered.length + skipped.length = ended trace.records + 1 ∧
        (trace.log.tries, turn.state.tryNumber) ∈ entered ∧ turn.state.tryNumber ∉ skipped
  | .judging turn _ outcome =>
      turn.Next most trace.records ∧ entered.length + skipped.length = ended trace.records + 1 ∧
        (turn.state.tryNumber ∈ skipped → ∃ reason : ScopeEnd, outcome = .error reason.error)
  | .returned _ =>
      entered.length + skipped.length = ended trace.records ∧ ended trace.records ≤ most

theorem SendPhase.Stands.bounds {most : Nat} {trace : SendTrace} {entered : List (Nat × Nat)}
    {skipped : List Nat} {phase : SendPhase} (stands : phase.Stands most trace entered skipped) :
    ended trace.records ≤ entered.length + skipped.length ∧
      entered.length + skipped.length ≤ most := by
  cases phase with
  | idle =>
      obtain ⟨number, left, begun⟩ := stands
      omega
  | resting | ready =>
      obtain ⟨⟨number, left⟩, begun⟩ := stands
      omega
  | trying | judging =>
      obtain ⟨⟨number, left⟩, begun, _⟩ := stands
      omega
  | returned =>
      obtain ⟨begun, bound⟩ := stands
      omega

structure Sending.Counts (options : RequestLogOptions) (most : Nat) (sending : Sending) :
    Prop where
  tallied : sending.trace.Tallied options sending.entered sending.skipped
  stands : sending.phase.Stands most sending.trace sending.entered sending.skipped

theorem RetryDecision.ofOutcome_of_ended {callerEnd tryEnd : Option ScopeEnd}
    {target : RetryTarget} {reason : ScopeEnd}
    (retryable : (ofOutcome callerEnd tryEnd target (.error reason.error)).isRetryable = true) :
    ofOutcome callerEnd tryEnd target (.error reason.error) = .tryTimeout := by
  revert retryable
  cases callerEnd with
  | some _ => simp [ofOutcome, isRetryable]
  | none =>
      cases reason with
      | deadlineExceeded => simp [ofOutcome, isNotFound, ScopeEnd.error]
      | canceled =>
          by_cases late : tryEnd = some .deadlineExceeded
          · simp [ofOutcome, isNotFound, ScopeEnd.error, late]
          · simp [ofOutcome, isNotFound, ScopeEnd.error, late, TransferError.isRetryableNetwork,
              isRetryable]

namespace LastMile

variable {lastMile : LastMile Service} {options : RequestLogOptions}

theorem withLog_of_logs (logs : lastMile.requestLog = some options) :
    lastMile.withLog options = lastMile := by
  rw [withLog, ← logs]

theorem number_of_closing (logs : lastMile.requestLog = some options)
    {progress : Progress Service} {attempt : Attempt} {entry : LogEntry}
    (closing : lastMile.closing? progress attempt = some entry) :
    entry.tryNumber = progress.log.tries := by
  rw [closing?, logs, Option.bind_some] at closing
  exact ((options.reports_completed? _ _ _ _ _).entry entry closing).2.1

end LastMile

namespace RetryPolicy

variable {policy : RetryPolicy} {lastMile : LastMile Service} {options : RequestLogOptions}
  {caller scope : Scope} {request prepared : Request} {attempt : Attempt} {turn : Turn}
  {phase next : SendPhase} {progress later : Progress Service}
  {outcome : Except TransferError Response} {entered : List (Nat × Nat)} {skipped : List Nat}
  {most : Nat}

def Keeps (options : RequestLogOptions) (most : Nat) (phase : SendPhase)
    (entered : List (Nat × Nat)) (skipped : List Nat) (next : SendPhase)
    (later : Progress Service) : Prop :=
  let entered := entered ++ next.numbers later.log
  let skipped := skipped ++ phase.skipped next
  later.trace.Tallied options entered skipped ∧ next.Stands most later.trace entered skipped

theorem keeps_of_quiet (numbers : next.numbers later.log = []) (none : phase.skipped next = [])
    (tallied : later.trace.Tallied options entered skipped)
    (stands : next.Stands most later.trace entered skipped) :
    Keeps options most phase entered skipped next later := by
  unfold Keeps
  rw [numbers, none, List.append_nil, List.append_nil]
  exact ⟨tallied, stands⟩

theorem skip_keeps {reason : ScopeEnd} (tallied : progress.trace.Tallied options entered skipped)
    (stands : (SendPhase.ready turn scope prepared).Stands most progress.trace entered skipped) :
    Keeps options most (.ready turn scope prepared) entered skipped
      (.judging turn scope (.error reason.error)) progress := by
  obtain ⟨next, here⟩ := stands
  unfold Keeps SendPhase.numbers SendPhase.skipped
  dsimp only
  rw [List.append_nil]
  refine ⟨tallied.skip here next.number, next, ?_, fun _ => ⟨reason, rfl⟩⟩
  rw [List.length_append, List.length_singleton, ← Nat.add_assoc, here]

theorem enter_keeps (logs : lastMile.requestLog = some options)
    (begun : lastMile.start progress scope prepared = (attempt, later))
    (tallied : progress.trace.Tallied options entered skipped)
    (stands : (SendPhase.ready turn scope prepared).Stands most progress.trace entered skipped) :
    Keeps options most (.ready turn scope prepared) entered skipped (.trying turn scope attempt)
      later := by
  obtain ⟨⟨number, left⟩, here⟩ := stands
  obtain ⟨tries, records, calls⟩ := LastMile.start_heralds lastMile options progress scope prepared
  rw [LastMile.withLog_of_logs logs, begun] at tries records calls
  have told : ended later.records = ended progress.records := by
    rw [records, ended_entries]
  unfold Keeps SendPhase.numbers SendPhase.skipped
  dsimp only
  rw [List.append_nil]
  constructor
  · rw [tries, number]
    exact tallied.enter here tries records calls
  · refine ⟨⟨number.trans (congrArg (· + 1) told.symm), left⟩, ?_,
      List.mem_append_right _ (List.mem_singleton_self _), fun listed => ?_⟩
    · rw [List.length_append, List.length_singleton]
      change _ = ended later.records + 1
      change _ = ended progress.records at here
      omega
    · have most := (tallied.bounds_of_mem (.inr listed)).2
      omega

theorem answer_keeps (logs : lastMile.requestLog = some options)
    (finished : lastMile.finish progress caller scope attempt = (outcome, later))
    (tallied : progress.trace.Tallied options entered skipped)
    (stands : (SendPhase.trying turn scope attempt).Stands most progress.trace entered skipped) :
    Keeps options most (.trying turn scope attempt) entered skipped
      (.judging turn scope outcome) later := by
  obtain ⟨⟨number, left⟩, begun, here, unskipped⟩ := stands
  rw [LastMile.finish_spec] at finished
  obtain ⟨_, rfl⟩ := Prod.mk.inj finished
  have told := ended_entries progress.records (lastMile.closing? progress attempt).toList
  rw [number] at here
  refine keeps_of_quiet rfl rfl ?_ ?_
  · exact tallied.entries here fun entry member =>
      LastMile.number_of_closing logs (Option.mem_toList.mp member)
  · exact ⟨⟨number.trans (congrArg (· + 1) told.symm), left⟩,
      begun.trans (congrArg (· + 1) told.symm), fun listed => absurd listed unskipped⟩

theorem judge_keeps {event : RetryEvent}
    (concludes : turn.Concludes caller scope outcome progress event next later)
    (tallied : progress.trace.Tallied options entered skipped)
    (stands : (SendPhase.judging turn scope outcome).Stands most progress.trace entered skipped) :
    Keeps options most (.judging turn scope outcome) entered skipped next later := by
  obtain ⟨⟨number, left⟩, begun, late⟩ := stands
  obtain ⟨timeline, rfl⟩ := concludes.noted
  have retryable : event.willRetry = true → event.decision.isRetryable = true := by
    intro again
    rcases concludes.follows with ⟨_, retryable, _⟩ | ⟨final, _⟩
    · exact retryable
    · exact absurd again (by simp [final])
  have told : SendTrace.Tallied options
      { progress.trace with records := progress.records ++ [.tried event] } entered skipped :=
    tallied.tried (concludes.number.trans number) fun listed again => by
      obtain ⟨reason, rfl⟩ := late (concludes.number ▸ listed)
      have may := retryable again
      rw [concludes.decision] at may ⊢
      exact RetryDecision.ofOutcome_of_ended may
  have count : ended (progress.records ++ [.tried event]) = ended progress.records + 1 :=
    ended_tried _ _
  rcases concludes.follows with ⟨_, _, rfl⟩ | ⟨_, result, rfl⟩
  · refine keeps_of_quiet rfl rfl told ⟨congrArg (· + 1) (number.trans count.symm), ?_,
      begun.trans count.symm⟩
    rw [← left]
    exact Nat.add_right_comm _ _ _
  · refine keeps_of_quiet rfl rfl told ⟨begun.trans count.symm, ?_⟩
    change ended (progress.records ++ [.tried event]) ≤ most
    rw [count, ← left, number]
    exact Nat.le_add_right _ _

theorem Step.keeps (logs : lastMile.requestLog = some options)
    (step : policy.Step lastMile caller request phase progress next later)
    (tallied : progress.trace.Tallied options entered skipped)
    (stands : phase.Stands most progress.trace entered skipped) :
    Keeps options most phase entered skipped next later := by
  cases step with
  | exhaust =>
      obtain ⟨number, left, begun⟩ := stands
      exact keeps_of_quiet rfl rfl tallied ⟨begun, by omega⟩
  | decline =>
      obtain ⟨number, left, begun⟩ := stands
      refine keeps_of_quiet rfl rfl tallied ⟨begun, ?_⟩
      change ended progress.trace.records ≤ most
      omega
  | rest =>
      obtain ⟨number, left, begun⟩ := stands
      exact keeps_of_quiet rfl rfl tallied ⟨⟨number, Nat.succ.inj left⟩, begun⟩
  | interrupt | refuse =>
      obtain ⟨⟨number, left⟩, begun⟩ := stands
      exact keeps_of_quiet rfl rfl tallied ⟨begun, by omega⟩
  | begin => exact keeps_of_quiet rfl rfl tallied stands
  | skip => exact skip_keeps tallied stands
  | abandon =>
      obtain ⟨next, begun, _, unskipped⟩ := stands
      exact keeps_of_quiet rfl rfl tallied ⟨next, begun, fun listed => absurd listed unskipped⟩
  | enter _ begun => exact enter_keeps logs begun tallied stands
  | answer _ _ finished => exact answer_keeps logs finished tallied stands
  | judge conclusion =>
      obtain ⟨_, concludes⟩ := Turn.concludes conclusion
      exact judge_keeps concludes tallied stands

end RetryPolicy

namespace Traffic

variable {pipeline : Pipeline Service} {policy : RetryPolicy} {prompt : Prop}
  {options : RequestLogOptions} {traffic later : Traffic Service}

theorem Path.counts (logs : pipeline.lastMile.requestLog = some options)
    (path : Path pipeline policy prompt traffic later) (empty : traffic.sendings = []) :
    ∀ sending ∈ later.sendings, sending.Counts options policy.options.maxTries.toNat := by
  refine path.invariant (fun _ sending => sending.Counts options policy.options.maxTries.toNat)
    (fun _ _ _ => ?_) (fun _ sending _ _ moves counts => ?_) (fun _ _ _ _ _ counts => counts) empty
  · exact ⟨.start options, rfl, Nat.add_comm 1 _, rfl⟩
  · obtain ⟨tallied, stands⟩ := moves.keeps logs counts.tallied counts.stands
    exact ⟨tallied, stands⟩

end Traffic

end BlobTransfer
