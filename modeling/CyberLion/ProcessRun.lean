import CyberLion.ProcessStep

/-!
# Runs of a process

A run starts from a valid context without attempts and interleaves calls of
`apply_transition_outcome` with updates of the evaluation inputs by the
caller.  A call that raises leaves the context as it was.  The attempt history
of every transition keeps one shape along every run.
-/

namespace CyberLion

open PyLib ProcessIR TransitionSelector

/-! ### Runs -/

/-- A valid context without attempts and without completed transitions. -/
structure StartContext (process : ValidProcess) where
  context : ProcessContextSnapshot
  valid : context.validateFor process.ir = .ok context
  noAttempts : context.attemptRecords = []
  noneCompleted : context.completedTransitions = []

/-- The fields of a context that a caller may replace between two steps. -/
structure ContextUpdate where
  satisfiedDependencies : List PyStr
  satisfiedGuards : List PyStr
  satisfiedEvidenceRequirements : List PyStr
  currentnessBases : List CurrentnessBasis
  verifiedAuthorityContextRefs : List PyStr
  observedAt : PyStr

def ContextUpdate.assign (update : ContextUpdate) (context : ProcessContextSnapshot) :
    ProcessContextSnapshot :=
  { context with
    satisfiedDependencies := update.satisfiedDependencies
    satisfiedGuards := update.satisfiedGuards
    satisfiedEvidenceRequirements := update.satisfiedEvidenceRequirements
    currentnessBases := update.currentnessBases
    verifiedAuthorityContextRefs := update.verifiedAuthorityContextRefs
    observedAt := update.observedAt }

inductive ProcessCall (Evidence : Type)
  | apply (decisionRecord : TransitionDecisionRecord) (outcome : ProcessTransitionOutcome)
      (evidence : Option Evidence)
  | update (change : ContextUpdate)

section Run

variable {Evidence : Type} (validateEvidence : EvidenceValidator Evidence)

/-- The context after one call; a call that raises changes nothing, and an
update counts only when the context stays valid. -/
def ProcessCall.perform (ir : CanonicalProcessIR) (context : ProcessContextSnapshot) :
    ProcessCall Evidence → ProcessContextSnapshot
  | .apply decisionRecord outcome evidence =>
    match applyTransitionOutcome validateEvidence ir context decisionRecord outcome
        evidence with
    | .ok next => next
    | .error _ => context
  | .update change =>
    match (change.assign context).validateFor ir with
    | .ok next => next
    | .error _ => context

def processRun (ir : CanonicalProcessIR) (context : ProcessContextSnapshot)
    (calls : List (ProcessCall Evidence)) : ProcessContextSnapshot :=
  calls.foldl (ProcessCall.perform validateEvidence ir) context

end Run

/-! ### The history of one transition -/

def attemptsOf (context : ProcessContextSnapshot) (transitionId : PyStr) :
    List AttemptRecord :=
  context.attemptRecords.filter fun record => record.transitionId = transitionId

/-- The attempt numbers `1, ..., count`. -/
def attemptNumbers (count : Int) : List Int :=
  (List.range count.toNat).map fun index : Nat => (index : Int) + 1

/-- The shape that the history of a transition keeps along every run. -/
structure AttemptHistory (context : ProcessContextSnapshot) (transition : Transition) :
    Prop where
  /-- The records carry the numbers from one to the count, in order. -/
  numbers : (attemptsOf context transition.transitionId).map AttemptRecord.attemptNumber =
    attemptNumbers (attemptCount context transition.transitionId)
  bounded : attemptCount context transition.transitionId ≤
    transition.retryPolicy.maxAttempts + 1
  /-- A completed transition passed with its last record and with no other. -/
  completed : transition.transitionId ∈ context.completedTransitions →
    ∃ earlier last, attemptsOf context transition.transitionId = earlier ++ [last] ∧
      last.outcome = .pass ∧ ∀ record ∈ earlier, record.outcome ≠ .pass
  unfinished : transition.transitionId ∉ context.completedTransitions →
    ∀ record ∈ attemptsOf context transition.transitionId, record.outcome ≠ .pass
  /-- Only the last record of a non-idempotent transition may be unreconciled. -/
  reconciled : transition.idempotencyClass = .nonIdempotent →
    ∀ record ∈ attemptsOf context transition.transitionId,
      record.attemptNumber < attemptCount context transition.transitionId →
      record.reconciliationRef ≠ []

theorem AttemptHistory.congr {context next : ProcessContextSnapshot}
    {transition : Transition} (history : AttemptHistory context transition)
    (sameCount : attemptCount next transition.transitionId =
      attemptCount context transition.transitionId)
    (sameRecords : attemptsOf next transition.transitionId =
      attemptsOf context transition.transitionId)
    (sameCompletion : transition.transitionId ∈ next.completedTransitions ↔
      transition.transitionId ∈ context.completedTransitions) :
    AttemptHistory next transition := by
  constructor
  · rw [sameRecords, sameCount]
    exact history.numbers
  · rw [sameCount]
    exact history.bounded
  · rw [sameCompletion, sameRecords]
    exact history.completed
  · rw [sameCompletion, sameRecords]
    exact history.unfinished
  · rw [sameRecords, sameCount]
    exact history.reconciled

theorem AttemptHistory.attemptNumber_pos {context : ProcessContextSnapshot}
    {transition : Transition} (history : AttemptHistory context transition)
    {record : AttemptRecord}
    (member : record ∈ attemptsOf context transition.transitionId) :
    0 < record.attemptNumber := by
  have numbered := List.mem_map_of_mem (f := AttemptRecord.attemptNumber) member
  rw [history.numbers, attemptNumbers, List.mem_map] at numbered
  obtain ⟨index, -, same⟩ := numbered
  omega

theorem AttemptHistory.attemptNumber_le {context : ProcessContextSnapshot}
    {transition : Transition} (history : AttemptHistory context transition)
    {record : AttemptRecord}
    (member : record ∈ attemptsOf context transition.transitionId) :
    record.attemptNumber ≤ attemptCount context transition.transitionId := by
  have numbered := List.mem_map_of_mem (f := AttemptRecord.attemptNumber) member
  rw [history.numbers, attemptNumbers, List.mem_map] at numbered
  obtain ⟨index, inRange, same⟩ := numbered
  have := List.mem_range.mp inRange
  omega

theorem attemptNumbers_succ {count : Int} (nonnegative : 0 ≤ count) :
    attemptNumbers (count + 1) = attemptNumbers count ++ [count + 1] := by
  have split : (count + 1).toNat = count.toNat + 1 := by omega
  rw [attemptNumbers, split, List.range_succ, List.map_append, attemptNumbers]
  simp [Int.toNat_of_nonneg nonnegative]

/-! ### The effect of one step -/

section Step

variable {context : ProcessContextSnapshot} {transition : Transition}
  {outcome : ProcessTransitionOutcome} {record : AttemptRecord}

theorem attemptCount_outcomeContext (control : ProcessControl) (record : AttemptRecord)
    (distinct : (context.attemptCounts.map Prod.fst).Nodup)
    (sameId : outcome.transitionId = transition.transitionId) (transitionId : PyStr) :
    attemptCount (outcomeContext context transition outcome control record) transitionId =
      if transitionId = transition.transitionId then
        attemptCount context transition.transitionId + 1
      else attemptCount context transitionId := by
  have sorted := List.mergeSort_perm
    (dictSet outcome.transitionId (attemptCount context transition.transitionId + 1)
      context.attemptCounts) fun first second => decide (first.1 ≤ second.1)
  have read := lookup_eq_of_perm sorted.symm (nodup_dictSet _ _ distinct) transitionId
  rw [attemptCount, outcomeContext]
  dsimp only
  rw [sortCounts, ← read]
  split
  · rename_i same
    rw [sameId, same, lookup_dictSet_self, Option.getD_some]
  · rename_i differ
    rw [sameId, lookup_dictSet_of_ne differ, attemptCount]

theorem attemptsOf_outcomeContext (control : ProcessControl)
    (appended : AppendedRecord context transition outcome record) (transitionId : PyStr) :
    attemptsOf (outcomeContext context transition outcome control record) transitionId =
      attemptsOf context transitionId ++
        if transitionId = transition.transitionId then [record] else [] := by
  simp only [attemptsOf, outcomeContext, List.filter_append, List.filter_cons,
    List.filter_nil, appended.transitionId, decide_eq_true_eq,
    eq_comm (a := transition.transitionId)]

theorem mem_completedTransitions_outcomeContext (context : ProcessContextSnapshot)
    (control : ProcessControl) (record : AttemptRecord)
    (sameId : outcome.transitionId = transition.transitionId) (transitionId : PyStr) :
    transitionId ∈ (outcomeContext context transition outcome control
        record).completedTransitions ↔
      transitionId ∈ context.completedTransitions ∨
        (outcome.outcome = .pass ∧ transitionId = transition.transitionId) := by
  rw [outcomeContext]
  dsimp only
  rw [sameId]
  split
  · rename_i fresh
    simp [fresh.1]
  · rename_i kept
    constructor
    · exact .inl
    · rintro (member | ⟨passed, rfl⟩)
      · exact member
      · by_contra absent
        exact kept ⟨passed, absent⟩

theorem reconciliationRef_ne_nil_of_retryReconciled
    (reconciled : retryReconciled transition context = true)
    (nonIdempotent : transition.idempotencyClass = .nonIdempotent)
    {prior : AttemptRecord} (member : prior ∈ attemptsOf context transition.transitionId)
    (isLast : prior.attemptNumber = attemptCount context transition.transitionId)
    (started : attemptCount context transition.transitionId ≠ 0) :
    prior.reconciliationRef ≠ [] := by
  unfold retryReconciled at reconciled
  simp only [started, if_false, nonIdempotent, ne_eq, not_true_eq_false] at reconciled
  split at reconciled
  · simp at reconciled
  · split at reconciled
    · rename_i only shape
      have priorMem : prior ∈ context.attemptRecords.filter fun record =>
          record.transitionId = transition.transitionId ∧
            record.attemptNumber = attemptCount context transition.transitionId := by
        obtain ⟨inRecords, hasId⟩ := List.mem_filter.mp member
        exact List.mem_filter.mpr ⟨inRecords, by simpa [isLast] using hasId⟩
      rw [shape, List.mem_singleton] at priorMem
      rw [priorMem]
      simpa using reconciled
    · simp at reconciled

end Step

/-! ### The invariant of runs -/

/-- A valid context in which every transition has a regular history. -/
structure Regular (process : ValidProcess) (context : ProcessContextSnapshot) : Prop where
  valid : context.validateFor process.ir = .ok context
  history : ∀ transition ∈ process.model.transitions, AttemptHistory context transition

theorem ValidProcess.transitionIds_nodup (process : ValidProcess) :
    (process.model.transitions.map Transition.transitionId).Nodup :=
  (modelParts_of_validateProcessIr process.valid.checked).transitionIds_nodup

theorem attemptCount_eq_zero {context : ProcessContextSnapshot}
    (valid : AttemptsValid context) (noAttempts : context.attemptRecords = [])
    (transitionId : PyStr) : attemptCount context transitionId = 0 := by
  rw [attemptCount]
  cases found : context.attemptCounts.lookup transitionId with
  | none => rfl
  | some count =>
    have agree := valid.agree
    rw [noAttempts, ProcessContextSnapshot.countsMatch, Bool.and_eq_true,
      List.all_eq_true] at agree
    have zero := agree.1 _ (mem_of_lookup found)
    simpa [ProcessContextSnapshot.recordMax, eq_comm] using zero

theorem StartContext.regular {process : ValidProcess} (start : StartContext process) :
    Regular process start.context := by
  refine ⟨start.valid, fun transition member => ?_⟩
  have none : attemptsOf start.context transition.transitionId = [] := by
    rw [attemptsOf, start.noAttempts, List.filter_nil]
  have zero := attemptCount_eq_zero (attemptsValid_of_validateFor start.valid).2
    start.noAttempts transition.transitionId
  have budget : 0 ≤ transition.retryPolicy.maxAttempts :=
    (modelParts_of_validateProcessIr process.valid.checked).maxAttempts_nonneg member
  constructor
  · rw [none, zero]
    rfl
  · omega
  · simp [start.noneCompleted]
  · simp [none]
  · simp [none]

theorem AttemptHistory.step {context : ProcessContextSnapshot} {model : Model}
    {transition : Transition} {outcome : ProcessTransitionOutcome}
    {control : ProcessControl} {record : AttemptRecord}
    (history : AttemptHistory context transition) (valid : AttemptsValid context)
    (selectable : Selectable model context transition)
    (sameId : outcome.transitionId = transition.transitionId)
    (appended : AppendedRecord context transition outcome record) :
    AttemptHistory (outcomeContext context transition outcome control record)
      transition := by
  obtain ⟨notCompleted, withinBudget, retried⟩ := screen_eq_legal selectable.legal
  have nonnegative := attemptCount_nonneg valid transition.transitionId
  have count := attemptCount_outcomeContext control record valid.distinct sameId
    transition.transitionId
  have records := attemptsOf_outcomeContext control appended transition.transitionId
  have completion := mem_completedTransitions_outcomeContext context control record sameId
    transition.transitionId
  rw [if_pos rfl] at count records
  simp only [notCompleted, false_or, and_true] at completion
  have noPass := history.unfinished notCompleted
  constructor
  · rw [records, count, List.map_append, history.numbers,
      attemptNumbers_succ nonnegative, List.map_singleton, appended.attemptNumber]
  · omega
  · intro completed
    refine ⟨_, record, records, appended.label.trans (completion.mp completed), noPass⟩
  · intro unfinished other member
    rw [records, List.mem_append, List.mem_singleton] at member
    rcases member with member | rfl
    · exact noPass other member
    · intro passed
      exact unfinished (completion.mpr (appended.label.symm.trans passed))
  · intro nonIdempotent other member before
    rw [records, List.mem_append, List.mem_singleton] at member
    rcases member with member | rfl
    · by_cases isLast : other.attemptNumber = attemptCount context transition.transitionId
      · refine reconciliationRef_ne_nil_of_retryReconciled retried nonIdempotent member
          isLast ?_
        rw [← isLast]
        have positive := history.attemptNumber_pos member
        omega
      · exact history.reconciled nonIdempotent other member (by omega)
    · rw [appended.attemptNumber] at before
      omega

section Run

variable {Evidence : Type} (validateEvidence : EvidenceValidator Evidence)
  {process : ValidProcess} {context : ProcessContextSnapshot}

theorem Regular.perform (regular : Regular process context)
    (call : ProcessCall Evidence) :
    Regular process (call.perform validateEvidence process.ir context) := by
  cases call with
  | apply decisionRecord outcome evidence =>
    rw [ProcessCall.perform]
    split
    · rename_i next applied
      obtain ⟨transition, control, record, selectable, sameId, appended, rfl, -,
        nextValid⟩ := exists_step_of_applyTransitionOutcome
          process.valid.asModel_eq applied
      refine ⟨nextValid, fun other member => ?_⟩
      have valid := (attemptsValid_of_validateFor regular.valid).2
      have transitionMem := List.mem_of_find?_eq_some selectable.found
      by_cases same : other.transitionId = transition.transitionId
      · obtain rfl : other = transition :=
          List.inj_on_of_nodup_map process.transitionIds_nodup member transitionMem same
        exact (regular.history _ member).step valid selectable sameId appended
      · refine (regular.history other member).congr ?_ ?_ ?_
        · rw [attemptCount_outcomeContext control record valid.distinct sameId, if_neg same]
        · rw [attemptsOf_outcomeContext control appended, if_neg same, List.append_nil]
        · rw [mem_completedTransitions_outcomeContext context control record sameId]
          simp [same]
    · exact regular
  | update change =>
    rw [ProcessCall.perform]
    split
    · rename_i next validated
      obtain ⟨rfl, -⟩ := attemptsValid_of_validateFor validated
      exact ⟨validated, fun transition member =>
        (regular.history transition member).congr rfl rfl Iff.rfl⟩
    · exact regular

theorem Regular.processRun (regular : Regular process context)
    (calls : List (ProcessCall Evidence)) :
    Regular process (processRun validateEvidence process.ir context calls) := by
  induction calls generalizing context with
  | nil => exact regular
  | cons call calls ih => exact ih (regular.perform validateEvidence call)

def Halted (model : Model) (context : ProcessContextSnapshot) : Prop :=
  context.processControl ≠ .active ∨
    context.processState ∈ model.terminationPolicy.terminalStates

theorem Halted.applyTransitionOutcome_ne_ok (halted : Halted process.model context)
    (decisionRecord : TransitionDecisionRecord) (outcome : ProcessTransitionOutcome)
    (evidence : Option Evidence) (next : ProcessContextSnapshot) :
    applyTransitionOutcome validateEvidence process.ir context decisionRecord outcome
      evidence ≠ .ok next := by
  intro applied
  obtain ⟨transition, -, -, selectable, -⟩ := exists_step_of_applyTransitionOutcome
    process.valid.asModel_eq applied
  rcases halted with inactive | terminal
  · exact inactive selectable.active
  · exact selectable.notTerminal terminal

theorem Halted.perform (halted : Halted process.model context)
    (call : ProcessCall Evidence) :
    Halted process.model (call.perform validateEvidence process.ir context) ∧
      (call.perform validateEvidence process.ir context).attemptRecords =
        context.attemptRecords := by
  cases call with
  | apply decisionRecord outcome evidence =>
    rw [ProcessCall.perform]
    split
    · rename_i next applied
      exact absurd applied (halted.applyTransitionOutcome_ne_ok validateEvidence _ _ _ _)
    · exact ⟨halted, rfl⟩
  | update change =>
    rw [ProcessCall.perform]
    split
    · rename_i next validated
      obtain ⟨rfl, -⟩ := attemptsValid_of_validateFor validated
      exact ⟨halted, rfl⟩
    · exact ⟨halted, rfl⟩

theorem Halted.processRun (halted : Halted process.model context)
    (calls : List (ProcessCall Evidence)) :
    Halted process.model (processRun validateEvidence process.ir context calls) ∧
      (processRun validateEvidence process.ir context calls).attemptRecords =
        context.attemptRecords := by
  induction calls generalizing context with
  | nil => exact ⟨halted, rfl⟩
  | cons call calls ih =>
    obtain ⟨stillHalted, sameRecords⟩ := halted.perform validateEvidence call
    obtain ⟨finallyHalted, finalRecords⟩ := ih stillHalted
    exact ⟨finallyHalted, finalRecords.trans sameRecords⟩

/-- Along every run from a fresh context the attempts of each transition are
numbered from one without gaps and within the retry budget; a transition is
completed exactly when one record passes, which is then its only pass and its
last record; a non-idempotent retry follows a reconciled record; the selector
never returns a completed transition; and a halted process takes no further
step. -/
theorem processRun_attempt_histories (start : StartContext process)
    (calls : List (ProcessCall Evidence)) :
    let reached := processRun validateEvidence process.ir start.context calls
    (∀ transition ∈ process.model.transitions,
      let attempts := attemptsOf reached transition.transitionId
      let count := attemptCount reached transition.transitionId
      (attempts.map AttemptRecord.attemptNumber = attemptNumbers count ∧
        count ≤ transition.retryPolicy.maxAttempts + 1) ∧
      ((transition.transitionId ∈ reached.completedTransitions ↔
          ∃ record ∈ attempts, record.outcome = .pass) ∧
        (transition.transitionId ∈ reached.completedTransitions →
          ∃ earlier last, attempts = earlier ++ [last] ∧ last.outcome = .pass ∧
            ∀ record ∈ earlier, record.outcome ≠ .pass)) ∧
      (transition.idempotencyClass = .nonIdempotent →
        ∀ record ∈ attempts, ∀ retry ∈ attempts,
          retry.attemptNumber = record.attemptNumber + 1 →
            record.reconciliationRef ≠ [])) ∧
    (∀ decided, select process.ir reached = .ok decided → decided.decision = .selected →
      decided.transitionId ∉ reached.completedTransitions) ∧
    (Halted process.model reached → ∀ more : List (ProcessCall Evidence),
      let later := processRun validateEvidence process.ir start.context (calls ++ more)
      later.attemptRecords = reached.attemptRecords ∧
        ∀ decisionRecord outcome evidence next,
          applyTransitionOutcome validateEvidence process.ir later decisionRecord outcome
            evidence ≠ .ok next) := by
  intro reached
  have regular : Regular process reached := start.regular.processRun validateEvidence calls
  refine ⟨fun transition member => ?_, fun decided chosen selected => ?_,
    fun halted more => ?_⟩
  · have history := regular.history transition member
    refine ⟨⟨history.numbers, history.bounded⟩, ⟨⟨?_, ?_⟩, history.completed⟩, ?_⟩
    · intro completed
      obtain ⟨earlier, last, shape, passed, -⟩ := history.completed completed
      exact ⟨last, by simp [shape], passed⟩
    · rintro ⟨record, recordMem, passed⟩
      by_contra unfinished
      exact history.unfinished unfinished record recordMem passed
    · intro nonIdempotent record recordMem retry retryMem next
      have bound := history.attemptNumber_le retryMem
      exact history.reconciled nonIdempotent record recordMem (by omega)
  · obtain ⟨transition, selectable, same⟩ :=
      selectable_of_select process.valid.asModel_eq chosen selected
    rw [same]
    exact (screen_eq_legal selectable.legal).1
  · have split : CyberLion.processRun validateEvidence process.ir start.context
        (calls ++ more) = CyberLion.processRun validateEvidence process.ir reached more :=
      List.foldl_append ..
    obtain ⟨stillHalted, sameRecords⟩ := halted.processRun validateEvidence more
    rw [split]
    exact ⟨sameRecords, stillHalted.applyTransitionOutcome_ne_ok validateEvidence⟩

end Run

end CyberLion
