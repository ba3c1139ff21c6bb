import CyberLion.DualResultJoin
import CyberLion.ProgramRely
import Mathlib.Data.Finset.Dedup

/-!
# Runs of dual evaluations

The first receipt of each provider stays.  The state of an evaluation follows its receipts as
long as no request is linked after both responses and no response is recorded for a request
that does not exist: a link sets the state without a look at the receipts, and a recording
does not look whether its update found a row.
-/

namespace CyberLion

namespace DualResultJoin

open PyLib

/-! ### Calls -/

inductive Call
  | create (input : CreateInput)
  | link (requestId : PyStr) (saasRequestId : Option PyStr) (stamp : PyStr)
  | record (input : ResponseInput)

def committed {α : Type} (db : Database) (outcome : Except PyError (Database × α)) : Database :=
  match outcome with
  | .ok (after, _) => after
  | .error _ => db

def Call.execute (db : Database) : Call → Database
  | .create input => committed db (createDual input db)
  | .link requestId saasRequestId stamp =>
    committed db (linkSaasRequest requestId saasRequestId stamp db)
  | .record input => committed db (recordResponse input db)

def emptyDatabase : Database :=
  ⟨[], []⟩

def runCalls (calls : List Call) : Database :=
  calls.foldl Call.execute emptyDatabase

/-! ### What holds of every run -/

def Answered (db : Database) (requestId provider : PyStr) : Prop :=
  ∃ row ∈ db.receipts, row.isFor requestId provider = true

structure Recorded (db : Database) : Prop where
  requests : (db.evaluations.map DualEvaluation.requestId).Nodup
  unique : (db.receipts.map fun row => (row.requestId, row.provider)).Nodup
  providers : ∀ row ∈ db.receipts, row.provider = localProvider ∨ row.provider = saasProvider

/-- Receipts belong to evaluations, whose states tell whether both providers answered. -/
structure Follows (db : Database) : Prop where
  owned : ∀ row ∈ db.receipts, ∃ evaluation ∈ db.evaluations,
    evaluation.requestId = row.requestId
  ready : ∀ evaluation ∈ db.evaluations, evaluation.state = .joinReady ↔
    Answered db evaluation.requestId localProvider ∧ Answered db evaluation.requestId saasProvider

variable {provider stamp : PyStr} {db : Database} {saasRequestId : Option PyStr}
  {rows : List DualEvaluation}

theorem isFor_iff {requestId : PyStr} {row : DualReceipt} :
    row.isFor requestId provider = true ↔ row.requestId = requestId ∧ row.provider = provider := by
  simp [DualReceipt.isFor]

theorem createDual_cases {input : CreateInput} {after : Database} {evaluation : DualEvaluation}
    (returned : createDual input db = .ok (after, evaluation)) :
    (∀ row ∈ db.evaluations, row.requestId ≠ input.requestId) ∧
      evaluation.requestId = input.requestId ∧ evaluation.state = .created ∧
      after.receipts = db.receipts ∧ after.evaluations = db.evaluations ++ [evaluation] := by
  simp only [createDual, bind_eq_ok, insertRow_eq_ok, pure_eq_ok, Prod.mk.injEq] at returned
  obtain ⟨_, -, contextDigest, -, currentnessDigest, -, _, -, evaluations, ⟨free, rfl⟩, rfl, rfl⟩ :=
    returned
  refine ⟨fun row member same => ?_, rfl, rfl, rfl, rfl⟩
  exact absurd same (of_decide_eq_false (free row member))

theorem linkSaasRequest_cases {requestId : PyStr} {after : Database}
    (returned : linkSaasRequest requestId saasRequestId stamp db = .ok (after, ())) :
    after.receipts = db.receipts ∧
      after.evaluations =
        updateEvaluation requestId (.linked saasRequestId stamp) db.evaluations := by
  simp only [linkSaasRequest, bind_eq_ok, pure_eq_ok, Prod.mk.injEq] at returned
  obtain ⟨_, -, _, -, rfl, -⟩ := returned
  exact ⟨rfl, rfl⟩

theorem insertReceipt_eq_ok {receipt : DualReceipt} {receipts after : List DualReceipt}
    (inserted : insertReceipt receipt receipts = .ok after) :
    (∀ row ∈ receipts, row.isFor receipt.requestId receipt.provider = false) ∧
      after = receipts ++ [receipt] := by
  unfold insertReceipt at inserted
  split at inserted
  · exact nomatch inserted
  · rename_i absent
    rw [List.find?_eq_none] at absent
    rw [insertRow_eq_ok] at inserted
    obtain ⟨-, rfl⟩ := inserted
    exact ⟨fun row member => Bool.eq_false_iff.mpr (absent row member), rfl⟩

theorem recordResponse_cases {input : ResponseInput} {after : Database} {receipt : DualReceipt}
    (returned : recordResponse input db = .ok (after, receipt)) :
    (input.provider = localProvider ∨ input.provider = saasProvider) ∧
      receipt.requestId = input.requestId ∧ receipt.provider = input.provider ∧
      (∀ row ∈ db.receipts, row.isFor input.requestId input.provider = false) ∧
      after.receipts = db.receipts ++ [receipt] ∧
      after.evaluations = updateEvaluation input.requestId
        (.moved (stateOf input.requestId (db.receipts ++ [receipt])) input.stamp)
        db.evaluations := by
  simp only [recordResponse, bind_eq_ok, raiseIf_eq_ok, pure_eq_ok, Prod.mk.injEq] at returned
  obtain ⟨_, known, _, -, digest, -, _, -, receipts, inserted, rfl, rfl⟩ := returned
  obtain ⟨first, rfl⟩ := insertReceipt_eq_ok inserted
  refine ⟨?_, rfl, rfl, first, rfl, rfl⟩
  tauto

theorem receipts_execute (db : Database) (call : Call) :
    db.receipts <+: (call.execute db).receipts := by
  cases call with
  | create input =>
    rw [Call.execute]
    cases returned : createDual input db with
    | error error => exact List.prefix_rfl
    | ok result =>
      obtain ⟨-, -, -, same, -⟩ := createDual_cases returned
      rw [committed, same]
  | link requestId saasRequestId stamp =>
    rw [Call.execute]
    cases returned : linkSaasRequest requestId saasRequestId stamp db with
    | error error => exact List.prefix_rfl
    | ok result =>
      rw [committed, (linkSaasRequest_cases returned).1]
  | record input =>
    rw [Call.execute]
    cases returned : recordResponse input db with
    | error error => exact List.prefix_rfl
    | ok result =>
      obtain ⟨-, -, -, -, same, -⟩ := recordResponse_cases returned
      rw [committed, same]
      exact List.prefix_append _ _

theorem map_requestId_updateEvaluation {requestId : PyStr}
    {change : DualEvaluation → DualEvaluation}
    (kept : ∀ row, (change row).requestId = row.requestId) (rows : List DualEvaluation) :
    (updateEvaluation requestId change rows).map DualEvaluation.requestId =
      rows.map DualEvaluation.requestId :=
  map_updateWhere DualEvaluation.requestId (fun row _ => kept row) rows

theorem recorded_execute (recorded : Recorded db) (call : Call) :
    Recorded (call.execute db) := by
  cases call with
  | create input =>
    rw [Call.execute]
    cases returned : createDual input db with
    | error error => exact recorded
    | ok result =>
      obtain ⟨fresh, sameId, -, sameReceipts, evaluations⟩ := createDual_cases returned
      refine ⟨?_, sameReceipts ▸ recorded.unique, sameReceipts ▸ recorded.providers⟩
      rw [committed, evaluations, List.map_append, List.map_singleton, sameId]
      apply List.nodup_append.mpr
      refine ⟨recorded.requests, List.nodup_singleton _, ?_⟩
      simp only [List.mem_map, List.mem_singleton]
      rintro _ ⟨row, member, rfl⟩ _ rfl
      exact fresh row member
  | link requestId saasRequestId stamp =>
    rw [Call.execute]
    cases returned : linkSaasRequest requestId saasRequestId stamp db with
    | error error => exact recorded
    | ok result =>
      obtain ⟨sameReceipts, evaluations⟩ := linkSaasRequest_cases returned
      refine ⟨?_, sameReceipts ▸ recorded.unique, sameReceipts ▸ recorded.providers⟩
      rw [committed, evaluations, map_requestId_updateEvaluation]
      · exact recorded.requests
      · exact fun _ => rfl
  | record input =>
    rw [Call.execute]
    cases returned : recordResponse input db with
    | error error => exact recorded
    | ok result =>
      obtain ⟨known, sameId, sameProvider, first, receipts, evaluations⟩ :=
        recordResponse_cases returned
      refine ⟨?_, ?_, ?_⟩
      · rw [committed, evaluations, map_requestId_updateEvaluation]
        · exact recorded.requests
        · exact fun _ => rfl
      · rw [committed, receipts, List.map_append, List.map_singleton, sameId, sameProvider]
        apply List.nodup_append.mpr
        refine ⟨recorded.unique, List.nodup_singleton _, ?_⟩
        simp only [List.mem_map, List.mem_singleton]
        rintro _ ⟨row, member, rfl⟩ _ rfl same
        obtain ⟨sameRequest, sameName⟩ := Prod.mk.inj same
        have matching := isFor_iff.mpr ⟨sameRequest, sameName⟩
        rw [first row member] at matching
        exact Bool.false_ne_true matching
      · rw [committed, receipts]
        simp only [List.forall_mem_append, List.forall_mem_singleton]
        exact ⟨recorded.providers, sameProvider ▸ known⟩

/-! ### States that follow the receipts -/

theorem localProvider_ne : localProvider ≠ saasProvider := by
  decide +kernel

theorem providerCount_eq_two_iff (recorded : Recorded db) (requestId : PyStr) :
    providerCount requestId db.receipts = 2 ↔
      Answered db requestId localProvider ∧ Answered db requestId saasProvider := by
  have answered : ∀ provider, Answered db requestId provider ↔
      provider ∈ (db.receipts.filter fun row => row.requestId = requestId).map
        DualReceipt.provider := by
    intro provider
    simp only [Answered, isFor_iff, List.mem_map, List.mem_filter, decide_eq_true_eq, and_assoc]
  have within : ((db.receipts.filter fun row => row.requestId = requestId).map
      DualReceipt.provider).toFinset ⊆ {localProvider, saasProvider} := by
    intro provider member
    rw [List.mem_toFinset, List.mem_map] at member
    obtain ⟨row, inRows, rfl⟩ := member
    have known := recorded.providers row (List.mem_of_mem_filter inRows)
    simpa using known
  have pair : ({localProvider, saasProvider} : Finset PyStr).card = 2 :=
    Finset.card_pair localProvider_ne
  rw [providerCount, ← List.card_toFinset, answered, answered]
  constructor
  · intro two
    have same := Finset.eq_of_subset_of_card_le within (by rw [pair, two])
    rw [← List.mem_toFinset, ← List.mem_toFinset, same]
    simp
  · rintro ⟨localMember, saasMember⟩
    have all : {localProvider, saasProvider} ⊆ ((db.receipts.filter fun row =>
        row.requestId = requestId).map DualReceipt.provider).toFinset := by
      rw [Finset.insert_subset_iff, Finset.singleton_subset_iff, List.mem_toFinset,
        List.mem_toFinset]
      exact ⟨localMember, saasMember⟩
    rw [Finset.Subset.antisymm within all, pair]

/-- A link comes before both responses, and a response is for an evaluation. -/
def Call.Fits (db : Database) : Call → Prop
  | .create _ => True
  | .link requestId _ _ =>
    ¬ (Answered db requestId localProvider ∧ Answered db requestId saasProvider)
  | .record input => ∃ evaluation ∈ db.evaluations, evaluation.requestId = input.requestId

def Call.Accepted (db : Database) : Call → Prop
  | .create input => returned (createDual input db) = true
  | .link requestId saasRequestId stamp =>
    returned (linkSaasRequest requestId saasRequestId stamp db) = true
  | .record input => returned (recordResponse input db) = true

theorem answered_congr {before after : Database} (same : after.receipts = before.receipts)
    (requestId provider : PyStr) :
    Answered after requestId provider ↔ Answered before requestId provider := by
  rw [Answered, Answered, same]

theorem mem_updateEvaluation {requestId : PyStr} {change : DualEvaluation → DualEvaluation}
    {row : DualEvaluation} :
    row ∈ updateEvaluation requestId change rows ↔
      (∃ old ∈ rows, old.requestId = requestId ∧ row = change old) ∨
        row ∈ rows ∧ row.requestId ≠ requestId := by
  rw [updateEvaluation, mem_updateWhere]
  constructor
  · rintro ⟨old, member, rfl⟩
    by_cases same : old.requestId = requestId
    · exact .inl ⟨old, member, same, by simp [same]⟩
    · right
      simp [same, member]
  · rintro (⟨old, member, same, rfl⟩ | ⟨member, different⟩)
    · exact ⟨old, member, by simp [same]⟩
    · exact ⟨row, member, by simp [different]⟩

theorem exists_requestId_updateEvaluation {requestId other : PyStr}
    {change : DualEvaluation → DualEvaluation}
    (kept : ∀ row, (change row).requestId = row.requestId) :
    (∃ row ∈ updateEvaluation requestId change rows, row.requestId = other) ↔
      ∃ row ∈ rows, row.requestId = other := by
  have same := congrArg (other ∈ ·) (@map_requestId_updateEvaluation requestId change kept rows)
  simpa only [List.mem_map] using same.to_iff

theorem follows_createDual {after : Database} {input : CreateInput} {evaluation : DualEvaluation}
    (follows : Follows db) (returned : createDual input db = .ok (after, evaluation)) :
    Follows after := by
  obtain ⟨fresh, sameId, created, receipts, evaluations⟩ := createDual_cases returned
  refine ⟨?_, ?_⟩
  · intro row member
    rw [receipts] at member
    obtain ⟨owner, inRows, same⟩ := follows.owned row member
    exact ⟨owner, by simp [evaluations, inRows], same⟩
  · intro row member
    simp only [answered_congr receipts]
    rw [evaluations, List.mem_append, List.mem_singleton] at member
    rcases member with old | rfl
    · exact follows.ready row old
    · rw [created]
      constructor
      · exact fun impossible => nomatch impossible
      · rintro ⟨⟨receipt, inReceipts, isFor⟩, -⟩
        obtain ⟨owner, inRows, same⟩ := follows.owned receipt inReceipts
        exact absurd (same.trans ((isFor_iff.mp isFor).1.trans sameId)) (fresh owner inRows)

theorem exists_requestId_linked {requestId other : PyStr} :
    (∃ row ∈ updateEvaluation requestId (.linked saasRequestId stamp) rows,
      row.requestId = other) ↔ ∃ row ∈ rows, row.requestId = other := by
  apply exists_requestId_updateEvaluation
  exact fun _ => rfl

theorem exists_requestId_moved {requestId other : PyStr} {state : EvaluationState} :
    (∃ row ∈ updateEvaluation requestId (.moved state stamp) rows, row.requestId = other) ↔
      ∃ row ∈ rows, row.requestId = other := by
  apply exists_requestId_updateEvaluation
  exact fun _ => rfl

theorem follows_link_iff {after : Database} {requestId : PyStr} (follows : Follows db)
    (returned : linkSaasRequest requestId saasRequestId stamp db = .ok (after, ())) :
    Follows after ↔
      ¬ (Answered db requestId localProvider ∧ Answered db requestId saasProvider) := by
  obtain ⟨receipts, evaluations⟩ := linkSaasRequest_cases returned
  constructor
  · rintro result ⟨⟨receipt, inReceipts, isFor⟩, saas⟩
    obtain ⟨owner, inRows, same⟩ := follows.owned receipt inReceipts
    have sameId := same.trans (isFor_iff.mp isFor).1
    have inAfter : owner.linked saasRequestId stamp ∈ after.evaluations := by
      rw [evaluations, mem_updateEvaluation]
      exact .inl ⟨owner, inRows, sameId, rfl⟩
    have ready := (result.ready _ inAfter).mpr
    simp only [answered_congr receipts, DualEvaluation.linked, sameId] at ready
    exact nomatch ready ⟨⟨receipt, inReceipts, isFor⟩, saas⟩
  · intro fits
    refine ⟨?_, ?_⟩
    · intro row member
      rw [receipts] at member
      rw [evaluations, exists_requestId_linked]
      exact follows.owned row member
    · intro row member
      simp only [answered_congr receipts]
      rw [evaluations, mem_updateEvaluation] at member
      rcases member with ⟨old, inRows, same, rfl⟩ | ⟨inRows, -⟩
      · simp only [DualEvaluation.linked, same]
        exact iff_of_false (fun impossible => nomatch impossible) fits
      · exact follows.ready row inRows

theorem follows_record_iff {after : Database} {input : ResponseInput} {receipt : DualReceipt}
    (recorded : Recorded db) (follows : Follows db)
    (returned : recordResponse input db = .ok (after, receipt)) :
    Follows after ↔ ∃ evaluation ∈ db.evaluations, evaluation.requestId = input.requestId := by
  obtain ⟨-, sameId, -, -, receipts, evaluations⟩ := recordResponse_cases returned
  have afterRecorded : Recorded after := by
    have executed := recorded_execute recorded (.record input)
    rwa [Call.execute, returned, committed] at executed
  constructor
  · intro result
    have owned := result.owned receipt (by simp [receipts])
    rwa [evaluations, exists_requestId_moved, sameId] at owned
  · intro fits
    refine ⟨?_, ?_⟩
    · intro row member
      rw [receipts, List.mem_append, List.mem_singleton] at member
      rw [evaluations, exists_requestId_moved]
      rcases member with old | rfl
      · exact follows.owned row old
      · rw [sameId]
        exact fits
    · intro row member
      rw [evaluations, mem_updateEvaluation] at member
      rcases member with ⟨old, inRows, same, rfl⟩ | ⟨inRows, different⟩
      · simp only [DualEvaluation.moved, same]
        rw [← providerCount_eq_two_iff afterRecorded, receipts, stateOf]
        split <;> simp_all
      · have others : ∀ provider, Answered after row.requestId provider ↔
            Answered db row.requestId provider := by
          intro provider
          simp only [Answered, receipts, List.mem_append, List.mem_singleton, isFor_iff]
          constructor
          · rintro ⟨found, old | rfl, isFor⟩
            · exact ⟨found, old, isFor⟩
            · exact absurd (isFor.1.symm.trans sameId) different
          · rintro ⟨found, old, isFor⟩
            exact ⟨found, .inl old, isFor⟩
        rw [others, others]
        exact follows.ready row inRows

theorem follows_execute_iff {call : Call} (recorded : Recorded db) (follows : Follows db)
    (accepted : call.Accepted db) :
    Follows (call.execute db) ↔ call.Fits db := by
  cases call with
  | create input =>
    rw [Call.execute, Call.Fits]
    cases isReturned : createDual input db with
    | error error =>
      rw [Call.Accepted, isReturned] at accepted
      exact absurd accepted (by simp [returned])
    | ok result => exact iff_true_intro (follows_createDual follows isReturned)
  | link requestId saasRequestId stamp =>
    rw [Call.execute, Call.Fits]
    cases isReturned : linkSaasRequest requestId saasRequestId stamp db with
    | error error =>
      rw [Call.Accepted, isReturned] at accepted
      exact absurd accepted (by simp [returned])
    | ok result => exact follows_link_iff follows isReturned
  | record input =>
    rw [Call.execute, Call.Fits]
    cases isReturned : recordResponse input db with
    | error error =>
      rw [Call.Accepted, isReturned] at accepted
      exact absurd accepted (by simp [returned])
    | ok result => exact follows_record_iff recorded follows isReturned

theorem execute_of_not_accepted {call : Call} (refused : ¬ call.Accepted db) :
    call.execute db = db := by
  cases call with
  | create input =>
    rw [Call.execute]
    cases isReturned : createDual input db with
    | error error => rfl
    | ok result => exact absurd (by rw [Call.Accepted, isReturned]; rfl) refused
  | link requestId saasRequestId stamp =>
    rw [Call.execute]
    cases isReturned : linkSaasRequest requestId saasRequestId stamp db with
    | error error => rfl
    | ok result => exact absurd (by rw [Call.Accepted, isReturned]; rfl) refused
  | record input =>
    rw [Call.execute]
    cases isReturned : recordResponse input db with
    | error error => rfl
    | ok result => exact absurd (by rw [Call.Accepted, isReturned]; rfl) refused

/-! ### The join -/

/-- The join answers when the evaluation is ready, with the two texts that are recorded, and
waits otherwise. -/
def JoinsExactly (db : Database) : Prop :=
  ∀ evaluation ∈ db.evaluations,
    (evaluation.state = .joinReady → ∃ localRow ∈ db.receipts, ∃ saasRow ∈ db.receipts,
      localRow.isFor evaluation.requestId localProvider = true ∧
        saasRow.isFor evaluation.requestId saasProvider = true ∧
        joinResult evaluation.requestId db = .ok (joinedReply evaluation localRow saasRow)) ∧
    (evaluation.state ≠ .joinReady → ∃ flags,
      joinResult evaluation.requestId db = .ok (.waitingResponses evaluation.requestId flags))

theorem receiptOf_eq_some {requestId : PyStr} {row : DualReceipt}
    (last : receiptOf requestId provider db = some row) :
    row ∈ db.receipts ∧ row.isFor requestId provider = true :=
  List.mem_filter.mp (List.mem_of_getLast? last)

theorem receiptOf_isSome_iff {requestId : PyStr} :
    (receiptOf requestId provider db).isSome = true ↔ Answered db requestId provider := by
  rw [receiptOf, List.getLast?_isSome, Ne, List.filter_eq_nil_iff, Answered]
  push Not
  rfl

theorem joins_exactly (recorded : Recorded db) (follows : Follows db) :
    JoinsExactly db := by
  intro evaluation member
  have ready := follows.ready evaluation member
  rw [← receiptOf_isSome_iff, ← receiptOf_isSome_iff] at ready
  simp only [joinResult, find?_of_nodup_map recorded.requests member]
  cases localFound : receiptOf evaluation.requestId localProvider db with
  | none =>
    simp only [localFound] at ready
    refine ⟨fun isReady => ?_, fun _ => ⟨_, rfl⟩⟩
    exact absurd (ready.mp isReady).1 (by simp)
  | some localRow =>
    cases saasFound : receiptOf evaluation.requestId saasProvider db with
    | none =>
      simp only [saasFound] at ready
      refine ⟨fun isReady => ?_, fun _ => ⟨_, rfl⟩⟩
      exact absurd (ready.mp isReady).2 (by simp)
    | some saasRow =>
      obtain ⟨localMember, isLocal⟩ := receiptOf_eq_some localFound
      obtain ⟨saasMember, isSaas⟩ := receiptOf_eq_some saasFound
      rw [localFound, saasFound] at ready
      refine ⟨fun _ => ⟨localRow, localMember, saasRow, saasMember, isLocal, isSaas, rfl⟩, ?_⟩
      exact fun waits => absurd (ready.mpr ⟨rfl, rfl⟩) waits

theorem receipts_foldl (db : Database) (calls : List Call) :
    db.receipts <+: (calls.foldl Call.execute db).receipts := by
  induction calls generalizing db with
  | nil => exact List.prefix_rfl
  | cons call calls ih => exact (receipts_execute db call).trans (ih (call.execute db))

theorem recorded_emptyDatabase : Recorded emptyDatabase :=
  ⟨List.nodup_nil, List.nodup_nil, fun _ member => absurd member List.not_mem_nil⟩

theorem follows_emptyDatabase : Follows emptyDatabase :=
  ⟨fun _ member => absurd member List.not_mem_nil, fun _ member => absurd member List.not_mem_nil⟩

/-- After fitting calls, each request has at most one receipt of a provider, which stays
whatever is called later, states tell the receipts, and joins go by the states. -/
theorem dual_join {calls : List Call}
    (fits : EachMeets Call.execute Call.Fits emptyDatabase calls) (later : List Call) :
    Recorded (runCalls calls) ∧ Follows (runCalls calls) ∧ JoinsExactly (runCalls calls) ∧
      (runCalls calls).receipts <+: (later.foldl Call.execute (runCalls calls)).receipts := by
  have step : ∀ db call, Recorded db ∧ Follows db → Call.Fits db call →
      Recorded (Call.execute db call) ∧ Follows (Call.execute db call) := by
    intro db call ⟨recorded, follows⟩ fitting
    refine ⟨recorded_execute recorded call, ?_⟩
    by_cases accepted : call.Accepted db
    · exact (follows_execute_iff recorded follows accepted).mpr fitting
    · rwa [execute_of_not_accepted accepted]
  obtain ⟨recorded, follows⟩ :=
    invariant_of_eachMeets step ⟨recorded_emptyDatabase, follows_emptyDatabase⟩ fits
  exact ⟨recorded, follows, joins_exactly recorded follows, receipts_foldl _ later⟩

/-! ### A late link -/

instance (db : Database) (requestId provider : PyStr) :
    Decidable (Answered db requestId provider) :=
  inferInstanceAs (Decidable (∃ row ∈ db.receipts, row.isFor requestId provider = true))

instance (db : Database) : (call : Call) → Decidable (call.Fits db)
  | .create _ => inferInstanceAs (Decidable True)
  | .link requestId _ _ => inferInstanceAs (Decidable
      (¬ (Answered db requestId localProvider ∧ Answered db requestId saasProvider)))
  | .record input => inferInstanceAs
      (Decidable (∃ evaluation ∈ db.evaluations, evaluation.requestId = input.requestId))

def createCall : Call :=
  .create ⟨py "dual-1", py "m", none, py "why", .null, py "t1"⟩

def linkCall : Call :=
  .link (py "dual-1") (some (py "saas-1")) (py "t2")

def recordCall (receiptId requestId provider : PyStr) : Call :=
  .record ⟨receiptId, requestId, provider, py "so", none, py "NONE", py "t3"⟩

def linkedCalls : List Call :=
  [createCall, recordCall (py "r1") (py "dual-1") saasProvider, linkCall,
    recordCall (py "r2") (py "dual-1") localProvider]

theorem fits_linkedCalls : EachMeets Call.execute Call.Fits emptyDatabase linkedCalls := by
  simp only [linkedCalls, eachMeets_cons, eachMeets_nil]
  decide +kernel

theorem dual_join_linkedCalls :
    Recorded (runCalls linkedCalls) ∧ Follows (runCalls linkedCalls) ∧
      JoinsExactly (runCalls linkedCalls) ∧ (runCalls linkedCalls).receipts <+:
        ([linkCall].foldl Call.execute (runCalls linkedCalls)).receipts :=
  dual_join fits_linkedCalls [linkCall]

def joinsEarly (db : Database) : Bool :=
  db.evaluations.any fun evaluation => evaluation.state ≠ .joinReady &&
    match joinResult evaluation.requestId db with
    | .ok (.joined ..) => true
    | _ => false

theorem not_joinsExactly_of_joinsEarly (early : joinsEarly db = true) :
    ¬ JoinsExactly db := by
  intro exactly
  rw [joinsEarly, List.any_eq_true] at early
  obtain ⟨evaluation, member, answers⟩ := early
  rw [Bool.and_eq_true, decide_eq_true_eq] at answers
  obtain ⟨flags, waits⟩ := (exactly evaluation member).2 answers.1
  rw [waits] at answers
  exact Bool.false_ne_true answers.2

/-- A link after both responses takes the evaluation back, and the response to a request that
nobody made is kept. -/
theorem late_link_and_orphan :
    ¬ (∀ calls, Follows (runCalls calls)) ∧ ¬ (∀ calls, JoinsExactly (runCalls calls)) ∧
      ¬ Follows (runCalls [recordCall (py "r1") (py "dual-1") saasProvider]) := by
  refine ⟨fun follows => ?_, fun joins => ?_, fun follows => ?_⟩
  · have ready := (follows (linkedCalls ++ [linkCall])).ready
    revert ready
    decide +kernel
  · exact not_joinsExactly_of_joinsEarly (by decide +kernel) (joins (linkedCalls ++ [linkCall]))
  · have owned := follows.owned
    revert owned
    decide +kernel

end DualResultJoin

end CyberLion
