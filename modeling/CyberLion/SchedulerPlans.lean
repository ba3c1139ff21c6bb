import CyberLion.SchedulerAssignments
import CyberLion.Sha256Evaluation

/-!
# Generic plans and their receipts

A receipt of an action is recorded once for a plan, with the digest of its action, and takes the
plan to `PASS` or `FAILED`.  `update_generic_plan_state` knows nothing of receipts: the plan keeps
what the receipt says as long as that is not called for it.
-/

namespace CyberLion

namespace GlobalScheduler

open PyLib OperatorControl

/-- A row of `mission_generic_action_receipts`. -/
structure ActionReceiptRow where
  receiptId : PyStr
  planId : PyStr
  missionId : PyStr
  phaseId : PyStr
  actionIrDigest : PyStr
  evidenceDigest : PyStr
  authorityEffect : PyStr
  status : PyStr
  observedAt : PyStr

def genericExecutorStates : List PyStr :=
  [py "PLANNING", py "CAPABILITY_RESOLUTION", py "WAITING_AUTHORITY", py "WAITING_CURRENTNESS",
    py "READY_TO_EXECUTE", py "EXECUTING", py "VALIDATING", py "PASS", py "BLOCKED", py "FAILED"]

def checkPlanState (state : PyStr) : Except PyError Unit :=
  raiseIf (state ∉ genericExecutorStates) (valueError (py "generic executor state"))

def isDict : Json → Bool
  | .obj _ => true
  | _ => false

def isList : Json → Bool
  | .arr _ => true
  | _ => false

/-- The arguments of `put_generic_phase_plan`. -/
structure PlanDefinition where
  missionId : PyStr
  phaseId : PyStr
  planningAssignmentId : PyStr
  planningReceiptId : PyStr
  planningResultDigest : PyStr
  planningPayloadState : PyStr
  state : PyStr
  capability : PyStr
  target : PyStr
  operation : PyStr
  requiredInputs : Json
  expectedOutput : Json
  authorityClass : PyStr
  currentnessRequirements : Json
  evidenceRequirements : Json
  rollbackClass : PyStr
  dependencies : Json
  actionIr : Json
  actionIrDigest : PyStr
  executorId : Option PyStr

/-- A row of `mission_generic_phase_plans`: what it was put with, and the columns that change. -/
structure PlanRow where
  planId : PyStr
  definition : PlanDefinition
  state : PyStr
  executorId : Option PyStr
  evidenceJson : Option PyStr
  evidenceDigest : Option PyStr
  effectReceiptDigest : Option PyStr
  createdAt : PyStr
  updatedAt : PyStr

structure PlanDb where
  plans : List PlanRow
  receipts : List ActionReceiptRow

namespace PlanDefinition

def check (plan : PlanDefinition) : Except PyError Unit := do
  checkPlanState plan.state
  raiseIf (plan.planningPayloadState ∉ [py "RETAINED", py "LEGACY_DIGEST_ONLY"])
    (valueError (py "generic plan requirements"))
  raiseIf (isDict plan.requiredInputs = false ∨ isDict plan.expectedOutput = false)
    (valueError (py "generic plan io"))
  raiseIf (isList plan.currentnessRequirements = false ∨ isList plan.evidenceRequirements = false ∨
      isList plan.dependencies = false)
    (valueError (py "generic plan requirements"))
  raiseIf (isDict plan.actionIr = false) (valueError (py "generic action ir"))

/-- The new row.  Its five other texts of JSON are written like that of the action. -/
def row (plan : PlanDefinition) (stamp : Except PyError PyStr) : Except PyError PlanRow := do
  let _ ← canon plan.actionIr
  let actionIrDigest ← digest plan.actionIr
  raiseIf (actionIrDigest ≠ plan.actionIrDigest) (valueError (py "generic action ir digest"))
  let stamp ← stamp
  let bytes ← encodeUtf8 (plan.missionId ++ py "|" ++ plan.phaseId)
  [plan.requiredInputs, plan.expectedOutput, plan.currentnessRequirements,
    plan.evidenceRequirements, plan.dependencies].forM fun value => do
      let _ ← canon value
  return ⟨py "generic-plan-" ++ (sha256 bytes).take 32, plan, plan.state, plan.executorId, none,
    none, none, stamp, stamp⟩

/-- The columns in which a plan that is there must agree. -/
def immutable (plan : PlanDefinition) : List PyStr :=
  [plan.planningAssignmentId, plan.planningReceiptId, plan.planningResultDigest, plan.capability,
    plan.target, plan.operation, plan.authorityClass, plan.rollbackClass, plan.actionIrDigest]

end PlanDefinition

def PlanDefinition.isPhase (plan : PlanDefinition) (row : PlanRow) : Bool :=
  row.definition.missionId = plan.missionId && row.definition.phaseId = plan.phaseId

def putGenericPhasePlan (db : PlanDb) (plan : PlanDefinition) (stamp : Except PyError PyStr) :
    Except PyError (PlanDb × PlanRow) := do
  plan.check
  let row ← plan.row stamp
  match db.plans.find? plan.isPhase with
  | some old => do
    raiseIf (old.definition.immutable ≠ plan.immutable)
      (valueError (py "generic plan immutable conflict"))
    return (db, old)
  | none => do
    let plans ← insertRow (uniqueError (py "mission_generic_phase_plans"))
      (fun old => old.planId = row.planId || plan.isPhase old) row db.plans
    return ({ db with plans := plans }, row)

def findPlan (db : PlanDb) (planId : PyStr) : Except PyError PlanRow :=
  match db.plans.find? fun row => row.planId = planId with
  | some row => .ok row
  | none => .error (valueError (py "generic plan missing"))

/-- The change of a plan and whether it is of this plan. -/
def updatePlan (db : PlanDb) (planId : PyStr) (change : PlanRow → PlanRow) : PlanDb :=
  { db with plans := updateWhere (fun row => row.planId = planId) change db.plans }

/-- The text and the digest of evidence. -/
def planEvidence (message : PyStr) (evidence : Json) : Except PyError (PyStr × PyStr) := do
  raiseIf (isDict evidence = false) (valueError message)
  let evidenceJson ← canon evidence
  let evidenceDigest ← digest evidence
  return (evidenceJson, evidenceDigest)

structure PlanUpdate where
  state : PyStr
  executorId : Option PyStr
  evidence : Option Json
  effectReceiptDigest : Option PyStr

/-- `UPDATE ... SET state=?,executor_id=COALESCE(?,executor_id),...`. -/
def PlanUpdate.apply (update : PlanUpdate) (evidence : Option (PyStr × PyStr)) (stamp : PyStr)
    (row : PlanRow) : PlanRow :=
  { row with
    state := update.state
    executorId := update.executorId <|> row.executorId
    evidenceJson := evidence.map Prod.fst <|> row.evidenceJson
    evidenceDigest := evidence.map Prod.snd <|> row.evidenceDigest
    effectReceiptDigest := update.effectReceiptDigest <|> row.effectReceiptDigest
    updatedAt := stamp }

def updateGenericPlanState (db : PlanDb) (planId : PyStr) (update : PlanUpdate)
    (stamp : Except PyError PyStr) : Except PyError PlanDb := do
  checkPlanState update.state
  let _ ← findPlan db planId
  let evidence ← update.evidence.mapM (planEvidence (py "generic evidence"))
  let stamp ← stamp
  return updatePlan db planId (update.apply evidence stamp)

def ActionReceiptRow.planState (receipt : ActionReceiptRow) : PyStr :=
  if receipt.status = py "PASS" then py "PASS" else py "FAILED"

/-- The plan after its receipt. -/
def ActionReceiptRow.apply (receipt : ActionReceiptRow) (evidenceJson : PyStr) (row : PlanRow) :
    PlanRow :=
  { row with
    state := receipt.planState
    evidenceJson := some evidenceJson
    evidenceDigest := some receipt.evidenceDigest
    effectReceiptDigest := some receipt.receiptId
    updatedAt := receipt.observedAt }

def recordGenericActionReceipt (db : PlanDb) (planId status : PyStr) (evidence : Json)
    (authorityEffect hex : PyStr) (stamp : Except PyError PyStr) : Except PyError PlanDb := do
  raiseIf (status ∉ [py "PASS", py "FAIL"] ∨ authorityEffect ≠ py "NONE")
    (valueError (py "generic action receipt status/authority"))
  let plan ← findPlan db planId
  let (evidenceJson, evidenceDigest) ← planEvidence (py "generic action evidence") evidence
  match db.receipts.find? fun receipt => receipt.planId = planId with
  | some old => do
    raiseIf ((old.actionIrDigest, old.evidenceDigest, old.authorityEffect, old.status) ≠
        (plan.definition.actionIrDigest, evidenceDigest, authorityEffect, status))
      (valueError (py "generic action receipt conflict"))
    .error (valueError (py "generic action receipt duplicate"))
  | none => do
    let stamp ← stamp
    let receipt : ActionReceiptRow := ⟨py "generic-receipt-" ++ hex, planId,
      plan.definition.missionId, plan.definition.phaseId, plan.definition.actionIrDigest,
      evidenceDigest, authorityEffect, status, stamp⟩
    let receipts ← insertRow (uniqueError (py "mission_generic_action_receipts"))
      (fun old => old.receiptId = receipt.receiptId || old.planId = planId) receipt db.receipts
    return updatePlan { db with receipts := receipts } planId (receipt.apply evidenceJson)

/-! ### Calls -/

inductive PlanCall
  | put (plan : PlanDefinition) (stamp : Except PyError PyStr)
  | update (planId : PyStr) (update : PlanUpdate) (stamp : Except PyError PyStr)
  | record (planId status : PyStr) (evidence : Json) (authorityEffect hex : PyStr)
      (stamp : Except PyError PyStr)

/-- The database after a call: one that raises has not written. -/
def PlanCall.execute (db : PlanDb) : PlanCall → PlanDb
  | put plan stamp => ((putGenericPhasePlan db plan stamp).toOption.map Prod.fst).getD db
  | update planId change stamp => (updateGenericPlanState db planId change stamp).toOption.getD db
  | record planId status evidence authorityEffect hex stamp =>
    (recordGenericActionReceipt db planId status evidence authorityEffect hex stamp).toOption.getD
      db

/-- The states that a receipt gives. -/
def closingStates : List PyStr :=
  [py "PASS", py "FAILED"]

/-- The call does what a receipt does: it updates a plan that has one, or closes a plan. -/
def PlanCall.Overrides (db : PlanDb) : PlanCall → Prop
  | put plan _ => plan.state ∈ closingStates
  | update planId change _ =>
    (∃ receipt ∈ db.receipts, receipt.planId = planId) ∨ change.state ∈ closingStates
  | record .. => False

/-- What a call does to the tables. -/
inductive PlanStep (call : PlanCall) (db : PlanDb) : PlanDb → Prop
  | same : PlanStep call db db
  | added (row : PlanRow) (fresh : ∀ old ∈ db.plans, old.planId ≠ row.planId)
      (overrides : row.state ∈ closingStates → call.Overrides db) :
      PlanStep call db { db with plans := db.plans ++ [row] }
  | updated (planId : PyStr) (update : PlanUpdate) (evidence : Option (PyStr × PyStr))
      (stamp : PyStr)
      (overrides : (∃ receipt ∈ db.receipts, receipt.planId = planId) ∨
        update.state ∈ closingStates → call.Overrides db) :
      PlanStep call db (updatePlan db planId (update.apply evidence stamp))
  | recorded (plan : PlanRow) (member : plan ∈ db.plans) (receipt : ActionReceiptRow)
      (evidenceJson : PyStr) (isPlan : receipt.planId = plan.planId)
      (isAction : receipt.actionIrDigest = plan.definition.actionIrDigest)
      (fresh : ∀ old ∈ db.receipts, old.planId ≠ plan.planId) :
      PlanStep call db (updatePlan { db with receipts := db.receipts ++ [receipt] } plan.planId
        (receipt.apply evidenceJson))

/-- A receipt is of a plan, with its action, and of no other receipt's plan. -/
structure ReceiptsOfPlans (db : PlanDb) : Prop where
  plans : (db.plans.map PlanRow.planId).Nodup
  receipts : (db.receipts.map ActionReceiptRow.planId).Nodup
  known : ∀ receipt ∈ db.receipts, ∃ plan ∈ db.plans, plan.planId = receipt.planId ∧
    plan.definition.actionIrDigest = receipt.actionIrDigest

/-- A plan with a receipt says what the receipt says, and one without is not closed. -/
structure PlansAgree (db : PlanDb) : Prop where
  closed : ∀ receipt ∈ db.receipts, ∀ plan ∈ db.plans, plan.planId = receipt.planId →
    plan.state = receipt.planState ∧ plan.evidenceDigest = some receipt.evidenceDigest ∧
      plan.effectReceiptDigest = some receipt.receiptId
  opened : ∀ plan ∈ db.plans, (∀ receipt ∈ db.receipts, receipt.planId ≠ plan.planId) →
    plan.state ∉ closingStates

variable {db changed : PlanDb} {call : PlanCall}

theorem findPlan_eq_ok {planId : PyStr} {plan : PlanRow} (found : findPlan db planId = .ok plan) :
    plan ∈ db.plans ∧ plan.planId = planId := by
  unfold findPlan at found
  split at found
  · rename_i row isFirst
    obtain rfl := Except.ok.inj found
    exact ⟨List.mem_of_find?_eq_some isFirst, by simpa using List.find?_some isFirst⟩
  · simp at found

theorem state_of_row {plan : PlanDefinition} {stamp : Except PyError PyStr} {row : PlanRow}
    (built : plan.row stamp = .ok row) : row.state = plan.state := by
  simp only [PlanDefinition.row, bind_eq_ok, pure_eq_ok] at built
  obtain ⟨_, -, _, -, _, -, _, -, _, -, _, -, rfl⟩ := built
  rfl

theorem planStep_execute (db : PlanDb) (call : PlanCall) : PlanStep call db (call.execute db) := by
  cases call with
  | put plan stamp =>
    rw [PlanCall.execute]
    cases returned : putGenericPhasePlan db plan stamp with
    | error error => exact .same
    | ok result =>
      simp only [putGenericPhasePlan, bind_eq_ok] at returned
      obtain ⟨_, -, row, built, returned⟩ := returned
      split at returned
      · simp only [bind_eq_ok, pure_eq_ok] at returned
        obtain ⟨_, -, rfl⟩ := returned
        exact .same
      · simp only [bind_eq_ok, pure_eq_ok] at returned
        obtain ⟨plans, inserted, rfl⟩ := returned
        obtain ⟨free, rfl⟩ := insertRow_eq_ok.mp inserted
        refine .added row (fun old member => ?_) fun closing => ?_
        · have notClash := free old member
          simp only [Bool.or_eq_false_iff, decide_eq_false_iff_not] at notClash
          exact notClash.1
        · rw [state_of_row built] at closing
          exact closing
  | update planId change stamp =>
    rw [PlanCall.execute]
    cases returned : updateGenericPlanState db planId change stamp with
    | error error => exact .same
    | ok result =>
      simp only [updateGenericPlanState, bind_eq_ok, pure_eq_ok] at returned
      obtain ⟨_, -, _, -, evidence, -, stamp, -, rfl⟩ := returned
      exact .updated planId change evidence stamp id
  | record planId status evidence authorityEffect hex stamp =>
    rw [PlanCall.execute]
    cases returned : recordGenericActionReceipt db planId status evidence authorityEffect hex
        stamp with
    | error error => exact .same
    | ok result =>
      simp only [recordGenericActionReceipt, bind_eq_ok] at returned
      obtain ⟨_, -, plan, found, ⟨evidenceJson, evidenceDigest⟩, -, returned⟩ := returned
      obtain ⟨member, rfl⟩ := findPlan_eq_ok found
      split at returned
      · simp [bind_eq_ok] at returned
      · rename_i noReceipt
        simp only [bind_eq_ok, pure_eq_ok] at returned
        obtain ⟨stamp, -, receipts, inserted, rfl⟩ := returned
        obtain ⟨-, rfl⟩ := insertRow_eq_ok.mp inserted
        exact .recorded plan member _ evidenceJson rfl rfl fun old isOld same =>
          List.find?_eq_none.mp noReceipt old isOld (decide_eq_true same)

theorem mem_updatePlan {planId : PyStr} {change : PlanRow → PlanRow} {row : PlanRow} :
    row ∈ (updatePlan db planId change).plans ↔
      ∃ old ∈ db.plans, row = if old.planId = planId then change old else old := by
  simp [updatePlan, mem_updateWhere]

theorem ReceiptsOfPlans.update (receipts : ReceiptsOfPlans db) {planId : PyStr}
    {change : PlanRow → PlanRow} (sameId : ∀ row, (change row).planId = row.planId)
    (sameAction : ∀ row, (change row).definition = row.definition) :
    ReceiptsOfPlans (updatePlan db planId change) where
  plans := by
    rw [updatePlan, map_updateWhere _ fun row _ => sameId row]
    exact receipts.plans
  receipts := receipts.receipts
  known receipt member := by
    obtain ⟨plan, isPlan, planId, action⟩ := receipts.known receipt member
    refine ⟨_, mem_updatePlan.mpr ⟨plan, isPlan, rfl⟩, ?_⟩
    split
    · exact ⟨(sameId plan).trans planId, by rw [sameAction, action]⟩
    · exact ⟨planId, action⟩

theorem PlanStep.receiptsOfPlans (step : PlanStep call db changed) (receipts : ReceiptsOfPlans db) :
    ReceiptsOfPlans changed := by
  cases step with
  | same => exact receipts
  | added row fresh overrides =>
    refine ⟨?_, receipts.receipts, fun receipt member => ?_⟩
    · rw [List.map_append, List.map_singleton, List.nodup_append]
      simpa [receipts.plans] using fun old member => fresh old member
    · obtain ⟨plan, isPlan, found⟩ := receipts.known receipt member
      exact ⟨plan, by simp [isPlan], found⟩
  | updated planId update evidence stamp overrides =>
    exact receipts.update (fun _ => rfl) fun _ => rfl
  | recorded plan member receipt evidenceJson isPlan isAction fresh =>
    have extended : ReceiptsOfPlans { db with receipts := db.receipts ++ [receipt] } := by
      refine ⟨receipts.plans, ?_, fun other isOther => ?_⟩
      · rw [List.map_append, List.map_singleton, List.nodup_append]
        simpa [receipts.receipts, isPlan] using fun old member => fresh old member
      · rcases List.mem_append.mp isOther with old | new
        · exact receipts.known other old
        · obtain rfl := List.mem_singleton.mp new
          exact ⟨plan, member, isPlan.symm, isAction.symm⟩
    exact extended.update (fun _ => rfl) fun _ => rfl

theorem PlanStep.receipts_prefix (step : PlanStep call db changed) :
    db.receipts <+: changed.receipts := by
  cases step with
  | recorded plan member receipt => exact List.prefix_append db.receipts [receipt]
  | _ => exact List.prefix_refl db.receipts

theorem PlanStep.plansAgree (step : PlanStep call db changed) (receipts : ReceiptsOfPlans db)
    (keeps : ¬ call.Overrides db) (agree : PlansAgree db) : PlansAgree changed := by
  cases step with
  | same => exact agree
  | added row fresh overrides =>
    have notOf : ∀ receipt ∈ db.receipts, receipt.planId ≠ row.planId := by
      intro receipt member same
      obtain ⟨plan, isPlan, planId, -⟩ := receipts.known receipt member
      exact fresh plan isPlan (planId.trans same)
    refine ⟨fun receipt member plan isPlan same => ?_, fun plan isPlan none => ?_⟩
    · rcases List.mem_append.mp isPlan with old | new
      · exact agree.closed receipt member plan old same
      · obtain rfl := List.mem_singleton.mp new
        exact absurd same.symm (notOf receipt member)
    · rcases List.mem_append.mp isPlan with old | new
      · exact agree.opened plan old none
      · obtain rfl := List.mem_singleton.mp new
        exact fun closing => keeps (overrides closing)
  | updated planId update evidence stamp overrides =>
    have notOverride := fun condition => keeps (overrides condition)
    refine ⟨fun receipt member plan isPlan same => ?_, fun plan isPlan none => ?_⟩
    · obtain ⟨old, isOld, rfl⟩ := mem_updatePlan.mp isPlan
      have other : old.planId ≠ planId := by
        rintro rfl
        rw [if_pos rfl] at same
        exact notOverride (.inl ⟨receipt, member, same.symm⟩)
      rw [if_neg other] at same ⊢
      exact agree.closed receipt member old isOld same
    · obtain ⟨old, isOld, rfl⟩ := mem_updatePlan.mp isPlan
      split
      · exact fun closing => notOverride (.inr closing)
      · rename_i other
        rw [if_neg other] at none
        exact agree.opened old isOld none
  | recorded plan member receipt evidenceJson isPlan isAction fresh =>
    refine ⟨fun other isOther row isRow same => ?_, fun row isRow none => ?_⟩
    · obtain ⟨old, isOld, rfl⟩ := mem_updatePlan.mp isRow
      rcases List.mem_append.mp isOther with earlier | new
      · have notPlan : old.planId ≠ plan.planId := by
          intro isPlanRow
          rw [if_pos isPlanRow] at same
          exact fresh other earlier (same.symm.trans isPlanRow)
        rw [if_neg notPlan] at same ⊢
        exact agree.closed other earlier old isOld same
      · obtain rfl := List.mem_singleton.mp new
        have isPlanRow : old.planId = plan.planId := by
          by_contra notPlan
          rw [if_neg notPlan] at same
          exact notPlan (same.trans isPlan)
        rw [if_pos isPlanRow]
        exact ⟨rfl, rfl, rfl⟩
    · obtain ⟨old, isOld, rfl⟩ := mem_updatePlan.mp isRow
      have notPlan : old.planId ≠ plan.planId := by
        intro isPlanRow
        rw [if_pos isPlanRow] at none
        exact none receipt (by simp [updatePlan]) (isPlan.trans isPlanRow.symm)
      rw [if_neg notPlan] at none ⊢
      exact agree.opened old isOld fun other earlier =>
        none other (by simp [updatePlan, earlier])

/-- No call of the sequence overrides. -/
def KeepsReceipts : PlanDb → List PlanCall → Prop
  | _, [] => True
  | db, call :: calls => ¬ call.Overrides db ∧ KeepsReceipts (call.execute db) calls

/-- A plan has at most one receipt, for ever, with the digest of its action.  As long as no call
overrides, a plan agrees with its receipt, and is not closed without one. -/
theorem genericPlans_agree (start : PlanDb) (receipts : ReceiptsOfPlans start)
    (calls : List PlanCall) :
    ReceiptsOfPlans (calls.foldl PlanCall.execute start) ∧
      start.receipts <+: (calls.foldl PlanCall.execute start).receipts ∧
      (PlansAgree start → KeepsReceipts start calls →
        PlansAgree (calls.foldl PlanCall.execute start)) := by
  induction calls generalizing start with
  | nil => exact ⟨receipts, List.prefix_refl _, fun agree _ => agree⟩
  | cons call calls ih =>
    have step := planStep_execute start call
    obtain ⟨known, longer, kept⟩ := ih (call.execute start) (step.receiptsOfPlans receipts)
    refine ⟨known, step.receipts_prefix.trans longer, fun agree keeps => ?_⟩
    exact kept (step.plansAgree receipts keeps.1 agree) keeps.2

/-- A plan of an empty action, its receipt, and an update behind it. -/
def closedPlanCalls : List PlanCall :=
  let planId := py "generic-plan-" ++ (sha256 ⟨py "m|p", by decide⟩).take 32
  [.put ⟨py "m", py "p", [], [], [], py "RETAINED", py "PLANNING", [], [], [], .obj [], .obj [], [],
      .arr [], .arr [], [], .arr [], .obj [], sha256 ⟨py "\x7b\x7d", by decide⟩, none⟩ (.ok (py "1")),
    .record planId (py "PASS") (.obj []) (py "NONE") (py "r") (.ok (py "2")),
    .update planId ⟨py "BLOCKED", none, none, none⟩ (.ok (py "3"))]

theorem genericPlans_agree_closed :
    ReceiptsOfPlans ((closedPlanCalls.take 2).foldl PlanCall.execute ⟨[], []⟩) ∧
      PlansAgree ((closedPlanCalls.take 2).foldl PlanCall.execute ⟨[], []⟩) := by
  have receipts : ReceiptsOfPlans ⟨[], []⟩ := by constructor <;> simp
  have agree : PlansAgree ⟨[], []⟩ := by constructor <;> simp
  obtain ⟨known, -, kept⟩ := genericPlans_agree ⟨[], []⟩ receipts (closedPlanCalls.take 2)
  refine ⟨known, kept agree ⟨?_, ?_, trivial⟩⟩
  · change py "PLANNING" ∉ closingStates
    decide
  · exact id

theorem genericPlans_disagree :
    ¬ PlansAgree (closedPlanCalls.foldl PlanCall.execute ⟨[], []⟩) := by
  intro agree
  have tables : (closedPlanCalls.foldl PlanCall.execute ⟨[], []⟩).receipts.map
        (fun receipt => (receipt.planId, receipt.planState)) =
      (closedPlanCalls.foldl PlanCall.execute ⟨[], []⟩).plans.map
        (fun plan : PlanRow => (plan.planId, py "PASS")) ∧
      (closedPlanCalls.foldl PlanCall.execute ⟨[], []⟩).plans.map PlanRow.state =
        [py "BLOCKED"] := by
    delta closedPlanCalls PlanCall.execute putGenericPhasePlan PlanDefinition.row
      recordGenericActionReceipt planEvidence updateGenericPlanState digest
    rw [Sha256.sha256_eq_evalText]
    decide +kernel
  obtain ⟨same, states⟩ := tables
  obtain ⟨plan, isPlan, isBlocked⟩ := List.mem_map.mp (states ▸ List.mem_singleton_self _)
  have isPair := List.mem_map_of_mem (f := fun plan : PlanRow => (plan.planId, py "PASS")) isPlan
  rw [← same] at isPair
  obtain ⟨receipt, isReceipt, shape⟩ := List.mem_map.mp isPair
  obtain ⟨sameId, isPass⟩ := Prod.mk.inj shape
  have isClosed := (agree.closed receipt isReceipt plan isPlan sameId.symm).1
  rw [isBlocked, isPass] at isClosed
  contradiction

end GlobalScheduler

end CyberLion
