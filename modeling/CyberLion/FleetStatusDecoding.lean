import CyberLion.FleetStatusCalls
import CyberLion.FleetStatusJournal

/-!
# Stored source rows are read back

What the store writes of an observation and of a decision passes the decoders that verify it:
the object is read back in key order, with the same digest, and gives the contract that was
written.
-/

namespace CyberLion

namespace FleetStatus

open PyLib Json
open FleetCoordination (canonicalJson canonicalJson_eq_ok optionalText textList fieldOf
  fieldOf_sorted textFieldOf_sorted textsFieldOf_sorted plain_textList)

/-! ### Values -/

@[simp]
theorem plain_optionalText (value : Option PyStr) : Json.Plain (optionalText value) := by
  cases value with
  | none => exact .null
  | some text => exact .str text

@[simp]
theorem plain_itemsJson (items : List (PyStr × PyStr)) : Json.Plain (itemsJson items) := by
  apply Json.Plain.arr
  intro item member
  obtain ⟨entry, -, rfl⟩ := List.mem_map.mp member
  apply Json.Plain.arr
  simp

theorem sortKeys_optionalText (value : Option PyStr) :
    (optionalText value).sortKeys = optionalText value := by
  cases value <;> rw [optionalText, sortKeys]

theorem sortKeys_itemsJson (items : List (PyStr × PyStr)) :
    (itemsJson items).sortKeys = itemsJson items := by
  rw [itemsJson, sortKeys, sortItems_eq_map, List.map_map]
  rfl

theorem canonicalJson_sorted (fields : List (PyStr × Json)) :
    canonicalJson (.obj (sortFields (sortMembers fields))) = canonicalJson (.obj fields) := by
  have sorted : Json.obj (sortFields (sortMembers fields)) = (Json.obj fields).sortKeys := by
    rw [sortKeys]
  rw [sorted, canonicalJson, canonicalJson, dumps, dumps]
  simp only [isPrintable_sortKeys, if_true, sortKeys_sortKeys]

theorem loads_canonicalJson {fields : List (PyStr × Json)} {bytes : Utf8Bytes}
    (plain : Json.Plain (.obj fields)) (written : canonicalJson (.obj fields) = .ok bytes) :
    loads plainHooks bytes.text = .ok (.obj (sortFields (sortMembers fields))) := by
  rw [plain.loads_dumps (canonicalJson_eq_ok.mp written), sortKeys]

/-! ### Fields -/

section Fields

variable {fields : List (PyStr × Json)} (distinct : (fields.map Prod.fst).Nodup) (key : PyStr)
include distinct

theorem optionalFieldOf_sorted (value : Option PyStr) (member : (key, optionalText value) ∈ fields) :
    optionalFieldOf (sortFields (sortMembers fields)) key = .ok value := by
  rw [optionalFieldOf, fieldOf_sorted distinct key member, ok_bind, sortKeys_optionalText]
  cases value <;> rfl

theorem itemsFieldOf_sorted (items : List (PyStr × PyStr))
    (member : (key, itemsJson items) ∈ fields) :
    itemsFieldOf (sortFields (sortMembers fields)) key = .ok items := by
  rw [itemsFieldOf, fieldOf_sorted distinct key member, ok_bind, sortKeys_itemsJson]
  apply mapM_eq_ok.mpr
  rw [List.forall₂_map_left_iff]
  exact List.forall₂_same.mpr fun item _ => rfl

omit distinct in
theorem checkKeywords_sorted :
    checkKeywords (fields.map Prod.fst) (sortFields (sortMembers fields)) = .ok () := by
  apply raiseIf_eq_ok.mpr
  rintro ⟨field, member, unexpected⟩
  have isKey : field.1 ∈ (sortMembers fields).map Prod.fst :=
    List.mem_map_of_mem ((sortFields_perm _).mem_iff.mp member)
  rw [keys_sortMembers] at isKey
  exact unexpected isKey

end Fields

/-! ### Observations -/

theorem distinct_observation (observation : StatusSourceObservation) :
    (observation.fields.map Prod.fst).Nodup :=
  @nodup_py ["observation_id", "mission_id", "drone_id", "executor_id", "runtime_id",
    "repository", "baseline_sha", "dimension", "state", "value_items", "provenance_ref",
    "evidence_digest", "epistemic_class"] (by decide)

theorem plain_observation (observation : StatusSourceObservation) :
    Json.Plain (.obj observation.fields) := by
  apply Json.Plain.obj (distinct_observation observation)
  simp [StatusSourceObservation.fields]

theorem observationOf_sorted (observation : StatusSourceObservation) :
    observationOf (sortFields (sortMembers observation.fields)) observation.valueItems =
      .ok observation := by
  have distinct := distinct_observation observation
  have keywords : checkKeywords observationNames (sortFields (sortMembers observation.fields)) =
      .ok () := checkKeywords_sorted
  rw [observationOf, keywords, ok_bind]
  rw [textFieldOf_sorted distinct (py "observation_id") observation.observationId
      (by simp [StatusSourceObservation.fields]), ok_bind,
    optionalFieldOf_sorted distinct (py "mission_id") observation.missionId
      (by simp [StatusSourceObservation.fields]), ok_bind,
    optionalFieldOf_sorted distinct (py "drone_id") observation.droneId
      (by simp [StatusSourceObservation.fields]), ok_bind,
    optionalFieldOf_sorted distinct (py "executor_id") observation.executorId
      (by simp [StatusSourceObservation.fields]), ok_bind,
    optionalFieldOf_sorted distinct (py "runtime_id") observation.runtimeId
      (by simp [StatusSourceObservation.fields]), ok_bind,
    optionalFieldOf_sorted distinct (py "repository") observation.repository
      (by simp [StatusSourceObservation.fields]), ok_bind,
    optionalFieldOf_sorted distinct (py "baseline_sha") observation.baselineSha
      (by simp [StatusSourceObservation.fields]), ok_bind,
    textFieldOf_sorted distinct (py "dimension") observation.dimension
      (by simp [StatusSourceObservation.fields]), ok_bind,
    textFieldOf_sorted distinct (py "state") observation.state
      (by simp [StatusSourceObservation.fields]), ok_bind,
    textFieldOf_sorted distinct (py "provenance_ref") observation.provenanceRef
      (by simp [StatusSourceObservation.fields]), ok_bind,
    textFieldOf_sorted distinct (py "evidence_digest") observation.evidenceDigest
      (by simp [StatusSourceObservation.fields]), ok_bind,
    textFieldOf_sorted distinct (py "epistemic_class") observation.epistemicClass
      (by simp [StatusSourceObservation.fields]), ok_bind]
  rfl

theorem readObservation_canonical {observation : StatusSourceObservation} {bytes : Utf8Bytes}
    (valid : observation.validate = .ok ())
    (written : canonicalJson (.obj observation.fields) = .ok bytes) :
    readObservation bytes.text =
      .ok (sortFields (sortMembers observation.fields), observation) := by
  have items : itemsFieldOf (sortFields (sortMembers observation.fields)) (py "value_items") =
      .ok observation.valueItems :=
    itemsFieldOf_sorted (distinct_observation observation) _ _
      (by simp [StatusSourceObservation.fields])
  rw [readObservation, loads_canonicalJson (plain_observation observation) written, ok_bind]
  simp only [items, orStateError, rethrow, ok_bind, observationOf_sorted, valid]
  rfl

/-! ### Decisions -/

structure SourceDecision.Sound (decision : SourceDecision) : Prop where
  plain : Json.Plain (.obj decision.body)
  verifies : decision.valid = .ok () →
    verifyBody decision.kind (sortFields (sortMembers decision.body)) = .ok ()

theorem ReconciledStatusFact.sound (fact : ReconciledStatusFact) : fact.decision.Sound := by
  have distinct : (fact.fields.map Prod.fst).Nodup :=
    @nodup_py ["mission_id", "dimension", "state", "value_items", "source_ids", "evidence_refs",
      "epistemic_class"] (by decide)
  constructor
  · apply Json.Plain.obj distinct
    simp [ReconciledStatusFact.fields]
  · intro valid
    have keywords : checkKeywords (fact.fields.map Prod.fst) (sortFields (sortMembers fact.fields)) =
        .ok () := checkKeywords_sorted
    change verifyFact (sortFields (sortMembers fact.fields)) = .ok ()
    rw [verifyFact, itemsFieldOf_sorted distinct (py "value_items") fact.valueItems
        (by simp [ReconciledStatusFact.fields]), ok_bind,
      textsFieldOf_sorted distinct (py "source_ids") fact.sourceIds
        (by simp [ReconciledStatusFact.fields]), ok_bind,
      textsFieldOf_sorted distinct (py "evidence_refs") fact.evidenceRefs
        (by simp [ReconciledStatusFact.fields]), ok_bind]
    refine (congrArg (· >>= _) keywords).trans ?_
    rw [ok_bind, textFieldOf_sorted distinct (py "mission_id") fact.missionId
        (by simp [ReconciledStatusFact.fields]), ok_bind,
      textFieldOf_sorted distinct (py "dimension") fact.dimension
        (by simp [ReconciledStatusFact.fields]), ok_bind,
      textFieldOf_sorted distinct (py "state") fact.state
        (by simp [ReconciledStatusFact.fields]), ok_bind,
      textFieldOf_sorted distinct (py "epistemic_class") fact.epistemicClass
        (by simp [ReconciledStatusFact.fields]), ok_bind]
    exact valid

theorem SourceConflict.sound (conflict : SourceConflict) : conflict.decision.Sound := by
  have distinct : (conflict.fields.map Prod.fst).Nodup :=
    @nodup_py ["conflict_id", "conflict_type", "mission_id", "drone_id", "dimension",
      "source_ids", "observation_ids", "evidence_refs", "observed_at"] (by decide)
  constructor
  · apply Json.Plain.obj distinct
    simp [SourceConflict.fields]
  · intro valid
    have keywords : checkKeywords (conflict.fields.map Prod.fst)
        (sortFields (sortMembers conflict.fields)) = .ok () := checkKeywords_sorted
    change verifyConflict (sortFields (sortMembers conflict.fields)) = .ok ()
    rw [verifyConflict, textsFieldOf_sorted distinct (py "source_ids") conflict.sourceIds
        (by simp [SourceConflict.fields]), ok_bind,
      textsFieldOf_sorted distinct (py "observation_ids") conflict.observationIds
        (by simp [SourceConflict.fields]), ok_bind,
      textsFieldOf_sorted distinct (py "evidence_refs") conflict.evidenceRefs
        (by simp [SourceConflict.fields]), ok_bind]
    refine (congrArg (· >>= _) keywords).trans ?_
    rw [ok_bind, textFieldOf_sorted distinct (py "conflict_id") conflict.conflictId
        (by simp [SourceConflict.fields]), ok_bind,
      textFieldOf_sorted distinct (py "conflict_type") conflict.conflictType
        (by simp [SourceConflict.fields]), ok_bind,
      optionalFieldOf_sorted distinct (py "mission_id") conflict.missionId
        (by simp [SourceConflict.fields]), ok_bind,
      optionalFieldOf_sorted distinct (py "drone_id") conflict.droneId
        (by simp [SourceConflict.fields]), ok_bind,
      textFieldOf_sorted distinct (py "dimension") conflict.dimension
        (by simp [SourceConflict.fields]), ok_bind,
      textFieldOf_sorted distinct (py "observed_at") conflict.observedAt
        (by simp [SourceConflict.fields]), ok_bind]
    exact valid

theorem MissingStatusSource.sound (missing : MissingStatusSource) : missing.decision.Sound := by
  have distinct : (missing.fields.map Prod.fst).Nodup :=
    @nodup_py ["mission_id", "drone_id", "dimension", "expected_source_kinds", "observed_at"]
      (by decide)
  constructor
  · apply Json.Plain.obj distinct
    simp [MissingStatusSource.fields]
  · intro valid
    have keywords : checkKeywords (missing.fields.map Prod.fst)
        (sortFields (sortMembers missing.fields)) = .ok () := checkKeywords_sorted
    change verifyMissing (sortFields (sortMembers missing.fields)) = .ok ()
    rw [verifyMissing, textsFieldOf_sorted distinct (py "expected_source_kinds")
        missing.expectedSourceKinds (by simp [MissingStatusSource.fields]), ok_bind]
    refine (congrArg (· >>= _) keywords).trans ?_
    rw [ok_bind, textFieldOf_sorted distinct (py "mission_id") missing.missionId
        (by simp [MissingStatusSource.fields]), ok_bind,
      optionalFieldOf_sorted distinct (py "drone_id") missing.droneId
        (by simp [MissingStatusSource.fields]), ok_bind,
      textFieldOf_sorted distinct (py "dimension") missing.dimension
        (by simp [MissingStatusSource.fields]), ok_bind,
      textFieldOf_sorted distinct (py "observed_at") missing.observedAt
        (by simp [MissingStatusSource.fields]), ok_bind]
    exact valid

theorem distinct_decisionFields (kind : DecisionType) (observedAt : PyStr) (body : Json) :
    ((decisionFields kind observedAt body).map Prod.fst).Nodup := by
  cases kind with
  | fact => exact @nodup_py ["decision_type", "decision_observed_at", "fact"] (by decide)
  | conflict => exact @nodup_py ["decision_type", "decision_observed_at", "conflict"] (by decide)
  | missing => exact @nodup_py ["decision_type", "decision_observed_at", "missing"] (by decide)

theorem SourceDecision.Sound.verifyDecision_eq_ok {decision : SourceDecision} {observedAt : PyStr}
    {row : DecisionRow} (sound : decision.Sound) (isRow : decision.row observedAt = .ok row) :
    verifyDecision row = .ok () := by
  simp only [SourceDecision.row, bind_eq_ok, pure_eq_ok] at isRow
  obtain ⟨_, valid, bytes, written, rfl⟩ := isRow
  have distinct := distinct_decisionFields decision.kind observedAt (.obj decision.body)
  have plain : Json.Plain (.obj (decisionFields decision.kind observedAt (.obj decision.body))) := by
    apply Json.Plain.obj distinct
    simp [decisionFields, sound.plain]
  have kind : (sortFields (sortMembers (decisionFields decision.kind observedAt
      (.obj decision.body)))).lookup (py "decision_type") = some (.str decision.kind.text) := by
    rw [lookup_sortFields distinct, decisionFields, List.lookup_cons_self, Option.map_some,
      sortKeys]
  have body := fieldOf_sorted distinct decision.kind.key
    (show (decision.kind.key, Json.obj decision.body) ∈ _ by simp [decisionFields])
  have digest : digestOf (.obj (sortFields (sortMembers (decisionFields decision.kind observedAt
      (.obj decision.body))))) = .ok (sha256 bytes) := by
    rw [digestOf, canonicalJson_sorted, written, ok_bind]
    rfl
  rw [sortKeys] at body
  rw [verifyDecision, loads_canonicalJson plain written]
  simp only [rethrow, ok_bind, kind, checkDecisionType, digest, orStateError, body, raiseIf, ne_eq,
    not_true_eq_false, if_false, sound.verifies valid]

end FleetStatus

end CyberLion
