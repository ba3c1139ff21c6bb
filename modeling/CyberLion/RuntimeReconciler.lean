import CyberLion.AuthorityLineage
import CyberLion.FleetCoordinationReads
import CyberLion.RuntimeReconciliation

/-!
# The runtime reconciler

`RuntimeReconciler` of `enterprise/runtime_reconciliation.py`: the receipt of an execution is
compared with an observation that an independent source makes, and the outcome, the two effect
states and the anomalies decide the disposition.
-/

namespace CyberLion

open PyLib
open FleetCoordination (canonicalJson canonicalJson_eq_ok textList isEncodable_of_mem_str
  writable_textList_iff)
open RuntimeReconciliation

namespace RuntimeReconciliation

/-- `RuntimeReconciliationError(message)`. -/
def reconcilerError (message : PyStr) : PyError :=
  ⟨.declared .runtimeError (py "RuntimeReconciliationError"), message⟩

/-- `except Exception as exc: raise RuntimeReconciliationError(message) from exc`. -/
def orReconcilerError {α : Type} (message : PyStr) (computation : Except PyError α) :
    Except PyError α :=
  rethrow (fun _ => true) (fun _ => reconcilerError message) computation

end RuntimeReconciliation

/-! ### Anomalies and verdicts -/

/-- `expected`. -/
def RuntimeExecutionReceipt.operation (receipt : RuntimeExecutionReceipt) : List PyStr :=
  [receipt.executionId, receipt.admissionDigest, receipt.requestDigest, receipt.operationDigest,
    receipt.action, receipt.resource]

/-- `actual`. -/
def RuntimeEffectObservation.operation (observation : RuntimeEffectObservation) : List PyStr :=
  [observation.executionId, observation.admissionDigest, observation.requestDigest,
    observation.operationDigest, observation.action, observation.resource]

namespace RuntimeReconciliation

/-- `if condition: anomalies.append(code)`. -/
def anomalyIf (condition : Prop) [Decidable condition] (code : PyStr) : List PyStr :=
  if condition then [code] else []

def fieldAnomalies (receipt : RuntimeExecutionReceipt) (observation : RuntimeEffectObservation) :
    List PyStr :=
  anomalyIf (observation.operation ≠ receipt.operation) (py "IDENTITY_OR_OPERATION_MISMATCH") ++
    anomalyIf (observation.effectDigest ≠ receipt.effectDigest) (py "EFFECT_DIGEST_MISMATCH") ++
    anomalyIf (observation.observedEvents ≠ receipt.observedEvents)
      (py "OBSERVED_EVENTS_MISMATCH") ++
    anomalyIf (¬ (observation.sideEffectRefs ⊆ receipt.sideEffectRefs ∧
      receipt.sideEffectRefs ⊆ observation.sideEffectRefs)) (py "SIDE_EFFECT_REFERENCE_MISMATCH")

def verdict (receipt : RuntimeExecutionReceipt) (observation : RuntimeEffectObservation) :
    Disposition × List PyStr :=
  let anomalies := fieldAnomalies receipt observation
  if receipt.outcome = succeeded then
    let anomalies := anomalies ++ anomalyIf (receipt.effectState ≠ observedState ∨
      observation.effectState ≠ observedState) (py "SUCCESS_WITHOUT_OBSERVED_EFFECT")
    (if anomalies ≠ [] then .mismatch else .matched, anomalies)
  else if receipt.effectState ∈ [unknownState, partialUnknownState] ∨
      observation.effectState ∈ [unknownState, partialUnknownState] then
    let disposition : Disposition :=
      if observation.effectState = unknownState ∨ receipt.effectState = unknownState then .unknown
      else .nonSuccessReconciled
    (disposition, anomalies ++ anomalyIf (disposition = .unknown ∧ py "UNKNOWN_EFFECT" ∉ anomalies)
      (py "UNKNOWN_EFFECT"))
  else if anomalies ≠ [] then (.mismatch, anomalies)
  else (.nonSuccessReconciled, anomalies)

end RuntimeReconciliation

/-! ### The reconciler -/

structure RuntimeObservationSource where
  sourceId : PyStr
  sourceInstanceId : PyStr
  implementationDigest : PyStr
  trustAnchorId : PyStr
  trustAnchorDigest : PyStr
  observe : PyStr → Except PyError RuntimeEffectObservation

/-- `actual` of the constructor. -/
def RuntimeObservationSource.attributes (source : RuntimeObservationSource) : List PyStr :=
  [source.sourceId, source.sourceInstanceId, source.implementationDigest, source.trustAnchorId,
    source.trustAnchorDigest]

structure RuntimeReconciler where
  observer : RuntimeObservationSource
  trust : RuntimeObserverTrustBinding

namespace RuntimeReconciler

def build (observer : RuntimeObservationSource) (trust : RuntimeObserverTrustBinding) :
    Except PyError RuntimeReconciler := do
  trust.validate
  let binding ← trust.binding
  raiseIf (observer.attributes ≠ binding)
    (reconcilerError (py "runtime observer substitution denied"))
  return ⟨observer, trust⟩

def now : Moment → Except PyError DateTime
  | .naive _ => .error (reconcilerError (py "trusted reconciliation clock unavailable"))
  | .aware time offset => time.astimezoneUtc offset

def reconciliationId (receipt : RuntimeExecutionReceipt) (currentness : EffectTimeCurrentnessEvidence)
    (observation : RuntimeEffectObservation) : Except PyError PyStr := do
  let bytes ← encodeUtf8 (receipt.receiptDigest ++ py "\x00" ++ observation.observationDigest ++
    py "\x00" ++ currentness.evidenceDigest)
  return sha256 bytes

def recordOf (receipt : RuntimeExecutionReceipt) (currentness : EffectTimeCurrentnessEvidence)
    (observation : RuntimeEffectObservation) (id reconciledAt : PyStr) :
    RuntimeReconciliationReceipt where
  reconciliationId := id
  runtimeExecutionReceiptDigest := receipt.receiptDigest
  effectObservationDigest := observation.observationDigest
  currentnessEvidenceDigest := currentness.evidenceDigest
  executionId := receipt.executionId
  admissionDigest := receipt.admissionDigest
  disposition := (verdict receipt observation).1
  anomalyCodes := pySorted (verdict receipt observation).2.dedup
  reconciledEffectDigest := observation.effectDigest
  reconciledAt := reconciledAt
  reconciliationDigest := []
  schemaVersion := schema

/-- `reconcile`, at the time of the clock. -/
def reconcile (reconciler : RuntimeReconciler) (clock : Moment) (receipt : RuntimeExecutionReceipt)
    (currentness : EffectTimeCurrentnessEvidence) : Except PyError RuntimeReconciliationReceipt := do
  orReconcilerError (py "runtime reconciliation input invalid") (do
    receipt.validate
    currentness.validate)
  raiseIf (currentness.admissionDigest ≠ receipt.admissionDigest)
    (reconcilerError (py "currentness/admission binding mismatch"))
  let observation ← orReconcilerError (py "independent runtime observation unavailable")
    (reconciler.observer.observe receipt.executionId)
  orReconcilerError (py "independent runtime observation invalid") observation.validate
  let binding ← reconciler.trust.binding
  raiseIf (observation.sourceBinding ≠ binding)
    (reconcilerError (py "observation source binding mismatch"))
  raiseIf (receipt.outcome ≠ succeeded ∧ (verdict receipt observation).1 = .matched)
    (reconcilerError (py "non-success cannot reconcile as MATCHED"))
  let time ← now clock
  let id ← reconciliationId receipt currentness observation
  (recordOf receipt currentness observation id time.isoformatUtc).sealed

/-- The inputs that `reconcile` accepts: each record is valid, and they are bound to one
admission and to the trusted source. -/
structure Accepts (reconciler : RuntimeReconciler) (receipt : RuntimeExecutionReceipt)
    (currentness : EffectTimeCurrentnessEvidence) (observation : RuntimeEffectObservation) :
    Prop where
  validReceipt : receipt.validate = .ok ()
  validCurrentness : currentness.validate = .ok ()
  admission : currentness.admissionDigest = receipt.admissionDigest
  observed : reconciler.observer.observe receipt.executionId = .ok observation
  validObservation : observation.validate = .ok ()
  validTrust : reconciler.trust.validate = .ok ()
  source : observation.sourceBinding = reconciler.trust.bindingFields

end RuntimeReconciler

/-! ### What the verdict says -/

namespace RuntimeReconciliation

/-- The observation names the operation, the effect, the events and the side effects of the
receipt. -/
structure Agrees (receipt : RuntimeExecutionReceipt) (observation : RuntimeEffectObservation) :
    Prop where
  executionId : observation.executionId = receipt.executionId
  admissionDigest : observation.admissionDigest = receipt.admissionDigest
  requestDigest : observation.requestDigest = receipt.requestDigest
  operationDigest : observation.operationDigest = receipt.operationDigest
  action : observation.action = receipt.action
  resource : observation.resource = receipt.resource
  effectDigest : observation.effectDigest = receipt.effectDigest
  observedEvents : observation.observedEvents = receipt.observedEvents
  sideEffectRefs : ∀ ref, ref ∈ observation.sideEffectRefs ↔ ref ∈ receipt.sideEffectRefs

/-- An execution without success of which one side knows a part of the effect, and none
knows nothing. -/
structure PartlyKnown (receipt : RuntimeExecutionReceipt)
    (observation : RuntimeEffectObservation) : Prop where
  notSucceeded : receipt.outcome ≠ succeeded
  partly : receipt.effectState = partialUnknownState ∨
    observation.effectState = partialUnknownState
  receiptKnown : receipt.effectState ≠ unknownState
  observationKnown : observation.effectState ≠ unknownState

variable {receipt : RuntimeExecutionReceipt} {observation : RuntimeEffectObservation}

@[simp]
theorem anomalyIf_eq_nil {condition : Prop} [Decidable condition] {code : PyStr} :
    anomalyIf condition code = [] ↔ ¬ condition := by
  unfold anomalyIf
  split <;> simp_all

theorem fieldAnomalies_eq_nil_iff :
    fieldAnomalies receipt observation = [] ↔ Agrees receipt observation := by
  simp only [fieldAnomalies, List.append_eq_nil_iff, anomalyIf_eq_nil, not_not, ne_eq,
    RuntimeEffectObservation.operation, RuntimeExecutionReceipt.operation, List.cons.injEq,
    and_true]
  constructor
  · rintro ⟨⟨⟨⟨execution, admission, request, operation, action, resource⟩, effect⟩, events⟩,
      forth, back⟩
    exact ⟨execution, admission, request, operation, action, resource, effect, events,
      fun ref => ⟨fun member => forth member, fun member => back member⟩⟩
  · intro agrees
    exact ⟨⟨⟨⟨agrees.executionId, agrees.admissionDigest, agrees.requestDigest,
      agrees.operationDigest, agrees.action, agrees.resource⟩, agrees.effectDigest⟩,
      agrees.observedEvents⟩, fun ref => (agrees.sideEffectRefs ref).mp,
      fun ref => (agrees.sideEffectRefs ref).mpr⟩

theorem verdict_of_succeeded (success : receipt.outcome = succeeded) :
    (verdict receipt observation).1 =
      if (verdict receipt observation).2 ≠ [] then .mismatch else .matched := by
  simp only [verdict, if_pos success]

theorem verdict_eq_matched_iff :
    (verdict receipt observation).1 = .matched ↔
      receipt.outcome = succeeded ∧ receipt.effectState = observedState ∧
        observation.effectState = observedState ∧ Agrees receipt observation := by
  by_cases success : receipt.outcome = succeeded
  · have noneFound : (verdict receipt observation).2 = [] ↔
        receipt.effectState = observedState ∧ observation.effectState = observedState ∧
          Agrees receipt observation := by
      simp only [verdict, if_pos success, List.append_eq_nil_iff, anomalyIf_eq_nil, not_or, ne_eq,
        not_not, fieldAnomalies_eq_nil_iff]
      exact ⟨fun found => ⟨found.2.1, found.2.2, found.1⟩, fun found => ⟨found.2.2, found.1, found.2.1⟩⟩
    rw [verdict_of_succeeded success, ← noneFound]
    split_ifs with found <;> simp_all
  · have other : (verdict receipt observation).1 ≠ .matched := by
      simp only [verdict, if_neg success]
      split_ifs <;> simp
    simp [success, other]

theorem verdict_of_not_agrees (differs : ¬ Agrees receipt observation) :
    ((verdict receipt observation).1 = .mismatch ∨ (verdict receipt observation).1 = .unknown) ↔
      ¬ PartlyKnown receipt observation := by
  rw [← fieldAnomalies_eq_nil_iff] at differs
  by_cases success : receipt.outcome = succeeded
  · have notPartly : ¬ PartlyKnown receipt observation := fun partly => partly.notSucceeded success
    simp [verdict, success, differs, notPartly]
  simp only [verdict, if_neg success]
  split_ifs with mentioned unknown
  · have notPartly : ¬ PartlyKnown receipt observation := by
      rintro ⟨-, -, receiptKnown, observationKnown⟩
      exact unknown.elim observationKnown receiptKnown
    simp [notPartly]
  · rw [not_or] at unknown
    have partly : PartlyKnown receipt observation := by
      refine ⟨success, ?_, unknown.2, unknown.1⟩
      simpa [unknown.1, unknown.2] using mentioned
    simp [partly]
  · have notPartly : ¬ PartlyKnown receipt observation := by
      rintro ⟨-, partly, -, -⟩
      apply mentioned
      rcases partly with partly | partly <;> simp [partly]
    simp [notPartly]

theorem verdict_of_partlyKnown (partly : PartlyKnown receipt observation) :
    (verdict receipt observation).1 = .nonSuccessReconciled := by
  have mentioned : receipt.effectState ∈ [unknownState, partialUnknownState] ∨
      observation.effectState ∈ [unknownState, partialUnknownState] := by
    rcases partly.partly with known | known <;> simp [known]
  simp only [verdict, if_neg partly.notSucceeded, if_pos mentioned]
  rw [if_neg]
  exact fun unknown => unknown.elim partly.observationKnown partly.receiptKnown

theorem verdict_codes (receipt : RuntimeExecutionReceipt)
    (observation : RuntimeEffectObservation) :
    ((verdict receipt observation).1 = .matched → (verdict receipt observation).2 = []) ∧
      ((verdict receipt observation).1 ∈ [Disposition.mismatch, .unknown] →
        (verdict receipt observation).2 ≠ []) := by
  by_cases success : receipt.outcome = succeeded
  · rw [verdict_of_succeeded success]
    split_ifs with found
    · simp [found]
    · simp only [ne_eq, not_not] at found
      simp [found]
  simp only [verdict, if_neg success]
  split_ifs with mentioned unknown found
  · by_cases named : py "UNKNOWN_EFFECT" ∈ fieldAnomalies receipt observation
    · simp [List.ne_nil_of_mem named]
    · simp [named]
  · simp
  · simp [found]
  · simp

/-! ### Records that are valid -/

section Checks

variable {error : PyStr → PyError} {name value : PyStr} {u : Unit}

@[simp]
theorem text_eq_ok : text error name value = .ok u ↔ isLimitedText 2048 value = true := by
  simp [text]

@[simp]
theorem digest_eq_ok : digest error name value = .ok u ↔ isLowerHexOf 64 value = true := by
  simp only [digest, bind_eq_ok, raiseIf_eq_ok, not_not]
  constructor
  · rintro ⟨_, -, hex⟩
    exact hex
  · intro hex
    obtain ⟨length, notBlank, noNul⟩ := solid_of_isLowerHexOf hex
    exact ⟨(), by simp [isLimitedText, notBlank, noNul, length], hex⟩

@[simp]
theorem checkDigest_eq_ok {computed : Except PyError PyStr} :
    checkDigest error name value computed = .ok u ↔
      isLowerHexOf 64 value = true ∧ computed = .ok value := by
  simp only [checkDigest, bind_eq_ok, digest_eq_ok, raiseIf_eq_ok, ne_eq, not_not]
  constructor
  · rintro ⟨_, hex, found, isFound, rfl⟩
    exact ⟨hex, isFound⟩
  · rintro ⟨hex, isFound⟩
    exact ⟨(), hex, value, isFound, rfl⟩

theorem checkFields_eq_ok {check : PyStr → PyStr → Except PyError Unit}
    {fields : List (PyStr × PyStr)} :
    checkFields check fields = .ok u ↔ ∀ field ∈ fields, check field.1 field.2 = .ok () :=
  forM_eq_ok

theorem isLimitedText_of_isLowerHexOf (hex : isLowerHexOf 64 value = true) :
    isLimitedText 2048 value = true := by
  obtain ⟨length, notBlank, noNul⟩ := solid_of_isLowerHexOf hex
  simp [isLimitedText, notBlank, noNul, length]

theorem isLimitedText_isoformatUtc (time : DateTime) :
    isLimitedText 2048 time.isoformatUtc = true := by
  have clean := FleetCoordination.isClean_isoformatUtc time
  simp only [FleetCoordination.isClean, Bool.and_eq_true, Bool.not_eq_true'] at clean
  have short : time.isoformatUtc.length ≤ 2048 := by
    have clock : (IsoFormat.clockText time).length ≤ 15 := by
      rw [IsoFormat.clockText]
      split <;> simp [length_padDigits]
    have zone : (py "+00:00").length = 6 := rfl
    rw [IsoFormat.isoformatUtc_eq]
    simp only [List.length_append, List.length_cons, length_padDigits]
    omega
  have noNul : hasNul time.isoformatUtc = false := by
    rw [hasNul, List.any_eq_false]
    apply IsoFormat.forall_mem_isoformatUtc
    · intro c isDigit
      simp only [CodePoint.isAsciiDigit, Bool.and_eq_true, decide_eq_true_eq] at isDigit
      simp only [beq_iff_eq]
      omega
    · decide
  simp [isLimitedText, clean.1.1, short, noNul]

theorem utc_isoformatUtc (time : DateTime) :
    ∃ instant, utc error name time.isoformatUtc = .ok instant := by
  have noZulu : (0x5A : CodePoint) ∉ time.isoformatUtc := by
    intro member
    have differs : ∀ c ∈ time.isoformatUtc, c ≠ 0x5A := by
      apply IsoFormat.forall_mem_isoformatUtc
      · rintro c isDigit rfl
        exact absurd isDigit (by decide)
      · decide
    exact differs _ member rfl
  have limited : text error name time.isoformatUtc = .ok () :=
    text_eq_ok.mpr (isLimitedText_isoformatUtc time)
  rw [utc, limited, ok_bind, pyReplace_of_notMem noZulu, fromIsoFormat_isoformatUtc]
  exact ⟨_, rfl⟩

end Checks

theorem exists_canonicalJson_of_domainDigest {domain : PyStr} {value : Json} {found : PyStr}
    (digested : domainDigest domain value = .ok found) :
    ∃ bytes, canonicalJson value = .ok bytes := by
  simp only [domainDigest, bind_eq_ok] at digested
  obtain ⟨text, dumped, bytes, encoded, -⟩ := digested
  have encodable := bytes.encodable
  rw [encodeUtf8_eq_ok.mp encoded, Json.isEncodable_append] at encodable
  exact ⟨⟨text, encodable.2⟩, canonicalJson_eq_ok.mpr dumped⟩

theorem isEncodable_of_mem_verdict {code : PyStr} (member : code ∈ (verdict receipt observation).2) :
    isEncodable code = true := by
  have named : ∀ {condition : Prop} [Decidable condition] {literal : String},
      code ∈ anomalyIf condition (py literal) → isEncodable code = true := by
    intro condition _ literal inside
    unfold anomalyIf at inside
    split at inside
    · rw [List.mem_singleton.mp inside]
      exact isEncodable_py literal
    · simp at inside
  have inFields : code ∈ fieldAnomalies receipt observation → isEncodable code = true := by
    simp only [fieldAnomalies, List.mem_append]
    rintro (((inside | inside) | inside) | inside) <;> exact named inside
  by_cases success : receipt.outcome = succeeded
  · simp only [verdict, if_pos success, List.mem_append] at member
    exact member.elim inFields named
  simp only [verdict, if_neg success] at member
  split_ifs at member
  · exact (List.mem_append.mp member).elim inFields named
  · exact (List.mem_append.mp member).elim inFields named
  · exact inFields member
  · exact inFields member

end RuntimeReconciliation

theorem RuntimeReconciliationReceipt.exists_sealed {receipt : RuntimeReconciliationReceipt}
    (shape : receipt.validateShape = .ok ()) (writable : Json.Writable (.obj receipt.fields))
    (printable : (Json.obj receipt.fields).isPrintable = true) :
    ∃ digest, receipt.sealed = .ok { receipt with reconciliationDigest := digest } := by
  obtain ⟨digest, found, hex⟩ := exists_domainDigest
    (isEncodable_py "LION/F009-RUNTIME-RECONCILIATION/1\x00") writable printable
  have digested : receipt.computeDigest = .ok digest := by
    rw [RuntimeReconciliationReceipt.computeDigest, shape, ok_bind, found]
  refine ⟨digest, ?_⟩
  have valid : { receipt with reconciliationDigest := digest }.validate = .ok () := by
    simp only [RuntimeReconciliationReceipt.validate, bind_eq_ok, checkDigest_eq_ok]
    exact ⟨(), shape, hex, digested⟩
  simp only [RuntimeReconciliationReceipt.sealed, bind_eq_ok, pure_eq_ok]
  exact ⟨(), shape, _, digested, (), valid, rfl⟩

theorem RuntimeExecutionReceipt.of_sealed {receipt result : RuntimeExecutionReceipt}
    (isSealed : receipt.sealed = .ok result) :
    result.validate = .ok () ∧ ∃ digest, result = { receipt with receiptDigest := digest } := by
  simp only [RuntimeExecutionReceipt.sealed, bind_eq_ok, pure_eq_ok] at isSealed
  obtain ⟨_, -, digest, -, _, valid, rfl⟩ := isSealed
  exact ⟨valid, digest, rfl⟩

theorem EffectTimeCurrentnessEvidence.of_sealed {evidence result : EffectTimeCurrentnessEvidence}
    (isSealed : evidence.sealed = .ok result) :
    result.validate = .ok () ∧ ∃ digest, result = { evidence with evidenceDigest := digest } := by
  simp only [EffectTimeCurrentnessEvidence.sealed, bind_eq_ok, pure_eq_ok] at isSealed
  obtain ⟨_, -, digest, -, _, valid, rfl⟩ := isSealed
  exact ⟨valid, digest, rfl⟩

theorem RuntimeEffectObservation.of_sealed {observation result : RuntimeEffectObservation}
    (isSealed : observation.sealed = .ok result) :
    result.validate = .ok () ∧ ∃ digest, result = { observation with observationDigest := digest } := by
  simp only [RuntimeEffectObservation.sealed, bind_eq_ok, pure_eq_ok] at isSealed
  obtain ⟨_, -, digest, -, _, valid, rfl⟩ := isSealed
  exact ⟨valid, digest, rfl⟩

namespace RuntimeReconciliation

variable {receipt : RuntimeExecutionReceipt} {observation : RuntimeEffectObservation}

theorem of_validate_receipt (valid : receipt.validate = .ok ()) :
    isLimitedText 2048 receipt.executionId = true ∧ isEncodable receipt.executionId = true ∧
      isLowerHexOf 64 receipt.admissionDigest = true ∧
      isLowerHexOf 64 receipt.receiptDigest = true := by
  simp only [RuntimeExecutionReceipt.validate, bind_eq_ok, checkDigest_eq_ok] at valid
  obtain ⟨_, shape, hex, computed⟩ := valid
  simp only [RuntimeExecutionReceipt.computeDigest, shape, ok_bind] at computed
  obtain ⟨bytes, written⟩ := exists_canonicalJson_of_domainDigest computed
  simp only [RuntimeExecutionReceipt.validateShape, bind_eq_ok, checkFields_eq_ok, text_eq_ok,
    digest_eq_ok] at shape
  obtain ⟨_, -, _, texts, _, digests, -⟩ := shape
  exact ⟨texts (py "execution_id", receipt.executionId) (by simp),
    isEncodable_of_mem_str (py "execution_id") (by simp [RuntimeExecutionReceipt.fields]) written,
    digests (py "admission_digest", receipt.admissionDigest) (by simp), hex⟩

theorem of_validate_observation (valid : observation.validate = .ok ()) :
    isLowerHexOf 64 observation.effectDigest = true ∧
      isLowerHexOf 64 observation.observationDigest = true := by
  simp only [RuntimeEffectObservation.validate, bind_eq_ok, checkDigest_eq_ok] at valid
  obtain ⟨_, shape, hex, -⟩ := valid
  simp only [RuntimeEffectObservation.validateShape, bind_eq_ok, checkFields_eq_ok, text_eq_ok,
    digest_eq_ok] at shape
  obtain ⟨_, -, _, -, _, digests, -⟩ := shape
  exact ⟨digests (py "effect_digest", observation.effectDigest) (by simp), hex⟩

theorem of_validate_currentness {currentness : EffectTimeCurrentnessEvidence}
    (valid : currentness.validate = .ok ()) :
    isLowerHexOf 64 currentness.evidenceDigest = true := by
  simp only [EffectTimeCurrentnessEvidence.validate, bind_eq_ok, checkDigest_eq_ok] at valid
  exact valid.choose_spec.2.1

end RuntimeReconciliation

/-! ### What `reconcile` returns -/

namespace RuntimeReconciler

variable {reconciler : RuntimeReconciler} {receipt : RuntimeExecutionReceipt}
  {currentness : EffectTimeCurrentnessEvidence} {observation : RuntimeEffectObservation}
  {clock : Moment} {time : DateTime}

theorem validateShape_recordOf
    (accepted : reconciler.Accepts receipt currentness observation) (time : DateTime) {id : PyStr}
    (identified : isLowerHexOf 64 id = true) :
    (recordOf receipt currentness observation id time.isoformatUtc).validateShape = .ok () := by
  obtain ⟨named, -, admission, received⟩ := of_validate_receipt accepted.validReceipt
  obtain ⟨effect, observed⟩ := of_validate_observation accepted.validObservation
  have current := of_validate_currentness accepted.validCurrentness
  have clockText : ∃ instant, utc contractError (py "reconciled_at") time.isoformatUtc =
      .ok instant := utc_isoformatUtc time
  obtain ⟨instant, readTime⟩ := clockText
  obtain ⟨ofMatched, ofOther⟩ := verdict_codes receipt observation
  have distinct : (pySorted (verdict receipt observation).2.dedup).Nodup :=
    (List.perm_insertionSort _ _).nodup_iff.mpr (List.nodup_dedup _)
  have emptyIff : pySorted (verdict receipt observation).2.dedup = [] ↔
      (verdict receipt observation).2 = [] := by
    rw [pySorted, ← List.length_eq_zero_iff, List.length_insertionSort, List.length_eq_zero_iff,
      List.dedup_eq_nil]
  simp only [RuntimeReconciliationReceipt.validateShape, recordOf, bind_eq_ok, checkFields_eq_ok,
    text_eq_ok, digest_eq_ok, raiseIf_eq_ok, List.forall_mem_cons, pure_eq_ok, not_not, ne_eq,
    not_and, emptyIff]
  exact ⟨(), trivial, (), ⟨isLimitedText_of_isLowerHexOf identified, named, by simp⟩, (),
    ⟨received, observed, current, admission, effect, by simp⟩, (),
    raiseIf_eq_ok.mpr (not_not.mpr distinct), (), ofMatched, (), ofOther, instant, readTime, trivial⟩

theorem exists_reconcile (accepted : reconciler.Accepts receipt currentness observation)
    (reads : now clock = .ok time) :
    ∃ result, reconciler.reconcile clock receipt currentness = .ok result ∧
      result.disposition = (verdict receipt observation).1 ∧
      result.anomalyCodes = pySorted (verdict receipt observation).2.dedup := by
  obtain ⟨-, encodable, admission, received⟩ := of_validate_receipt accepted.validReceipt
  obtain ⟨effect, observed⟩ := of_validate_observation accepted.validObservation
  have current := of_validate_currentness accepted.validCurrentness
  have ofHex : ∀ {value : PyStr}, isLowerHexOf 64 value = true → isEncodable value = true :=
    isEncodable_of_isLowerHexOf
  have joined : isEncodable (receipt.receiptDigest ++ py "\x00" ++ observation.observationDigest ++
      py "\x00" ++ currentness.evidenceDigest) = true := by
    simp only [Json.isEncodable_append]
    exact ⟨⟨⟨⟨ofHex received, isEncodable_py _⟩, ofHex observed⟩, isEncodable_py _⟩, ofHex current⟩
  obtain ⟨bytes, encoded⟩ := exists_encodeUtf8 joined
  have identified : reconciliationId receipt currentness observation = .ok (sha256 bytes) := by
    rw [reconciliationId, encoded]
    rfl
  have shape := validateShape_recordOf accepted time (isLowerHexOf_sha256 bytes)
  have writable : Json.Writable (.obj
      (recordOf receipt currentness observation (sha256 bytes) time.isoformatUtc).fields) := by
    have codes : Json.Writable (textList (pySorted (verdict receipt observation).2.dedup)) := by
      refine writable_textList_iff.mpr fun code member => ?_
      rw [mem_pySorted, List.mem_dedup] at member
      exact isEncodable_of_mem_verdict member
    have timeEncodable : isEncodable time.isoformatUtc = true := isEncodable_isoformatUtc time
    refine .obj ?_ ?_
    · simp [RuntimeReconciliationReceipt.fields, isEncodable_py]
    · simp only [RuntimeReconciliationReceipt.fields, recordOf, List.forall_mem_cons,
        Json.writable_str_iff, codes, true_and, ofHex received, ofHex observed, ofHex current,
        ofHex admission, ofHex effect, encodable, ofHex (isLowerHexOf_sha256 bytes),
        timeEncodable]
      refine ⟨?_, isEncodable_py _, by simp⟩
      cases (verdict receipt observation).1 <;> decide
  have printable : (Json.obj (recordOf receipt currentness observation (sha256 bytes)
      time.isoformatUtc).fields).isPrintable = true := by
    simp [RuntimeReconciliationReceipt.fields, Json.isPrintable, Json.membersPrintable, textList,
      Json.arePrintable_eq_all]
  obtain ⟨digest, isSealed⟩ :=
    RuntimeReconciliationReceipt.exists_sealed shape writable printable
  refine ⟨{ recordOf receipt currentness observation (sha256 bytes) time.isoformatUtc with
    reconciliationDigest := digest }, ?_, rfl, rfl⟩
  have notMatched : ¬ (receipt.outcome ≠ succeeded ∧ (verdict receipt observation).1 = .matched) :=
    fun both => both.1 (verdict_eq_matched_iff.mp both.2).1
  simp only [reconcile, orReconcilerError, bind_eq_ok, rethrow_eq_ok, raiseIf_eq_ok]
  exact ⟨(), ⟨(), accepted.validReceipt, accepted.validCurrentness⟩, (),
    not_not.mpr accepted.admission, observation, accepted.observed, (), accepted.validObservation,
    reconciler.trust.bindingFields, by
      simp [RuntimeObserverTrustBinding.binding, accepted.validTrust], (),
    not_not.mpr accepted.source, (), notMatched, time, reads, sha256 bytes, identified, isSealed⟩

structure VerdictsHold (receipt : RuntimeExecutionReceipt)
    (observation : RuntimeEffectObservation) (result : RuntimeReconciliationReceipt) : Prop where
  matched : result.disposition = .matched ↔
    receipt.outcome = succeeded ∧ receipt.effectState = observedState ∧
      observation.effectState = observedState ∧ RuntimeReconciliation.Agrees receipt observation
  differing : ¬ RuntimeReconciliation.Agrees receipt observation →
    result.disposition = .mismatch ∨ result.disposition = .unknown

/-- On accepted inputs `reconcile` returns, a match is what it should be, and a difference is a
mismatch or unknown exactly when the effect is not partly known. -/
theorem reconcile_verdicts_iff (accepted : reconciler.Accepts receipt currentness observation)
    (reads : now clock = .ok time) :
    (∃ result, reconciler.reconcile clock receipt currentness = .ok result ∧
        VerdictsHold receipt observation result) ↔
      ¬ (PartlyKnown receipt observation ∧ ¬ RuntimeReconciliation.Agrees receipt observation) := by
  obtain ⟨result, returned, disposition, -⟩ := exists_reconcile accepted reads
  constructor
  · rintro ⟨other, isOther, holds⟩ ⟨partly, differs⟩
    obtain rfl := Except.ok.inj (returned.symm.trans isOther)
    have verdicts := holds.differing differs
    rw [disposition] at verdicts
    exact (verdict_of_not_agrees differs).mp verdicts partly
  · intro notPartly
    refine ⟨result, returned, ?_, ?_⟩
    · rw [disposition]
      exact verdict_eq_matched_iff
    · intro differs
      rw [disposition]
      exact (verdict_of_not_agrees differs).mpr fun partly => notPartly ⟨partly, differs⟩

/-! ### An effect that is partly known on both sides -/

def onlyDigit (digit : CodePoint) : PyStr :=
  List.replicate 64 digit

def abortedDraft : RuntimeExecutionReceipt where
  receiptId := py "receipt-1"
  executionId := py "execution-1"
  admissionDigest := onlyDigit 0x61
  requestDigest := onlyDigit 0x62
  sandboxReceiptDigest := onlyDigit 0x63
  operationDigest := onlyDigit 0x64
  missionId := py "mission-1"
  executorId := py "executor-1"
  runtimeInstanceId := py "runtime-1"
  sandboxId := py "sandbox-1"
  workspaceId := py "workspace-1"
  dispatchId := onlyDigit 0x65
  fencingToken := onlyDigit 0x66
  generation := 1
  action := py "WRITE_FILE"
  resource := py "report.txt"
  payloadDigest := onlyDigit 0x30
  outcome := py "ABORTED"
  effectState := partialUnknownState
  effectDigest := onlyDigit 0x31
  observedEvents := [py "STARTED"]
  sideEffectRefs := [py "report.txt"]
  receiptDigest := []
  schemaVersion := schema

def currentnessDraft : EffectTimeCurrentnessEvidence where
  evidenceId := py "evidence-1"
  admissionDigest := onlyDigit 0x61
  requestedEffectDigest := onlyDigit 0x62
  runtimeIdentityDigest := onlyDigit 0x63
  liveAuthorityDigest := onlyDigit 0x64
  authorityLineageDigest := onlyDigit 0x65
  policyBinding := py "policy-1"
  observabilityState := py "HEALTHY"
  sourceId := py "currentness"
  sourceInstanceId := py "currentness-1"
  sourceImplementationDigest := onlyDigit 0x66
  trustAnchorId := py "anchor-1"
  trustAnchorDigest := onlyDigit 0x30
  observedAt := py "2026-01-02T03:04:05+00:00"
  evidenceDigest := []
  schemaVersion := schema

def observationDraft : RuntimeEffectObservation where
  observationId := py "observation-1"
  executionId := py "execution-1"
  admissionDigest := onlyDigit 0x61
  requestDigest := onlyDigit 0x62
  operationDigest := onlyDigit 0x64
  action := py "WRITE_FILE"
  resource := py "report.txt"
  effectState := partialUnknownState
  effectDigest := onlyDigit 0x32
  observedEvents := [py "STARTED"]
  sideEffectRefs := [py "report.txt"]
  sourceId := py "observer"
  sourceInstanceId := py "observer-1"
  sourceImplementationDigest := onlyDigit 0x33
  trustAnchorId := py "anchor-2"
  trustAnchorDigest := onlyDigit 0x34
  observedAt := py "2026-01-02T03:04:06+00:00"
  observationDigest := []
  schemaVersion := schema

def observerTrust : RuntimeObserverTrustBinding where
  sourceId := py "observer"
  sourceInstanceId := py "observer-1"
  sourceImplementationDigest := onlyDigit 0x33
  trustAnchorId := py "anchor-2"
  trustAnchorDigest := onlyDigit 0x34
  schemaVersion := schema

/-- The reconciler that trusts the source of the draft, which returns the observation. -/
def trusting (observation : RuntimeEffectObservation) : RuntimeReconciler where
  observer := {
    sourceId := py "observer"
    sourceInstanceId := py "observer-1"
    implementationDigest := onlyDigit 0x33
    trustAnchorId := py "anchor-2"
    trustAnchorDigest := onlyDigit 0x34
    observe := fun _ => .ok observation }
  trust := observerTrust

def reconciliationTime : DateTime :=
  ⟨2026, 1, 2, 3, 4, 7, 0, by decide⟩

theorem returned_sealed :
    (returned abortedDraft.sealed && returned currentnessDraft.sealed &&
      returned observationDraft.sealed) = true := by
  delta RuntimeExecutionReceipt.sealed EffectTimeCurrentnessEvidence.sealed
    RuntimeEffectObservation.sealed RuntimeExecutionReceipt.validate
    EffectTimeCurrentnessEvidence.validate RuntimeEffectObservation.validate
    RuntimeExecutionReceipt.computeDigest EffectTimeCurrentnessEvidence.computeDigest
    RuntimeEffectObservation.computeDigest domainDigest
  rw [Sha256.sha256_eq_evalText]
  decide +kernel

theorem exists_accepts : ∃ receipt currentness observation,
    abortedDraft.sealed = .ok receipt ∧ currentnessDraft.sealed = .ok currentness ∧
      observationDraft.sealed = .ok observation ∧
      (trusting observation).Accepts receipt currentness observation ∧
      PartlyKnown receipt observation ∧ observation.effectDigest ≠ receipt.effectDigest := by
  have allSealed := returned_sealed
  rw [Bool.and_eq_true, Bool.and_eq_true] at allSealed
  obtain ⟨receipt, receiptSealed⟩ := exists_eq_ok_of_returned allSealed.1.1
  obtain ⟨currentness, currentnessSealed⟩ := exists_eq_ok_of_returned allSealed.1.2
  obtain ⟨observation, observationSealed⟩ := exists_eq_ok_of_returned allSealed.2
  refine ⟨receipt, currentness, observation, receiptSealed, currentnessSealed, observationSealed, ?_⟩
  obtain ⟨validReceipt, receiptDigest, rfl⟩ := RuntimeExecutionReceipt.of_sealed receiptSealed
  obtain ⟨validCurrentness, evidenceDigest, rfl⟩ :=
    EffectTimeCurrentnessEvidence.of_sealed currentnessSealed
  obtain ⟨validObservation, observationDigest, rfl⟩ :=
    RuntimeEffectObservation.of_sealed observationSealed
  refine ⟨?_, ?_, (by decide : observationDraft.effectDigest ≠ abortedDraft.effectDigest)⟩
  · exact {
      validReceipt, validCurrentness, validObservation
      admission := rfl
      observed := rfl
      validTrust := (eq_ok_of_returned (by decide +kernel) : observerTrust.validate = .ok ())
      source := rfl }
  · exact {
      notSucceeded := (by decide : abortedDraft.outcome ≠ succeeded)
      partly := .inl rfl
      receiptKnown := (by decide : abortedDraft.effectState ≠ unknownState)
      observationKnown := (by decide : observationDraft.effectState ≠ unknownState) }

/-- Two records that know a part of different effects count as reconciled. -/
theorem reconcile_differing_effects : ∃ receipt currentness observation result,
    abortedDraft.sealed = .ok receipt ∧ currentnessDraft.sealed = .ok currentness ∧
      observationDraft.sealed = .ok observation ∧
      (trusting observation).Accepts receipt currentness observation ∧
      (trusting observation).reconcile (.aware reconciliationTime 0) receipt currentness =
        .ok result ∧
      observation.effectDigest ≠ receipt.effectDigest ∧
      result.disposition = .nonSuccessReconciled := by
  obtain ⟨receipt, currentness, observation, receiptSealed, currentnessSealed, observationSealed,
    accepted, partly, differs⟩ := exists_accepts
  have reads : now (.aware reconciliationTime 0) = .ok reconciliationTime := rfl
  obtain ⟨result, returned, disposition, -⟩ := exists_reconcile accepted reads
  refine ⟨receipt, currentness, observation, result, receiptSealed, currentnessSealed,
    observationSealed, accepted, returned, differs, ?_⟩
  rw [disposition]
  exact verdict_of_partlyKnown partly

theorem reconcile_verdicts_of_drafts : ∃ receipt currentness observation,
    (trusting observation).Accepts receipt currentness observation ∧
      ((∃ result, (trusting observation).reconcile (.aware reconciliationTime 0) receipt
            currentness = .ok result ∧ VerdictsHold receipt observation result) ↔
        ¬ (PartlyKnown receipt observation ∧
          ¬ RuntimeReconciliation.Agrees receipt observation)) := by
  obtain ⟨receipt, currentness, observation, -, -, -, accepted, -⟩ := exists_accepts
  exact ⟨receipt, currentness, observation, accepted,
    reconcile_verdicts_iff accepted
      (rfl : now (.aware reconciliationTime 0) = .ok reconciliationTime)⟩

end RuntimeReconciler

end CyberLion
