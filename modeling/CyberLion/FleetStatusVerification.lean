import CyberLion.FleetStatusHistory

/-!
# Reads of the fleet status that come again

The last read that a source had accepted is answered with its checkpoint, an older one and
another one of the same instant are refused, and what raises commits nothing.
-/

namespace CyberLion

namespace FleetStatus

open PyLib
open FleetCoordination (zeroDigest)

/-! ### Checkpoints are valid -/

theorem sourceSha256_sha256 (name : PyStr) (bytes : Utf8Bytes) :
    sourceSha256 name (sha256 bytes) = .ok () := by
  have hex := isLowerHexOf_sha256 bytes
  obtain ⟨length, notBlank, noNul⟩ := solid_of_isLowerHexOf hex
  have text : ¬ (isBlank (sha256 bytes) = true ∨ (sha256 bytes).length > 64 ∨
      hasNul (sha256 bytes) = true) := by
    simp [length, notBlank, noNul]
  rw [sourceSha256, sourceText, raiseIf, if_neg text, ok_bind]
  exact raiseIf_eq_ok.mpr (ne_of_eq_of_ne hex (by simp))

theorem sourceSha256_of_digestOf {name digest : PyStr} {value : Json}
    (digested : digestOf value = .ok digest) : sourceSha256 name digest = .ok () := by
  simp only [digestOf, bind_eq_ok, pure_eq_ok] at digested
  obtain ⟨bytes, -, rfl⟩ := digested
  exact sourceSha256_sha256 name bytes

theorem validate_next {read : StatusSourceRead} {clock : Moment}
    {ingestedAt identityDigest readDigest previousChain batchDigest chainDigest : PyStr}
    {sourceTime : DateTime} {found : Option CheckpointRow} {sequence : Nat}
    (readable : Readable read clock ingestedAt sourceTime identityDigest readDigest)
    (placed : placeOf read.sourceIdentity identityDigest readDigest sourceTime found =
      .ok (.next sequence previousChain))
    (isBatch : sourceBatchDigest identityDigest sequence read.sourceObservedAt readDigest =
      .ok batchDigest)
    (isChain : sourceChainDigest previousChain batchDigest = .ok chainDigest) :
    ((batchOf read ingestedAt identityDigest readDigest sequence previousChain batchDigest
      chainDigest).checkpoint.returned identityDigest).validate = .ok () := by
  have identity := readable.identity
  simp only [StatusSourceIdentity.digest, bind_eq_ok] at identity
  obtain ⟨_, valid, identityDigested⟩ := identity
  simp only [StatusSourceIdentity.validate, bind_eq_ok, List.forM_eq_forM] at valid
  obtain ⟨_, texts, -⟩ := valid
  have isRead := readable.digest
  simp only [StatusSourceRead.digest, bind_eq_ok] at isRead
  obtain ⟨_, readValid, _, -, readDigested⟩ := isRead
  simp only [StatusSourceRead.validate, bind_eq_ok] at readValid
  obtain ⟨_, -, time, isTime, -⟩ := readValid
  have chainHex : sourceSha256 (py "source_chain_digest") chainDigest = .ok () := by
    simp only [sourceChainDigest, digestText, bind_eq_ok, pure_eq_ok] at isChain
    obtain ⟨bytes, -, rfl⟩ := isChain
    exact sourceSha256_sha256 _ bytes
  have positive : ¬ sequence < 1 := by
    rcases next_of_placeOf placed with ⟨-, rfl, -⟩ | ⟨_, _, -, -, -, -, rfl, -⟩ <;> omega
  simp only [SourceCheckpoint.validate, bind_eq_ok, List.forM_eq_forM, raiseIf_eq_ok, pure_eq_ok]
  refine ⟨(), forM_eq_ok.mp texts (py "source_id", read.sourceIdentity.sourceId) (by simp), (),
    forM_eq_ok.mpr ?_, (), positive, time, isTime, trivial⟩
  intro field member
  simp only [List.mem_cons, List.not_mem_nil, or_false] at member
  rcases member with rfl | rfl | rfl | rfl
  · exact sourceSha256_of_digestOf identityDigested
  · exact sourceSha256_of_digestOf readDigested
  · exact sourceSha256_of_digestOf isBatch
  · exact chainHex

theorem validate_of_ingestWork {read : StatusSourceRead} {clock : Moment}
    {store after : StatusStore} {checkpoint : SourceCheckpoint}
    (worked : ingestWork read clock store = .ok (after, checkpoint)) :
    checkpoint.validate = .ok () := by
  obtain ⟨_, _, _, _, readable, found⟩ := ingestWork_cases worked
  rcases found with ⟨row, -, isFound, -, -⟩ |
    ⟨_, _, _, _, placed, isBatch, isChain, -, rfl⟩
  · exact isFound
  · exact validate_next readable placed isBatch isChain

theorem stepCall_of_error {pins : VerificationTrustPins} {store : StatusStore} {call : TimedCall}
    {error : PyError} (raised : (call.1.perform pins call.2 store).2 = .error error) :
    stepCall pins store call = store := by
  obtain ⟨call, clock⟩ := call
  cases call with
  | ingestSourceRead read =>
    simp only [StoreCall.perform, ingestSourceRead] at raised
    simp only [stepCall, StoreCall.perform, ingestSourceRead]
    cases worked : ingestWork read clock store with
    | error _ => rfl
    | ok result =>
      rw [worked] at raised
      simp only [validate_of_ingestWork worked] at raised
      exact absurd raised (by simp [Except.map])
  | _ =>
    simp only [StoreCall.perform] at raised
    simp only [stepCall, StoreCall.perform]
    split
    · rename_i after worked
      rw [worked] at raised
      exact absurd raised (by simp)
    · rfl

/-! ### The last read of a source -/

theorem placeOf_eq_repeated {identity : StatusSourceIdentity} {identityDigest readDigest : PyStr}
    {sourceTime : DateTime} {found : Option CheckpointRow} {row : CheckpointRow} :
    placeOf identity identityDigest readDigest sourceTime found = .ok (.repeated row) ↔
      found = some row ∧ identity.columns identityDigest = row.identityColumns ∧
        parseUtc row.sourceObservedAt = .ok sourceTime ∧ readDigest = row.readDigest := by
  cases found with
  | none => simp [placeOf]
  | some checkpoint =>
    simp only [placeOf, bind_eq_ok, raiseIf_eq_ok, not_not, ne_eq, Option.some.injEq]
    constructor
    · rintro ⟨_, columns, previousTime, isPrevious, _, -, placed⟩
      split at placed
      · rename_i same
        simp only [bind_eq_ok, raiseIf_eq_ok, not_not, pure_eq_ok] at placed
        obtain ⟨_, sameRead, isRow⟩ := placed
        obtain rfl := Place.repeated.inj isRow
        exact ⟨rfl, columns, same ▸ isPrevious, sameRead⟩
      · exact absurd (Except.ok.inj placed) (by simp)
    · rintro ⟨rfl, columns, isPrevious, sameRead⟩
      refine ⟨(), columns, sourceTime, isPrevious, (), lt_irrefl _, ?_⟩
      rw [if_pos rfl]
      simp only [bind_eq_ok, raiseIf_eq_ok, not_not, pure_eq_ok]
      exact ⟨(), sameRead, trivial⟩

theorem checkpointOf_of_appendEvent {kind : EventType} {mission : Option PyStr}
    {fields : List (PyStr × Json)} {time : PyStr} {store after : StatusStore}
    (appended : appendEvent kind mission (.obj fields) time store = .ok after) (sourceId : PyStr) :
    after.checkpointOf sourceId = store.checkpointOf sourceId := by
  obtain ⟨event, -, rfl⟩ := appendEvent_eq_ok.mp appended
  rfl

theorem exists_repeated_of_ingestWork {read : StatusSourceRead} {clock : Moment}
    {store after : StatusStore} {checkpoint : SourceCheckpoint}
    (worked : ingestWork read clock store = .ok (after, checkpoint)) :
    ∃ ingestedAt sourceTime identityDigest readDigest row,
      Readable read clock ingestedAt sourceTime identityDigest readDigest ∧
      placeOf read.sourceIdentity identityDigest readDigest sourceTime
        (after.checkpointOf read.sourceIdentity.sourceId) = .ok (.repeated row) ∧
      checkpoint = { row.returned identityDigest with
        sourceId := read.sourceIdentity.sourceId } := by
  obtain ⟨ingestedAt, sourceTime, identityDigest, readDigest, readable, found⟩ :=
    ingestWork_cases worked
  rcases found with ⟨row, placed, -, rfl, rfl⟩ |
    ⟨sequence, previousChain, batchDigest, chainDigest, -, -, -, committed, rfl⟩
  · exact ⟨ingestedAt, sourceTime, identityDigest, readDigest, row, readable, placed, rfl⟩
  · refine ⟨ingestedAt, sourceTime, identityDigest, readDigest,
      (batchOf read ingestedAt identityDigest readDigest sequence previousChain batchDigest
        chainDigest).checkpoint, readable, ?_, rfl⟩
    simp only [commitBatch, bind_eq_ok] at committed
    obtain ⟨_, -, observationRows, -, appended⟩ := committed
    have row := @checkpointOf_withBatch store (batchOf read ingestedAt identityDigest readDigest
      sequence previousChain batchDigest chainDigest) [] read.sourceIdentity.sourceId
    rw [checkpointOf_of_appendEvent appended]
    exact placeOf_eq_repeated.mpr ⟨row.trans (if_pos rfl), rfl, readable.instant, rfl⟩

/-- A read is answered with its checkpoint, unless the clock runs behind it; an older read of its
source, or another one of its instant, is refused. -/
structure ReadSettled (read : StatusSourceRead) (checkpoint : SourceCheckpoint)
    (store : StatusStore) : Prop where
  again : ∀ clock time instant sourceTime, now clock = .ok time → parseUtc time = .ok instant →
    parseUtc read.sourceObservedAt = .ok sourceTime → sourceTime.packed ≤ instant.packed →
      ingestSourceRead read clock store = (store, .ok checkpoint)
  refuses : ∀ (other : StatusSourceRead) clock instant sourceTime,
    other.sourceIdentity.sourceId = read.sourceIdentity.sourceId →
    parseUtc other.sourceObservedAt = .ok instant →
    parseUtc read.sourceObservedAt = .ok sourceTime →
    instant.packed < sourceTime.packed ∨ instant = sourceTime ∧ other.digest ≠ read.digest →
      ∃ error, ingestSourceRead other clock store = (store, .error error)

theorem readSettled_of_accepted {read : StatusSourceRead} {clock : Moment}
    {store after later : StatusStore} {checkpoint : SourceCheckpoint}
    (accepted : ingestSourceRead read clock store = (after, .ok checkpoint))
    (stands : later.checkpointOf read.sourceIdentity.sourceId =
      after.checkpointOf read.sourceIdentity.sourceId) :
    ReadSettled read checkpoint later := by
  have worked : ingestWork read clock store = .ok (after, checkpoint) := by
    unfold ingestSourceRead at accepted
    split at accepted
    · exact absurd (congrArg Prod.snd accepted) (by simp)
    · rename_i result worked
      simp only [validate_of_ingestWork worked, ok_bind, Prod.mk.injEq, pure_eq_ok] at accepted
      obtain ⟨rfl, rfl⟩ := accepted
      exact worked
  obtain ⟨_, sourceTime, identityDigest, readDigest, row, readable, placed, rfl⟩ :=
    exists_repeated_of_ingestWork worked
  have valid := validate_of_ingestWork worked
  rw [← stands] at placed
  constructor
  · intro again time instant readTime isTime isInstant isRead notBefore
    obtain rfl := Except.ok.inj (isRead.symm.trans readable.instant)
    have repeated : ingestWork read again later = .ok (later, { row.returned identityDigest with
        sourceId := read.sourceIdentity.sourceId }) := by
      simp only [ingestWork, bind_eq_ok, raiseIf_eq_ok]
      refine ⟨(), readable.valid, time, isTime, _, readable.instant, instant, isInstant,
        (), not_lt.mpr notBefore, identityDigest, readable.identity, readDigest, readable.digest,
        _, placed, ?_⟩
      simp only [bind_eq_ok, pure_eq_ok]
      exact ⟨(), valid, trivial⟩
    rw [ingestSourceRead, repeated]
    simp only [valid, ok_bind]
    rfl
  · intro other again instant readTime sameSource isInstant isRead refused
    obtain rfl := Except.ok.inj (isRead.symm.trans readable.instant)
    cases otherWorked : ingestWork other again later with
    | error error => exact ⟨error, by rw [ingestSourceRead, otherWorked]⟩
    | ok result =>
      obtain ⟨otherAfter, otherCheckpoint⟩ := result
      exfalso
      obtain ⟨isRow, -, rowTime, rowRead⟩ := placeOf_eq_repeated.mp placed
      obtain ⟨_, otherTime, _, otherDigest, otherReadable, found⟩ :=
        ingestWork_cases otherWorked
      obtain rfl := Except.ok.inj (isInstant.symm.trans otherReadable.instant)
      rw [sameSource] at found
      rcases found with ⟨otherRow, otherPlaced, -, -, -⟩ | ⟨_, _, _, _, otherPlaced, -, -, -, -⟩
      · obtain ⟨isOther, -, otherRowTime, otherRead⟩ := placeOf_eq_repeated.mp otherPlaced
        obtain rfl := Option.some.inj (isRow.symm.trans isOther)
        obtain rfl := Except.ok.inj (rowTime.symm.trans otherRowTime)
        rcases refused with earlier | ⟨-, differs⟩
        · exact lt_irrefl _ earlier
        · rw [otherReadable.digest, readable.digest, otherRead, rowRead] at differs
          exact differs rfl
      · rcases next_of_placeOf otherPlaced with ⟨absent, -, -⟩ |
          ⟨otherRow, previousTime, isOther, -, isPrevious, before, -, -⟩
        · rw [absent] at isRow
          exact absurd isRow (by simp)
        · obtain rfl := Option.some.inj (isRow.symm.trans isOther)
          obtain rfl := Except.ok.inj (rowTime.symm.trans isPrevious)
          rcases refused with earlier | ⟨rfl, -⟩
          · exact lt_asymm before earlier
          · exact lt_irrefl _ before

/-! ### Every run -/

/-- What the walks over the journals return, with the tables of the sources. -/
structure JournalsVerify (store : StatusStore) : Prop where
  events : verifyEventChain store = .ok store.eventHead
  receipts : verifyReceiptChain store = .ok store.receiptHead
  sources : ∃ heads, verifySourceChains store = .ok heads
  decisions : verifySourceDecisions store = .ok ()
  revision : store.revision = store.events.length
  history : ∀ sourceId, SourceSound store sourceId (store.history sourceId)

theorem Verified.journalsVerify {store : StatusStore} (verified : Verified store) :
    JournalsVerify store :=
  ⟨verified.events.verifyEventChain_eq_ok, verified.verifyReceiptChain_eq_ok,
    verified.sources.exists_verifySourceChains, verified.verifySourceDecisions_eq_ok,
    verified.revision, verified.sources.sound⟩

/-- After every run the journals verify, a call that raises commits nothing, and a read that is
accepted is settled until its source has another checkpoint. -/
theorem journalsVerify_runCalls (pins : VerificationTrustPins) (registryInstanceId : PyStr)
    (calls : List TimedCall) :
    JournalsVerify (runCalls pins calls (emptyStore registryInstanceId)) ∧
      (∀ (call : TimedCall) error,
        (call.1.perform pins call.2 (runCalls pins calls (emptyStore registryInstanceId))).2 =
          .error error →
        stepCall pins (runCalls pins calls (emptyStore registryInstanceId)) call =
          runCalls pins calls (emptyStore registryInstanceId)) ∧
      ∀ read clock after checkpoint more,
        ingestSourceRead read clock (runCalls pins calls (emptyStore registryInstanceId)) =
          (after, .ok checkpoint) →
        (runCalls pins more after).checkpointOf read.sourceIdentity.sourceId =
          after.checkpointOf read.sourceIdentity.sourceId →
        ReadSettled read checkpoint (runCalls pins more after) := by
  have verified := verified_runCalls pins calls (verified_emptyStore registryInstanceId)
  refine ⟨verified.journalsVerify, fun call error raised => stepCall_of_error raised, ?_⟩
  intro read clock after checkpoint more accepted stands
  exact readSettled_of_accepted accepted stands

end FleetStatus

end CyberLion
