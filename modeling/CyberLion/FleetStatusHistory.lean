import CyberLion.FleetStatusDecoding
import CyberLion.FleetStatusLeases
import CyberLion.PyIsoRoundTrip

/-!
# The journals of the fleet status verify

The four journals of the store: every operation leaves them in a state that the walks over them
accept.
-/

namespace CyberLion

namespace FleetStatus

open PyLib Json
open PyLib.IsoFormat (bounds)
open FleetCoordination (canonicalJson zeroDigest)

/-! ### Instants -/

theorem packed_injective : Function.Injective DateTime.packed := by
  intro first second same
  have firstBounds := bounds first
  have secondBounds := bounds second
  obtain ⟨year, month, day, hour, minute, second', microsecond, valid⟩ := first
  obtain ⟨year', month', day', hour', minute', second'', microsecond', valid'⟩ := second
  simp only [DateTime.packed] at same firstBounds secondBounds
  simp only [DateTime.mk.injEq]
  omega

/-! ### One source -/

def Later (first second : BatchRow) : Prop :=
  ∃ before after, parseUtc first.sourceObservedAt = .ok before ∧
    parseUtc second.sourceObservedAt = .ok after ∧ before.packed < after.packed

structure SourceSound (store : StatusStore) (sourceId : PyStr) (rows : List BatchRow) : Prop where
  walked : ∃ chain, verifyBatches store zeroDigest 1 rows = .ok chain ∧
    chain = (rows.getLast?.map BatchRow.sourceChainDigest).getD zeroDigest
  checkpoint : store.checkpointOf sourceId = rows.getLast?.map BatchRow.checkpoint
  sequences : rows.map BatchRow.sourceSequence = List.range' 1 rows.length
  instants : rows.Pairwise Later
  identity : ∀ first ∈ rows, ∀ second ∈ rows,
    first.checkpoint.identityColumns = second.checkpoint.identityColumns

theorem verifyBatches_congr {store other : StatusStore} {rows : List BatchRow}
    (same : ∀ batch ∈ rows,
      other.observationsOf batch.batchDigest = store.observationsOf batch.batchDigest)
    (previous : PyStr) (expectedSequence : Nat) :
    verifyBatches other previous expectedSequence rows =
      verifyBatches store previous expectedSequence rows := by
  induction rows generalizing previous expectedSequence with
  | nil => rfl
  | cons batch rows ih =>
    have first : verifyBatch other previous expectedSequence batch =
        verifyBatch store previous expectedSequence batch := by
      rw [verifyBatch, verifyBatch, same batch List.mem_cons_self]
    rw [verifyBatches, verifyBatches, first]
    congr 1
    funext chain
    exact ih (fun later member => same later (.tail _ member)) chain (expectedSequence + 1)

theorem SourceSound.congr {store other : StatusStore} {sourceId : PyStr} {rows : List BatchRow}
    (sound : SourceSound store sourceId rows)
    (observations : ∀ batch ∈ rows,
      other.observationsOf batch.batchDigest = store.observationsOf batch.batchDigest)
    (checkpoint : other.checkpointOf sourceId = store.checkpointOf sourceId) :
    SourceSound other sourceId rows := by
  obtain ⟨chain, walked, last⟩ := sound.walked
  exact ⟨⟨chain, (verifyBatches_congr observations _ _).trans walked, last⟩,
    checkpoint.trans sound.checkpoint, sound.sequences, sound.instants, sound.identity⟩

theorem SourceSound.sequence_last {store : StatusStore} {sourceId : PyStr} {rows : List BatchRow}
    (sound : SourceSound store sourceId rows) {last : BatchRow}
    (isLast : rows.getLast? = some last) : last.sourceSequence = rows.length := by
  obtain ⟨earlier, rfl⟩ := List.getLast?_eq_some_iff.mp isLast
  have sequences := sound.sequences
  rw [List.map_append, List.length_append, List.length_singleton, List.range'_concat,
    List.map_singleton] at sequences
  have same := List.append_inj_right' sequences rfl
  rw [List.cons.injEq] at same
  rw [same.1, List.length_append, List.length_singleton, Nat.one_mul, Nat.add_comm]

def StatusStore.history (store : StatusStore) (sourceId : PyStr) : List BatchRow :=
  store.batches.filter fun row => row.sourceId = sourceId

/-- The sources of a store, with the observations of its batches. -/
structure SourcesSound (store : StatusStore) : Prop where
  sound : ∀ sourceId, SourceSound store sourceId (store.history sourceId)
  owned : ∀ row ∈ store.observations,
    row.batchDigest ∈ store.batches.map BatchRow.batchDigest

/-! ### All journals -/

structure Verified (store : StatusStore) : Prop where
  events : Chained store
  receipts : store.receipts.foldlM verifyReceipt zeroDigest = .ok store.receiptHead
  sources : SourcesSound store
  decisions : ∀ row ∈ store.decisions, verifyDecision row = .ok ()
  revision : store.revision = store.events.length

theorem verified_emptyStore (registryInstanceId : PyStr) :
    Verified (emptyStore registryInstanceId) := by
  refine ⟨rfl, rfl, ⟨fun sourceId => ?_, by simp [emptyStore]⟩, by simp [emptyStore], rfl⟩
  exact ⟨⟨zeroDigest, rfl, rfl⟩, rfl, rfl, .nil, by simp [emptyStore, StatusStore.history]⟩

section Tables

variable {store after : StatusStore} (verified : Verified store)
include verified

theorem Verified.withTables (identities : List IdentityRow) (missions : List MissionRow)
    (runtimes : List RuntimeRow) (heartbeats : List HeartbeatRow)
    (projections : List ProjectionRow) (verifications : List VerificationRow)
    (leases : List LeaseRow) :
    Verified { store with
      identities, missions, runtimes, heartbeats, projections, verifications, leases } :=
  ⟨verified.events, verified.receipts,
    ⟨fun sourceId => (verified.sources.sound sourceId).congr (fun _ _ => rfl) rfl,
      verified.sources.owned⟩,
    verified.decisions, verified.revision⟩

theorem Verified.appendEvent {kind : EventType} {mission : Option PyStr}
    {fields : List (PyStr × Json)} {time : PyStr} (plain : Json.Plain (.obj fields))
    (appended : FleetStatus.appendEvent kind mission (.obj fields) time store = .ok after) :
    Verified after := by
  obtain ⟨event, isEvent, rfl⟩ := appendEvent_eq_ok.mp appended
  refine ⟨verified.events.withEvent isEvent plain, verified.receipts,
    ⟨fun sourceId => (verified.sources.sound sourceId).congr (fun _ _ => rfl) rfl,
      verified.sources.owned⟩, verified.decisions, ?_⟩
  change store.revision + 1 = (store.events ++ [event]).length
  rw [verified.revision, List.length_append]
  rfl

theorem Verified.withReceipt {receipt : ReceiptRow}
    (digest : receiptDigestOf store.receiptHead receipt.receiptId receipt.missionId
      receipt.sourceRef receipt.observedAt = .ok receipt.receiptDigest)
    (previous : receipt.previousDigest = store.receiptHead) :
    Verified { store with
      receipts := store.receipts ++ [receipt], receiptHead := receipt.receiptDigest } := by
  have accepted : verifyReceipt store.receiptHead receipt = .ok receipt.receiptDigest := by
    rw [verifyReceipt, digest, ok_bind, raiseIf, if_neg (by simp [previous])]
    rfl
  refine ⟨verified.events, ?_,
    ⟨fun sourceId => (verified.sources.sound sourceId).congr (fun _ _ => rfl) rfl,
      verified.sources.owned⟩, verified.decisions, verified.revision⟩
  change (store.receipts ++ [receipt]).foldlM verifyReceipt zeroDigest = .ok receipt.receiptDigest
  rw [List.foldlM_append, verified.receipts, ok_bind, List.foldlM_cons, accepted, ok_bind]
  rfl

theorem Verified.withDecisions {decisions : List DecisionRow}
    (accepted : ∀ row ∈ decisions, verifyDecision row = .ok ()) :
    Verified { store with decisions } :=
  ⟨verified.events, verified.receipts,
    ⟨fun sourceId => (verified.sources.sound sourceId).congr (fun _ _ => rfl) rfl,
      verified.sources.owned⟩, accepted, verified.revision⟩

end Tables

/-! ### Decisions -/

theorem mem_foldl_insertDecision {rows : List DecisionRow} {decisions : List DecisionRow}
    {row : DecisionRow} (member : row ∈ rows.foldl insertDecision decisions) :
    row ∈ decisions ∨ row ∈ rows := by
  induction rows generalizing decisions with
  | nil => exact .inl member
  | cons first rows ih =>
    rcases ih member with isOld | later
    · unfold insertDecision insertOrIgnore at isOld
      split at isOld
      · exact .inl isOld
      · rcases List.mem_append.mp isOld with old | isFirst
        · exact .inl old
        · exact .inr (List.mem_singleton.mp isFirst ▸ List.mem_cons_self)
    · exact .inr (.tail _ later)

theorem verified_recordSourceDecisions {facts : List ReconciledStatusFact}
    {conflicts : List SourceConflict} {missing : List MissingStatusSource} {clock : Moment}
    {store after : StatusStore} (verified : Verified store)
    (recorded : recordSourceDecisions facts conflicts missing clock store = .ok after) :
    Verified after := by
  simp only [recordSourceDecisions, bind_eq_ok] at recorded
  obtain ⟨observedAt, -, rows, isRows, recorded⟩ := recorded
  have sound : ∀ row ∈ rows, verifyDecision row = .ok () := by
    intro row member
    obtain ⟨decision, decisionMember, isRow⟩ :=
      exists_left_of_forall₂ (mapM_eq_ok.mp isRows) member
    have decisionSound : decision.Sound := by
      simp only [List.mem_append, List.mem_map] at decisionMember
      rcases decisionMember with (⟨fact, -, rfl⟩ | ⟨conflict, -, rfl⟩) | ⟨item, -, rfl⟩
      · exact fact.sound
      · exact conflict.sound
      · exact item.sound
    exact decisionSound.verifyDecision_eq_ok isRow
  split at recorded
  · rw [← Except.ok.inj recorded]
    exact verified
  · refine (verified.withDecisions fun row member => ?_).appendEvent ?_ recorded
    · rcases mem_foldl_insertDecision member with old | new
      · exact verified.decisions row old
      · exact sound row new
    · exact .obj (List.nodup_singleton _) (by simp)

/-! ### Batches -/

/-- The rows of the observations of a new batch, which the walk over them accepts. -/
structure NewRows (batchDigest : PyStr) (index : Nat) (observations : List StatusSourceObservation)
    (rows : List ObservationRow) (digests : List PyStr) : Prop where
  batch : ∀ row ∈ rows, row.batchDigest = batchDigest
  indices : rows.map ObservationRow.observationIndex = List.range' index observations.length
  digested : observations.mapM StatusSourceObservation.digest = .ok digests
  verified : verifyObservations index rows = .ok digests

theorem exists_newRows {batchDigest : PyStr} {index : Nat}
    {observations : List StatusSourceObservation} {rows inserted : List ObservationRow}
    (written : insertObservations batchDigest index observations rows = .ok inserted) :
    ∃ new digests, inserted = rows ++ new ∧
      NewRows batchDigest index observations new digests := by
  induction observations generalizing index rows with
  | nil =>
    rw [← Except.ok.inj written]
    exact ⟨[], [], (List.append_nil _).symm, by simp, rfl, rfl, rfl⟩
  | cons observation observations ih =>
    simp only [insertObservations, bind_eq_ok, insertRow_eq_ok] at written
    obtain ⟨digest, digested, bytes, canonical, _, ⟨-, rfl⟩, later⟩ := written
    obtain ⟨new, digests, rfl, newRows⟩ := ih later
    have isDigest := digested
    simp only [StatusSourceObservation.digest, digestOf, bind_eq_ok, canonical, pure_eq_ok]
      at isDigest
    obtain ⟨_, valid, _, same, rfl⟩ := isDigest
    obtain rfl := Except.ok.inj same
    refine ⟨_ :: new, sha256 bytes :: digests, List.append_cons _ _ _ |>.symm, ?_, ?_, ?_, ?_⟩
    · intro row member
      rcases List.mem_cons.mp member with rfl | isLater
      · rfl
      · exact newRows.batch row isLater
    · rw [List.map_cons, newRows.indices, List.length_cons, List.range'_succ]
    · rw [List.mapM_cons, digested, ok_bind, newRows.digested, ok_bind]
      rfl
    · have sorted : digestOf (.obj (sortFields (sortMembers observation.fields))) =
          .ok (sha256 bytes) := by
        rw [digestOf, canonicalJson_sorted, canonical, ok_bind]
        rfl
      rw [verifyObservations, raiseIf, if_neg (not_not.mpr rfl), ok_bind,
        readObservation_canonical valid canonical, ok_bind]
      simp only [sorted, raiseIf, ne_eq, not_true_eq_false, if_false, ok_bind, newRows.verified]
      rfl

theorem verifyBatches_append {store : StatusStore} {rows : List BatchRow} {batch : BatchRow}
    {previous chain : PyStr} {sequence : Nat}
    (walked : verifyBatches store previous sequence rows = .ok chain) :
    verifyBatches store previous sequence (rows ++ [batch]) =
      verifyBatch store chain (sequence + rows.length) batch := by
  induction rows generalizing previous sequence with
  | nil =>
    rw [← Except.ok.inj walked, List.nil_append, verifyBatches]
    cases verifyBatch store previous sequence batch <;> rfl
  | cons first rows ih =>
    simp only [verifyBatches, bind_eq_ok] at walked
    obtain ⟨next, isNext, walked⟩ := walked
    rw [List.cons_append, verifyBatches, isNext, ok_bind, ih walked, List.length_cons,
      Nat.add_right_comm, Nat.add_assoc]

structure NextBatch (store : StatusStore) (rows : List BatchRow) (batch : BatchRow)
    (digests : List PyStr) : Prop where
  history : store.history batch.sourceId = rows
  sequence : batch.sourceSequence = rows.length + 1
  previous : batch.previousSourceChainDigest =
    (rows.getLast?.map BatchRow.sourceChainDigest).getD zeroDigest
  follows : ∀ last ∈ rows.getLast?, Later last batch ∧
    last.checkpoint.identityColumns = batch.checkpoint.identityColumns
  identity : batch.identity.digest = .ok batch.sourceIdentityDigest
  readDigest : readDigestOf batch.identity batch.sourceObservedAt digests = .ok batch.readDigest
  batchDigest : sourceBatchDigest batch.sourceIdentityDigest batch.sourceSequence
    batch.sourceObservedAt batch.readDigest = .ok batch.batchDigest
  chain : sourceChainDigest batch.previousSourceChainDigest batch.batchDigest =
    .ok batch.sourceChainDigest
  fresh : batch.batchDigest ∉ store.batches.map BatchRow.batchDigest

def StatusStore.withBatch (store : StatusStore) (batch : BatchRow) (new : List ObservationRow) :
    StatusStore :=
  { store with
    batches := store.batches ++ [batch]
    observations := store.observations ++ new
    checkpoints := upsertCheckpoint batch.checkpoint store.checkpoints }

theorem exists_getLast_of_mem {α : Type} {rows : List α} {row : α} (member : row ∈ rows) :
    ∃ last, rows.getLast? = some last :=
  Option.isSome_iff_exists.mp (List.getLast?_isSome.mpr (List.ne_nil_of_mem member))

theorem later_of_last {rows : List BatchRow} {last batch old : BatchRow}
    (instants : rows.Pairwise Later) (isLast : rows.getLast? = some last)
    (later : Later last batch) (member : old ∈ rows) : Later old batch := by
  obtain ⟨earlier, rfl⟩ := List.getLast?_eq_some_iff.mp isLast
  rcases List.mem_append.mp member with isEarlier | same
  · obtain ⟨before, middle, readBefore, readMiddle, first⟩ :=
      (List.pairwise_append.mp instants).2.2 old isEarlier last (List.mem_singleton_self _)
    obtain ⟨again, after, readAgain, readAfter, second⟩ := later
    obtain rfl := Except.ok.inj (readMiddle.symm.trans readAgain)
    exact ⟨before, after, readBefore, readAfter, first.trans second⟩
  · rw [List.mem_singleton.mp same]
    exact later

section Batch

variable {store : StatusStore} {rows : List BatchRow} {batch : BatchRow} {new : List ObservationRow}
  {observations : List StatusSourceObservation} {digests : List PyStr}

theorem observationsOf_withBatch_self (sources : SourcesSound store)
    (next : NextBatch store rows batch digests)
    (newRows : NewRows batch.batchDigest 0 observations new digests) :
    (store.withBatch batch new).observationsOf batch.batchDigest = new := by
  have others : store.observations.filter (fun row => row.batchDigest = batch.batchDigest) = [] := by
    refine List.filter_eq_nil_iff.mpr fun row member same => ?_
    exact next.fresh (of_decide_eq_true same ▸ sources.owned row member)
  have own : new.filter (fun row => row.batchDigest = batch.batchDigest) = new :=
    List.filter_eq_self.mpr fun row member => decide_eq_true (newRows.batch row member)
  have sorted : new.Pairwise fun first second =>
      first.observationIndex ≤ second.observationIndex := by
    have indices := List.pairwise_le_range' (s := 0) (n := observations.length) 1
    rw [← newRows.indices] at indices
    exact List.pairwise_map.mp indices
  rw [StatusStore.observationsOf, StatusStore.withBatch, List.filter_append, others, own,
    List.nil_append]
  exact sorted.insertionSort_eq

theorem observationsOf_withBatch_of_ne
    (newRows : NewRows batch.batchDigest 0 observations new digests) {batchDigest : PyStr}
    (differs : batchDigest ≠ batch.batchDigest) :
    (store.withBatch batch new).observationsOf batchDigest = store.observationsOf batchDigest := by
  have none : new.filter (fun row => row.batchDigest = batchDigest) = [] := by
    refine List.filter_eq_nil_iff.mpr fun row member same => ?_
    exact differs (of_decide_eq_true same ▸ newRows.batch row member)
  rw [StatusStore.observationsOf, StatusStore.withBatch, List.filter_append, none, List.append_nil]
  rfl

theorem checkpointOf_withBatch (sourceId : PyStr) :
    (store.withBatch batch new).checkpointOf sourceId =
      if batch.sourceId = sourceId then some batch.checkpoint else store.checkpointOf sourceId := by
  have found := @find?_upsertRow CheckpointRow PyStr _ CheckpointRow.sourceId
    (fun _ => batch.checkpoint) batch.checkpoint (fun _ same => same.symm) sourceId
    store.checkpoints
  refine found.trans ?_
  by_cases same : batch.sourceId = sourceId
  · rw [if_pos same, if_pos (show batch.checkpoint.sourceId = sourceId from same)]
    cases store.checkpoints.find? fun row => row.sourceId = sourceId <;> rfl
  · rw [if_neg same, if_neg (show ¬ batch.checkpoint.sourceId = sourceId from same)]
    rfl

theorem verifyBatch_withBatch (sources : SourcesSound store)
    (next : NextBatch store rows batch digests)
    (newRows : NewRows batch.batchDigest 0 observations new digests) :
    verifyBatch (store.withBatch batch new) batch.previousSourceChainDigest batch.sourceSequence
      batch = .ok batch.sourceChainDigest := by
  rw [verifyBatch, observationsOf_withBatch_self sources next newRows]
  simp only [raiseIf, ne_eq, not_true_eq_false, if_false, ok_bind, next.identity,
    newRows.verified, next.readDigest, next.batchDigest, next.chain, or_self]
  rfl

theorem sourceSound_withBatch_self (sources : SourcesSound store)
    (next : NextBatch store rows batch digests)
    (newRows : NewRows batch.batchDigest 0 observations new digests) :
    SourceSound (store.withBatch batch new) batch.sourceId (rows ++ [batch]) := by
  have sound := sources.sound batch.sourceId
  rw [next.history] at sound
  have kept : verifyBatches (store.withBatch batch new) zeroDigest 1 rows =
      verifyBatches store zeroDigest 1 rows := by
    refine verifyBatches_congr (fun old member => ?_) _ _
    refine observationsOf_withBatch_of_ne newRows fun same => next.fresh ?_
    have isBatch : old ∈ store.batches := by
      rw [← next.history] at member
      exact (List.mem_filter.mp member).1
    exact same ▸ List.mem_map_of_mem isBatch
  obtain ⟨chain, walked, isLast⟩ := sound.walked
  constructor
  · refine ⟨batch.sourceChainDigest, ?_, by simp⟩
    rw [verifyBatches_append (kept.trans walked), isLast, ← next.previous, Nat.add_comm, ← next.sequence]
    exact verifyBatch_withBatch sources next newRows
  · rw [checkpointOf_withBatch, if_pos rfl, List.getLast?_concat, Option.map_some]
  · rw [List.map_append, sound.sequences, List.map_singleton, next.sequence, List.length_append,
      List.length_singleton, List.range'_concat, Nat.one_mul, Nat.add_comm 1]
  · refine List.pairwise_append.mpr ⟨sound.instants, List.pairwise_singleton _ _, ?_⟩
    intro old member other isBatch
    rw [List.mem_singleton.mp isBatch]
    obtain ⟨last, isLast⟩ := exists_getLast_of_mem member
    exact later_of_last sound.instants isLast (next.follows last isLast).1 member
  · have sameAsNew : ∀ old ∈ rows,
        old.checkpoint.identityColumns = batch.checkpoint.identityColumns := by
      intro old member
      obtain ⟨last, isLast⟩ := exists_getLast_of_mem member
      exact (sound.identity old member last (List.mem_of_getLast? isLast)).trans
        (next.follows last isLast).2
    intro first firstMember second secondMember
    rcases List.mem_append.mp firstMember with firstOld | firstNew <;>
      rcases List.mem_append.mp secondMember with secondOld | secondNew
    · exact sound.identity first firstOld second secondOld
    · rw [List.mem_singleton.mp secondNew]
      exact sameAsNew first firstOld
    · rw [List.mem_singleton.mp firstNew]
      exact (sameAsNew second secondOld).symm
    · rw [List.mem_singleton.mp firstNew, List.mem_singleton.mp secondNew]

theorem sourcesSound_withBatch (sources : SourcesSound store)
    (next : NextBatch store rows batch digests)
    (newRows : NewRows batch.batchDigest 0 observations new digests) :
    SourcesSound (store.withBatch batch new) := by
  constructor
  · intro sourceId
    have history : (store.withBatch batch new).history sourceId =
        store.history sourceId ++ [batch].filter fun row => row.sourceId = sourceId :=
      List.filter_append _ _
    rw [history]
    by_cases same : batch.sourceId = sourceId
    · subst same
      rw [List.filter_cons_of_pos (by simp), List.filter_nil, next.history]
      exact sourceSound_withBatch_self sources next newRows
    · rw [List.filter_cons_of_neg (by simpa using same), List.filter_nil, List.append_nil]
      refine (sources.sound sourceId).congr (fun old member => ?_) ?_
      · refine observationsOf_withBatch_of_ne newRows fun isNew => next.fresh ?_
        exact isNew ▸ List.mem_map_of_mem (List.mem_filter.mp member).1
      · rw [checkpointOf_withBatch, if_neg same]
  · intro row member
    change row.batchDigest ∈ (store.batches ++ [batch]).map BatchRow.batchDigest
    rw [List.map_append, List.mem_append]
    rcases List.mem_append.mp member with old | isNew
    · exact .inl (sources.owned row old)
    · right
      rw [newRows.batch row isNew]
      exact List.mem_singleton_self _

end Batch

/-! ### Ingestion -/

theorem next_of_placeOf {identity : StatusSourceIdentity}
    {identityDigest readDigest previousChain : PyStr} {sourceTime : DateTime}
    {found : Option CheckpointRow} {sequence : Nat}
    (placed : placeOf identity identityDigest readDigest sourceTime found =
      .ok (.next sequence previousChain)) :
    (found = none ∧ sequence = 1 ∧ previousChain = zeroDigest) ∨
      ∃ checkpoint previousTime, found = some checkpoint ∧
        identity.columns identityDigest = checkpoint.identityColumns ∧
        parseUtc checkpoint.sourceObservedAt = .ok previousTime ∧
        previousTime.packed < sourceTime.packed ∧
        sequence = checkpoint.sourceSequence + 1 ∧
        previousChain = checkpoint.sourceChainDigest := by
  cases found with
  | none =>
    obtain ⟨rfl, rfl⟩ := Place.next.inj (Except.ok.inj placed)
    exact .inl ⟨rfl, rfl, rfl⟩
  | some checkpoint =>
    simp only [placeOf, bind_eq_ok, raiseIf_eq_ok, not_not, ne_eq] at placed
    obtain ⟨_, columns, previousTime, isPrevious, _, notBefore, placed⟩ := placed
    split at placed
    · simp only [bind_eq_ok, pure_eq_ok, reduceCtorEq, and_false, exists_const] at placed
    · rename_i differs
      obtain ⟨rfl, rfl⟩ := Place.next.inj (Except.ok.inj placed)
      have apart : sourceTime.packed ≠ previousTime.packed :=
        fun same => differs (packed_injective same)
      exact .inr ⟨checkpoint, previousTime, rfl, columns, isPrevious, by omega, rfl, rfl⟩

structure Readable (read : StatusSourceRead) (clock : Moment) (ingestedAt : PyStr)
    (sourceTime : DateTime) (identityDigest readDigest : PyStr) : Prop where
  valid : read.validate = .ok ()
  ingested : now clock = .ok ingestedAt
  instant : parseUtc read.sourceObservedAt = .ok sourceTime
  notFuture : ∃ ingestedTime, parseUtc ingestedAt = .ok ingestedTime ∧
    ¬ ingestedTime.packed < sourceTime.packed
  identity : read.sourceIdentity.digest = .ok identityDigest
  digest : read.digest = .ok readDigest

def batchOf (read : StatusSourceRead) (ingestedAt identityDigest readDigest : PyStr)
    (sequence : Nat) (previousChain batchDigest chainDigest : PyStr) : BatchRow :=
  ⟨read.sourceIdentity.sourceId, read.sourceIdentity.sourceKind,
    read.sourceIdentity.sourceInstanceId, read.sourceIdentity.sourceImplementationDigest,
    read.sourceIdentity.trustAnchorId, identityDigest, sequence, read.sourceObservedAt, ingestedAt,
    readDigest, batchDigest, previousChain, chainDigest⟩

theorem ingestWork_cases {read : StatusSourceRead} {clock : Moment} {store after : StatusStore}
    {checkpoint : SourceCheckpoint} (worked : ingestWork read clock store = .ok (after, checkpoint)) :
    ∃ ingestedAt sourceTime identityDigest readDigest,
      Readable read clock ingestedAt sourceTime identityDigest readDigest ∧
      ((∃ row, placeOf read.sourceIdentity identityDigest readDigest sourceTime
          (store.checkpointOf read.sourceIdentity.sourceId) = .ok (.repeated row) ∧
          checkpoint.validate = .ok () ∧ after = store ∧
          checkpoint = { row.returned identityDigest with
            sourceId := read.sourceIdentity.sourceId }) ∨
        ∃ sequence previousChain batchDigest chainDigest,
          placeOf read.sourceIdentity identityDigest readDigest sourceTime
            (store.checkpointOf read.sourceIdentity.sourceId) =
              .ok (.next sequence previousChain) ∧
          sourceBatchDigest identityDigest sequence read.sourceObservedAt readDigest =
            .ok batchDigest ∧
          sourceChainDigest previousChain batchDigest = .ok chainDigest ∧
          commitBatch (batchOf read ingestedAt identityDigest readDigest sequence previousChain
            batchDigest chainDigest) read.observations store = .ok after ∧
          checkpoint = (batchOf read ingestedAt identityDigest readDigest sequence previousChain
            batchDigest chainDigest).checkpoint.returned identityDigest) := by
  simp only [ingestWork, bind_eq_ok, raiseIf_eq_ok] at worked
  obtain ⟨_, valid, ingestedAt, ingested, sourceTime, instant, ingestedTime, isIngested, _,
    notFuture, identityDigest, identity, readDigest, digest, place, placed, worked⟩ := worked
  refine ⟨ingestedAt, sourceTime, identityDigest, readDigest,
    ⟨valid, ingested, instant, ⟨ingestedTime, isIngested, notFuture⟩, identity, digest⟩, ?_⟩
  cases place with
  | repeated row =>
    simp only [bind_eq_ok, pure_eq_ok, Prod.mk.injEq] at worked
    obtain ⟨_, isValid, rfl, rfl⟩ := worked
    exact .inl ⟨row, placed, isValid, rfl, rfl⟩
  | next sequence previousChain =>
    simp only [bind_eq_ok, pure_eq_ok, Prod.mk.injEq] at worked
    obtain ⟨batchDigest, isBatch, chainDigest, isChain, _, committed, rfl, rfl⟩ := worked
    exact .inr ⟨sequence, previousChain, batchDigest, chainDigest, placed, isBatch, isChain,
      committed, rfl⟩

theorem nextBatch_of_placeOf {read : StatusSourceRead} {clock : Moment}
    {ingestedAt identityDigest readDigest previousChain batchDigest chainDigest : PyStr}
    {sourceTime : DateTime} {store : StatusStore} {sequence : Nat} {digests : List PyStr}
    (sources : SourcesSound store)
    (readable : Readable read clock ingestedAt sourceTime identityDigest readDigest)
    (placed : placeOf read.sourceIdentity identityDigest readDigest sourceTime
      (store.checkpointOf read.sourceIdentity.sourceId) = .ok (.next sequence previousChain))
    (isBatch : sourceBatchDigest identityDigest sequence read.sourceObservedAt readDigest =
      .ok batchDigest)
    (isChain : sourceChainDigest previousChain batchDigest = .ok chainDigest)
    (digested : read.observations.mapM StatusSourceObservation.digest = .ok digests)
    (fresh : batchDigest ∉ store.batches.map BatchRow.batchDigest) :
    NextBatch store (store.history read.sourceIdentity.sourceId)
      (batchOf read ingestedAt identityDigest readDigest sequence previousChain batchDigest
        chainDigest) digests := by
  have sound := sources.sound read.sourceIdentity.sourceId
  have isRead := readable.digest
  simp only [StatusSourceRead.digest, bind_eq_ok, digested] at isRead
  obtain ⟨_, -, _, same, isRead⟩ := isRead
  obtain rfl := Except.ok.inj same
  have checkpoint := sound.checkpoint
  rcases next_of_placeOf placed with ⟨absent, rfl, rfl⟩ |
    ⟨found, previousTime, isFound, columns, isPrevious, before, rfl, rfl⟩
  · have empty : store.history read.sourceIdentity.sourceId = [] := by
      rw [absent] at checkpoint
      exact List.getLast?_eq_none_iff.mp (Option.map_eq_none_iff.mp checkpoint.symm)
    refine ⟨rfl, ?_, ?_, ?_, readable.identity, isRead, isBatch, isChain, fresh⟩
    · rw [empty]
      rfl
    · rw [empty]
      rfl
    · rw [empty]
      intro last isLast
      exact absurd isLast (by simp)
  · rw [isFound, eq_comm, Option.map_eq_some_iff] at checkpoint
    obtain ⟨last, isLast, rfl⟩ := checkpoint
    refine ⟨rfl, ?_, ?_, ?_, readable.identity, isRead, isBatch, isChain, fresh⟩
    · exact congrArg (· + 1) (sound.sequence_last isLast)
    · rw [isLast]
      rfl
    · intro other isOther
      obtain rfl := Option.some.inj (isLast.symm.trans isOther)
      exact ⟨⟨previousTime, sourceTime, isPrevious, readable.instant, before⟩, columns.symm⟩

theorem distinct_batchFields (batch : BatchRow) : ((batchFields batch).map Prod.fst).Nodup :=
  @nodup_py ["source_id", "source_sequence", "batch_digest", "source_chain_digest"] (by decide)

theorem verified_ingestWork {read : StatusSourceRead} {clock : Moment} {store after : StatusStore}
    {checkpoint : SourceCheckpoint} (verified : Verified store)
    (worked : ingestWork read clock store = .ok (after, checkpoint)) : Verified after := by
  obtain ⟨ingestedAt, sourceTime, identityDigest, readDigest, readable, found⟩ :=
    ingestWork_cases worked
  rcases found with ⟨row, -, -, rfl, -⟩ |
    ⟨sequence, previousChain, batchDigest, chainDigest, placed, isBatch, isChain, committed, -⟩
  · exact verified
  · simp only [commitBatch, insertBatch, bind_eq_ok, insertRow_eq_ok] at committed
    obtain ⟨_, ⟨fresh, rfl⟩, _, written, appended⟩ := committed
    obtain ⟨new, digests, rfl, newRows⟩ := exists_newRows written
    have unused : batchDigest ∉ store.batches.map BatchRow.batchDigest := by
      intro member
      obtain ⟨old, oldMember, same⟩ := List.mem_map.mp member
      have clear := fresh old oldMember
      rw [Bool.or_eq_false_iff, Bool.or_eq_false_iff] at clear
      exact of_decide_eq_false clear.1.1 same
    have next := nextBatch_of_placeOf verified.sources readable placed isBatch isChain
      newRows.digested unused
    have sources := sourcesSound_withBatch verified.sources next newRows
    have withBatch : Verified (store.withBatch _ new) :=
      ⟨verified.events, verified.receipts, sources, verified.decisions, verified.revision⟩
    refine withBatch.appendEvent ?_ appended
    exact .obj (distinct_batchFields _) (by simp [batchFields])

/-! ### Runs -/

theorem plain_of_keys {fields : List (PyStr × Json)} (literals : List String)
    (keys : fields.map Prod.fst = literals.map py) (distinct : literals.Nodup)
    (plain : ∀ field ∈ fields, Json.Plain field.2) : Json.Plain (.obj fields) :=
  .obj (keys ▸ nodup_py distinct) plain

theorem verified_work {pins : VerificationTrustPins} {clock : Moment} {store after : StatusStore}
    {call : StoreCall} (verified : Verified store)
    (worked : call.work pins clock store = .ok after) : Verified after := by
  cases call with
  | registerIdentity identity =>
    simp only [StoreCall.work, registerIdentity, bind_eq_ok] at worked
    obtain ⟨_, -, _, -, _, -, identities, -, appended⟩ := worked
    exact (verified.withTables identities _ _ _ _ _ _).appendEvent
      (plain_of_keys ["identity_digest"] rfl (by decide) (by simp)) appended
  | setMissionState input =>
    simp only [StoreCall.work, setMissionState, bind_eq_ok] at worked
    obtain ⟨_, -, _, -, _, -, _, -, appended⟩ := worked
    exact (verified.withTables _ _ _ _ _ _ _).appendEvent
      (plain_of_keys ["phase", "status", "closure_state"] rfl (by decide) (by simp)) appended
  | bindRuntime missionId runtimeId evidenceRef =>
    simp only [StoreCall.work, bindRuntime, bind_eq_ok] at worked
    obtain ⟨_, -, _, -, _, -, _, -, _, -, runtimes, -, appended⟩ := worked
    exact (verified.withTables _ _ runtimes _ _ _ _).appendEvent
      (plain_of_keys ["runtime_id", "evidence_ref"] rfl (by decide) (by simp)) appended
  | heartbeat input =>
    simp only [StoreCall.work, heartbeat, bind_eq_ok] at worked
    obtain ⟨_, -, _, -, _, -, _, -, _, -, _, -, _, -, _, -, _, -, _, -, appended⟩ := worked
    exact (verified.withTables _ _ _ _ _ _ _).appendEvent
      (plain_of_keys ["runtime_id", "sequence", "deadline_seconds", "source_ref"] rfl (by decide)
        (by simp)) appended
  | projectObservedState input =>
    simp only [StoreCall.work, projectObservedState, bind_eq_ok] at worked
    obtain ⟨_, -, _, -, _, -, _, -, _, -, appended⟩ := worked
    exact (verified.withTables _ _ _ _ _ _ _).appendEvent
      (plain_of_keys ["state", "source_ref"] rfl (by decide) (by simp)) appended
  | projectVerification verificationId resolved =>
    simp only [StoreCall.work, projectVerification, bind_eq_ok] at worked
    obtain ⟨_, -, _, -, _, -, _, -, _, -, _, -, _, -, verifications, -, appended⟩ := worked
    exact (verified.withTables _ _ _ _ _ verifications _).appendEvent
      (plain_of_keys ["verification_id", "binding_digest"] rfl (by decide) (by simp)) appended
  | markVerifiedDone input =>
    simp only [StoreCall.work, markVerifiedDone, bind_eq_ok] at worked
    obtain ⟨_, -, _, -, _, -, appended⟩ := worked
    exact (verified.withTables _ _ _ _ _ _ _).appendEvent
      (plain_of_keys ["verification_id"] rfl (by decide) (by simp)) appended
  | recordLease input =>
    obtain ⟨row, event, recorded⟩ := recorded_of_ok worked
    refine (verified.withTables _ _ _ _ _ _ _).appendEvent (plain_leaseFields input)
      (appendEvent_eq_ok.mpr ⟨event, recorded.isEvent, recorded.result⟩)
  | appendReceipt missionId receiptId sourceRef =>
    simp only [StoreCall.work, appendReceipt, bind_eq_ok, pure_eq_ok, insertRow_eq_ok] at worked
    obtain ⟨_, ⟨_, -, observedAt, -, _, -, digest, digested, _, ⟨-, rfl⟩, _, appended, rfl⟩, rfl⟩ :=
      worked
    have withReceipt := @Verified.withReceipt store verified
      ⟨receiptId, missionId, sourceRef, store.receiptHead, digest, observedAt⟩ digested rfl
    exact withReceipt.appendEvent
      (plain_of_keys ["receipt_id", "receipt_digest"] rfl (by decide) (by simp)) appended
  | closeMission missionId =>
    simp only [StoreCall.work, closeMission, bind_eq_ok] at worked
    obtain ⟨_, -, _, -, _, -, _, -, _, -, _, -, appended⟩ := worked
    exact (verified.withTables _ _ _ _ _ _ _).appendEvent
      (plain_of_keys ["last_receipt_id"] rfl (by decide) (by simp)) appended
  | recordSourceDecisions facts conflicts missing =>
    exact verified_recordSourceDecisions verified worked
  | ingestSourceRead read =>
    simp only [StoreCall.work, bind_eq_ok, pure_eq_ok] at worked
    obtain ⟨⟨_, checkpoint⟩, ingested, rfl⟩ := worked
    exact verified_ingestWork verified ingested

theorem verified_runCalls (pins : VerificationTrustPins) (calls : List TimedCall)
    {store : StatusStore} (verified : Verified store) : Verified (runCalls pins calls store) := by
  induction calls generalizing store with
  | nil => exact verified
  | cons call calls ih =>
    refine ih ?_
    rcases stepCall_cases pins store call with worked | same
    · exact verified_work verified worked
    · rw [same]
      exact verified

/-! ### What the walks return -/

theorem Verified.verifyReceiptChain_eq_ok {store : StatusStore} (verified : Verified store) :
    verifyReceiptChain store = .ok store.receiptHead := by
  rw [verifyReceiptChain, verified.receipts, ok_bind, raiseIf, if_neg (not_not.mpr rfl)]
  rfl

theorem SourcesSound.batchesOf_eq {store : StatusStore} (sources : SourcesSound store)
    (sourceId : PyStr) : store.batchesOf sourceId = store.history sourceId := by
  have sorted : (store.history sourceId).Pairwise fun first second =>
      first.sourceSequence ≤ second.sourceSequence := by
    have sequences :=
      List.pairwise_le_range' (s := 1) (n := (store.history sourceId).length) 1
    rw [← (sources.sound sourceId).sequences] at sequences
    exact List.pairwise_map.mp sequences
  exact sorted.insertionSort_eq

theorem SourcesSound.exists_verifySource {store : StatusStore} (sources : SourcesSound store)
    {sourceId : PyStr} (member : sourceId ∈ store.batches.map BatchRow.sourceId) :
    ∃ head, verifySource store sourceId = .ok head := by
  obtain ⟨batch, isBatch, rfl⟩ := List.mem_map.mp member
  have inHistory : batch ∈ store.history batch.sourceId :=
    List.mem_filter.mpr ⟨isBatch, decide_eq_true rfl⟩
  obtain ⟨last, isLast⟩ := exists_getLast_of_mem inHistory
  have sound := sources.sound batch.sourceId
  obtain ⟨chain, walked, isChain⟩ := sound.walked
  have checkpoint := sound.checkpoint
  rw [isLast] at isChain checkpoint
  refine ⟨(batch.sourceId, chain), ?_⟩
  rw [verifySource, sources.batchesOf_eq, walked, ok_bind, checkpoint, isLast]
  simp only [Option.map_some, Option.getD_some] at isChain ⊢
  have same : ¬ checkpointDiffers last.checkpoint last chain := by
    simp [checkpointDiffers, BatchRow.checkpoint, isChain]
  rw [raiseIf, if_neg same]
  rfl

theorem SourcesSound.exists_verifySourceChains {store : StatusStore}
    (sources : SourcesSound store) : ∃ heads, verifySourceChains store = .ok heads := by
  apply exists_mapM_eq_ok
  intro sourceId member
  apply sources.exists_verifySource
  exact List.mem_dedup.mp ((List.perm_insertionSort _ _).mem_iff.mp member)

theorem Verified.verifySourceDecisions_eq_ok {store : StatusStore} (verified : Verified store) :
    verifySourceDecisions store = .ok () :=
  forM_eq_ok.mpr verified.decisions

end FleetStatus

end CyberLion
