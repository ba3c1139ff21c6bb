import CyberLion.AuthorityRevocation
import CyberLion.PersistentAuthorityState

/-!
# The persistent store refines the epoch owner

The SQLite store and the owners of the epoch states take the same candidates,
one owner for each context that is bootstrapped.  The store keeps the revoked
identifiers as JSON text: what it reads back has every escaped surrogate pair
joined to one character, so the two agree along runs whose identifiers hold no
such pair, and as long as the version fits the integer column.
-/

namespace CyberLion

open PyLib

/-! ### Revoked identifiers -/

theorem revokedIds_of_revokedJson {values : List PyStr} {text : PyStr}
    (written : revokedJson values = .ok text) :
    revokedIds text = .ok ((pySorted values).map (Json.decodeText true)) := by
  simp only [revokedJson, bind_eq_ok] at written
  obtain ⟨_, -, dumped⟩ := written
  have read : Json.loads Json.plainHooks text = _ := Json.loads_dumps_texts dumped
  rw [revokedIds, read, ok_bind]
  apply mapM_eq_ok.mpr
  rw [List.forall₂_map_left_iff, List.forall₂_map_right_iff]
  exact List.forall₂_same.mpr fun _ _ => rfl

def NoSurrogatePairs (values : List PyStr) : Prop :=
  ∀ value ∈ values, Json.hasNoSurrogatePair value = true

theorem revokedIds_of_noSurrogatePairs {values : List PyStr} {text : PyStr}
    (written : revokedJson values = .ok text) (apart : NoSurrogatePairs values) :
    revokedIds text = .ok (pySorted values) := by
  rw [revokedIds_of_revokedJson written]
  congr 1
  conv_rhs => rw [← List.map_id (pySorted values)]
  apply List.map_congr_left
  intro value member
  exact Json.decodeText_eq_self true (apart value (mem_pySorted.mp member))

theorem exists_revokedJson {values : List PyStr} (nonempty : ∀ value ∈ values, value ≠ [])
    (distinct : values.Nodup) : ∃ text, revokedJson values = .ok text := by
  have accepted : ¬ ((∃ value ∈ values, value = []) ∨ ¬ values.Nodup) := by
    rintro (⟨value, member, empty⟩ | repeated)
    · exact nonempty value member empty
    · exact repeated distinct
  have printable : (Json.arr ((pySorted values).map Json.str)).isPrintable = true := by
    rw [Json.isPrintable, Json.arePrintable_eq_all, List.all_map]
    simp [Json.isPrintable]
  refine ⟨Json.render true (.arr ((pySorted values).map Json.str)), ?_⟩
  rw [revokedJson, raiseIf, if_neg accepted, ok_bind]
  exact Json.dumps_eq_ok.mpr ⟨printable, rfl⟩

/-! ### Valid states -/

theorem ne_nil_of_boundedText {raised : PyStr → PyError} {limit : Nat} {name value : PyStr}
    (bounded : boundedText raised limit name value = .ok ()) : value ≠ [] := by
  rintro rfl
  simp [boundedText, isBlank] at bounded

theorem AuthorityEpochState.of_validate {state : AuthorityEpochState}
    (valid : state.validate = .ok ()) :
    storeContext state.context = .ok () ∧ 0 ≤ state.epoch ∧
      ∃ text, revokedJson state.revokedGrantIds = .ok text := by
  simp only [validate, validEpoch, bind_eq_ok, raiseIf_eq_ok, not_not, not_lt] at valid
  obtain ⟨_, trust, _, tenant, _, organization, _, mission, _, epoch, _, identifiers, distinct⟩ :=
    valid
  refine ⟨?_, epoch, exists_revokedJson ?_ distinct⟩
  · rw [storeContext, raiseIf_eq_ok]
    rintro (empty | empty | empty | empty)
    · exact ne_nil_of_boundedText trust empty
    · exact ne_nil_of_boundedText tenant empty
    · exact ne_nil_of_boundedText organization empty
    · exact ne_nil_of_boundedText mission empty
  · intro value member
    exact ne_nil_of_boundedText (forM_eq_ok.mp identifiers value member)

/-! ### The operations of the store, alone -/

theorem runAlone_advanceEpoch {context : ContextKey} {epoch : Int} {ids candidate : List PyStr}
    {text : PyStr} (store : AuthorityStore) (contextOk : storeContext context = .ok ())
    (written : revokedJson ids = .ok text) (read : revokedIds text = .ok candidate) :
    PyProg.runAlone (advanceEpoch context epoch ids) store =
      match store.advance context epoch text candidate with
      | .ok (after, _) => (after, after.currentEpoch context)
      | .error error => (store, .error error) := by
  simp only [advanceEpoch, PyProg.runAlone_bind, PyProg.runAlone_lift, PyProg.runAlone_transact,
    PyProg.runAlone_read, contextOk, written, read, AuthorityStore.commit]
  cases store.advance context epoch text candidate <;> rfl

theorem runAlone_bootstrapContext {context : ContextKey} {epoch : Int} {ids : List PyStr}
    {text : PyStr} (store : AuthorityStore) (contextOk : storeContext context = .ok ())
    (written : revokedJson ids = .ok text) (epochOk : 0 ≤ epoch) :
    PyProg.runAlone (bootstrapContext context epoch ids) store =
      match store.bootstrap context epoch text with
      | .ok (after, _) => (after, after.currentEpoch context)
      | .error error => (store, .error error) := by
  simp only [bootstrapContext, PyProg.runAlone_bind, PyProg.runAlone_lift,
    PyProg.runAlone_transact, PyProg.runAlone_read, contextOk, written, raiseIf,
    if_neg (not_lt.mpr epochOk), AuthorityStore.commit]
  cases store.bootstrap context epoch text <;> rfl

theorem runAlone_registerRoot (store : AuthorityStore) (context : ContextKey) (epoch : Int)
    (rootGrantId rootGrantDigest : PyStr) :
    (∃ error, PyProg.runAlone (registerRoot context epoch rootGrantId rootGrantDigest) store =
      (store, .error error)) ∨
    ∃ anchor, store.rootRow context epoch = none ∧
      PyProg.runAlone (registerRoot context epoch rootGrantId rootGrantDigest) store =
        ({ store with roots := store.roots ++ [anchor] }, .ok anchor) := by
  simp only [registerRoot, PyProg.runAlone_bind, PyProg.runAlone_lift, PyProg.runAlone_transact,
    AuthorityStore.commit]
  cases storeContext context with
  | error error => exact .inl ⟨error, rfl⟩
  | ok _ =>
  cases boundedText persistentError 512 (py "root_grant_id") rootGrantId with
  | error error => exact .inl ⟨error, rfl⟩
  | ok _ =>
  cases digestText persistentError (py "root_grant_digest") rootGrantDigest with
  | error error => exact .inl ⟨error, rfl⟩
  | ok _ =>
  dsimp only
  cases inserted : store.insertRoot context epoch rootGrantId rootGrantDigest with
  | error error => exact .inl ⟨error, rfl⟩
  | ok pair =>
    obtain ⟨after, _⟩ := pair
    obtain ⟨fresh, rfl⟩ := AuthorityStore.of_insertRoot inserted
    exact .inr ⟨⟨context, epoch, rootGrantId, rootGrantDigest⟩, fresh, rfl⟩

/-! ### Twin runs -/

/-- A call on the store.  A bootstrap also makes an owner, and an advance is
also made on the owner of its context. -/
inductive AuthorityStep
  | bootstrap (initial : AuthorityEpochState)
  | advance (candidate : AuthorityEpochState)
  | registerRoot (context : ContextKey) (epoch : Int) (rootGrantId rootGrantDigest : PyStr)

structure TwinState where
  owners : ContextKey → Option AuthorityEpochState
  store : AuthorityStore

namespace TwinState

def empty : TwinState :=
  ⟨fun _ => none, AuthorityStore.empty⟩

/-- `AuthorityEpochStateOwner.advance` of the owner of the context accepts the
candidate. -/
def ownerAccepts (state : TwinState) (candidate : AuthorityEpochState) : Bool :=
  match state.owners candidate.context with
  | none => false
  | some held => returned (advanceOwner candidate held).2

/-- The tables after a call on the store, and whether it was accepted. -/
def storeCall (state : TwinState) : AuthorityStep → AuthorityStore × Bool
  | .bootstrap initial =>
    let (after, result) := PyProg.runAlone (bootstrapContext initial.context initial.epoch
      initial.revokedGrantIds) state.store
    (after, returned result)
  | .advance candidate =>
    let (after, result) := PyProg.runAlone (advanceEpoch candidate.context candidate.epoch
      candidate.revokedGrantIds) state.store
    (after, returned result)
  | .registerRoot context epoch rootGrantId rootGrantDigest =>
    let (after, result) := PyProg.runAlone
      (registerRoot context epoch rootGrantId rootGrantDigest) state.store
    (after, returned result)

def ownersAfter (state : TwinState) : AuthorityStep → ContextKey → Option AuthorityEpochState
  | .bootstrap initial =>
    if (state.storeCall (.bootstrap initial)).2 then
      Function.update state.owners initial.context (some initial)
    else state.owners
  | .advance candidate =>
    Function.update state.owners candidate.context
      ((state.owners candidate.context).map fun held => (advanceOwner candidate held).1)
  | .registerRoot .. => state.owners

def step (state : TwinState) (call : AuthorityStep) : TwinState :=
  ⟨state.ownersAfter call, (state.storeCall call).1⟩

def run (state : TwinState) (calls : List AuthorityStep) : TwinState :=
  calls.foldl step state

/-- An owner and the store hold the same epoch and the same revoked set; a
context without an owner is none of the store's. -/
def Same (state : TwinState) : Prop :=
  ∀ context,
    match state.owners context with
    | none => ∀ snapshot, state.store.currentEpoch context ≠ .ok snapshot
    | some held => ∃ snapshot, state.store.currentEpoch context = .ok snapshot ∧
        snapshot.epoch = held.epoch ∧
        ∀ grantId, grantId ∈ snapshot.revokedGrantIds ↔ grantId ∈ held.revokedGrantIds

/-- The states are valid, no identifier holds a surrogate pair, and the next
version fits the column. -/
def Meets (state : TwinState) : AuthorityStep → Prop
  | .bootstrap initial => initial.validate = .ok () ∧ NoSurrogatePairs initial.revokedGrantIds
  | .advance candidate => candidate.validate = .ok () ∧ candidate.epoch < 2 ^ 63 ∧
      NoSurrogatePairs candidate.revokedGrantIds ∧
      ∀ row, state.store.epochRow candidate.context = some row → row.version < 2 ^ 63 - 1
  | .registerRoot .. => True

def MeetsAll (state : TwinState) : List AuthorityStep → Prop
  | [] => True
  | call :: calls => state.Meets call ∧ (state.step call).MeetsAll calls

def versionGain (state : TwinState) (call : AuthorityStep) (context : ContextKey) : Int :=
  match call with
  | .advance candidate =>
    if candidate.context = context ∧ (state.storeCall call).2 = true then 1 else 0
  | _ => 0

structure Refines (state : TwinState) (call : AuthorityStep) : Prop where
  same : (state.step call).Same
  agree : ∀ candidate, call = .advance candidate →
    (state.storeCall call).2 = state.ownerAccepts candidate
  rejected : (state.storeCall call).2 = false → (state.step call).store = state.store
  monotone : ∀ context before, state.store.currentEpoch context = .ok before →
    ∃ after, (state.step call).store.currentEpoch context = .ok after ∧
      before.epoch ≤ after.epoch ∧
      (before.epoch = after.epoch → before.revokedGrantIds ⊆ after.revokedGrantIds) ∧
      after.version = before.version + state.versionGain call context
  anchors : ∀ context epoch row, state.store.rootRow context epoch = some row →
    (state.step call).store.rootRow context epoch = some row

/-! ### The invariant -/

structure HeldRow (store : AuthorityStore) (held : AuthorityEpochState) (row : EpochRow)
    (ids : List PyStr) : Prop where
  valid : held.validate = .ok ()
  bound : bindContext held.context = .ok ()
  found : store.epochRow held.context = some row
  epoch : row.epoch = held.epoch
  read : revokedIds row.revokedJson = .ok ids
  revoked : ∀ grantId, grantId ∈ ids ↔ grantId ∈ held.revokedGrantIds
  version : 1 ≤ row.version

def Coupled (state : TwinState) : Prop :=
  ∀ context, (state.owners context = none ∧ state.store.epochRow context = none) ∨
    ∃ held row ids, state.owners context = some held ∧ held.context = context ∧
      HeldRow state.store held row ids

theorem coupled_empty : empty.Coupled :=
  fun _ => .inl ⟨rfl, rfl⟩

variable {state : TwinState} {call : AuthorityStep} {store : AuthorityStore}
  {held candidate : AuthorityEpochState} {row : EpochRow} {ids : List PyStr}

theorem HeldRow.currentEpoch (heldRow : HeldRow store held row ids) :
    store.currentEpoch held.context = .ok ⟨held.context, row.epoch, ids, row.version⟩ :=
  AuthorityStore.currentEpoch_eq_ok.mpr ⟨(AuthorityEpochState.of_validate heldRow.valid).1,
    heldRow.bound, row, ids, heldRow.found, heldRow.read, rfl⟩

theorem Coupled.same (coupled : state.Coupled) : state.Same := by
  intro context
  rcases coupled context with ⟨unowned, absent⟩ | ⟨held, row, ids, owned, rfl, heldRow⟩
  · rw [unowned]
    intro snapshot read
    obtain ⟨-, -, row, -, found, -⟩ := AuthorityStore.currentEpoch_eq_ok.mp read
    rw [absent] at found
    exact nomatch found
  · rw [owned]
    exact ⟨_, heldRow.currentEpoch, heldRow.epoch, heldRow.revoked⟩

theorem HeldRow.congr {after : AuthorityStore} (heldRow : HeldRow store held row ids)
    (kept : after.epochRow held.context = store.epochRow held.context) :
    HeldRow after held row ids :=
  { heldRow with found := kept.trans heldRow.found }

def RollsBack (held candidate : AuthorityEpochState) : Prop :=
  candidate.epoch < held.epoch ∨
    (candidate.epoch = held.epoch ∧ ¬ held.revokedGrantIds ⊆ candidate.revokedGrantIds)

theorem advanceOwner_of_rollsBack (back : RollsBack held candidate) :
    ∃ error, advanceOwner candidate held = (held, .error error) := by
  rw [advanceOwner]
  cases transition : validateEpochTransition held candidate with
  | error error => exact ⟨error, rfl⟩
  | ok accepted =>
    simp only [validateEpochTransition, bind_eq_ok, raiseIf_eq_ok] at transition
    obtain ⟨_, -, _, -, _, -, _, later, _, grows, -⟩ := transition
    rcases back with earlier | shrinks
    · exact absurd earlier later
    · exact absurd shrinks grows

theorem advanceOwner_of_not_rollsBack (heldValid : held.validate = .ok ())
    (valid : candidate.validate = .ok ()) (context : candidate.context = held.context)
    (forward : ¬ RollsBack held candidate) :
    advanceOwner candidate held = (candidate, .ok candidate) := by
  have transition : validateEpochTransition held candidate = .ok candidate := by
    simp only [validateEpochTransition, bind_eq_ok, raiseIf_eq_ok]
    exact ⟨_, heldValid, _, valid, (), not_not.mpr context.symm, (), fun h => forward (.inl h),
      (), fun h => forward (.inr h), rfl⟩
  rw [advanceOwner, transition]

/-! ### Advances -/

theorem HeldRow.advance (heldRow : HeldRow store held row ids) (text : PyStr)
    (candidate : AuthorityEpochState) (candidateIds : List PyStr)
    (same : ∀ grantId, grantId ∈ candidateIds ↔ grantId ∈ candidate.revokedGrantIds)
    (context : candidate.context = held.context) (epochOk : 0 ≤ candidate.epoch)
    (epochFits : candidate.epoch < 2 ^ 63) (versionFits : row.version < 2 ^ 63 - 1) :
    (RollsBack held candidate →
      ∃ error, store.advance candidate.context candidate.epoch text candidateIds =
        .error error) ∧
    (¬ RollsBack held candidate →
      store.advance candidate.context candidate.epoch text candidateIds =
        .ok (store.setEpoch held.context candidate.epoch text (row.version + 1), ())) := by
  have backIff : RollsBack held candidate ↔ candidate.epoch < row.epoch ∨
      (candidate.epoch = row.epoch ∧ ¬ ids ⊆ candidateIds) := by
    simp only [RollsBack, List.subset_def, heldRow.revoked, same, heldRow.epoch]
  have versionOk := heldRow.version
  rw [AuthorityStore.advance, context, heldRow.bound, ok_bind, heldRow.found]
  dsimp only
  rw [AuthorityStore.advanceRow, heldRow.read, ok_bind, backIff]
  constructor
  · intro back
    rw [raiseIf, if_pos back]
    exact ⟨_, rfl⟩
  · intro forward
    have epochBinds : bindInt candidate.epoch = .ok () := by
      rw [bindInt, raiseIf_eq_ok]
      omega
    have versionBinds : bindInt (row.version + 1) = .ok () := by
      rw [bindInt, raiseIf_eq_ok]
      omega
    rw [raiseIf, if_neg forward, ok_bind, epochBinds, ok_bind, versionBinds]
    rfl

theorem storeCall_advance_absent (valid : candidate.validate = .ok ())
    (absent : state.store.epochRow candidate.context = none) :
    state.storeCall (.advance candidate) = (state.store, false) := by
  obtain ⟨contextOk, -, text, written⟩ := AuthorityEpochState.of_validate valid
  rw [storeCall, runAlone_advanceEpoch _ contextOk written (revokedIds_of_revokedJson written)]
  rw [AuthorityStore.advance]
  cases bindContext candidate.context with
  | error error => rfl
  | ok _ =>
    rw [ok_bind, absent]
    rfl

theorem HeldRow.storeCall_advance (heldRow : HeldRow state.store held row ids)
    (context : candidate.context = held.context) (meets : state.Meets (.advance candidate)) :
    (RollsBack held candidate → state.storeCall (.advance candidate) = (state.store, false)) ∧
    (¬ RollsBack held candidate → ∃ text,
      revokedIds text = .ok (pySorted candidate.revokedGrantIds) ∧
      state.storeCall (.advance candidate) =
        (state.store.setEpoch held.context candidate.epoch text (row.version + 1), true)) := by
  obtain ⟨valid, epochFits, apart, versionFits⟩ := meets
  obtain ⟨contextOk, epochOk, text, written⟩ := AuthorityEpochState.of_validate valid
  have read := revokedIds_of_noSurrogatePairs written apart
  obtain ⟨back, forward⟩ := heldRow.advance text candidate _ (fun _ => mem_pySorted) context
    epochOk epochFits (versionFits row (context ▸ heldRow.found))
  rw [storeCall, runAlone_advanceEpoch _ contextOk written read]
  constructor
  · intro rollsBack
    obtain ⟨error, raised⟩ := back rollsBack
    rw [raised]
    rfl
  · intro ahead
    refine ⟨text, read, ?_⟩
    have found : (state.store.setEpoch held.context candidate.epoch text
        (row.version + 1)).epochRow held.context =
          some ⟨held.context, candidate.epoch, text, row.version + 1⟩ := by
      rw [AuthorityStore.epochRow_setEpoch, if_pos rfl, heldRow.found]
      rfl
    have reread := AuthorityStore.currentEpoch_eq_ok.mpr
      ⟨context ▸ contextOk, heldRow.bound, _, _, found, read, rfl⟩
    rw [forward ahead]
    dsimp only
    rw [context, reread]
    rfl

theorem HeldRow.setEpoch (heldRow : HeldRow store held row ids)
    (valid : candidate.validate = .ok ()) (context : candidate.context = held.context)
    {text : PyStr} (read : revokedIds text = .ok (pySorted candidate.revokedGrantIds)) :
    HeldRow (store.setEpoch held.context candidate.epoch text (row.version + 1)) candidate
      ⟨held.context, candidate.epoch, text, row.version + 1⟩
      (pySorted candidate.revokedGrantIds) where
  valid := valid
  bound := context ▸ heldRow.bound
  found := by
    rw [context, AuthorityStore.epochRow_setEpoch, if_pos rfl, heldRow.found]
    rfl
  epoch := rfl
  read := read
  revoked := fun _ => mem_pySorted
  version := by
    have := heldRow.version
    dsimp only
    omega

theorem HeldRow.setEpoch_monotone {text : PyStr} {before : PersistentEpochSnapshot}
    (heldRow : HeldRow store held row ids)
    (newRow : HeldRow (store.setEpoch held.context candidate.epoch text (row.version + 1))
      candidate ⟨held.context, candidate.epoch, text, row.version + 1⟩
      (pySorted candidate.revokedGrantIds))
    (context : candidate.context = held.context) (forward : ¬ RollsBack held candidate)
    (readBefore : store.currentEpoch held.context = .ok before) :
    ∃ after, (store.setEpoch held.context candidate.epoch text
        (row.version + 1)).currentEpoch held.context = .ok after ∧
      before.epoch ≤ after.epoch ∧
      (before.epoch = after.epoch → before.revokedGrantIds ⊆ after.revokedGrantIds) ∧
      after.version = before.version + 1 := by
  rw [RollsBack, not_or, not_and, not_not] at forward
  rw [heldRow.currentEpoch] at readBefore
  obtain rfl := Except.ok.inj readBefore
  refine ⟨_, context ▸ newRow.currentEpoch, ?_, ?_, rfl⟩
  · have := heldRow.epoch
    dsimp only
    omega
  · intro sameEpoch grantId member
    dsimp only at sameEpoch member ⊢
    rw [mem_pySorted]
    rw [heldRow.revoked] at member
    exact forward.2 (sameEpoch.symm.trans heldRow.epoch) member

/-! ### One call -/

theorem refines_of_store_eq (coupled : (state.step call).Coupled)
    (agree : ∀ candidate, call = .advance candidate → state.ownerAccepts candidate = false)
    (kept : state.storeCall call = (state.store, false)) : state.Refines call := by
  have stored : (state.step call).store = state.store := by rw [step, kept]
  have gain : ∀ context, state.versionGain call context = 0 := by
    intro context
    cases call <;> simp [versionGain, kept]
  refine ⟨coupled.same, ?_, fun _ => stored, ?_, ?_⟩
  · intro candidate same
    rw [kept, agree candidate same]
  · intro context before read
    rw [stored]
    exact ⟨before, read, le_refl _, fun _ => List.Subset.refl _, by simp [gain]⟩
  · intro context epoch row found
    rw [stored, found]

theorem Coupled.update {after : TwinState} (coupled : state.Coupled) (context : ContextKey)
    (others : ∀ other, other ≠ context → after.owners other = state.owners other ∧
      after.store.epochRow other = state.store.epochRow other)
    (owned : after.owners context = some held) (own : held.context = context)
    (heldRow : HeldRow after.store held row ids) : after.Coupled := by
  intro other
  by_cases same : other = context
  · rw [same]
    exact .inr ⟨held, row, ids, owned, own, heldRow⟩
  · obtain ⟨ownersKept, rowKept⟩ := others other same
    rw [ownersKept, rowKept]
    rcases coupled other with absent | ⟨held, row, ids, ownedOther, rfl, heldOther⟩
    · exact .inl absent
    · exact .inr ⟨held, row, ids, ownedOther, rfl, heldOther.congr rowKept⟩

theorem Coupled.advance (coupled : state.Coupled) (meets : state.Meets (.advance candidate)) :
    (state.step (.advance candidate)).Coupled ∧ state.Refines (.advance candidate) := by
  have valid := meets.1
  rcases coupled candidate.context with ⟨unowned, absent⟩ | ⟨held, row, ids, owned, own, heldRow⟩
  · have kept := storeCall_advance_absent valid absent
    have stepped : state.step (.advance candidate) = state := by
      rw [step, kept, ownersAfter, unowned, Option.map_none, ← unowned,
        Function.update_eq_self]
    have after : (state.step (.advance candidate)).Coupled := stepped.symm ▸ coupled
    refine ⟨after, refines_of_store_eq after ?_ kept⟩
    rintro _ ⟨⟩
    rw [ownerAccepts, unowned]
  · obtain ⟨back, forward⟩ := heldRow.storeCall_advance own.symm meets
    by_cases rollsBack : RollsBack held candidate
    · have kept := back rollsBack
      obtain ⟨error, refused⟩ := advanceOwner_of_rollsBack rollsBack
      have stepped : state.step (.advance candidate) = state := by
        rw [step, kept, ownersAfter, owned, Option.map_some, refused]
        dsimp only
        rw [← owned, Function.update_eq_self]
      have after : (state.step (.advance candidate)).Coupled := stepped.symm ▸ coupled
      refine ⟨after, refines_of_store_eq after ?_ kept⟩
      rintro _ ⟨⟩
      rw [ownerAccepts, owned]
      dsimp only
      rw [refused]
      rfl
    · obtain ⟨text, read, called⟩ := forward rollsBack
      have accepted := advanceOwner_of_not_rollsBack heldRow.valid valid own.symm rollsBack
      have newRow := heldRow.setEpoch valid own.symm read
      have stored : (state.step (.advance candidate)).store =
          state.store.setEpoch held.context candidate.epoch text (row.version + 1) := by
        rw [step, called]
      have others : ∀ other, other ≠ held.context →
          (state.step (.advance candidate)).store.epochRow other =
            state.store.epochRow other := by
        intro other different
        rw [stored, AuthorityStore.epochRow_setEpoch, if_neg different]
      have after : (state.step (.advance candidate)).Coupled := by
        apply coupled.update candidate.context _ _ rfl (stored.symm ▸ newRow)
        · intro other different
          refine ⟨Function.update_of_ne different _ _, others other ?_⟩
          rwa [own]
        · rw [step, ownersAfter, owned, Option.map_some, accepted]
          exact Function.update_self _ _ _
      refine ⟨after, after.same, ?_, ?_, ?_, ?_⟩
      · rintro _ ⟨⟩
        rw [called, ownerAccepts, owned]
        dsimp only
        rw [accepted]
        rfl
      · rw [called]
        simp
      · intro context before readBefore
        by_cases same : context = held.context
        · rw [same] at readBefore
          rw [same, stored, versionGain, if_pos ⟨own.symm, by rw [called]⟩]
          exact heldRow.setEpoch_monotone newRow own.symm rollsBack readBefore
        · rw [AuthorityStore.currentEpoch_congr (others context same)]
          refine ⟨before, readBefore, le_refl _, fun _ => List.Subset.refl _, ?_⟩
          rw [versionGain, if_neg (fun both => same (both.1.symm.trans own.symm)), add_zero]
      · intro context epoch anchor found
        rw [stored]
        exact found

theorem storeCall_bootstrap {initial : AuthorityEpochState}
    (meets : state.Meets (.bootstrap initial)) :
    state.storeCall (.bootstrap initial) = (state.store, false) ∨
    ∃ text, bindContext initial.context = .ok () ∧
      state.store.epochRow initial.context = none ∧
      revokedIds text = .ok (pySorted initial.revokedGrantIds) ∧
      state.storeCall (.bootstrap initial) = ({ state.store with
        epochs := state.store.epochs ++ [⟨initial.context, initial.epoch, text, 1⟩] }, true) := by
  obtain ⟨valid, apart⟩ := meets
  obtain ⟨contextOk, epochOk, text, written⟩ := AuthorityEpochState.of_validate valid
  have read := revokedIds_of_noSurrogatePairs written apart
  rw [storeCall, runAlone_bootstrapContext _ contextOk written epochOk]
  cases made : state.store.bootstrap initial.context initial.epoch text with
  | error error => exact .inl rfl
  | ok pair =>
    simp only [AuthorityStore.bootstrap, bind_eq_ok, raiseIf_eq_ok] at made
    obtain ⟨_, bound, _, -, _, fresh, same⟩ := made
    obtain rfl := (Except.ok.inj same).symm
    have absent : state.store.epochRow initial.context = none := by simpa using fresh
    have found := AuthorityStore.epochRow_append state.store
      ⟨initial.context, initial.epoch, text, 1⟩ absent initial.context
    rw [if_pos rfl] at found
    have reread := AuthorityStore.currentEpoch_eq_ok.mpr
      ⟨contextOk, bound, _, _, found, read, rfl⟩
    refine .inr ⟨text, bound, absent, read, ?_⟩
    dsimp only
    rw [reread]
    rfl

theorem refines_of_kept (after : (state.step call).Coupled)
    (notAdvance : ∀ candidate, call ≠ .advance candidate)
    (accepted : (state.storeCall call).2 = true)
    (rows : ∀ context row, state.store.epochRow context = some row →
      (state.step call).store.epochRow context = some row)
    (anchors : ∀ context epoch row, state.store.rootRow context epoch = some row →
      (state.step call).store.rootRow context epoch = some row) : state.Refines call := by
  refine ⟨after.same, ?_, ?_, ?_, anchors⟩
  · intro candidate same
    exact absurd same (notAdvance candidate)
  · rw [accepted]
    simp
  · intro context before read
    obtain ⟨-, -, row, -, found, -⟩ := AuthorityStore.currentEpoch_eq_ok.mp read
    have kept := (rows context row found).trans found.symm
    rw [AuthorityStore.currentEpoch_congr kept]
    refine ⟨before, read, le_refl _, fun _ => List.Subset.refl _, ?_⟩
    cases call with
    | advance candidate => exact absurd rfl (notAdvance candidate)
    | bootstrap => simp [versionGain]
    | registerRoot => simp [versionGain]

theorem Coupled.bootstrap {initial : AuthorityEpochState} (coupled : state.Coupled)
    (meets : state.Meets (.bootstrap initial)) :
    (state.step (.bootstrap initial)).Coupled ∧ state.Refines (.bootstrap initial) := by
  rcases storeCall_bootstrap meets with kept | ⟨text, bound, absent, read, called⟩
  · have stepped : state.step (.bootstrap initial) = state := by
      rw [step, ownersAfter, kept]
      rfl
    have after : (state.step (.bootstrap initial)).Coupled := stepped.symm ▸ coupled
    exact ⟨after, refines_of_store_eq after (fun _ same => nomatch same) kept⟩
  · have rows : ∀ other, (state.step (.bootstrap initial)).store.epochRow other =
        if other = initial.context then some ⟨initial.context, initial.epoch, text, 1⟩
        else state.store.epochRow other := by
      intro other
      rw [step, called]
      exact AuthorityStore.epochRow_append state.store
        ⟨initial.context, initial.epoch, text, 1⟩ absent other
    have after : (state.step (.bootstrap initial)).Coupled := by
      apply coupled.update initial.context _ _ rfl
      · exact ⟨meets.1, bound, by rw [rows, if_pos rfl], rfl, read, fun _ => mem_pySorted,
          le_refl _⟩
      · intro other different
        rw [rows, if_neg different, step, ownersAfter, called, if_pos rfl]
        exact ⟨Function.update_of_ne different _ _, rfl⟩
      · rw [step, ownersAfter, called, if_pos rfl]
        exact Function.update_self _ _ _
    refine ⟨after, refines_of_kept after (fun _ => nofun) (by rw [called]) ?_ ?_⟩
    · intro other row found
      rw [rows, if_neg, found]
      rintro rfl
      rw [absent] at found
      exact nomatch found
    · intro context epoch row found
      rw [step, called]
      exact found

theorem Coupled.registerRoot (coupled : state.Coupled) (context : ContextKey) (epoch : Int)
    (rootGrantId rootGrantDigest : PyStr) :
    (state.step (.registerRoot context epoch rootGrantId rootGrantDigest)).Coupled ∧
      state.Refines (.registerRoot context epoch rootGrantId rootGrantDigest) := by
  rcases runAlone_registerRoot state.store context epoch rootGrantId rootGrantDigest with
    ⟨error, refused⟩ | ⟨anchor, fresh, written⟩
  · have kept : state.storeCall (.registerRoot context epoch rootGrantId rootGrantDigest) =
        (state.store, false) := by
      rw [storeCall, refused]
      rfl
    have stepped : state.step (.registerRoot context epoch rootGrantId rootGrantDigest) =
        state := by
      rw [step, kept]
      rfl
    have after : (state.step (.registerRoot context epoch rootGrantId rootGrantDigest)).Coupled :=
      stepped.symm ▸ coupled
    exact ⟨after, refines_of_store_eq after (fun _ same => nomatch same) kept⟩
  · have called : state.storeCall (.registerRoot context epoch rootGrantId rootGrantDigest) =
        ({ state.store with roots := state.store.roots ++ [anchor] }, true) := by
      rw [storeCall, written]
      rfl
    have stepped : state.step (.registerRoot context epoch rootGrantId rootGrantDigest) =
        ⟨state.owners, { state.store with roots := state.store.roots ++ [anchor] }⟩ := by
      rw [step, called]
      rfl
    have after :
        (state.step (.registerRoot context epoch rootGrantId rootGrantDigest)).Coupled := by
      rw [stepped]
      intro other
      rcases coupled other with absent | ⟨held, row, ids, owned, own, heldRow⟩
      · exact .inl absent
      · exact .inr ⟨held, row, ids, owned, own, heldRow.congr rfl⟩
    refine ⟨after, refines_of_kept after (fun _ => nofun) (by rw [called]) ?_ ?_⟩
    · intro other row found
      rw [stepped]
      exact found
    · intro other otherEpoch row found
      rw [stepped]
      rw [AuthorityStore.rootRow] at found ⊢
      dsimp only
      rw [List.find?_append, found]
      rfl

theorem Coupled.step (coupled : state.Coupled) (meets : state.Meets call) :
    (state.step call).Coupled ∧ state.Refines call := by
  cases call with
  | bootstrap initial => exact coupled.bootstrap meets
  | advance candidate => exact coupled.advance meets
  | registerRoot context epoch rootGrantId rootGrantDigest =>
    exact coupled.registerRoot context epoch rootGrantId rootGrantDigest

theorem Coupled.run {calls : List AuthorityStep} (coupled : state.Coupled)
    (meets : state.MeetsAll calls) {before after : List AuthorityStep} {call : AuthorityStep}
    (split : calls = before ++ call :: after) : (state.run before).Refines call := by
  induction before generalizing state calls with
  | nil =>
    subst split
    exact (coupled.step meets.1).2
  | cons first before ih =>
    subst split
    exact ih (coupled.step meets.1).1 meets.2 rfl

/-- The store refines the owners along every run from a new database whose
calls meet the condition. -/
theorem run_refines (calls : List AuthorityStep) (meets : empty.MeetsAll calls) :
    empty.Same ∧ ∀ before call after, calls = before ++ call :: after →
      (empty.run before).Refines call :=
  ⟨coupled_empty.same, fun _ _ _ => coupled_empty.run meets⟩

def fieldContext : ContextKey :=
  ⟨py "domain", py "tenant", py "org", py "field"⟩

def fieldCalls : List AuthorityStep :=
  [.bootstrap ⟨fieldContext, 0, [py "old"]⟩, .advance ⟨fieldContext, 0, [py "new", py "old"]⟩]

theorem run_refines_field : empty.MeetsAll fieldCalls ∧
    ∀ before call after, fieldCalls = before ++ call :: after →
      (empty.run before).Refines call := by
  have found : (empty.step (.bootstrap ⟨fieldContext, 0, [py "old"]⟩)).store.epochRow
      fieldContext = some ⟨fieldContext, 0, py "[\"old\"]", 1⟩ := by
    decide +kernel
  have meets : empty.MeetsAll fieldCalls := by
    refine ⟨⟨eq_ok_of_returned (by decide +kernel), ?_⟩,
      ⟨eq_ok_of_returned (by decide +kernel), by decide, ?_, ?_⟩, trivial⟩
    · rintro _ (_ | ⟨_, ⟨⟩⟩)
      rfl
    · rintro _ (_ | ⟨_, _ | ⟨_, ⟨⟩⟩⟩)
      · rfl
      · rfl
    · intro row asked
      obtain rfl := Option.some.inj (found.symm.trans asked)
      decide
  exact ⟨meets, (run_refines fieldCalls meets).2⟩

def ValidCall : AuthorityStep → Prop
  | .bootstrap state | .advance state => state.validate = .ok () ∧ state.epoch < 2 ^ 63
  | .registerRoot .. => True

def pairedIds : List PyStr :=
  [[⟨0xD83D, by decide⟩, ⟨0xDE00, by decide⟩]]

def joinedIds : List PyStr :=
  [[⟨0x1F600, by decide⟩]]

def pairedCalls : List AuthorityStep :=
  [.bootstrap ⟨fieldContext, 0, []⟩, .advance ⟨fieldContext, 0, pairedIds⟩,
    .advance ⟨fieldContext, 0, joinedIds⟩]

/-- The store takes the joined character for the pair that the owner holds. -/
theorem not_refines_pairedCalls : (∀ call ∈ pairedCalls, ValidCall call) ∧
    ∃ before call after, pairedCalls = before ++ call :: after ∧
      ¬ (empty.run before).Refines call := by
  have valid : ∀ ids, returned (AuthorityEpochState.validate ⟨fieldContext, 0, ids⟩) = true →
      ValidCall (.advance ⟨fieldContext, 0, ids⟩) :=
    fun _ accepted => ⟨eq_ok_of_returned accepted, (by decide : (0 : Int) < 2 ^ 63)⟩
  constructor
  · rintro _ (_ | ⟨_, _ | ⟨_, _ | ⟨_, ⟨⟩⟩⟩⟩)
    · exact valid [] (by decide +kernel)
    · exact valid pairedIds (by decide +kernel)
    · exact valid joinedIds (by decide +kernel)
  · refine ⟨pairedCalls.take 2, .advance ⟨fieldContext, 0, joinedIds⟩, [], rfl, ?_⟩
    intro refined
    have agree := refined.agree ⟨fieldContext, 0, joinedIds⟩ rfl
    have accepted : ((empty.run (pairedCalls.take 2)).storeCall
        (.advance ⟨fieldContext, 0, joinedIds⟩)).2 = true := by
      decide +kernel
    have refused : (empty.run (pairedCalls.take 2)).ownerAccepts ⟨fieldContext, 0, joinedIds⟩ =
        false := by
      decide +kernel
    rw [accepted, refused] at agree
    exact nomatch agree

end TwinState

end CyberLion
