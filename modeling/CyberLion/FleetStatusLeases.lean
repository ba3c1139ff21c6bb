import CyberLion.FleetStatusJournal
import CyberLion.Sha256Evaluation

/-!
# The leases of the fleet status

`record_lease` checks the mission, the type and the resource of its caller against the held
leases, and then keeps those of the row that its identifier already has.  As long as a reused
identifier comes with what its row holds, the held leases of a repository exclude each other and
the journal agrees with the table.
-/

namespace CyberLion

namespace FleetStatus

open PyLib Json
open FleetCoordination (textFieldOf textFieldOf_sorted)
open ProcessIR (ofText toText)

/-! ### Leases as the journal tells them -/

/-- What a row of the table and an event of the journal both say of a lease. -/
structure LeaseFacts where
  leaseId : PyStr
  missionId : PyStr
  leaseType : PyStr
  resource : PyStr
  state : PyStr
  deriving DecidableEq

def LeaseRow.facts (row : LeaseRow) : LeaseFacts :=
  ⟨row.leaseId, row.missionId, toText leaseTypes row.leaseType, row.resource,
    toText heldStates row.state⟩

def LeaseInput.facts (input : LeaseInput) : LeaseFacts :=
  ⟨input.leaseId, input.missionId, input.leaseType, input.resource, input.state⟩

def readLease (missionId : PyStr) (payloadJson : PyStr) : Except PyError LeaseFacts := do
  match ← loads plainHooks payloadJson with
  | .obj fields => do
    let leaseId ← textFieldOf fields (py "lease_id")
    let leaseType ← textFieldOf fields (py "lease_type")
    let resource ← textFieldOf fields (py "resource")
    let state ← textFieldOf fields (py "state")
    return ⟨leaseId, missionId, leaseType, resource, state⟩
  | _ => .error (stateError (py "lease payload invalid"))

def EventRow.lease (event : EventRow) : Option LeaseFacts :=
  match event.eventType, event.missionId with
  | .leaseState, some missionId => (readLease missionId event.payloadJson).toOption
  | _, _ => none

/-- The newest `LEASE_STATE` event of a lease. -/
def StatusStore.newestLease (store : StatusStore) (leaseId : PyStr) : Option LeaseFacts :=
  (store.events.filterMap EventRow.lease).reverse.find? fun facts => facts.leaseId = leaseId

def StatusStore.leaseOf (store : StatusStore) (leaseId : PyStr) : Option LeaseRow :=
  store.leases.find? fun row => row.leaseId = leaseId

def leaseFields (input : LeaseInput) : List (PyStr × Json) :=
  [(py "lease_id", .str input.leaseId), (py "lease_type", .str input.leaseType),
    (py "resource", .str input.resource), (py "state", .str input.state)]

theorem distinct_leaseFields (input : LeaseInput) :
    ((leaseFields input).map Prod.fst).Nodup :=
  @nodup_py ["lease_id", "lease_type", "resource", "state"] (by decide)

theorem plain_leaseFields (input : LeaseInput) : Json.Plain (.obj (leaseFields input)) := by
  apply Json.Plain.obj (distinct_leaseFields input)
  simp [leaseFields]

theorem IsEvent.lease {input : LeaseInput} {time : PyStr} {store : StatusStore} {event : EventRow}
    (isEvent : IsEvent .leaseState (some input.missionId) (leaseFields input) time store event) :
    event.lease = some input.facts := by
  have distinct := distinct_leaseFields input
  have read : readLease input.missionId event.payloadJson = .ok input.facts := by
    rw [readLease, isEvent.loads_payload (plain_leaseFields input), ok_bind]
    simp only [textFieldOf_sorted distinct (py "lease_id") input.leaseId (by simp [leaseFields]),
      textFieldOf_sorted distinct (py "lease_type") input.leaseType (by simp [leaseFields]),
      textFieldOf_sorted distinct (py "resource") input.resource (by simp [leaseFields]),
      textFieldOf_sorted distinct (py "state") input.state (by simp [leaseFields]), ok_bind]
    rfl
  rw [EventRow.lease, isEvent.eventType, isEvent.missionId]
  simp only [read]
  rfl

theorem newestLease_withEvent {store : StatusStore} {event : EventRow} {facts : LeaseFacts}
    (read : event.lease = some facts) (leaseId : PyStr) :
    (store.withEvent event).newestLease leaseId =
      if facts.leaseId = leaseId then some facts else store.newestLease leaseId := by
  have events : (store.withEvent event).events = store.events ++ [event] := rfl
  rw [StatusStore.newestLease, events, List.filterMap_append, List.reverse_append]
  simp only [List.filterMap_cons, read, List.filterMap_nil, List.reverse_singleton,
    List.singleton_append, List.find?_cons]
  by_cases same : facts.leaseId = leaseId
  · simp [same]
  · simp [same, StatusStore.newestLease]

/-! ### One call -/

theorem toText_of_ofText {α : Type} [DecidableEq α] {vocabulary : List (α × PyStr)}
    (distinct : (vocabulary.map Prod.fst).Nodup) {text : PyStr} {member : α}
    (found : ofText vocabulary text = some member) : toText vocabulary member = text := by
  obtain ⟨entry, isEntry, rfl⟩ := Option.map_eq_some_iff.mp found
  have isText : entry.2 = text := by simpa using List.find?_some isEntry
  rw [toText, find?_of_nodup_map distinct (List.mem_of_find?_eq_some isEntry), ← isText]
  rfl

theorem leaseKind_eq_ok {leaseType state : PyStr} {kinds : LeaseType × LeaseState} :
    leaseKind leaseType state = .ok kinds ↔
      ofText leaseTypes leaseType = some kinds.1 ∧ ofText heldStates state = some kinds.2 := by
  unfold leaseKind
  split
  · rename_i foundType foundState isType isState
    simp [isType, isState, Prod.ext_iff]
  · rename_i missing
    constructor
    · intro absurdity
      exact absurd absurdity (by simp)
    · rintro ⟨isType, isState⟩
      exact absurd isState (missing _ _ isType)

/-- What a call of `record_lease` that returns has checked and written. -/
structure Recorded (input : LeaseInput) (store after : StatusStore) (row : LeaseRow)
    (event : EventRow) : Prop where
  facts : row.facts = input.facts
  free : row.state.isHeld = true → ∃ known, store.identityOf input.missionId = some known ∧
    checkHeld known.identity.repository input.resource row.leaseType
      (heldLeases input.leaseId store) = .ok ()
  isEvent : IsEvent .leaseState (some input.missionId) (leaseFields input) row.observedAt
    { store with leases := upsertLease row store.leases } event
  result : after =
    StatusStore.withEvent { store with leases := upsertLease row store.leases } event

theorem recorded_of_ok {input : LeaseInput} {clock : Moment} {store after : StatusStore}
    (recorded : recordLease input clock store = .ok after) :
    ∃ row event, Recorded input store after row event := by
  simp only [recordLease, bind_eq_ok] at recorded
  obtain ⟨⟨leaseType, state⟩, kinds, _, -, observedAt, -, known, isKnown, _, -, appended⟩ :=
    recorded
  obtain ⟨isType, isState⟩ := leaseKind_eq_ok.mp kinds
  have facts : (LeaseRow.mk input.leaseId input.missionId leaseType input.resource state
      input.sourceRef observedAt).facts = input.facts := by
    rw [LeaseRow.facts, LeaseInput.facts, toText_of_ofText (by decide) isType,
      toText_of_ofText (by decide) isState]
  cases held : state.isHeld with
  | true =>
    simp only [held, if_true, bind_eq_ok] at appended
    obtain ⟨_, free, appended⟩ := appended
    obtain ⟨event, isEvent, result⟩ := appendEvent_eq_ok.mp appended
    exact ⟨_, event, facts, fun _ => ⟨known, identityOf_of_knownMission isKnown, free⟩, isEvent,
      result⟩
  | false =>
    simp only [held, Bool.false_eq_true, if_false] at appended
    obtain ⟨event, isEvent, result⟩ := appendEvent_eq_ok.mp appended
    exact ⟨_, event, facts, fun isHeld => absurd isHeld (by simp [held]), isEvent, result⟩

/-! ### Leases that exclude each other -/

def IsPathPrefix (shorter longer : PyStr) : Prop :=
  rstripSlash shorter = rstripSlash longer ∨
    rstripSlash shorter ++ py "/" <+: rstripSlash longer

def Overlap (leaseType : LeaseType) (first second : PyStr) : Prop :=
  first = second ∨
    leaseType = .path ∧ (IsPathPrefix first second ∨ IsPathPrefix second first)

theorem Overlap.symm {leaseType : LeaseType} {first second : PyStr}
    (overlap : Overlap leaseType first second) : Overlap leaseType second first :=
  overlap.imp Eq.symm (And.imp_right Or.symm)

theorem not_overlap_of_leaseClash {leaseType : LeaseType} {resource held : PyStr}
    (free : leaseClash leaseType resource held = none) : ¬ Overlap leaseType resource held := by
  rintro (rfl | ⟨rfl, isPrefix⟩)
  · cases leaseType <;> simp [leaseClash, pathsOverlap] at free
  · simp only [leaseClash, pathsOverlap, Bool.or_eq_true, decide_eq_true_eq,
      List.isPrefixOf_iff_prefix, ite_eq_right_iff, reduceCtorEq, imp_false, not_or] at free
    obtain ⟨⟨differ, notBelow⟩, notAbove⟩ := free
    rcases isPrefix with (same | below) | (same | below)
    · exact differ same
    · exact notAbove below
    · exact differ same.symm
    · exact notBelow below

theorem leaseClash_of_checkHeld {repository resource : PyStr} {leaseType : LeaseType}
    {rows : List (LeaseRow × PyStr)} (free : checkHeld repository resource leaseType rows = .ok ())
    {row : LeaseRow} (member : (row, repository) ∈ rows) (sameType : row.leaseType = leaseType) :
    leaseClash leaseType resource row.resource = none := by
  induction rows with
  | nil => exact absurd member List.not_mem_nil
  | cons first rows ih =>
    obtain ⟨other, otherRepository⟩ := first
    rw [checkHeld] at free
    split at free
    · rename_i differs
      rcases List.mem_cons.mp member with isFirst | later
      · obtain ⟨rfl, rfl⟩ := Prod.mk.inj isFirst
        exact absurd sameType (differs.resolve_left (not_not.mpr rfl))
      · exact ih free later
    · split at free
      · exact absurd free (by simp)
      · rename_i noClash
        rcases List.mem_cons.mp member with isFirst | later
        · obtain ⟨rfl, rfl⟩ := Prod.mk.inj isFirst
          exact noClash
        · exact ih free later

def SameRepository (store : StatusStore) (first second : LeaseRow) : Prop :=
  ∃ firstKnown secondKnown, store.identityOf first.missionId = some firstKnown ∧
    store.identityOf second.missionId = some secondKnown ∧
    firstKnown.identity.repository = secondKnown.identity.repository

structure Exclusive (store : StatusStore) : Prop where
  distinct : (store.leases.map LeaseRow.leaseId).Nodup
  apart : ∀ first ∈ store.leases, ∀ second ∈ store.leases, first ≠ second →
    first.state.isHeld = true → second.state.isHeld = true → SameRepository store first second →
    first.leaseType = second.leaseType → ¬ Overlap first.leaseType first.resource second.resource

def NewestAgrees (store : StatusStore) : Prop :=
  ∀ leaseId, store.newestLease leaseId = (store.leaseOf leaseId).map LeaseRow.facts

/-- A call that reuses an identifier comes with the mission, the type and the resource that its
row holds. -/
def Repeats (store : StatusStore) (input : LeaseInput) : Prop :=
  ∀ row ∈ store.leases, row.leaseId = input.leaseId →
    row.missionId = input.missionId ∧ toText leaseTypes row.leaseType = input.leaseType ∧
      row.resource = input.resource

section Step

variable {input : LeaseInput} {store after : StatusStore} {row : LeaseRow} {event : EventRow}

theorem toText_leaseTypes_injective : Function.Injective (toText leaseTypes) := by
  intro first second same
  cases first <;> cases second <;> first | rfl | exact absurd same (by decide)

def LeaseRow.renewed (row old : LeaseRow) : LeaseRow :=
  { old with state := row.state, sourceRef := row.sourceRef, observedAt := row.observedAt }

theorem LeaseRow.facts_renewed {old : LeaseRow} (same : old.leaseId = row.leaseId) :
    (row.renewed old).facts = row.facts ↔ old.missionId = row.missionId ∧
      toText leaseTypes old.leaseType = toText leaseTypes row.leaseType ∧
        old.resource = row.resource := by
  simp only [LeaseRow.facts, LeaseRow.renewed, LeaseFacts.mk.injEq]
  tauto

theorem upsertLease_eq (rows : List LeaseRow) :
    upsertLease row rows =
      upsertRow (fun old => old.leaseId = row.leaseId) row.renewed row rows :=
  rfl

theorem leaseOf_upsertLease (leaseId : PyStr) :
    (upsertLease row store.leases).find? (fun old => old.leaseId = leaseId) =
      if row.leaseId = leaseId then
        some (((store.leaseOf leaseId).map row.renewed).getD row)
      else store.leaseOf leaseId := by
  rw [upsertLease_eq]
  exact @find?_upsertRow _ _ _ LeaseRow.leaseId row.renewed row (fun _ _ => rfl) leaseId
    store.leases

theorem mem_upsertLease (recorded : Recorded input store after row event)
    (repeats : Repeats store input) {other : LeaseRow}
    (member : other ∈ upsertLease row store.leases) :
    other = row ∨ other ∈ store.leases ∧ other.leaseId ≠ row.leaseId := by
  have facts := recorded.facts
  simp only [LeaseRow.facts, LeaseInput.facts, LeaseFacts.mk.injEq] at facts
  obtain ⟨isId, isMission, isType, isResource, -⟩ := facts
  rw [upsertLease_eq] at member
  rcases @upsertRow_cases _ _ _ LeaseRow.leaseId row.renewed row store.leases with
    ⟨-, same⟩ | ⟨absent, same⟩
  · rw [same] at member
    obtain ⟨old, oldMember, isOther⟩ := mem_updateWhere.mp member
    by_cases isKey : old.leaseId = row.leaseId
    · obtain ⟨sameMission, sameType, sameResource⟩ :=
        repeats old oldMember (isKey.trans isId)
      have typeSame : old.leaseType = row.leaseType :=
        toText_leaseTypes_injective (sameType.trans isType.symm)
      left
      rw [isOther, if_pos (decide_eq_true isKey), LeaseRow.renewed, isKey, typeSame,
        sameMission.trans isMission.symm, sameResource.trans isResource.symm]
    · rw [if_neg (by simpa using isKey)] at isOther
      subst isOther
      exact .inr ⟨oldMember, isKey⟩
  · rw [same] at member
    rcases List.mem_append.mp member with oldMember | isRow
    · exact .inr ⟨oldMember, absent other oldMember⟩
    · exact .inl (List.mem_singleton.mp isRow)

theorem Recorded.not_overlap (recorded : Recorded input store after row event)
    (isHeld : row.state.isHeld = true) {other : LeaseRow} (member : other ∈ store.leases)
    (differs : other.leaseId ≠ row.leaseId) (otherHeld : other.state.isHeld = true)
    (sameRepository : SameRepository store row other) (sameType : row.leaseType = other.leaseType) :
    ¬ Overlap row.leaseType row.resource other.resource := by
  have facts := recorded.facts
  simp only [LeaseRow.facts, LeaseInput.facts, LeaseFacts.mk.injEq] at facts
  obtain ⟨isId, isMission, -, isResource, -⟩ := facts
  obtain ⟨known, isKnown, free⟩ := recorded.free isHeld
  obtain ⟨rowKnown, otherKnown, isRowKnown, isOtherKnown, repository⟩ := sameRepository
  have same : rowKnown = known := by
    rw [isMission, isKnown] at isRowKnown
    exact (Option.some.inj isRowKnown).symm
  have held : (other, known.identity.repository) ∈ heldLeases input.leaseId store := by
    refine List.mem_filterMap.mpr ⟨other, List.mem_filter.mpr ⟨member, ?_⟩, ?_⟩
    · simp [otherHeld, isId ▸ differs]
    · rw [isOtherKnown, Option.map_some, ← repository, same]
  rw [isResource]
  exact not_overlap_of_leaseClash (leaseClash_of_checkHeld free held sameType.symm)

theorem Recorded.exclusive (recorded : Recorded input store after row event)
    (repeats : Repeats store input) (exclusive : Exclusive store) : Exclusive after := by
  rw [recorded.result]
  constructor
  · exact @nodup_upsertRow _ _ _ LeaseRow.leaseId row.renewed row (fun _ _ => rfl) _
      exclusive.distinct
  · intro first firstMember second secondMember differ firstHeld secondHeld sameRepository sameType
    rcases mem_upsertLease recorded repeats firstMember with rfl | ⟨firstOld, firstApart⟩ <;>
      rcases mem_upsertLease recorded repeats secondMember with rfl | ⟨secondOld, secondApart⟩
    · exact absurd rfl differ
    · exact recorded.not_overlap firstHeld secondOld secondApart secondHeld sameRepository sameType
    · obtain ⟨firstKnown, secondKnown, isFirst, isSecond, same⟩ := sameRepository
      intro overlap
      exact recorded.not_overlap secondHeld firstOld firstApart firstHeld
        ⟨secondKnown, firstKnown, isSecond, isFirst, same.symm⟩ sameType.symm
        (sameType ▸ overlap.symm)
    · exact exclusive.apart first firstOld second secondOld differ firstHeld secondHeld
        sameRepository sameType

/-- After a call the journal agrees with the table on the lease of the call if and only if the
call repeats what the table held. -/
theorem Recorded.newest_iff (recorded : Recorded input store after row event)
    (distinct : (store.leases.map LeaseRow.leaseId).Nodup) :
    after.newestLease input.leaseId = (after.leaseOf input.leaseId).map LeaseRow.facts ↔
      Repeats store input := by
  have isId : row.leaseId = input.leaseId := congrArg LeaseFacts.leaseId recorded.facts
  have newest : after.newestLease input.leaseId = some row.facts := by
    rw [recorded.result, newestLease_withEvent recorded.isEvent.lease, recorded.facts]
    exact if_pos rfl
  have found : after.leaseOf input.leaseId =
      some (((store.leaseOf input.leaseId).map row.renewed).getD row) := by
    rw [recorded.result]
    exact (leaseOf_upsertLease input.leaseId).trans (if_pos isId)
  rw [newest, found, Option.map_some, Option.some.injEq]
  have facts := recorded.facts
  simp only [LeaseRow.facts, LeaseInput.facts, LeaseFacts.mk.injEq] at facts
  obtain ⟨-, isMission, isType, isResource, -⟩ := facts
  cases isOld : store.leaseOf input.leaseId with
  | none =>
    simp only [Option.map_none, Option.getD_none, true_iff]
    intro old member same
    exact absurd same (by simpa using List.find?_eq_none.mp isOld old member)
  | some old =>
    have oldId : old.leaseId = input.leaseId := by simpa using List.find?_some isOld
    rw [Option.map_some, Option.getD_some, eq_comm,
      LeaseRow.facts_renewed (oldId.trans isId.symm), isMission, isType, isResource]
    constructor
    · intro same other member otherId
      have isOther := find?_of_nodup_map distinct member
      rw [otherId] at isOther
      rwa [Option.some.inj (isOther.symm.trans isOld)]
    · intro repeats
      exact repeats old (List.mem_of_find?_eq_some isOld) oldId

theorem Recorded.newestAgrees (recorded : Recorded input store after row event)
    (repeats : Repeats store input) (distinct : (store.leases.map LeaseRow.leaseId).Nodup)
    (agrees : NewestAgrees store) : NewestAgrees after := by
  intro leaseId
  have isId : row.leaseId = input.leaseId := congrArg LeaseFacts.leaseId recorded.facts
  by_cases same : input.leaseId = leaseId
  · rw [← same]
    exact (recorded.newest_iff distinct).mpr repeats
  · have other := agrees leaseId
    rw [recorded.result, newestLease_withEvent recorded.isEvent.lease]
    refine (if_neg same).trans (other.trans ?_)
    refine congrArg (Option.map LeaseRow.facts) ?_
    exact ((leaseOf_upsertLease leaseId).trans (if_neg fun isLease => same (isId ▸ isLease))).symm

end Step

/-! ### Runs -/

/-- The calls of `record_lease`, each with the time of the trusted clock. -/
abbrev LeaseCall := LeaseInput × Moment

def callLease (store : StatusStore) (call : LeaseCall) : StatusStore :=
  match recordLease call.1 call.2 store with
  | .ok after => after
  | .error _ => store

def runLeases (calls : List LeaseCall) (store : StatusStore) : StatusStore :=
  calls.foldl callLease store

def EachRepeats : List LeaseCall → StatusStore → Prop
  | [], _ => True
  | call :: calls, store => Repeats store call.1 ∧ EachRepeats calls (callLease store call)

structure NoLeases (store : StatusStore) : Prop where
  leases : store.leases = []
  events : ∀ event ∈ store.events, event.eventType ≠ .leaseState

structure LeasesHold (store : StatusStore) : Prop where
  exclusive : Exclusive store
  newestAgrees : NewestAgrees store

theorem NoLeases.leasesHold {store : StatusStore} (start : NoLeases store) : LeasesHold store := by
  constructor
  · constructor <;> simp [start.leases]
  · intro leaseId
    have untold : store.events.filterMap EventRow.lease = [] := by
      refine List.filterMap_eq_nil_iff.mpr fun event member => ?_
      rw [EventRow.lease]
      split
      · rename_i isLease _
        exact absurd isLease (start.events event member)
      · rfl
    rw [StatusStore.newestLease, untold, StatusStore.leaseOf, start.leases]
    rfl

theorem distinct_callLease {store : StatusStore} (call : LeaseCall)
    (distinct : (store.leases.map LeaseRow.leaseId).Nodup) :
    ((callLease store call).leases.map LeaseRow.leaseId).Nodup := by
  unfold callLease
  split
  · rename_i after isRecorded
    obtain ⟨row, event, recorded⟩ := recorded_of_ok isRecorded
    rw [recorded.result]
    exact @nodup_upsertRow _ _ _ LeaseRow.leaseId row.renewed row (fun _ _ => rfl) _ distinct
  · exact distinct

theorem distinct_runLeases {store : StatusStore} (calls : List LeaseCall)
    (distinct : (store.leases.map LeaseRow.leaseId).Nodup) :
    ((runLeases calls store).leases.map LeaseRow.leaseId).Nodup := by
  induction calls generalizing store with
  | nil => exact distinct
  | cons call calls ih => exact ih (distinct_callLease call distinct)

theorem LeasesHold.callLease {store : StatusStore} (hold : LeasesHold store) {call : LeaseCall}
    (repeats : Repeats store call.1) : LeasesHold (callLease store call) := by
  unfold FleetStatus.callLease
  split
  · rename_i after isRecorded
    obtain ⟨row, event, recorded⟩ := recorded_of_ok isRecorded
    exact ⟨recorded.exclusive repeats hold.exclusive,
      recorded.newestAgrees repeats hold.exclusive.distinct hold.newestAgrees⟩
  · exact hold

theorem LeasesHold.runLeases {store : StatusStore} {calls : List LeaseCall}
    (hold : LeasesHold store) (repeats : EachRepeats calls store) :
    LeasesHold (runLeases calls store) := by
  induction calls generalizing store with
  | nil => exact hold
  | cons call calls ih => exact ih (hold.callLease repeats.1) repeats.2

/-- The held leases exclude each other and the journal agrees with the table in every state of a
run whose calls repeat what the table holds; an accepted call that does not ends that. -/
theorem leasesHold_of_eachRepeats {store : StatusStore} (start : NoLeases store) :
    (∀ calls, EachRepeats calls store → LeasesHold (runLeases calls store)) ∧
      ∀ calls input clock after,
        recordLease input clock (runLeases calls store) = .ok after →
        ¬ Repeats (runLeases calls store) input → ¬ LeasesHold after := by
  refine ⟨fun calls repeats => start.leasesHold.runLeases repeats, ?_⟩
  intro calls input clock after isRecorded changes hold
  obtain ⟨row, event, recorded⟩ := recorded_of_ok isRecorded
  have distinct := distinct_runLeases calls start.leasesHold.exclusive.distinct
  exact changes ((recorded.newest_iff distinct).mp (hold.newestAgrees input.leaseId))

def surveyIdentity : FleetStatusIdentity :=
  ⟨py "d", py "e", py "m", py "p", py "o/r", List.replicate 40 0x61, List.replicate 40 0x62,
    py "b", [], [], py "s"⟩

def surveyClock : Moment :=
  .aware ⟨2026, 1, 2, 3, 4, 5, 0, validDateTime_survey⟩ 0

/-- The branch `r` is released, leased under another identifier, and leased again under the first
one, which now comes with another branch. -/
def surveyLeases : List LeaseCall :=
  let lease := fun leaseId resource state : PyStr =>
    (⟨py "m", leaseId, py "BRANCH", resource, state, py "t"⟩, surveyClock)
  [lease (py "1") (py "r") (py "RELEASED"), lease (py "2") (py "r") (py "ACTIVE"),
    lease (py "1") (py "q") (py "ACTIVE")]

def heldRows (store : StatusStore) : List (PyStr × LeaseType × PyStr × Option PyStr) :=
  (store.leases.filter fun row => row.state.isHeld).map fun row =>
    (row.leaseId, row.leaseType, row.resource,
      (store.identityOf row.missionId).map fun known => known.identity.repository)

theorem exists_survey : ∃ store,
    registerIdentity surveyIdentity surveyClock (emptyStore (py "r")) = .ok store ∧
      NoLeases store ∧ heldRows (runLeases surveyLeases store) =
        [(py "1", .branch, py "r", some (py "o/r")), (py "2", .branch, py "r", some (py "o/r"))] := by
  have checked : ((registerIdentity surveyIdentity surveyClock (emptyStore (py "r"))).toOption.any
      fun store => store.leases.isEmpty &&
        (store.events.all fun event => event.eventType ≠ .leaseState) &&
        heldRows (runLeases surveyLeases store) ==
          [(py "1", .branch, py "r", some (py "o/r")),
            (py "2", .branch, py "r", some (py "o/r"))]) = true := by
    delta runLeases callLease recordLease registerIdentity FleetStatusIdentity.digest appendEvent
      eventDigestOf digestOf digestText
    rw [Sha256.sha256_eq_evalText]
    decide +kernel
  cases registered : registerIdentity surveyIdentity surveyClock (emptyStore (py "r")) with
  | error error => exact absurd checked (by rw [registered]; exact Bool.false_ne_true)
  | ok store =>
    rw [registered, Except.toOption, Option.any_some, Bool.and_eq_true, Bool.and_eq_true] at checked
    obtain ⟨⟨empty, untold⟩, held⟩ := checked
    exact ⟨store, rfl, ⟨List.isEmpty_iff.mp empty, fun event member =>
      of_decide_eq_true (List.all_eq_true.mp untold event member)⟩, eq_of_beq held⟩

/-- Two leases of one branch are held at once. -/
theorem not_leasesHold : ¬ ∀ (store : StatusStore) (calls : List LeaseCall), NoLeases store →
    LeasesHold (runLeases calls store) := by
  intro always
  obtain ⟨store, -, start, rows⟩ := exists_survey
  have hold := always store surveyLeases start
  simp only [heldRows, List.map_eq_cons_iff, List.map_eq_nil_iff, Prod.mk.injEq,
    Option.map_eq_some_iff] at rows
  obtain ⟨first, _, held, ⟨firstId, firstType, firstResource, firstKnown, isFirst, firstPlace⟩,
    second, _, rfl, ⟨secondId, secondType, secondResource, secondKnown, isSecond, secondPlace⟩,
    rfl⟩ := rows
  have members : ∀ row ∈ [first, second],
      row ∈ (runLeases surveyLeases store).leases ∧ row.state.isHeld = true := by
    intro row member
    exact List.mem_filter.mp (held ▸ member)
  obtain ⟨firstMember, firstHeld⟩ := members first (by simp)
  obtain ⟨secondMember, secondHeld⟩ := members second (by simp)
  have differ : first ≠ second := by
    rintro rfl
    exact absurd (firstId.symm.trans secondId) (by decide)
  exact hold.exclusive.apart first firstMember second secondMember differ firstHeld secondHeld
    ⟨firstKnown, secondKnown, isFirst, isSecond, firstPlace.trans secondPlace.symm⟩
    (firstType.trans secondType.symm) (.inl (firstResource.trans secondResource.symm))

/-- The statement about the runs of the survey. -/
theorem leasesHold_of_eachRepeats_survey : ∃ store, NoLeases store ∧
    ((∀ calls, EachRepeats calls store → LeasesHold (runLeases calls store)) ∧
      ∀ calls input clock after,
        recordLease input clock (runLeases calls store) = .ok after →
        ¬ Repeats (runLeases calls store) input → ¬ LeasesHold after) := by
  obtain ⟨store, -, start, -⟩ := exists_survey
  exact ⟨store, start, leasesHold_of_eachRepeats start⟩

end FleetStatus

end CyberLion
