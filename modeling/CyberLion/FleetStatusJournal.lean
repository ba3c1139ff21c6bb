import CyberLion.FleetCoordinationRecords
import CyberLion.FleetStatusState

/-!
# The event journal of the fleet status

The rows that an upsert leaves, what an operation appends to the journal, the chain that the
verifier walks, and the payload of an event as the journal gives it back.
-/

namespace CyberLion

namespace FleetStatus

open PyLib Json
open FleetCoordination (canonicalJson canonicalJson_eq_ok textFieldOf textFieldOf_sorted optionalText
  zeroDigest)

/-! ### Upserts -/

section Upserts

variable {Row Key : Type} [DecidableEq Key] (key : Row → Key) {change : Row → Row} {row : Row}

theorem upsertRow_cases (rows : List Row) :
    (∃ old ∈ rows, key old = key row) ∧
        upsertRow (fun old => key old = key row) change row rows =
          updateWhere (fun old => key old = key row) change rows ∨
      (∀ old ∈ rows, key old ≠ key row) ∧
        upsertRow (fun old => key old = key row) change row rows = rows ++ [row] := by
  unfold upsertRow
  split
  · rename_i present
    obtain ⟨old, member, same⟩ := List.any_eq_true.mp present
    exact .inl ⟨⟨old, member, of_decide_eq_true same⟩, rfl⟩
  · rename_i absent
    refine .inr ⟨fun old member same => absent ?_, rfl⟩
    exact List.any_eq_true.mpr ⟨old, member, decide_eq_true same⟩

variable (kept : ∀ old, key old = key row → key (change old) = key old)
include kept

theorem find?_upsertRow (wanted : Key) (rows : List Row) :
    (upsertRow (fun old => key old = key row) change row rows).find? (fun old => key old = wanted) =
      if key row = wanted then
        some (((rows.find? fun old => key old = wanted).map change).getD row)
      else rows.find? fun old => key old = wanted := by
  have updated : (updateWhere (fun old => key old = key row) change rows).find?
      (fun old => key old = wanted) = (rows.find? fun old => key old = wanted).map fun old =>
        if key old = key row then change old else old := by
    rw [updateWhere, List.find?_map]
    congr 2
    · funext old
      simp
    · funext old
      by_cases same : key old = key row
      · simp [same, kept old same]
      · simp [same]
  rcases @upsertRow_cases _ _ _ key change row rows with
    ⟨⟨old, member, isKey⟩, same⟩ | ⟨absent, same⟩
  · rw [same, updated]
    cases found : rows.find? fun other => key other = wanted with
    | none =>
      have differ : key row ≠ wanted := by
        have absent := List.find?_eq_none.mp found old member
        simpa [isKey] using absent
      rw [if_neg differ]
      rfl
    | some other =>
      have isOther : key other = wanted := by simpa using List.find?_some found
      rw [Option.map_some, isOther]
      by_cases isRow : key row = wanted
      · rw [if_pos isRow, if_pos isRow.symm]
        rfl
      · rw [if_neg isRow, if_neg fun back => isRow back.symm]
  · rw [same, List.find?_append]
    by_cases isRow : key row = wanted
    · have absentKey : rows.find? (fun old => key old = wanted) = none := by
        simpa [isRow] using absent
      rw [absentKey, if_pos isRow]
      simp [isRow]
    · simp [isRow]

theorem nodup_upsertRow {rows : List Row} (distinct : (rows.map key).Nodup) :
    ((upsertRow (fun old => key old = key row) change row rows).map key).Nodup := by
  rcases @upsertRow_cases _ _ _ key change row rows with ⟨-, same⟩ | ⟨absent, same⟩
  · rw [same, map_updateWhere key fun old selected => kept old (of_decide_eq_true selected)]
    exact distinct
  · rw [same, List.map_append, List.map_singleton, List.nodup_append]
    refine ⟨distinct, List.nodup_singleton _, ?_⟩
    rintro _ member _ isKey rfl
    obtain ⟨old, oldMember, isOld⟩ := List.mem_map.mp member
    exact absent old oldMember (isOld.trans (List.mem_singleton.mp isKey))

end Upserts

theorem identityOf_of_knownMission {missionId message : PyStr} {store : StatusStore}
    {known : IdentityRow} (isKnown : knownMission missionId message store = .ok known) :
    store.identityOf missionId = some known := by
  simp only [knownMission, bind_eq_ok] at isKnown
  obtain ⟨_, -, found⟩ := isKnown
  split at found
  · rename_i row isRow
    rw [isRow, Except.ok.inj found]
  · exact absurd found (by simp)

/-! ### Appended events -/

def StatusStore.withEvent (store : StatusStore) (event : EventRow) : StatusStore :=
  { store with
    events := store.events ++ [event]
    eventHead := event.eventDigest
    revision := store.revision + 1 }

section Appended

variable {kind : EventType} {mission : Option PyStr} {fields : List (PyStr × Json)}
  {time : PyStr} {store after : StatusStore} {event : EventRow}

structure IsEvent (kind : EventType) (mission : Option PyStr) (fields : List (PyStr × Json))
    (time : PyStr) (store : StatusStore) (event : EventRow) : Prop where
  eventType : event.eventType = kind
  missionId : event.missionId = mission
  observedAt : event.observedAt = time
  previous : event.previousDigest = store.eventHead
  digest : eventDigestOf store.eventHead kind mission (.obj fields) time = .ok event.eventDigest
  payload : ∃ bytes, canonicalJson (.obj fields) = .ok bytes ∧ event.payloadJson = bytes.text
  identifier : digestText (event.eventDigest ++ kind.text) = .ok event.eventId
  fresh : ∀ other ∈ store.events,
    other.eventId ≠ event.eventId ∧ other.eventDigest ≠ event.eventDigest

theorem appendEvent_eq_ok :
    appendEvent kind mission (.obj fields) time store = .ok after ↔
      ∃ event, IsEvent kind mission fields time store event ∧ after = store.withEvent event := by
  simp only [appendEvent, bind_eq_ok, pure_eq_ok, insertRow_eq_ok]
  constructor
  · rintro ⟨digest, digested, identifier, identified, bytes, written, _, ⟨fresh, rfl⟩, rfl⟩
    refine ⟨⟨identifier, kind, mission, bytes.text, store.eventHead, digest, time⟩,
      ⟨rfl, rfl, rfl, rfl, digested, ⟨bytes, written, rfl⟩, identified, ?_⟩, rfl⟩
    intro other member
    simpa using fresh other member
  · rintro ⟨⟨identifier, _, _, _, _, digest, _⟩, isEvent, rfl⟩
    obtain ⟨rfl, rfl, rfl, rfl, digested, ⟨bytes, written, rfl⟩, identified, fresh⟩ := isEvent
    refine ⟨digest, digested, identifier, identified, bytes, written, _, ⟨?_, rfl⟩, rfl⟩
    intro other member
    simpa using fresh other member

theorem IsEvent.loads_payload (isEvent : IsEvent kind mission fields time store event)
    (plain : Json.Plain (.obj fields)) :
    loads plainHooks event.payloadJson = .ok (.obj (sortFields (sortMembers fields))) := by
  obtain ⟨bytes, written, text⟩ := isEvent.payload
  rw [text, plain.loads_dumps (canonicalJson_eq_ok.mp written), sortKeys]

theorem eventDigestOf_sorted (previous : PyStr) :
    eventDigestOf previous kind mission (.obj (sortFields (sortMembers fields))) time =
      eventDigestOf previous kind mission (.obj fields) time := by
  have sorted : Json.obj (sortFields (sortMembers fields)) = (Json.obj fields).sortKeys := by
    rw [sortKeys]
  have sameText : ∀ value : Json, dumps false true (.obj [(py "previous_digest", .str previous),
      (py "event_type", .str kind.text), (py "mission_id", optionalText mission),
      (py "payload", value.sortKeys), (py "observed_at", .str time)]) =
      dumps false true (.obj [(py "previous_digest", .str previous),
      (py "event_type", .str kind.text), (py "mission_id", optionalText mission),
      (py "payload", value), (py "observed_at", .str time)]) := by
    intro value
    simp only [dumps, isPrintable, membersPrintable, isPrintable_sortKeys, sortKeys, sortMembers,
      sortKeys_sortKeys, if_true]
  rw [eventDigestOf, eventDigestOf, digestOf, digestOf, canonicalJson, canonicalJson, sorted,
    sameText]

/-! ### The chain -/

def Chained (store : StatusStore) : Prop :=
  store.events.foldlM verifyEvent zeroDigest = .ok store.eventHead

theorem Chained.verifyEventChain_eq_ok (chained : Chained store) :
    verifyEventChain store = .ok store.eventHead := by
  rw [verifyEventChain, chained, ok_bind, raiseIf, if_neg (not_not.mpr rfl)]
  rfl

theorem Chained.withEvent (chained : Chained store)
    (isEvent : IsEvent kind mission fields time store event) (plain : Json.Plain (.obj fields)) :
    Chained (store.withEvent event) := by
  have digest : eventDigestOf store.eventHead event.eventType event.missionId
      (.obj (sortFields (sortMembers fields))) event.observedAt = .ok event.eventDigest := by
    rw [eventDigestOf_sorted, isEvent.eventType, isEvent.missionId, isEvent.observedAt]
    exact isEvent.digest
  have accepted : verifyEvent store.eventHead event = .ok event.eventDigest := by
    have linked : ¬ (event.previousDigest ≠ store.eventHead ∨
        event.eventDigest ≠ event.eventDigest) := by
      simp [isEvent.previous]
    rw [verifyEvent, isEvent.loads_payload plain, ok_bind, digest, ok_bind, raiseIf,
      if_neg linked]
    rfl
  change (store.events ++ [event]).foldlM verifyEvent zeroDigest = .ok event.eventDigest
  rw [List.foldlM_append, chained, ok_bind, List.foldlM_cons, accepted, ok_bind]
  rfl

end Appended

end FleetStatus

end CyberLion
