import CyberLion.AgentRegistry
import CyberLion.JsonAlike

/-!
# The log and the events of the agent registry

What an operation leaves behind: its event continues the chain, and its entry in the log gives
its result again.
-/

namespace CyberLion

namespace AgentRegistry

open PyLib Json
open FleetCoordination (canonicalJson canonicalJson_eq_ok textList optionalText zeroDigest
  textFieldOf intFieldOf textsFieldOf textFieldOf_sorted intFieldOf_sorted textsFieldOf_sorted
  plain_textList sortKeys_textList isEncodable_of_mem_str isEncodable_of_mem_textList
  isClean_isoformatUtc)

/-! ### Checks -/

@[simp]
theorem text_eq_ok {name value : PyStr} {u : Unit} :
    text name value = .ok u ↔ isBlank value = false ∧ hasNul value = false := by
  rw [text, raiseIf_eq_ok]
  simp

@[simp]
theorem digest_sha256 (name : PyStr) (bytes : Utf8Bytes) : digest name (sha256 bytes) = .ok () := by
  have hex := isLowerHexOf_sha256 bytes
  have solid := (solid_of_isLowerHexOf hex).2
  rw [digest, (text_eq_ok (u := ())).mpr solid, ok_bind]
  simp [hex]

theorem digestOf_eq_ok {value : Json} {digested : PyStr} :
    digestOf value = .ok digested ↔
      ∃ bytes, canonicalJson value = .ok bytes ∧ sha256 bytes = digested := by
  simp [digestOf]

theorem now_eq_ok {clock : Moment} {observedAt : PyStr} (read : now clock = .ok observedAt) :
    ∃ time : DateTime, observedAt = time.isoformatUtc := by
  cases clock with
  | naive time => exact nomatch read
  | aware time offset =>
    simp only [now, bind_eq_ok, pure_eq_ok] at read
    obtain ⟨utcTime, -, rfl⟩ := read
    exact ⟨utcTime, rfl⟩

theorem isSolid_of_isEncodable {value : PyStr} (encodable : isEncodable value = true) :
    IsSolid value :=
  isSolid_of_hasNoSurrogatePair (hasNoSurrogatePair_of_isEncodable encodable)

/-! ### What a commit leaves -/

section Commit

variable {db after : Database} {eventType : EventType} {agentId : PyStr}
  {instanceId : Option PyStr} {payload result : Json}
  {operationId operationDigest observedAt : PyStr} {event : EventRow} {operation : OperationRow}

structure Committed (db after : Database) (eventType : EventType) (agentId : PyStr)
    (instanceId : Option PyStr) (payload : Json) (operationId operationDigest : PyStr)
    (result : Json) (observedAt : PyStr) (event : EventRow) (operation : OperationRow) : Prop where
  ofType : event.eventType = eventType
  ofAgent : event.agentId = agentId
  ofInstance : event.instanceId = instanceId
  atTime : event.observedAt = observedAt
  previous : event.previousDigest = db.eventHead
  named : event.eventId = event.eventDigest
  digested : eventDigestOf db.eventHead eventType agentId instanceId payload observedAt =
    .ok event.eventDigest
  written : ∃ bytes, canonicalJson payload = .ok bytes ∧ event.payloadJson = bytes.text
  ofOperation : operation.operationId = operationId
  ofDigest : operation.operationDigest = operationDigest
  saved : ∃ bytes, dumps true true result = .ok bytes.text ∧ operation.resultJson = bytes.text ∧
    operation.resultDigest = sha256 bytes
  unknown : ∀ row ∈ db.operations, row.operationId ≠ operationId
  tables : after = { db with
    revision := db.revision + 1, eventHead := event.eventDigest,
    operations := db.operations ++ [operation], events := db.events ++ [event] }

theorem commit_cases
    (returned : commit eventType agentId instanceId payload operationId operationDigest result
      observedAt db = .ok after) :
    ∃ event operation, Committed db after eventType agentId instanceId payload operationId
      operationDigest result observedAt event operation := by
  simp only [commit, append, save, bind_eq_ok, pure_eq_ok, insertRow_eq_ok, encodeUtf8_eq_ok]
    at returned
  obtain ⟨_, ⟨eventDigest, digested, payloadBytes, payloadWritten, events, ⟨-, rfl⟩, rfl⟩, raw,
    written, bytes, rfl, operations, ⟨unknown, rfl⟩, rfl⟩ := returned
  refine ⟨⟨eventDigest, eventType, agentId, instanceId, payloadBytes.text, db.eventHead,
    eventDigest, observedAt⟩, ⟨operationId, operationDigest, bytes.text, sha256 bytes, observedAt⟩,
    rfl, rfl, rfl, rfl, rfl, rfl, digested, ⟨payloadBytes, payloadWritten, rfl⟩, rfl, rfl,
    ⟨bytes, written, rfl, rfl⟩, ?_, rfl⟩
  exact fun row member => of_decide_eq_false (unknown row member)

/-! ### The chain -/

def Chained (db : Database) : Prop :=
  db.events.foldlM verifyEvent zeroDigest = .ok db.eventHead

theorem eventDigestOf_sortKeys (previous : PyStr) (eventType : EventType) (agentId : PyStr)
    (instanceId : Option PyStr) (payload : Json) (observedAt : PyStr) :
    eventDigestOf previous eventType agentId instanceId payload.sortKeys observedAt =
      eventDigestOf previous eventType agentId instanceId payload observedAt := by
  simp only [eventDigestOf, digestOf, canonicalJson, dumps, isPrintable, membersPrintable,
    isPrintable_sortKeys, sortKeys, sortMembers, sortKeys_sortKeys, if_true]

theorem Committed.chained
    (committed : Committed db after eventType agentId instanceId payload operationId
      operationDigest result observedAt event operation)
    (plain : Json.Plain payload) (chained : Chained db) : Chained after := by
  obtain ⟨bytes, written, stored⟩ := committed.written
  have read : loads plainHooks event.payloadJson = .ok payload.sortKeys := by
    rw [stored]
    exact plain.loads_dumps (canonicalJson_eq_ok.mp written)
  have accepted : verifyEvent db.eventHead event = .ok event.eventDigest := by
    rw [verifyEvent, read]
    simp only [rethrow, ok_bind, committed.ofType, committed.ofAgent, committed.ofInstance,
      committed.atTime, eventDigestOf_sortKeys, committed.digested, committed.previous,
      committed.named, ne_eq, not_true_eq_false, or_self, raiseIf, if_false]
    rfl
  rw [Chained, committed.tables]
  dsimp only
  rw [List.foldlM_append, chained, ok_bind, List.foldlM_cons, accepted, ok_bind]
  rfl

end Commit

theorem digest_eventHead {db : Database} (chained : Chained db) :
    digest (py "event_head") db.eventHead = .ok () := by
  rcases List.eq_nil_or_concat db.events with none | ⟨front, last, split⟩
  · rw [Chained, none, List.foldlM_nil, pure_eq_ok] at chained
    rw [← chained]
    decide +kernel
  · rw [Chained, split, List.concat_eq_append, List.foldlM_append] at chained
    simp only [bind_eq_ok, List.foldlM_cons, List.foldlM_nil, pure_eq_ok, verifyEvent,
      eventDigestOf, digestOf_eq_ok] at chained
    obtain ⟨_, -, _, ⟨_, -, _, ⟨bytes, -, rfl⟩, _, -, rfl⟩, isHead⟩ := chained
    rw [← isHead]
    exact digest_sha256 _ bytes

/-! ### Results are read back -/

theorem decoded_textList {values : List PyStr}
    (encodable : ∀ value ∈ values, isEncodable value = true) :
    decoded true (textList values) = textList values := by
  rw [textList, decoded, decodedItems_map_str]
  congr 1
  apply List.map_congr_left
  intro value member
  rw [isSolid_of_isEncodable (encodable value member)]

inductive Fieldlike : Json → Prop
  | text {value : PyStr} (encodable : isEncodable value = true) : Fieldlike (.str value)
  | count (value : Int) : Fieldlike (.int value)
  | texts {values : List PyStr} (encodable : ∀ value ∈ values, isEncodable value = true) :
      Fieldlike (textList values)

theorem Fieldlike.keyed {value : Json} (fieldlike : Fieldlike value) : Keyed value := by
  cases fieldlike with
  | text encodable => exact .str _
  | count value => exact .int value
  | texts encodable =>
    apply Keyed.arr
    intro item member
    obtain ⟨value, -, rfl⟩ := List.mem_map.mp member
    exact .str value

theorem Fieldlike.decoded {value : Json} (fieldlike : Fieldlike value) :
    decoded true value = value := by
  cases fieldlike with
  | text encodable => rw [Json.decoded, isSolid_of_isEncodable encodable]
  | count value => rw [Json.decoded]
  | texts encodable => exact decoded_textList encodable

theorem loads_saved {fields : List (PyStr × Json)} {raw : PyStr}
    (distinct : (fields.map Prod.fst).Nodup) (solid : ∀ field ∈ fields, IsSolid field.1)
    (all : ∀ field ∈ fields, Fieldlike field.2)
    (written : dumps true true (.obj fields) = .ok raw) :
    loads plainHooks raw = .ok (.obj (sortFields (sortMembers fields))) := by
  have keyed : Keyed (.obj fields) :=
    .obj distinct solid fun field member => (all field member).keyed
  have kept : decoded true (.obj fields) = .obj fields := by
    rw [decoded, decodedFields_eq_map solid]
    congr 1
    rw [List.map_congr_left (g := id) fun field member => ?_, List.map_id]
    rw [(all field member).decoded, id]
  rw [keyed.loads_dumps kept written, sortKeys]

theorem isTrue_sorted {fields : List (PyStr × Json)} (nonempty : fields ≠ []) :
    (Json.obj (sortFields (sortMembers fields))).isTrue = true := by
  have length := (sortFields_perm (sortMembers fields)).length_eq
  rw [sortMembers_eq_map, List.length_map] at length
  rw [Json.isTrue, Bool.not_eq_true', List.isEmpty_eq_false_iff, ← List.length_pos_iff,
    sortMembers_eq_map, length]
  exact List.length_pos_iff.mpr nonempty

theorem AgentSpecKey.replay_sorted {key : AgentSpecKey} (valid : key.validate = .ok ()) :
    AgentSpecKey.replay (.obj (sortFields (sortMembers key.fields))) = .ok key := by
  have distinct : (key.fields.map Prod.fst).Nodup := by
    simp only [AgentSpecKey.fields, List.map_cons, List.map_nil]
    decide +kernel
  rw [AgentSpecKey.replay,
    textFieldOf_sorted distinct (py "agent_id") key.agentId (by simp [AgentSpecKey.fields]),
    textFieldOf_sorted distinct (py "version") key.version (by simp [AgentSpecKey.fields]),
    textFieldOf_sorted distinct (py "spec_digest") key.specDigest (by simp [AgentSpecKey.fields])]
  simp only [ok_bind, valid]
  rfl

theorem AgentInstance.isTuple_of_validate {value : AgentInstance}
    (valid : value.validate = .ok ()) :
    value.evidenceRefs.isTuple = true := by
  simp only [AgentInstance.validate, bind_eq_ok, strings, raiseIf_eq_ok] at valid
  obtain ⟨_, -, _, -, _, -, _, -, _, -, _, -, _, given, -⟩ := valid
  simpa using fun noTuple => given (.inl noTuple)

theorem lifecycle_text (state : InstanceState) (generation : Nat) :
    lifecycle state.text generation = .ok (state, generation) := by
  have found : InstanceState.find InstanceState.all state.text = some state := by
    cases state <;> decide +kernel
  unfold lifecycle
  rw [found]

theorem AgentInstance.replay_sorted {value : AgentInstance} (valid : value.validate = .ok ()) :
    AgentInstance.replay (.obj (sortFields (sortMembers value.fields))) = .ok value := by
  have distinct : (value.fields.map Prod.fst).Nodup := by
    simp only [AgentInstance.fields, List.map_cons, List.map_nil]
    decide +kernel
  have member : ∀ field ∈ value.fields, field ∈ value.fields := fun _ => id
  simp only [AgentInstance.fields, List.forall_mem_cons] at member
  obtain ⟨instanceId, agentId, specVersion, specDigest, state, generation, createdAt, updatedAt,
    refs, -⟩ := member
  have tuple := AgentInstance.isTuple_of_validate valid
  rw [AgentInstance.replay, textsFieldOf_sorted distinct _ _ refs,
    textFieldOf_sorted distinct _ _ instanceId, textFieldOf_sorted distinct _ _ agentId,
    textFieldOf_sorted distinct _ _ specVersion, textFieldOf_sorted distinct _ _ specDigest,
    textFieldOf_sorted distinct _ _ state, intFieldOf_sorted distinct _ _ generation,
    textFieldOf_sorted distinct _ _ createdAt, textFieldOf_sorted distinct _ _ updatedAt]
  simp only [ok_bind, lifecycle_text]
  rw [← tuple, valid]
  rfl

/-! ### The log -/

theorem OperationRow.result_eq_ok {operationDigest : PyStr} {row : OperationRow} {value : Json} :
    row.result operationDigest = .ok value ↔ row.operationDigest = operationDigest ∧
      (∃ bytes, encodeUtf8 row.resultJson = .ok bytes ∧ sha256 bytes = row.resultDigest) ∧
      loads plainHooks row.resultJson = .ok value := by
  simp only [OperationRow.result, bind_eq_ok, raiseIf_eq_ok, not_or, not_not, ne_eq]
  constructor
  · rintro ⟨bytes, encoded, _, ⟨same, digested⟩, loaded⟩
    exact ⟨same, ⟨bytes, encoded, digested⟩, loaded⟩
  · rintro ⟨same, ⟨bytes, encoded, digested⟩, loaded⟩
    exact ⟨bytes, encoded, (), ⟨same, digested⟩, loaded⟩

section Log

variable {α : Type} {db after : Database} {operationId : PyStr} {payload : Json}
  {replay : Json → Except PyError α} {work : PyStr → Except PyError (Database × α)} {result : α}

structure Saved (db : Database) (operationId : PyStr) (payload : Json)
    (replay : Json → Except PyError α) (result : α) : Prop where
  bound : bindText operationId = .ok ()
  logged : ∃ row ∈ db.operations, row.operationId = operationId ∧ ∃ operationDigest value,
    digestOf payload = .ok operationDigest ∧ row.result operationDigest = .ok value ∧
      value.isTrue = true ∧ replay value = .ok result

theorem Saved.mono (saved : Saved db operationId payload replay result)
    (extended : db.operations <+: after.operations) :
    Saved after operationId payload replay result := by
  obtain ⟨row, member, logged⟩ := saved.logged
  exact ⟨saved.bound, row, extended.subset member, logged⟩

theorem operate_of_saved (unique : (db.operations.map OperationRow.operationId).Nodup)
    (saved : Saved db operationId payload replay result) :
    operate operationId payload replay work db = .ok (db, result) := by
  obtain ⟨row, member, rfl, operationDigest, value, digested, loaded, isTrue, replayed⟩ :=
    saved.logged
  rw [operate, cached, digested, ok_bind, saved.bound, ok_bind, find?_of_nodup_map unique member]
  simp only [loaded, ok_bind, pure_bind]
  rw [if_pos isTrue, replayed]
  rfl

theorem operate_cases
    (returned : operate operationId payload replay work db = .ok (after, result)) :
    (after = db ∧ Saved db operationId payload replay result) ∨
      ∃ operationDigest, bindText operationId = .ok () ∧
        digestOf payload = .ok operationDigest ∧ work operationDigest = .ok (after, result) := by
  simp only [operate, cached, bind_eq_ok, Prod.exists] at returned
  obtain ⟨operationDigest, value, ⟨_, digested, _, bound, found⟩, answered⟩ := returned
  split at found
  · obtain ⟨rfl, rfl⟩ := Prod.mk.inj (pure_eq_ok.mp found)
    rw [if_neg (by simp [Json.isTrue])] at answered
    exact .inr ⟨_, bound, digested, answered⟩
  · rename_i row isRow
    simp only [bind_eq_ok, pure_eq_ok, Prod.mk.injEq] at found
    obtain ⟨_, loaded, rfl, rfl⟩ := found
    split at answered
    · rename_i isTrue
      simp only [bind_eq_ok, pure_eq_ok, Prod.mk.injEq] at answered
      obtain ⟨_, replayed, rfl, rfl⟩ := answered
      have named : row.operationId = operationId := by simpa using List.find?_some isRow
      exact .inl ⟨rfl, bound, row, List.mem_of_find?_eq_some isRow, named, _, _, digested, loaded,
        isTrue, replayed⟩
    · exact .inr ⟨_, bound, digested, answered⟩

theorem digest_of_saved {β : Type} {other : Json} {otherReplay : Json → Except PyError β}
    {otherWork : PyStr → Except PyError (Database × β)} {reply : Database × β}
    (unique : (db.operations.map OperationRow.operationId).Nodup)
    (saved : Saved db operationId payload replay result)
    (returned : operate operationId other otherReplay otherWork db = .ok reply) :
    ∃ operationDigest, digestOf payload = .ok operationDigest ∧
      digestOf other = .ok operationDigest := by
  obtain ⟨row, member, rfl, operationDigest, value, digested, loaded, -⟩ := saved.logged
  simp only [operate, cached, bind_eq_ok, find?_of_nodup_map unique member] at returned
  obtain ⟨_, ⟨otherDigest, otherDigested, _, -, _, otherLoaded, -⟩, -⟩ := returned
  rw [OperationRow.result_eq_ok] at loaded otherLoaded
  rw [← loaded.1, otherLoaded.1] at digested
  exact ⟨_, digested, otherDigested⟩

theorem Committed.isSaved {eventType : EventType} {agentId : PyStr} {instanceId : Option PyStr}
    {fields : List (PyStr × Json)} {operationDigest observedAt : PyStr} {event : EventRow}
    {operation : OperationRow}
    (committed : Committed db after eventType agentId instanceId payload operationId
      operationDigest (.obj fields) observedAt event operation)
    (bound : bindText operationId = .ok ()) (digested : digestOf payload = .ok operationDigest)
    (nonempty : fields ≠ []) (distinct : (fields.map Prod.fst).Nodup)
    (solid : ∀ field ∈ fields, IsSolid field.1) (all : ∀ field ∈ fields, Fieldlike field.2)
    (replayed : replay (.obj (sortFields (sortMembers fields))) = .ok result) :
    Saved after operationId payload replay result := by
  obtain ⟨bytes, written, stored, resultDigest⟩ := committed.saved
  refine ⟨bound, operation, by simp [committed.tables], committed.ofOperation, operationDigest, _,
    digested, ?_, isTrue_sorted nonempty, replayed⟩
  rw [OperationRow.result_eq_ok, stored]
  exact ⟨committed.ofDigest, ⟨bytes, encodeUtf8_eq_ok.mpr rfl, resultDigest.symm⟩,
    loads_saved distinct solid all written⟩

end Log

end AgentRegistry

end CyberLion
