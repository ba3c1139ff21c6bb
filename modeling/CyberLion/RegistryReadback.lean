import CyberLion.AgentRegistryRuns
import CyberLion.RegistryProjection

/-!
# Reading back the registry

The text of a registered specification is read back as the specification, a projection of
registered specifications is written whatever is left out, and every specification that is
planned with is read as it was registered.
-/

namespace CyberLion

open PyLib Json
open FleetCoordination (canonicalJson canonicalJson_eq_ok iterate textList optionalText textOf
  sortKeys_textList iterate_textList mapM_textOf)

/-! ### Values that are written -/

/-- Whether `canonical_json` writes a value. -/
def isWritten (value : Json) : Bool :=
  value.isPrintable && isEncodable (render false value.sortKeys)

theorem isWritten_iff {value : Json} :
    isWritten value = true ↔ ∃ bytes, canonicalJson value = .ok bytes := by
  simp only [isWritten, Bool.and_eq_true, canonicalJson_eq_ok, dumps_eq_ok, if_true]
  constructor
  · rintro ⟨printable, encodable⟩
    exact ⟨⟨_, encodable⟩, printable, rfl⟩
  · rintro ⟨bytes, printable, same⟩
    exact ⟨printable, same ▸ bytes.encodable⟩

theorem isEncodable_iff {text : PyStr} :
    isEncodable text = true ↔ ∀ c ∈ text, c.isSurrogate = false := by
  simp [isEncodable]

theorem isWritten_arr_iff {items : List Json} :
    isWritten (.arr items) = true ↔ ∀ item ∈ items, isWritten item = true := by
  have encodable : isEncodable (render false (.arr (sortItems items))) = true ↔
      ∀ item ∈ items, isEncodable (render false item.sortKeys) = true := by
    rw [sortItems_eq_map]
    constructor
    · intro all item member
      rw [isEncodable_iff] at all ⊢
      exact fun c written => all c (mem_render_arr (List.mem_map_of_mem member) written)
    · intro all
      exact isEncodable_render_arr fun item member => by
        obtain ⟨original, isOriginal, rfl⟩ := List.mem_map.mp member
        exact all original isOriginal
  simp only [isWritten, Json.isPrintable, sortKeys, Bool.and_eq_true, encodable,
    arePrintable_eq_all, List.all_eq_true]
  exact ⟨fun both item member => ⟨both.1 item member, both.2 item member⟩,
    fun all => ⟨fun item member => (all item member).1, fun item member => (all item member).2⟩⟩

theorem isWritten_obj_iff {fields : List (PyStr × Json)} :
    isWritten (.obj fields) = true ↔
      ∀ field ∈ fields, isEncodable field.1 = true ∧ isWritten field.2 = true := by
  have encodable : isEncodable (render false (.obj (sortFields (sortMembers fields)))) = true ↔
      ∀ field ∈ fields, isEncodable field.1 = true ∧
        isEncodable (render false field.2.sortKeys) = true := by
    have mem_sorted : ∀ field : PyStr × Json, field ∈ sortFields (sortMembers fields) ↔
        ∃ original ∈ fields, (original.1, original.2.sortKeys) = field := by
      intro field
      rw [(sortFields_perm _).mem_iff, sortMembers_eq_map, List.mem_map]
    constructor
    · intro all field member
      have sorted := (mem_sorted _).mpr ⟨field, member, rfl⟩
      rw [isEncodable_iff] at all
      refine ⟨isEncodable_of_clean_renderText fun c written => all c ?_, ?_⟩
      · exact mem_render_key sorted written
      · rw [isEncodable_iff]
        exact fun c written => all c (mem_render_obj sorted written)
    · intro all
      refine isEncodable_render_obj (fun field member => ?_) fun field member => ?_
      all_goals
        obtain ⟨original, isOriginal, rfl⟩ := (mem_sorted field).mp member
      · exact (all original isOriginal).1
      · exact (all original isOriginal).2
  simp only [isWritten, Json.isPrintable, sortKeys, Bool.and_eq_true, encodable,
    membersPrintable_eq_all, List.all_eq_true]
  exact ⟨fun both field member =>
      ⟨(both.2 field member).1, both.1 field member, (both.2 field member).2⟩,
    fun all => ⟨fun field member => (all field member).2.1,
      fun field member => ⟨(all field member).1, (all field member).2.2⟩⟩⟩

namespace AgentRegistry

/-! ### Reading a specification -/

def RegisteredSpec.Typed (spec : RegisteredSpec) : Prop :=
  spec.cost.number = some spec.agent.maxCostUnits

/-- The members of `_spec_dict`. -/
def RegisteredSpec.fields (spec : RegisteredSpec) : List (PyStr × Json) :=
  match spec.dict with
  | .obj fields => fields
  | _ => []

theorem RegisteredSpec.dict_eq (spec : RegisteredSpec) : spec.dict = .obj spec.fields :=
  rfl

theorem RegisteredSpec.names_fields (spec : RegisteredSpec) :
    spec.fields.map Prod.fst = specNames :=
  rfl

theorem nodup_specNames : specNames.Nodup := by
  decide +kernel

/-- An object with the members of a specification, in some order. -/
structure Reads (fields : List (PyStr × Json)) (spec : RegisteredSpec) : Prop where
  named : ∀ field ∈ fields, field.1 ∈ specNames
  member : ∀ name value, (name, value) ∈ spec.fields → fields.lookup name = some value

theorem reads_fields (spec : RegisteredSpec) : Reads spec.fields spec where
  named _ member := spec.names_fields ▸ List.mem_map_of_mem member
  member _ _ := lookup_of_mem (spec.names_fields.symm ▸ nodup_specNames)

section Reads

variable {fields : List (PyStr × Json)} {spec : RegisteredSpec}

theorem Reads.memberOr (reads : Reads fields spec) (default : Json) (name : PyStr) {value : Json}
    (found : spec.fields.lookup name = some value) : memberOr default name fields = value := by
  rw [AgentRegistry.memberOr, reads.member name value (mem_of_lookup found), Option.getD_some]

theorem Reads.requiredText (reads : Reads fields spec) (name : PyStr) {value : PyStr}
    (found : spec.fields.lookup name = some (.str value)) :
    requiredText name fields = .ok value := by
  rw [AgentRegistry.requiredText, reads.member name _ (mem_of_lookup found)]
  rfl

theorem Reads.tupleField (reads : Reads fields spec) (name : PyStr) {values : List PyStr}
    (found : spec.fields.lookup name = some (textList values)) :
    tupleField name fields = .ok (values.map Json.str) := by
  rw [AgentRegistry.tupleField, reads.memberOr _ name found, iterate_textList]

theorem Reads.tuples (reads : Reads fields spec) :
    SpecTuples.read fields = .ok ⟨spec.agent.capabilities.map Json.str,
      spec.agent.observabilityEvents.map Json.str, spec.agent.memoryPolicyIds.map Json.str⟩ := by
  rw [SpecTuples.read, reads.tupleField (py "capabilities") rfl, ok_bind,
    reads.tupleField (py "observability_events") rfl, ok_bind,
    reads.tupleField (py "memory_policy_ids") rfl, ok_bind]
  rfl

theorem Reads.buildSpec (reads : Reads fields spec) (typed : spec.Typed) :
    buildSpec fields ⟨spec.agent.capabilities.map Json.str,
      spec.agent.observabilityEvents.map Json.str, spec.agent.memoryPolicyIds.map Json.str⟩ =
        .ok spec := by
  have named : ¬ ∃ field ∈ fields, field.1 ∉ specNames := by
    rintro ⟨field, member, unknown⟩
    exact unknown (reads.named field member)
  have optional : ∀ value : Option PyStr, optionalTextOf (optionalText value) = .ok value := by
    intro value
    cases value <;> rfl
  have number : floatOf spec.cost = .ok spec.agent.maxCostUnits := by
    rw [floatOf, typed]
  simp only [AgentRegistry.buildSpec, raiseIf, if_neg named, ok_bind, mapM_textOf,
    reads.requiredText (py "agent_id") rfl, reads.requiredText (py "version") rfl,
    reads.requiredText (py "role") rfl, reads.requiredText (py "mission") rfl,
    reads.memberOr _ (py "authority_ceiling") rfl, reads.memberOr _ (py "execution_domain") rfl,
    reads.memberOr _ (py "memory_read") rfl, reads.memberOr _ (py "memory_write") rfl,
    reads.memberOr _ (py "max_runtime_seconds") rfl, reads.memberOr _ (py "max_cost_units") rfl,
    reads.memberOr _ (py "risk_class") rfl, reads.memberOr _ (py "provider_class") rfl,
    reads.memberOr _ (py "is_verifier") rfl, reads.memberOr _ (py "process_profile") rfl,
    optional, number]
  rfl

theorem Reads.validSpec (reads : Reads fields spec) (typed : spec.Typed)
    (valid : spec.agent.validate = .ok ()) :
    validSpec fields ⟨spec.agent.capabilities.map Json.str,
      spec.agent.observabilityEvents.map Json.str, spec.agent.memoryPolicyIds.map Json.str⟩ =
        .ok spec := by
  rw [AgentRegistry.validSpec, reads.buildSpec typed, ok_bind, valid]
  rfl

end Reads

/-! ### The text of a specification -/

theorem RegisteredSpec.Typed.flat {spec : RegisteredSpec} (typed : spec.Typed) :
    ∀ field ∈ spec.fields, field.2.sortKeys = field.2 := by
  have cost : spec.cost.sortKeys = spec.cost := by
    rw [RegisteredSpec.Typed] at typed
    cases isCost : spec.cost with
    | arr items => simp [isCost, Json.number] at typed
    | obj fields => simp [isCost, Json.number] at typed
    | _ => rw [sortKeys]
  have optional : ∀ value : Option PyStr,
      (optionalText value).sortKeys = optionalText value := by
    intro value
    cases value <;> rfl
  simp only [RegisteredSpec.fields, RegisteredSpec.dict, List.forall_mem_cons,
    sortKeys_textList, cost, optional, sortKeys, List.not_mem_nil, false_implies,
    implies_true, and_self]

theorem RegisteredSpec.Typed.reads_sorted {spec : RegisteredSpec} (typed : spec.Typed) :
    Reads (sortFields (sortMembers spec.fields)) spec where
  named field member := by
    rw [(sortFields_perm _).mem_iff, sortMembers_eq_map] at member
    obtain ⟨original, isOriginal, rfl⟩ := List.mem_map.mp member
    exact (reads_fields spec).named original isOriginal
  member name value member := by
    have distinct : (spec.fields.map Prod.fst).Nodup := spec.names_fields ▸ nodup_specNames
    rw [lookup_sortFields distinct, lookup_of_mem distinct member, Option.map_some,
      typed.flat _ member]

theorem readable_textList (values : List PyStr) : Readable plainHooks false (textList values) := by
  apply itemsReadable_of_forall
  intro item member
  obtain ⟨value, -, rfl⟩ := List.mem_map.mp member
  trivial

theorem readable_cost {cost : Json} {value : PyFloat} (isNumber : cost.number = some value)
    (printable : cost.isPrintable = true) : Readable plainHooks false cost := by
  cases cost with
  | int count => exact printable
  | float literal => exact floatText_of_ofLiteral isNumber
  | _ => cases isNumber

theorem RegisteredSpec.Typed.readable_fields {spec : RegisteredSpec} (typed : spec.Typed)
    (printable : membersPrintable spec.fields = true) :
    ∀ field ∈ spec.fields, Readable plainHooks false field.2 := by
  have member : ∀ name value, spec.fields.lookup name = some value → value.isPrintable = true :=
    fun name value found => isPrintable_of_mem_fields printable (mem_of_lookup found)
  have seconds := member (py "max_runtime_seconds") (.int spec.agent.maxRuntimeSeconds) rfl
  have cost := member (py "max_cost_units") spec.cost rfl
  have optional : ∀ value : Option PyStr, Readable plainHooks false (optionalText value) := by
    intro value
    cases value <;> trivial
  simp only [RegisteredSpec.fields, RegisteredSpec.dict, List.forall_mem_cons,
    readable_textList, readable_cost typed cost, optional, Readable, List.not_mem_nil,
    false_implies, implies_true, and_self, true_and, and_true]
  exact seconds

theorem loads_of_flat {fields : List (PyStr × Json)} {bytes : Utf8Bytes}
    (distinct : (fields.map Prod.fst).Nodup) (flat : ∀ field ∈ fields, field.2.sortKeys = field.2)
    (readable : ∀ field ∈ fields, Readable plainHooks false field.2)
    (written : canonicalJson (.obj fields) = .ok bytes) :
    loads plainHooks bytes.text = .ok (.obj (sortFields (sortMembers fields))) := by
  obtain ⟨-, text⟩ := dumps_eq_ok.mp (canonicalJson_eq_ok.mp written)
  have sortedDistinct : ((sortFields (sortMembers fields)).map Prod.fst).Nodup := by
    rw [((sortFields_perm _).map Prod.fst).nodup_iff, keys_sortMembers]
    exact distinct
  have sortedReadable : Readable plainHooks false (.obj (sortFields (sortMembers fields))) := by
    rw [Readable]
    refine ⟨fieldsReadable_of_forall fun field member => ?_, ?_⟩
    · rw [(sortFields_perm _).mem_iff, sortMembers_eq_map] at member
      obtain ⟨original, isOriginal, rfl⟩ := List.mem_map.mp member
      rw [flat original isOriginal]
      exact readable original isOriginal
    · rw [decodedFields_false_eq]
      exact keepsDistinct_plainHooks _ sortedDistinct
  rw [text, if_pos rfl, sortKeys, loads_render sortedReadable, decoded_false]

theorem specFrom_of_loads {fields : List (PyStr × Json)} {raw : PyStr} {spec : RegisteredSpec}
    (loaded : loads plainHooks raw = .ok (.obj fields)) (reads : Reads fields spec)
    (typed : spec.Typed) (valid : spec.agent.validate = .ok ()) : specFrom raw = .ok spec := by
  rw [specFrom, loaded]
  change (SpecTuples.read fields >>= fun tuples => _) = _
  rw [reads.tuples, ok_bind, reads.validSpec typed valid]
  rfl

theorem RegisteredSpec.Typed.specFrom {spec : RegisteredSpec} (typed : spec.Typed)
    {bytes : Utf8Bytes} (written : spec.bytes = .ok bytes) : specFrom bytes.text = .ok spec := by
  simp only [RegisteredSpec.bytes, bind_eq_ok] at written
  obtain ⟨_, valid, written⟩ := written
  obtain ⟨printable, -⟩ := dumps_eq_ok.mp (canonicalJson_eq_ok.mp written)
  have loaded := loads_of_flat (spec.names_fields ▸ nodup_specNames) typed.flat
    (typed.readable_fields printable) written
  exact specFrom_of_loads loaded typed.reads_sorted typed valid

/-! ### Runs -/

def Call.specs : Call → List RegisteredSpec
  | registerSpec spec .. | supersedeSpec spec .. => [spec]
  | _ => []

def SpecRow.Holds (row : SpecRow) (spec : RegisteredSpec) : Prop :=
  spec.Typed ∧ ∃ bytes, spec.bytes = .ok bytes ∧ row.specJson = bytes.text

def Stored (db : Database) : Prop :=
  ∀ row ∈ db.specs, ∃ spec, row.Holds spec

section Step

variable {db after : Database}

theorem specs_bindSpec {eventType : EventType} {payload : Json}
    {operationId operationDigest : PyStr} {spec : RegisteredSpec} {bytes : Utf8Bytes}
    {clock : Moment} {activate : ActiveRow → Except PyError (List ActiveRow)} {key : AgentSpecKey}
    (returned : bindSpec eventType payload operationId operationDigest spec bytes clock activate
      db = .ok (after, key)) :
    ∀ row ∈ after.specs, row ∈ db.specs ∨ row.specJson = bytes.text := by
  simp only [bindSpec, bind_eq_ok, insertRow_eq_ok, pure_eq_ok, Prod.mk.injEq] at returned
  obtain ⟨observedAt, -, specs, ⟨-, rfl⟩, active, -, _, committed, rfl, rfl⟩ := returned
  obtain ⟨event, operation, isCommitted⟩ := commit_cases committed
  rw [isCommitted.tables]
  simp only [List.forall_mem_append, List.forall_mem_singleton]
  exact ⟨fun row member => .inl member, .inr trivial⟩

theorem specs_perform {timed : Timed} {result : Result}
    (performed : timed.call.perform timed.clock db = .ok (after, result)) :
    ∀ row ∈ after.specs, row ∈ db.specs ∨
      ∃ spec ∈ timed.call.specs, ∃ bytes, spec.bytes = .ok bytes ∧ row.specJson = bytes.text := by
  obtain ⟨clock, call⟩ := timed
  cases call with
  | registerSpec spec operationId refs =>
    obtain ⟨key, returned, -⟩ := tagged_eq_ok.mp performed
    simp only [registerSpec, bind_eq_ok] at returned
    obtain ⟨bytes, written, operated⟩ := returned
    rcases operate_cases operated with ⟨rfl, -⟩ | ⟨operationDigest, -, -, worked⟩
    · exact fun row member => .inl member
    · simp only [registerWork, bind_eq_ok] at worked
      obtain ⟨_, -, _, -, _, -, isBound⟩ := worked
      exact fun row member => (specs_bindSpec isBound row member).imp_right fun same =>
        ⟨spec, .head _, bytes, written, same⟩
  | supersedeSpec spec expectedVersion expectedDigest operationId refs =>
    obtain ⟨key, returned, -⟩ := tagged_eq_ok.mp performed
    simp only [supersedeSpec, bind_eq_ok] at returned
    obtain ⟨bytes, written, operated⟩ := returned
    rcases operate_cases operated with ⟨rfl, -⟩ | ⟨operationDigest, -, -, worked⟩
    · exact fun row member => .inl member
    · simp only [supersedeWork, bind_eq_ok] at worked
      obtain ⟨_, -, _, -, isBound⟩ := worked
      exact fun row member => (specs_bindSpec isBound row member).imp_right fun same =>
        ⟨spec, .head _, bytes, written, same⟩
  | registerInstance instanceId agentId specVersion specDigest operationId refs =>
    obtain ⟨value, operated, -⟩ := tagged_eq_ok.mp performed
    rcases operate_cases operated with ⟨rfl, -⟩ | ⟨operationDigest, -, -, worked⟩
    · exact fun row member => .inl member
    · simp only [instanceWork, bind_eq_ok, pure_eq_ok, Prod.mk.injEq] at worked
      obtain ⟨_, -, _, -, _, -, _, -, _, committed, rfl, -⟩ := worked
      obtain ⟨event, operation, isCommitted⟩ := commit_cases committed
      rw [isCommitted.tables]
      exact fun row member => .inl member
  | transitionInstance instanceId toState operationId refs =>
    obtain ⟨value, operated, -⟩ := tagged_eq_ok.mp performed
    rcases operate_cases operated with ⟨rfl, -⟩ | ⟨operationDigest, -, -, worked⟩
    · exact fun row member => .inl member
    · simp only [transitionWork, bind_eq_ok, Prod.exists, pure_eq_ok, Prod.mk.injEq] at worked
      obtain ⟨_, _, -, _, -, _, -, _, committed, rfl, -⟩ := worked
      obtain ⟨event, operation, isCommitted⟩ := commit_cases committed
      rw [isCommitted.tables]
      exact fun row member => .inl member

theorem stored_execute {timed : Timed} (stored : Stored db)
    (typed : ∀ spec ∈ timed.call.specs, spec.Typed) : Stored (timed.execute db) := by
  rw [Timed.execute]
  split
  · rename_i after result performed
    intro row member
    rcases specs_perform performed row member with old | ⟨spec, isSpec, bytes, written, same⟩
    · exact stored row old
    · exact ⟨spec, typed spec isSpec, bytes, written, same⟩
  · exact stored

end Step

theorem stored_runCalls (registryId : PyStr) {calls : List Timed}
    (typed : ∀ timed ∈ calls, ∀ spec ∈ timed.call.specs, spec.Typed) :
    Stored (runCalls registryId calls) := by
  have run : ∀ db, Stored db → Stored (calls.foldl Timed.execute db) := by
    induction calls with
    | nil => exact fun db stored => stored
    | cons timed calls ih =>
      intro db stored
      rw [List.foldl_cons]
      exact ih (fun other member => typed other (List.mem_cons_of_mem _ member)) _
        (stored_execute stored (typed timed (.head _)))
  exact run _ fun row member => absurd member List.not_mem_nil

theorem Stored.exists_specs {db : Database} (stored : Stored db) :
    ∃ specs, db.activeSpecs.mapM (fun row => specFrom row.specJson) = .ok specs ∧
      ∀ spec ∈ specs, spec.Typed ∧ ∃ bytes, spec.bytes = .ok bytes := by
  have read : ∀ row ∈ db.activeSpecs, ∃ spec, specFrom row.specJson = .ok spec ∧
      spec.Typed ∧ ∃ bytes, spec.bytes = .ok bytes := by
    intro row member
    obtain ⟨active, -, isJoined⟩ := List.mem_flatMap.mp member
    obtain ⟨spec, typed, bytes, written, same⟩ := stored row (List.mem_of_mem_filter isJoined)
    exact ⟨spec, by rw [same]; exact typed.specFrom written, typed, bytes, written⟩
  generalize db.activeSpecs = rows at read
  induction rows with
  | nil => exact ⟨[], rfl, fun spec member => absurd member List.not_mem_nil⟩
  | cons row rows ih =>
    obtain ⟨spec, isRead, holds⟩ := read row (.head _)
    obtain ⟨specs, areRead, hold⟩ := ih fun other member => read other (.tail _ member)
    refine ⟨spec :: specs, ?_, List.forall_mem_cons.mpr ⟨holds, hold⟩⟩
    rw [List.mapM_cons, isRead, ok_bind, areRead, ok_bind]
    rfl

end AgentRegistry

end CyberLion
