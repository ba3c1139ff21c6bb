import CyberLion.FleetCoordinationVerify
import CyberLion.JsonWritable

/-!
# Stored records are read back

The JSON columns of the store give back the specification, the request and
the dispatches that were written to them.
-/

namespace CyberLion

namespace FleetCoordination

open PyLib Json

theorem canonicalJson_eq_ok {value : Json} {bytes : Utf8Bytes} :
    canonicalJson value = .ok bytes ↔ dumps false true value = .ok bytes.text := by
  simp only [canonicalJson, bind_eq_ok, encodeUtf8_eq_ok]
  constructor
  · rintro ⟨text, written, rfl⟩
    exact written
  · intro written
    exact ⟨_, written, rfl⟩

/-! ### Plain values -/

theorem writable_textList_iff {values : List PyStr} :
    Json.Writable (textList values) ↔ ∀ value ∈ values, isEncodable value = true := by
  constructor
  · intro writable value member
    cases writable with
    | arr all => exact Json.writable_str_iff.mp (all _ (List.mem_map_of_mem member))
  · intro all
    refine .arr fun item member => ?_
    obtain ⟨value, inValues, rfl⟩ := List.mem_map.mp member
    exact .str (all value inValues)

@[simp]
theorem plain_textList (values : List PyStr) : Plain (textList values) := by
  apply Plain.arr
  intro item member
  obtain ⟨value, -, rfl⟩ := List.mem_map.mp member
  exact .str value

theorem sortKeys_textList (values : List PyStr) : (textList values).sortKeys = textList values := by
  rw [textList, sortKeys, sortItems_eq_map, List.map_map]
  rfl

theorem iterate_textList (values : List PyStr) :
    iterate (textList values) = .ok (values.map Json.str) :=
  rfl

theorem mapM_textOf (values : List PyStr) : (values.map Json.str).mapM textOf = .ok values := by
  apply mapM_eq_ok.mpr
  rw [List.forall₂_map_left_iff]
  exact List.forall₂_same.mpr fun value _ => rfl

/-! ### Fields of a canonical object -/

section Fields

variable {fields : List (PyStr × Json)} (distinct : (fields.map Prod.fst).Nodup) (key : PyStr)
include distinct

theorem fieldOf_sorted {value : Json} (member : (key, value) ∈ fields) :
    fieldOf (sortFields (sortMembers fields)) key = .ok value.sortKeys := by
  rw [fieldOf, lookup_sortFields distinct, lookup_of_mem distinct member, Option.map_some]

theorem textFieldOf_sorted (text : PyStr) (member : (key, .str text) ∈ fields) :
    textFieldOf (sortFields (sortMembers fields)) key = .ok text := by
  rw [textFieldOf, fieldOf_sorted distinct key member, ok_bind, sortKeys]
  rfl

theorem intFieldOf_sorted (number : Int) (member : (key, .int number) ∈ fields) :
    intFieldOf (sortFields (sortMembers fields)) key = .ok number := by
  rw [intFieldOf, fieldOf_sorted distinct key member, ok_bind, sortKeys]

theorem textsFieldOf_sorted (values : List PyStr) (member : (key, textList values) ∈ fields) :
    textsFieldOf (sortFields (sortMembers fields)) key = .ok values := by
  rw [textsFieldOf, fieldOf_sorted distinct key member, ok_bind, sortKeys_textList,
    iterate_textList, ok_bind, mapM_textOf]

end Fields

/-! ### Columns of texts -/

theorem storedTexts_of_dumps {values : List PyStr} {column : PyStr}
    (written : dumps true false (textList values) = .ok column)
    (encodable : ∀ value ∈ values, isEncodable value = true) :
    storedTexts column = .ok values := by
  have kept : values.map (fun value => Json.str (decodeText true value)) = values.map Json.str := by
    apply List.map_congr_left
    intro value member
    rw [decodeText_eq_self true (hasNoSurrogatePair_of_isEncodable (encodable value member))]
  have read : loads plainHooks column = _ := loads_dumps_texts written
  rw [kept] at read
  rw [storedTexts, read, ok_bind, iterate, ok_bind, mapM_textOf]

theorem isSurrogate_of_mem_render {fields : List (PyStr × Json)} {key : PyStr} {value : Json}
    {bytes : Utf8Bytes} (member : (key, value) ∈ fields)
    (written : canonicalJson (.obj fields) = .ok bytes) :
    ∀ c ∈ render false value.sortKeys, c.isSurrogate = false := by
  obtain ⟨-, text⟩ := dumps_eq_ok.mp (canonicalJson_eq_ok.mp written)
  intro c inValue
  have sortedMember : (key, value.sortKeys) ∈ sortFields (sortMembers fields) := by
    rw [(sortFields_perm _).mem_iff, sortMembers_eq_map]
    exact List.mem_map.mpr ⟨_, member, rfl⟩
  have inText : c ∈ bytes.text := by
    rw [text, if_pos rfl, sortKeys]
    exact mem_render_obj sortedMember inValue
  simpa using List.all_eq_true.mp bytes.encodable c inText

theorem isEncodable_of_mem_str {fields : List (PyStr × Json)} (key : PyStr) {value : PyStr}
    {bytes : Utf8Bytes} (member : (key, .str value) ∈ fields)
    (written : canonicalJson (.obj fields) = .ok bytes) : isEncodable value = true := by
  rw [isEncodable, List.all_eq_true]
  intro c inValue
  by_contra surrogate
  rw [Bool.not_eq_true', Bool.not_eq_false] at surrogate
  have clean := isSurrogate_of_mem_render member written c
    (by rw [sortKeys]; exact mem_render_str surrogate inValue)
  rw [surrogate] at clean
  cases clean

theorem isEncodable_of_mem_textList {fields : List (PyStr × Json)} (key : PyStr)
    {values : List PyStr} {bytes : Utf8Bytes} (member : (key, textList values) ∈ fields)
    (written : canonicalJson (.obj fields) = .ok bytes) :
    ∀ value ∈ values, isEncodable value = true := by
  intro value valueMember
  rw [isEncodable, List.all_eq_true]
  intro c inValue
  by_contra surrogate
  rw [Bool.not_eq_true', Bool.not_eq_false] at surrogate
  have inList : c ∈ render false (textList values) :=
    mem_render_arr (List.mem_map_of_mem valueMember) (mem_render_str surrogate inValue)
  have clean := isSurrogate_of_mem_render member written c (by rwa [sortKeys_textList])
  rw [surrogate] at clean
  exact nomatch clean

/-! ### Specifications -/

structure StoresSpec (row : MissionRow) (spec : FleetCoordinationSpec) : Prop where
  valid : spec.validate = .ok ()
  digest : spec.digest = .ok row.specDigest
  missionId : row.missionId = spec.missionId
  droneId : row.droneId = spec.droneId
  repository : row.repository = spec.repository
  baselineSha : row.baselineSha = spec.baselineSha
  baselineTreeSha : row.baselineTreeSha = spec.baselineTreeSha
  branch : row.branch = spec.branch
  writeScope : storedTexts row.writeScopeJson = .ok spec.writeScope
  dependencies : storedTexts row.dependenciesJson = .ok spec.dependencies
  evidenceRefs : storedTexts row.evidenceRefsJson = .ok spec.evidenceRefs

theorem StoresSpec.reconstructSpec {row : MissionRow} {spec : FleetCoordinationSpec}
    (stores : StoresSpec row spec) : reconstructSpec row = .ok spec := by
  obtain ⟨valid, -, missionId, droneId, repository, baselineSha, baselineTreeSha, branch, scope,
    dependencies, evidence⟩ := stores
  rw [FleetCoordination.reconstructSpec, rethrow_eq_ok, scope, dependencies, evidence, missionId,
    droneId, repository, baselineSha, baselineTreeSha, branch, ok_bind, ok_bind, ok_bind]
  dsimp only
  rw [valid]
  rfl

theorem storesSpec_registeredRow {spec : FleetCoordinationSpec}
    {digest scopeJson dependenciesJson evidenceJson : PyStr} (now : PyStr)
    (valid : spec.validate = .ok ()) (digested : spec.digest = .ok digest)
    (scope : dumps true false (textList spec.writeScope) = .ok scopeJson)
    (dependencies : dumps true false (textList spec.dependencies) = .ok dependenciesJson)
    (evidence : dumps true false (textList spec.evidenceRefs) = .ok evidenceJson) :
    StoresSpec (registeredRow spec digest scopeJson dependenciesJson evidenceJson now) spec := by
  have digestedAgain := digested
  simp only [FleetCoordinationSpec.digest, FleetCoordinationSpec.canonicalDict, bind_eq_ok,
    pure_eq_ok] at digestedAgain
  obtain ⟨_, ⟨_, -, rfl⟩, bytes, written, -⟩ := digestedAgain
  have scopeEncodable : ∀ value ∈ spec.writeScope, isEncodable value = true :=
    isEncodable_of_mem_textList (py "write_scope") (by simp [FleetCoordinationSpec.fields]) written
  have dependenciesEncodable : ∀ value ∈ spec.dependencies, isEncodable value = true :=
    isEncodable_of_mem_textList (py "dependencies") (by simp [FleetCoordinationSpec.fields]) written
  have evidenceEncodable : ∀ value ∈ spec.evidenceRefs, isEncodable value = true :=
    isEncodable_of_mem_textList (py "evidence_refs") (by simp [FleetCoordinationSpec.fields]) written
  exact ⟨valid, digested, rfl, rfl, rfl, rfl, rfl, rfl,
    storedTexts_of_dumps scope scopeEncodable,
    storedTexts_of_dumps dependencies dependenciesEncodable,
    storedTexts_of_dumps evidence evidenceEncodable⟩

/-! ### Requests -/

theorem distinct_requestFields (request : FleetPlanRequest) :
    (request.fields.map Prod.fst).Nodup := by
  change [py "request_id", py "coordinator_id", py "current_heads", py "max_parallel"].Nodup
  decide

def headsJson (heads : List (PyStr × PyStr)) : Json :=
  .arr (heads.map fun row => .arr [.str row.1, .str row.2])

theorem plain_headsJson (heads : List (PyStr × PyStr)) : Plain (headsJson heads) := by
  apply Plain.arr
  intro item member
  obtain ⟨row, -, rfl⟩ := List.mem_map.mp member
  exact plain_textList [row.1, row.2]

theorem iterate_headsJson (heads : List (PyStr × PyStr)) :
    iterate (headsJson heads).sortKeys =
      .ok (heads.map fun row => .arr [.str row.1, .str row.2]) := by
  rw [headsJson, sortKeys, sortItems_eq_map, List.map_map]
  rfl

theorem mapM_headOfJson (heads : List (PyStr × PyStr)) :
    (heads.map fun row => Json.arr [.str row.1, .str row.2]).mapM headOfJson = .ok heads := by
  apply mapM_eq_ok.mpr
  rw [List.forall₂_map_left_iff]
  exact List.forall₂_same.mpr fun row _ => rfl

theorem plain_request (request : FleetPlanRequest) : Plain (.obj request.fields) := by
  apply Plain.obj (distinct_requestFields request)
  intro field member
  simp only [FleetPlanRequest.fields, List.mem_cons, List.not_mem_nil, or_false] at member
  have heads := plain_headsJson request.currentHeads
  rcases member with rfl | rfl | rfl | rfl <;> simp_all [headsJson]

theorem requestOfFields_sorted (request : FleetPlanRequest) :
    requestOfFields (sortFields (sortMembers request.fields)) = .ok request := by
  have distinct := distinct_requestFields request
  have heads : (py "current_heads", headsJson request.currentHeads) ∈ request.fields := by
    simp [FleetPlanRequest.fields, headsJson]
  rw [requestOfFields,
    textFieldOf_sorted distinct (py "request_id") request.requestId
      (by simp [FleetPlanRequest.fields]),
    ok_bind,
    textFieldOf_sorted distinct (py "coordinator_id") request.coordinatorId
      (by simp [FleetPlanRequest.fields]),
    ok_bind, fieldOf_sorted distinct (py "current_heads") heads, ok_bind, iterate_headsJson,
    ok_bind, mapM_headOfJson, ok_bind,
    intFieldOf_sorted distinct (py "max_parallel") request.maxParallel
      (by simp [FleetPlanRequest.fields]),
    ok_bind]
  rfl

theorem requestFromJson_of_canonicalJson {request : FleetPlanRequest} {bytes : Utf8Bytes}
    (valid : request.validate = .ok ())
    (written : canonicalJson (.obj request.fields) = .ok bytes) :
    requestFromJson bytes.text = .ok request := by
  have read := (plain_request request).loads_dumps (canonicalJson_eq_ok.mp written)
  rw [sortKeys] at read
  rw [requestFromJson, read]
  simp only [rethrow, ok_bind, requestOfFields_sorted, valid]
  rfl

/-! ### Dispatches -/

theorem distinct_dispatchFields (dispatch : FleetDispatch) :
    (dispatch.fields.map Prod.fst).Nodup := by
  change [py "dispatch_id", py "fencing_token", py "request_id", py "coordinator_id",
    py "mission_id", py "drone_id", py "generation", py "repository", py "baseline_sha",
    py "baseline_tree_sha", py "branch", py "write_scope", py "issued_at"].Nodup
  decide +kernel

theorem plain_dispatch (dispatch : FleetDispatch) : Plain (.obj dispatch.fields) := by
  apply Plain.obj (distinct_dispatchFields dispatch)
  intro field member
  simp only [FleetDispatch.fields, List.mem_cons, List.not_mem_nil, or_false] at member
  rcases member with rfl | rfl | rfl | rfl | rfl | rfl | rfl | rfl | rfl | rfl | rfl | rfl | rfl <;>
    simp

theorem dispatchOfFields_sorted (dispatch : FleetDispatch) :
    dispatchOfFields (sortFields (sortMembers dispatch.fields)) = .ok dispatch := by
  have text := textFieldOf_sorted (distinct_dispatchFields dispatch)
  have number := intFieldOf_sorted (distinct_dispatchFields dispatch)
  have texts := textsFieldOf_sorted (distinct_dispatchFields dispatch)
  have member : ∀ field ∈ dispatch.fields, field ∈ dispatch.fields := fun _ known => known
  rw [FleetDispatch.fields] at member
  simp only [List.forall_mem_cons] at member
  obtain ⟨dispatchId, fencingToken, requestId, coordinatorId, missionId, droneId,
    generation, repository, baselineSha, baselineTreeSha, branch,
    writeScope, issuedAt, -⟩ := member
  rw [dispatchOfFields, text _ _ dispatchId, ok_bind, text _ _ fencingToken, ok_bind,
    text _ _ requestId, ok_bind, text _ _ coordinatorId, ok_bind, text _ _ missionId, ok_bind,
    text _ _ droneId, ok_bind, number _ _ generation, ok_bind, text _ _ repository, ok_bind,
    text _ _ baselineSha, ok_bind, text _ _ baselineTreeSha, ok_bind, text _ _ branch, ok_bind,
    texts _ _ writeScope, ok_bind, text _ _ issuedAt, ok_bind]
  rfl

theorem dispatchOfJson_sorted {dispatch : FleetDispatch} (valid : dispatch.validate = .ok ()) :
    dispatchOfJson (Json.obj dispatch.fields).sortKeys = .ok dispatch := by
  rw [sortKeys, dispatchOfJson, dispatchOfFields_sorted, ok_bind, valid]
  rfl

theorem mapM_canonicalDict {dispatches : List FleetDispatch} {values : List Json}
    (mapped : dispatches.mapM FleetDispatch.canonicalDict = .ok values) :
    values = dispatches.map (fun dispatch => .obj dispatch.fields) ∧
      ∀ dispatch ∈ dispatches, dispatch.validate = .ok () := by
  have pairs := mapM_eq_ok.mp mapped
  clear mapped
  induction pairs with
  | nil => simp
  | @cons dispatch value dispatches values canonical _ ih =>
    simp only [FleetDispatch.canonicalDict, bind_eq_ok, pure_eq_ok] at canonical
    obtain ⟨_, valid, rfl⟩ := canonical
    rw [List.map_cons, ← ih.1, List.forall_mem_cons]
    exact ⟨rfl, valid, ih.2⟩

theorem dispatchesFromJson_of_dispatchesJson {dispatches : List FleetDispatch} {result : PyStr}
    (written : dispatchesJson dispatches = .ok result) :
    dispatchesFromJson result = .ok dispatches ∧
      ∀ dispatch ∈ dispatches, dispatch.validate = .ok () := by
  rw [dispatchesJson, bind_eq_ok] at written
  obtain ⟨values, mapped, dumped⟩ := written
  obtain ⟨rfl, valid⟩ := mapM_canonicalDict mapped
  refine ⟨?_, valid⟩
  have plain : Plain (.arr (dispatches.map fun dispatch => .obj dispatch.fields)) := by
    apply Plain.arr
    intro item member
    obtain ⟨dispatch, -, rfl⟩ := List.mem_map.mp member
    exact plain_dispatch dispatch
  have read := plain.loads_dumps dumped
  rw [sortKeys, sortItems_eq_map, List.map_map] at read
  have decoded : (dispatches.map (sortKeys ∘ fun dispatch => .obj dispatch.fields)).mapM
      dispatchOfJson = .ok dispatches := by
    apply mapM_eq_ok.mpr
    rw [List.forall₂_map_left_iff]
    exact List.forall₂_same.mpr fun dispatch member => dispatchOfJson_sorted (valid dispatch member)
  rw [dispatchesFromJson, read]
  exact decoded

end FleetCoordination

end CyberLion
