import CyberLion.FleetMissionCodec
import CyberLion.JsonSameValue
import CyberLion.ProcessSeals

/-!
# Reading back a fleet mission

What `from_mapping` returns is valid, and its JSON is the value that was read.  The canonical bytes
of a valid mission are read back, its dictionary is not.
-/

namespace CyberLion

open PyLib Json ProcessIR

namespace FleetMission

/-! ### Checks -/

theorem identifier_eq_ok {value name : PyStr} {u : Unit} :
    FleetMission.identifier value name = .ok u ↔ isIdentifier value = true := by
  rw [FleetMission.identifier, raiseIf_eq_ok, Bool.not_eq_false]

theorem identifierOf_eq_ok {name text : PyStr} {value : PyObject} :
    identifierOf name value = .ok text ↔ value = .str text ∧ isIdentifier text = true := by
  cases value with
  | str content =>
    simp only [identifierOf, bind_eq_ok, pure_eq_ok, identifier_eq_ok, PyObject.str.injEq]
    constructor
    · rintro ⟨_, isId, rfl⟩
      exact ⟨rfl, isId⟩
    · rintro ⟨rfl, isId⟩
      exact ⟨(), isId, rfl⟩
  | _ => simp [identifierOf]

theorem choice_eq_ok {α : Type} {vocabulary : List (α × PyStr)} {error : PyError}
    {value : PyObject} {found : α} :
    choice vocabulary error value = .ok found ↔
      ∃ text, value = .str text ∧ ofText vocabulary text = some found := by
  cases value with
  | str content =>
    simp only [choice, bind_eq_ok, PyObject.hash_eq_ok, PyObject.str.injEq]
    constructor
    · rintro ⟨_, -, isFound⟩
      split at isFound
      · rename_i isText
        exact ⟨content, rfl, isText.trans (congrArg some (Except.ok.inj isFound))⟩
      · cases isFound
    · rintro ⟨_, rfl, isText⟩
      exact ⟨(), rfl, by rw [isText]⟩
  | _ => simp [choice, bind_eq_ok]

theorem ofText_eq_some {α : Type} [DecidableEq α] {vocabulary : List (α × PyStr)}
    (members : (vocabulary.map Prod.fst).Nodup) (texts : (vocabulary.map Prod.snd).Nodup)
    (all : ∀ member, ∃ entry ∈ vocabulary, entry.1 = member) {text : PyStr} {member : α} :
    ofText vocabulary text = some member ↔ text = toText vocabulary member := by
  obtain ⟨entry, isEntry, rfl⟩ := all member
  have written : toText vocabulary entry.1 = entry.2 := by
    rw [toText, find?_of_nodup_map members isEntry]
    rfl
  rw [written, ofText, Option.map_eq_some_iff]
  constructor
  · rintro ⟨other, isOther, same⟩
    obtain rfl : other = entry :=
      List.inj_on_of_nodup_map members (List.mem_of_find?_eq_some isOther) isEntry same
    simpa [eq_comm] using List.find?_some isOther
  · rintro rfl
    exact ⟨entry, find?_of_nodup_map texts isEntry, rfl⟩

theorem ofText_executionDomains {text : PyStr} {domain : ExecutionDomain} :
    ofText executionDomains text = some domain ↔ text = toText executionDomains domain :=
  ofText_eq_some (by decide) (by decide) (by rintro (_ | _) <;> decide)

theorem ofText_fleetClasses {text : PyStr} {fleetClass : FleetClass} :
    ofText fleetClasses text = some fleetClass ↔ text = toText fleetClasses fleetClass :=
  ofText_eq_some (by decide) (by decide) (by rintro (_ | _ | _) <;> decide)

theorem isText_iff {text : PyStr} {value : PyObject} :
    isText text value = true ↔ value = .str text := by
  cases value <;> simp [isText]

theorem mapM_eq_ok_iff_map {α β : Type} {transform : α → Except PyError β} {write : β → α}
    {holds : β → Prop} (each : ∀ value result, transform value = .ok result ↔
      value = write result ∧ holds result) {values : List α} {results : List β} :
    values.mapM transform = .ok results ↔
      values = results.map write ∧ ∀ result ∈ results, holds result := by
  rw [mapM_eq_ok]
  induction results generalizing values with
  | nil => simp
  | cons result results ih =>
    cases values with
    | nil => simp
    | cons value values =>
      rw [List.forall₂_cons, each, ih, List.map_cons, List.cons.injEq, List.forall_mem_cons]
      exact and_and_and_comm

theorem mapM_identifierOf_eq_ok {name : PyStr} {values : List PyObject} {texts : List PyStr} :
    values.mapM (identifierOf name) = .ok texts ↔
      values = texts.map PyObject.str ∧ ∀ text ∈ texts, isIdentifier text = true :=
  mapM_eq_ok_iff_map fun _ _ => identifierOf_eq_ok

/-! ### Roles -/

def rawRole (role : FleetRoleSpec) : RawRole :=
  ⟨.str role.roleId, .str (toText executionDomains role.executionDomain),
    role.capabilities.map PyObject.str, role.independentFrom.map PyObject.str⟩

theorem validateRole_eq_ok {role : FleetRoleSpec} {u : Unit} :
    role.validate = .ok u ↔ isIdentifier role.roleId = true ∧ role.capabilities.Nodup ∧
      role.independentFrom.Nodup ∧ (∀ item ∈ role.capabilities, isIdentifier item = true) ∧
      (∀ item ∈ role.independentFrom, isIdentifier item = true) ∧
      role.roleId ∉ role.independentFrom := by
  have all : ∀ (items : List PyStr) (name : PyStr),
      (items.forM fun item => FleetMission.identifier item name) = .ok () ↔
        ∀ item ∈ items, isIdentifier item = true := by
    intro items name
    exact forM_eq_ok.trans (forall₂_congr fun item _ => identifier_eq_ok)
  simp only [FleetRoleSpec.validate, bind_eq_ok, raiseIf_eq_ok, identifier_eq_ok, not_not,
    exists_const]
  constructor
  · rintro ⟨isId, capabilities, independentFrom, _, capable, _, apart, notItself⟩
    exact ⟨isId, capabilities, independentFrom, (all _ _).mp capable, (all _ _).mp apart, notItself⟩
  · rintro ⟨isId, capabilities, independentFrom, capable, apart, notItself⟩
    exact ⟨isId, capabilities, independentFrom, (), (all _ _).mpr capable, (), (all _ _).mpr apart,
      notItself⟩

theorem forall_hashable_str (texts : List PyStr) :
    ∀ value ∈ texts.map PyObject.str, value.Hashable := by
  intro value member
  obtain ⟨text, -, rfl⟩ := List.mem_map.mp member
  exact PyObject.hashable_str text

theorem validateRawRole_eq_ok {raw : RawRole} {role : FleetRoleSpec} :
    raw.validate = .ok role ↔ raw = rawRole role ∧ role.validate = .ok () := by
  rw [validateRole_eq_ok]
  simp only [RawRole.validate, bind_eq_ok, identifierOf_eq_ok, choice_eq_ok,
    PyObject.requireDistinct_eq_ok, mapM_identifierOf_eq_ok, raiseIf_eq_ok, pure_eq_ok,
    ofText_executionDomains]
  constructor
  · rintro ⟨roleId, ⟨isRole, isId⟩, domain, ⟨_, isDomain, rfl⟩, _, ⟨-, distinct⟩, _,
      ⟨-, apartDistinct⟩, capabilities, ⟨areCapabilities, capable⟩, apart, ⟨areApart, apartIds⟩, _,
      notItself, rfl⟩
    rw [areCapabilities, PyObject.distinct_map_str] at distinct
    rw [areApart, PyObject.distinct_map_str] at apartDistinct
    refine ⟨?_, isId, distinct, apartDistinct, capable, apartIds, notItself⟩
    rw [rawRole, ← isRole, ← isDomain, ← areCapabilities, ← areApart]
  · rintro ⟨rfl, isId, distinct, apartDistinct, capable, apartIds, notItself⟩
    exact ⟨role.roleId, ⟨rfl, isId⟩, role.executionDomain, ⟨_, rfl, rfl⟩, (),
      ⟨forall_hashable_str _, PyObject.distinct_map_str.mpr distinct⟩, (),
      ⟨forall_hashable_str _, PyObject.distinct_map_str.mpr apartDistinct⟩, role.capabilities,
      ⟨rfl, capable⟩, role.independentFrom, ⟨rfl, apartIds⟩, (), notItself, rfl⟩

/-! ### Missions -/

def rawMission (fleet : FleetMissionIR) : RawMission :=
  ⟨.str fleet.schemaVersion, .str fleet.missionId, .str (toText fleetClasses fleet.fleetClass),
    fleet.roles.map rawRole, fleet.routing.map fun route => (.str route.1, .str route.2),
    .str fleet.authorityEffect, .str fleet.runtimeEffect, .str fleet.effectProviderEffect⟩

variable {roles : List FleetRoleSpec} {fleet : FleetMissionIR}

theorem mapM_validateRawRole_eq_ok {raws : List RawRole} :
    raws.mapM RawRole.validate = .ok roles ↔
      raws = roles.map rawRole ∧ ∀ role ∈ roles, role.validate = .ok () :=
  mapM_eq_ok_iff_map fun _ _ => validateRawRole_eq_ok

theorem ofText_roles {text found : PyStr} :
    ofText (roles.map fun role => (role.roleId, role.roleId)) text = some found ↔
      text = found ∧ found ∈ roles.map FleetRoleSpec.roleId := by
  rw [ofText, Option.map_eq_some_iff]
  constructor
  · rintro ⟨entry, isEntry, rfl⟩
    obtain ⟨role, isRole, rfl⟩ := List.mem_map.mp (List.mem_of_find?_eq_some isEntry)
    have same : role.roleId = text := by simpa using List.find?_some isEntry
    exact ⟨same.symm, List.mem_map_of_mem isRole⟩
  · rintro ⟨rfl, member⟩
    obtain ⟨role, isRole, same⟩ := List.mem_map.mp member
    cases isFound : (roles.map fun role => (role.roleId, role.roleId)).find?
        fun entry => entry.2 = text with
    | none =>
      have differ := List.find?_eq_none.mp isFound _ (List.mem_map_of_mem isRole)
      simp [same] at differ
    | some entry =>
      obtain ⟨other, -, rfl⟩ := List.mem_map.mp (List.mem_of_find?_eq_some isFound)
      have named : other.roleId = text := by simpa using List.find?_some isFound
      exact ⟨_, rfl, named⟩

theorem mapM_validateRoute_eq_ok {raws : List (PyObject × PyObject)}
    {routing : List (PyStr × PyStr)} :
    raws.mapM (validateRoute roles) = .ok routing ↔
      raws = routing.map (fun route => (.str route.1, .str route.2)) ∧
        ∀ route ∈ routing, isIdentifier route.1 = true ∧
          route.2 ∈ roles.map FleetRoleSpec.roleId := by
  apply mapM_eq_ok_iff_map
  rintro ⟨first, second⟩ ⟨transitionId, roleId⟩
  simp only [validateRoute, bind_eq_ok, identifierOf_eq_ok, choice_eq_ok, ofText_roles,
    pure_eq_ok, Prod.mk.injEq]
  constructor
  · rintro ⟨_, ⟨rfl, isId⟩, _, ⟨_, rfl, rfl, declared⟩, rfl, rfl⟩
    exact ⟨⟨rfl, rfl⟩, isId, declared⟩
  · rintro ⟨⟨rfl, rfl⟩, isId, declared⟩
    exact ⟨transitionId, ⟨rfl, isId⟩, roleId, ⟨roleId, rfl, rfl, declared⟩, rfl, rfl⟩

structure IsMission (fleet : FleetMissionIR) : Prop where
  version : fleet.schemaVersion = py "1.0.0"
  missionId : isIdentifier fleet.missionId = true
  someRole : fleet.roles ≠ []
  roleIds : (fleet.roles.map FleetRoleSpec.roleId).Nodup
  roles : ∀ role ∈ fleet.roles, role.validate = .ok ()
  domains : FleetMissionIR.domainsFit fleet.fleetClass
    (fleet.roles.map FleetRoleSpec.executionDomain) = true
  someRoute : fleet.routing ≠ []
  routeKeys : (fleet.routing.map Prod.fst).Nodup
  routes : ∀ route ∈ fleet.routing, isIdentifier route.1 = true ∧
    route.2 ∈ fleet.roles.map FleetRoleSpec.roleId
  routedDomains : ¬ (fleet.fleetClass = .hybrid ∧ FleetMissionIR.domainsFit .hybrid
    (FleetMissionIR.routedDomains fleet.roles fleet.routing) = false)
  authority : fleet.authorityEffect = py "NONE"
  runtime : fleet.runtimeEffect = py "NONE"
  provider : fleet.effectProviderEffect = py "NONE"
  declared : (fleet.roles.all fun role =>
    role.independentFrom.all fun other => other ∈ fleet.roles.map FleetRoleSpec.roleId) = true

theorem validateMission_eq_ok {u : Unit} :
    fleet.validate = .ok u ↔ IsMission fleet := by
  have routes : FleetMissionIR.checkRouting fleet.roles fleet.routing = .ok () ↔
      ∀ route ∈ fleet.routing, isIdentifier route.1 = true ∧
        route.2 ∈ fleet.roles.map FleetRoleSpec.roleId := by
    refine forM_eq_ok.trans (forall₂_congr fun route _ => ?_)
    simp only [bind_eq_ok, identifier_eq_ok, raiseIf_eq_ok, not_not, exists_const]
  have roles : fleet.roles.forM FleetRoleSpec.validate = .ok () ↔
      ∀ role ∈ fleet.roles, role.validate = .ok () := forM_eq_ok
  simp only [FleetMissionIR.validate, bind_eq_ok, raiseIf_eq_ok, identifier_eq_ok, not_not,
    exists_const, ne_eq, List.cons.injEq, and_true, Bool.not_eq_false]
  constructor
  · rintro ⟨version, missionId, someRole, roleIds, _, valid, domains, someRoute, routeKeys, _, routed,
      routedDomains, ⟨authority, runtime, provider⟩, declared⟩
    exact ⟨version, missionId, someRole, roleIds, roles.mp valid, domains, someRoute, routeKeys,
      routes.mp routed, routedDomains, authority, runtime, provider, declared⟩
  · intro mission
    exact ⟨mission.version, mission.missionId, mission.someRole, mission.roleIds, (),
      roles.mpr mission.roles, mission.domains, mission.someRoute, mission.routeKeys, (),
      routes.mpr mission.routes, mission.routedDomains,
      ⟨mission.authority, mission.runtime, mission.provider⟩, mission.declared⟩

theorem validateRawMission_eq_ok {raw : RawMission} :
    raw.validate = .ok fleet ↔ raw = rawMission fleet ∧ fleet.validate = .ok () := by
  have ids : ∀ roles : List FleetRoleSpec, (roles.map rawRole).map RawRole.roleId =
      (roles.map FleetRoleSpec.roleId).map PyObject.str := by
    intro roles
    rw [List.map_map, List.map_map]
    rfl
  have keys : ∀ routing : List (PyStr × PyStr), (routing.map fun route =>
      (PyObject.str route.1, PyObject.str route.2)).map Prod.fst =
        (routing.map Prod.fst).map PyObject.str := by
    intro routing
    rw [List.map_map, List.map_map]
    rfl
  rw [validateMission_eq_ok]
  simp only [RawMission.validate, bind_eq_ok, identifierOf_eq_ok, choice_eq_ok,
    PyObject.requireDistinct_eq_ok, mapM_validateRawRole_eq_ok, mapM_validateRoute_eq_ok,
    raiseIf_eq_ok, pure_eq_ok, ofText_fleetClasses, Bool.not_eq_false, isText_iff, List.all_cons,
    List.all_nil, Bool.and_true, Bool.and_eq_true, List.isEmpty_iff, not_not]
  constructor
  · rintro ⟨_, version, missionId, ⟨isMissionId, isId⟩, fleetClass, ⟨_, isClass, rfl⟩, _, someRole,
      _, ⟨-, roleIds⟩, roles, ⟨areRoles, valid⟩, _, domains, _, someRoute, _, ⟨-, routeKeys⟩, routing,
      ⟨areRoutes, routed⟩, _, routedDomains, _, ⟨authority, runtime, provider⟩, _, declared, rfl⟩
    rw [areRoles, ids, PyObject.distinct_map_str] at roleIds
    rw [areRoutes, keys, PyObject.distinct_map_str] at routeKeys
    rw [areRoles] at someRole
    rw [areRoutes] at someRoute
    refine ⟨?_, rfl, isId, fun none => someRole (List.map_eq_nil_iff.mpr none), roleIds, valid, domains,
      fun none => someRoute (List.map_eq_nil_iff.mpr none), routeKeys, routed, routedDomains, rfl, rfl, rfl,
      declared⟩
    cases raw
    dsimp only at version isMissionId isClass areRoles areRoutes authority runtime provider
    rw [version, isMissionId, isClass, areRoles, areRoutes, authority, runtime, provider]
    rfl
  · rintro ⟨rfl, mission⟩
    refine ⟨(), by rw [rawMission, mission.version], _, ⟨rfl, mission.missionId⟩, _, ⟨_, rfl, rfl⟩,
      (), fun none => mission.someRole (List.map_eq_nil_iff.mp none), (), ⟨?_, ?_⟩, fleet.roles,
      ⟨rfl, mission.roles⟩, (), mission.domains, (),
      fun none => mission.someRoute (List.map_eq_nil_iff.mp none), (), ⟨?_, ?_⟩, fleet.routing,
      ⟨rfl, mission.routes⟩, (), mission.routedDomains, (), ?_, (), mission.declared, ?_⟩
    · rw [rawMission, ids]
      exact forall_hashable_str _
    · rw [rawMission, ids, PyObject.distinct_map_str]
      exact mission.roleIds
    · rw [rawMission, keys]
      exact forall_hashable_str _
    · rw [rawMission, keys, PyObject.distinct_map_str]
      exact mission.routeKeys
    · rw [rawMission, mission.authority, mission.runtime, mission.provider]
      exact ⟨rfl, rfl, rfl⟩
    · obtain ⟨schemaVersion, missionId, fleetClass, roles, routing, authorityEffect, runtimeEffect,
        effectProviderEffect⟩ := fleet
      have version : schemaVersion = py "1.0.0" := mission.version
      have authority : authorityEffect = py "NONE" := mission.authority
      have runtime : runtimeEffect = py "NONE" := mission.runtime
      have provider : effectProviderEffect = py "NONE" := mission.provider
      rw [version, authority, runtime, provider]

/-! ### Values of one shape -/

theorem sameValue_str_iff {value : Json} {text : PyStr} :
    SameValue value (.str text) ↔ value = .str text := by
  constructor
  · intro same
    cases same
    rfl
  · rintro rfl
    exact .str text

theorem sameValue_arr_iff {value : Json} {others : List Json} :
    SameValue value (.arr others) ↔
      ∃ items, value = .arr items ∧ List.Forall₂ SameValue items others := by
  constructor
  · intro same
    cases same with
    | @arr items _ length members =>
      refine ⟨items, rfl, List.forall₂_iff_get.mpr ⟨length, fun index first second => ?_⟩⟩
      exact members index _ _ (List.getElem?_eq_getElem first) (List.getElem?_eq_getElem second)
  · rintro ⟨items, rfl, same⟩
    refine .arr same.length_eq fun index item other isItem isOther => ?_
    obtain ⟨first, rfl⟩ := List.getElem?_eq_some_iff.mp isItem
    obtain ⟨second, rfl⟩ := List.getElem?_eq_some_iff.mp isOther
    exact (List.forall₂_iff_get.mp same).2 index first second

theorem sameValue_obj_iff {value : Json} {others : List (PyStr × Json)}
    (distinct : DistinctKeys value) :
    SameValue value (.obj others) ↔ ∃ fields, value = .obj fields ∧
      (fields.map Prod.fst ⊆ others.map Prod.fst ∧ others.map Prod.fst ⊆ fields.map Prod.fst) ∧
      ∀ other ∈ others, ∃ member, fields.lookup other.1 = some member ∧
        SameValue member other.2 := by
  constructor
  · intro same
    cases same with
    | @obj fields _ keys members =>
      refine ⟨fields, rfl, ⟨fun key => (keys key).mp, fun key => (keys key).mpr⟩, ?_⟩
      intro other isOther
      cases distinct with
      | obj fieldsDistinct all =>
        obtain ⟨field, isField, sameKey⟩ :=
          List.mem_map.mp ((keys other.1).mpr (List.mem_map_of_mem isOther))
        refine ⟨field.2, lookup_of_mem fieldsDistinct (sameKey ▸ isField), ?_⟩
        exact members other.1 _ _ (sameKey ▸ isField) isOther
  · rintro ⟨fields, rfl, ⟨inside, covers⟩, members⟩
    refine .obj (fun key => ⟨fun member => inside member, fun member => covers member⟩) ?_
    intro key member other isMember isOther
    cases distinct with
    | obj fieldsDistinct all =>
      obtain ⟨found, isFound, same⟩ := members _ isOther
      rw [lookup_of_mem fieldsDistinct isMember] at isFound
      exact Option.some.inj isFound ▸ same

/-! ### Reading -/

theorem exactDict_ofJson_eq_ok {expected : List PyStr} {notDict notCanonical : PyError}
    {value : Json} {fields : List (PyStr × PyObject)} :
    exactDict expected notDict notCanonical (.ofJson value) = .ok fields ↔
      ∃ members, value = .obj members ∧ fields = PyObject.ofFields members ∧
        members.map Prod.fst ⊆ expected ∧ expected ⊆ members.map Prod.fst := by
  cases value with
  | obj members =>
    simp only [PyObject.ofJson, exactDict, bind_eq_ok, raiseIf_eq_ok, not_not, pure_eq_ok,
      PyObject.keys_ofFields, exists_const, Json.obj.injEq]
    constructor
    · rintro ⟨keys, rfl⟩
      exact ⟨members, rfl, rfl, keys⟩
    · rintro ⟨_, rfl, rfl, keys⟩
      exact ⟨keys, rfl⟩
  | _ => simp [PyObject.ofJson, exactDict]

theorem entry_ofFields_eq_ok {members : List (PyStr × Json)} {key : PyStr} {value : PyObject} :
    entry (PyObject.ofFields members) key = .ok value ↔
      ∃ member, members.lookup key = some member ∧ .ofJson member = value := by
  rw [entry, PyObject.lookup_ofFields]
  cases members.lookup key <;> simp

theorem listItems_eq_ok {error : PyError} {value : PyObject} {items : List PyObject} :
    listItems error value = .ok items ↔ value = .list items := by
  cases value <;> simp [listItems]

theorem map_ofJson_eq_map_str {items : List Json} {texts : List PyStr} :
    items.map PyObject.ofJson = texts.map PyObject.str ↔ items = texts.map Json.str := by
  induction items generalizing texts with
  | nil => cases texts <;> simp
  | cons item items ih =>
    cases texts with
    | nil => simp
    | cons text texts => simp [ih, PyObject.ofJson_eq_str]

theorem forall₂_sameValue_str_iff {items : List Json} {texts : List PyStr} :
    List.Forall₂ SameValue items (texts.map Json.str) ↔ items = texts.map Json.str := by
  induction items generalizing texts with
  | nil => cases texts <;> simp
  | cons item items ih =>
    cases texts with
    | nil => simp
    | cons text texts =>
      rw [List.map_cons, List.forall₂_cons, sameValue_str_iff, ih, List.cons.injEq]

theorem sameValue_textList_iff {value : Json} {texts : List PyStr} :
    SameValue value (.arr (texts.map Json.str)) ↔
      PyObject.ofJson value = .list (texts.map PyObject.str) := by
  rw [sameValue_arr_iff, PyObject.ofJson_eq_list]
  refine exists_congr fun items => and_congr_right fun _ => ?_
  rw [eq_comm (a := texts.map PyObject.str), map_ofJson_eq_map_str, forall₂_sameValue_str_iff]

theorem toJson_roleDict (role : FleetRoleSpec) : (roleDict role).toJson =
    .obj [(py "role_id", .str role.roleId),
      (py "execution_domain", .str (toText executionDomains role.executionDomain)),
      (py "capabilities", .arr (role.capabilities.map Json.str)),
      (py "independent_from", .arr (role.independentFrom.map Json.str))] := by
  simp only [roleDict, PyObject.toJson, PyObject.toFields, PyObject.toItems_eq_map, List.map_map]
  rfl

theorem toJson_routeDict (route : PyStr × PyStr) : (routeDict route).toJson =
    .obj [(py "transition_id", .str route.1), (py "role_id", .str route.2)] := by
  simp only [routeDict, PyObject.toJson, PyObject.toFields]

theorem toJson_missionDict (fleet : FleetMissionIR) : (missionDict fleet).toJson =
    .obj [(py "schema_version", .str fleet.schemaVersion), (py "mission_id", .str fleet.missionId),
      (py "fleet_class", .str (toText fleetClasses fleet.fleetClass)),
      (py "roles", .arr (fleet.roles.map fun role => (roleDict role).toJson)),
      (py "routing", .arr (fleet.routing.map fun route => (routeDict route).toJson)),
      (py "authority_effect", .str fleet.authorityEffect),
      (py "runtime_effect", .str fleet.runtimeEffect),
      (py "effect_provider_effect", .str fleet.effectProviderEffect)] := by
  simp only [missionDict, PyObject.toJson, PyObject.toFields, PyObject.toItems_eq_map,
    List.map_map]
  rfl

theorem readRole_eq_ok {value : Json} (distinct : DistinctKeys value) {role : FleetRoleSpec} :
    readRole (.ofJson value) = .ok (rawRole role) ↔ SameValue value (roleDict role).toJson := by
  rw [toJson_roleDict, sameValue_obj_iff distinct]
  simp only [readRole, bind_eq_ok, exactDict_ofJson_eq_ok, pure_eq_ok, listItems_eq_ok,
    List.forall_mem_cons, List.not_mem_nil, false_implies, implies_true, and_true, rawRole,
    RawRole.mk.injEq, sameValue_str_iff, sameValue_textList_iff]
  constructor
  · rintro ⟨_, ⟨fields, rfl, rfl, keys⟩, capabilities, isCapabilities, apart, isApart, _, rfl, _, rfl,
      roleId, isRole, domain, isDomain, rfl, rfl, rfl, rfl⟩
    simp only [entry_ofFields_eq_ok, PyObject.ofJson_eq_str] at isCapabilities isApart isRole isDomain
    exact ⟨fields, rfl, keys, isRole, isDomain, isCapabilities, isApart⟩
  · rintro ⟨fields, rfl, keys, isRole, isDomain, isCapabilities, isApart⟩
    refine ⟨_, ⟨fields, rfl, rfl, keys⟩, _, ?_, _, ?_, _, rfl, _, rfl, _, ?_, _, ?_, rfl, rfl, rfl,
      rfl⟩
    all_goals simp only [entry_ofFields_eq_ok, PyObject.ofJson_eq_str]
    · exact isCapabilities
    · exact isApart
    · exact isRole
    · exact isDomain

theorem readRoute_eq_ok {value : Json} (distinct : DistinctKeys value) {route : PyStr × PyStr} :
    readRoute (.ofJson value) = .ok (.str route.1, .str route.2) ↔
      SameValue value (routeDict route).toJson := by
  rw [toJson_routeDict, sameValue_obj_iff distinct]
  simp only [readRoute, bind_eq_ok, exactDict_ofJson_eq_ok, pure_eq_ok, List.forall_mem_cons,
    List.not_mem_nil, false_implies, implies_true, and_true, Prod.mk.injEq, sameValue_str_iff]
  constructor
  · rintro ⟨_, ⟨fields, rfl, rfl, keys⟩, transitionId, isTransition, roleId, isRole, rfl, rfl⟩
    simp only [entry_ofFields_eq_ok, PyObject.ofJson_eq_str] at isTransition isRole
    exact ⟨fields, rfl, keys, isTransition, isRole⟩
  · rintro ⟨fields, rfl, keys, isTransition, isRole⟩
    refine ⟨_, ⟨fields, rfl, rfl, keys⟩, _, ?_, _, ?_, rfl, rfl⟩
    all_goals simp only [entry_ofFields_eq_ok, PyObject.ofJson_eq_str]
    · exact isTransition
    · exact isRole

theorem mapM_read_eq_ok {α β : Type} {read : PyObject → Except PyError α} {write : β → α}
    {json : β → Json} (each : ∀ value, DistinctKeys value → ∀ result,
      (read (.ofJson value) = .ok (write result) ↔ SameValue value (json result)))
    {items : List Json} (distinct : ∀ item ∈ items, DistinctKeys item) {results : List β} :
    (items.map PyObject.ofJson).mapM read = .ok (results.map write) ↔
      List.Forall₂ SameValue items (results.map json) := by
  rw [mapM_eq_ok, List.forall₂_map_left_iff, List.forall₂_map_right_iff,
    List.forall₂_map_right_iff]
  induction items generalizing results with
  | nil => cases results <;> simp
  | cons item items ih =>
    rw [List.forall_mem_cons] at distinct
    cases results with
    | nil => simp
    | cons result results =>
      rw [List.forall₂_cons, List.forall₂_cons, each item distinct.1, ih distinct.2]

theorem readList_iff {α β : Type} {read : PyObject → Except PyError α} {write : β → α}
    {json : β → Json} (each : ∀ value, DistinctKeys value → ∀ result,
      (read (.ofJson value) = .ok (write result) ↔ SameValue value (json result)))
    {fields : List (PyStr × Json)} (distinct : ∀ field ∈ fields, DistinctKeys field.2) (key : PyStr)
    {results : List β} :
    (∃ items, entry (PyObject.ofFields fields) key = .ok (.list items) ∧
        items.mapM read = .ok (results.map write)) ↔
      ∃ member, fields.lookup key = some member ∧ SameValue member (.arr (results.map json)) := by
  simp only [entry_ofFields_eq_ok, PyObject.ofJson_eq_list, sameValue_arr_iff]
  constructor
  · rintro ⟨_, ⟨_, found, members, rfl, rfl⟩, read⟩
    have inside : ∀ item ∈ members, DistinctKeys item := by
      cases distinct _ (mem_of_lookup found) with
      | arr all => exact all
    exact ⟨_, found, members, rfl, (mapM_read_eq_ok each inside).mp read⟩
  · rintro ⟨_, found, members, rfl, same⟩
    have inside : ∀ item ∈ members, DistinctKeys item := by
      cases distinct _ (mem_of_lookup found) with
      | arr all => exact all
    exact ⟨_, ⟨_, found, members, rfl, rfl⟩, (mapM_read_eq_ok each inside).mpr same⟩

theorem readMission_eq_ok {value : Json} (distinct : DistinctKeys value) :
    readMission (.ofJson value) = .ok (rawMission fleet) ↔
      SameValue value (missionDict fleet).toJson := by
  rw [toJson_missionDict, sameValue_obj_iff distinct]
  simp only [readMission, bind_eq_ok, exactDict_ofJson_eq_ok, pure_eq_ok, listItems_eq_ok,
    List.forall_mem_cons, List.not_mem_nil, false_implies, implies_true, and_true, rawMission,
    RawMission.mk.injEq, sameValue_str_iff]
  constructor
  · rintro ⟨_, ⟨fields, rfl, rfl, keys⟩, _, hasRoles, items, rfl, _, areRoles, _, hasRouting, routes,
      rfl, _, areRoutes, _, version, _, missionId, _, fleetClass, _, authority, _, runtime, _,
      provider, rfl, rfl, rfl, rfl, rfl, rfl, rfl, rfl⟩
    cases distinct with
    | obj fieldsDistinct all =>
      have roles := (readList_iff (fun value distinct role => readRole_eq_ok distinct) all
        (py "roles")).mp ⟨items, hasRoles, areRoles⟩
      have routing := (readList_iff (fun value distinct route => readRoute_eq_ok distinct) all
        (py "routing")).mp ⟨routes, hasRouting, areRoutes⟩
      simp only [entry_ofFields_eq_ok, PyObject.ofJson_eq_str]
        at version missionId fleetClass authority runtime provider
      exact ⟨fields, rfl, keys, version, missionId, fleetClass, roles, routing, authority,
        runtime, provider⟩
  · rintro ⟨fields, rfl, keys, version, missionId, fleetClass, roles, routing, authority, runtime,
      provider⟩
    cases distinct with
    | obj fieldsDistinct all =>
      obtain ⟨items, hasRoles, areRoles⟩ :=
        (readList_iff (fun value distinct role => readRole_eq_ok distinct) all
          (py "roles")).mpr roles
      obtain ⟨routes, hasRouting, areRoutes⟩ :=
        (readList_iff (fun value distinct route => readRoute_eq_ok distinct) all
          (py "routing")).mpr routing
      refine ⟨_, ⟨fields, rfl, rfl, keys⟩, _, hasRoles, items, rfl, _, areRoles, _, hasRouting,
        routes, rfl, _, areRoutes, _, ?_, _, ?_, _, ?_, _, ?_, _, ?_, _, ?_, rfl, rfl, rfl, rfl,
        rfl, rfl, rfl, rfl⟩
      all_goals simp only [entry_ofFields_eq_ok, PyObject.ofJson_eq_str]
      · exact version
      · exact missionId
      · exact fleetClass
      · exact authority
      · exact runtime
      · exact provider

theorem fromMapping_ofJson_eq_ok {value : Json} (distinct : DistinctKeys value) :
    fromMapping (.ofJson value) = .ok fleet ↔
      SameValue value (missionDict fleet).toJson ∧ fleet.validate = .ok () := by
  simp only [fromMapping, bind_eq_ok, validateRawMission_eq_ok]
  constructor
  · rintro ⟨raw, read, rfl, valid⟩
    exact ⟨(readMission_eq_ok distinct).mp read, valid⟩
  · rintro ⟨same, valid⟩
    exact ⟨_, (readMission_eq_ok distinct).mpr same, rfl, valid⟩

end FleetMission

end CyberLion
