import CyberLion.FleetMissionErrors

/-!
# The canonical form of a fleet mission

A valid mission is written, and its bytes are read back as the mission; its digest belongs to no
other mission.  Its dictionary is refused, since `asdict` keeps tuples and `from_mapping` insists
on lists.
-/

namespace CyberLion

open PyLib Json ProcessIR

namespace FleetMission

/-! ### The dictionary -/

theorem readRole_roleDict (role : FleetRoleSpec) :
    readRole (roleDict role) = .error (contractError (py "role list fields invalid")) := by
  rfl

theorem mapM_readRole_roleDict {roles : List FleetRoleSpec} (some : roles ≠ []) :
    (roles.map roleDict).mapM readRole =
      .error (contractError (py "role list fields invalid")) := by
  cases roles with
  | nil => exact absurd rfl some
  | cons role roles =>
    rw [List.map_cons, List.mapM_cons, readRole_roleDict]
    rfl

variable {fleet : FleetMissionIR}

theorem fromMapping_asDict (valid : fleet.validate = .ok ()) :
    (asDict fleet >>= fromMapping) =
      .error (contractError (py "role list fields invalid")) := by
  have refused : readMission (missionDict fleet) =
      .error (contractError (py "role list fields invalid")) := by
    have roles := mapM_readRole_roleDict (validateMission_eq_ok.mp valid).someRole
    change ((fleet.roles.map roleDict).mapM readRole >>= fun _ => _) = _
    rw [roles]
    rfl
  rw [asDict, valid, ok_bind]
  change fromMapping (missionDict fleet) = _
  rw [fromMapping, refused]
  rfl

/-! ### Canonical bytes -/

theorem writable_texts {texts : List PyStr} (ids : ∀ text ∈ texts, isIdentifier text = true) :
    Writable (.arr (texts.map Json.str)) := by
  refine .arr fun item member => ?_
  obtain ⟨text, isText, rfl⟩ := List.mem_map.mp member
  exact .str (isEncodable_of_isIdentifier (ids text isText))

theorem isEncodable_executionDomain (domain : ExecutionDomain) :
    isEncodable (toText executionDomains domain) = true := by
  cases domain <;> decide

theorem isEncodable_fleetClass (fleetClass : FleetClass) :
    isEncodable (toText fleetClasses fleetClass) = true := by
  cases fleetClass <;> decide

theorem writable_roleDict {role : FleetRoleSpec} (valid : role.validate = .ok ()) :
    Writable (roleDict role).toJson := by
  obtain ⟨isId, -, -, capable, apart, -⟩ := validateRole_eq_ok.mp valid
  rw [toJson_roleDict]
  refine .obj ?_ ?_
  · simp only [List.forall_mem_cons, List.not_mem_nil, false_implies, implies_true, and_true]
    decide
  · simp only [List.forall_mem_cons, List.not_mem_nil, false_implies, implies_true, and_true]
    exact ⟨.str (isEncodable_of_isIdentifier isId), .str (isEncodable_executionDomain _),
      writable_texts capable, writable_texts apart⟩

theorem fieldNames_nodup : roleFields.Nodup ∧ routeFields.Nodup ∧ missionFields.Nodup := by
  decide +kernel

theorem plain_texts (texts : List PyStr) : Plain (.arr (texts.map Json.str)) := by
  refine .arr fun item member => ?_
  obtain ⟨text, -, rfl⟩ := List.mem_map.mp member
  exact .str text

theorem plain_roleDict (role : FleetRoleSpec) : Plain (roleDict role).toJson := by
  rw [toJson_roleDict]
  refine .obj fieldNames_nodup.1 ?_
  simp only [List.forall_mem_cons, List.not_mem_nil, false_implies, implies_true, plain_str,
    plain_texts, and_self]

theorem plain_missionDict (fleet : FleetMissionIR) : Plain (missionDict fleet).toJson := by
  have roles : Plain (.arr (fleet.roles.map fun role => (roleDict role).toJson)) := by
    refine .arr fun item member => ?_
    obtain ⟨role, -, rfl⟩ := List.mem_map.mp member
    exact plain_roleDict role
  have routing : Plain (.arr (fleet.routing.map fun route => (routeDict route).toJson)) := by
    refine .arr fun item member => ?_
    obtain ⟨route, -, rfl⟩ := List.mem_map.mp member
    rw [toJson_routeDict]
    refine .obj fieldNames_nodup.2.1 ?_
    simp only [List.forall_mem_cons, List.not_mem_nil, false_implies, implies_true, plain_str,
      and_self]
  rw [toJson_missionDict]
  refine .obj fieldNames_nodup.2.2 ?_
  simp only [List.forall_mem_cons, List.not_mem_nil, false_implies, implies_true, plain_str,
    roles, routing, and_self]

theorem writable_missionDict (valid : fleet.validate = .ok ()) :
    Writable (missionDict fleet).toJson := by
  have mission := validateMission_eq_ok.mp valid
  have roles : Writable (.arr (fleet.roles.map fun role => (roleDict role).toJson)) := by
    refine .arr fun item member => ?_
    obtain ⟨role, isRole, rfl⟩ := List.mem_map.mp member
    exact writable_roleDict (mission.roles role isRole)
  have routing : Writable (.arr (fleet.routing.map fun route => (routeDict route).toJson)) := by
    refine .arr fun item member => ?_
    obtain ⟨route, isRoute, rfl⟩ := List.mem_map.mp member
    obtain ⟨isId, declared⟩ := mission.routes route isRoute
    obtain ⟨role, isRole, sameId⟩ := List.mem_map.mp declared
    have roleId := (validateRole_eq_ok.mp (mission.roles role isRole)).1
    rw [toJson_routeDict]
    refine .obj ?_ ?_
    · simp only [List.forall_mem_cons, List.not_mem_nil, false_implies, implies_true, and_true]
      decide
    · simp only [List.forall_mem_cons, List.not_mem_nil, false_implies, implies_true, and_true]
      exact ⟨.str (isEncodable_of_isIdentifier isId),
        .str (isEncodable_of_isIdentifier (sameId ▸ roleId))⟩
  have constants : isEncodable (py "1.0.0") = true ∧ isEncodable (py "NONE") = true := by
    decide
  rw [toJson_missionDict, mission.version, mission.authority, mission.runtime, mission.provider]
  refine .obj ?_ ?_
  · simp only [List.forall_mem_cons, List.not_mem_nil, false_implies, implies_true, and_true]
    decide
  · simp only [List.forall_mem_cons, List.not_mem_nil, false_implies, implies_true, and_true]
    exact ⟨.str constants.1, .str (isEncodable_of_isIdentifier mission.missionId),
      .str (isEncodable_fleetClass _), roles, routing, .str constants.2, .str constants.2,
      .str constants.2⟩

theorem isPrintable_missionDict (fleet : FleetMissionIR) :
    (missionDict fleet).toJson.isPrintable = true := by
  have texts : ∀ texts : List PyStr, arePrintable (texts.map Json.str) = true := by
    intro texts
    refine arePrintable_of_forall fun item member => ?_
    obtain ⟨text, -, rfl⟩ := List.mem_map.mp member
    rfl
  have roles : arePrintable (fleet.roles.map fun role => (roleDict role).toJson) = true := by
    refine arePrintable_of_forall fun item member => ?_
    obtain ⟨role, -, rfl⟩ := List.mem_map.mp member
    simp only [toJson_roleDict, Json.isPrintable, membersPrintable, texts, Bool.and_self]
  have routing : arePrintable (fleet.routing.map fun route => (routeDict route).toJson) = true := by
    refine arePrintable_of_forall fun item member => ?_
    obtain ⟨route, -, rfl⟩ := List.mem_map.mp member
    simp only [toJson_routeDict, Json.isPrintable, membersPrintable, Bool.and_self]
  simp only [toJson_missionDict, Json.isPrintable, membersPrintable, roles, routing, Bool.and_self]

theorem canonicalBytes_eq_ok {bytes : Utf8Bytes} :
    canonicalBytes fleet = .ok bytes ↔ fleet.validate = .ok () ∧
      dumps false true (missionDict fleet).toJson = .ok bytes.text := by
  simp only [canonicalBytes, asDict, bind_eq_ok, pure_eq_ok, encodeUtf8_eq_ok]
  constructor
  · rintro ⟨_, ⟨_, valid, rfl⟩, text, written, rfl⟩
    exact ⟨valid, written⟩
  · rintro ⟨valid, written⟩
    exact ⟨_, ⟨(), valid, rfl⟩, _, written, rfl⟩

theorem exists_canonicalBytes (valid : fleet.validate = .ok ()) :
    ∃ bytes, canonicalBytes fleet = .ok bytes := by
  obtain ⟨text, bytes, written, encoded⟩ :=
    (writable_missionDict valid).exists_encodeUtf8 (isPrintable_missionDict fleet) true
  rw [encodeUtf8_eq_ok] at encoded
  exact ⟨bytes, canonicalBytes_eq_ok.mpr ⟨valid, encoded ▸ written⟩⟩

theorem fromMapping_loads {bytes : Utf8Bytes} (written : canonicalBytes fleet = .ok bytes) :
    ∃ value, loads plainHooks bytes.text = .ok value ∧ fromMapping (.ofJson value) = .ok fleet := by
  obtain ⟨valid, dumped⟩ := canonicalBytes_eq_ok.mp written
  have strict := (plain_missionDict fleet).strict (isPrintable_missionDict fleet)
  have distinct := strict.sortKeys.distinctKeys
  refine ⟨_, (plain_missionDict fleet).loads_dumps dumped, ?_⟩
  rw [fromMapping_ofJson_eq_ok distinct, sameValue_iff distinct strict.distinctKeys]
  exact ⟨sortKeys_sortKeys _, valid⟩

theorem eq_of_digest_eq {first second : FleetMissionIR} {firstBytes secondBytes : Utf8Bytes}
    (isFirst : canonicalBytes first = .ok firstBytes)
    (isSecond : canonicalBytes second = .ok secondBytes)
    (noCollision : sha256 (digestDomain.append firstBytes) =
      sha256 (digestDomain.append secondBytes) →
        digestDomain.append firstBytes = digestDomain.append secondBytes)
    (same : digest first = digest second) : first = second := by
  rw [digest, digest, isFirst, isSecond] at same
  have sameBytes := congrArg Utf8Bytes.text (noCollision (Except.ok.inj same))
  have sameText : firstBytes.text = secondBytes.text := List.append_cancel_left sameBytes
  obtain ⟨value, loaded, read⟩ := fromMapping_loads isFirst
  obtain ⟨other, otherLoaded, otherRead⟩ := fromMapping_loads isSecond
  rw [sameText, otherLoaded] at loaded
  obtain rfl := Except.ok.inj loaded
  exact Except.ok.inj (read.symm.trans otherRead)

/-- The codec: the dictionary of a valid mission is never read back, its canonical bytes always
are; a JSON object is read as the mission with its value or refused with
`FleetMissionContractError`, exactly when no value that a set does not take is met; and equal
digests belong to equal missions. -/
theorem codec (fields : List (PyStr × Json)) :
    (∀ fleet : FleetMissionIR, fleet.validate = .ok () →
      (asDict fleet >>= fromMapping) ≠ .ok fleet ∧
      ∃ bytes, canonicalBytes fleet = .ok bytes ∧
        ∃ value, loads plainHooks bytes.text = .ok value ∧
          fromMapping (.ofJson value) = .ok fleet) ∧
    (DistinctKeys (.obj fields) →
      ((OnlyRaises IsContractError (fromMapping (.ofJson (.obj fields))) ∧
          ∀ fleet, fromMapping (.ofJson (.obj fields)) = .ok fleet →
            ∃ bytes value, canonicalBytes fleet = .ok bytes ∧
              loads plainHooks bytes.text = .ok value ∧ SameValue (.obj fields) value) ↔
        ∀ raw, readMission (.ofJson (.obj fields)) = .ok raw → raw.Hashed)) ∧
    ∀ (first second : FleetMissionIR) (firstBytes secondBytes : Utf8Bytes),
      canonicalBytes first = .ok firstBytes → canonicalBytes second = .ok secondBytes →
      (sha256 (digestDomain.append firstBytes) = sha256 (digestDomain.append secondBytes) →
        digestDomain.append firstBytes = digestDomain.append secondBytes) →
      digest first = digest second → first = second := by
  refine ⟨fun fleet valid => ⟨?_, ?_⟩, fun distinct => ?_, ?_⟩
  · rw [fromMapping_asDict valid]
    exact nofun
  · obtain ⟨bytes, written⟩ := exists_canonicalBytes valid
    exact ⟨bytes, written, fromMapping_loads written⟩
  · rw [← onlyRaises_fromMapping_iff]
    refine and_iff_left fun fleet read => ?_
    obtain ⟨same, valid⟩ := (fromMapping_ofJson_eq_ok distinct).mp read
    obtain ⟨bytes, written⟩ := exists_canonicalBytes valid
    have dumped := (canonicalBytes_eq_ok.mp written).2
    have strict := (plain_missionDict fleet).strict (isPrintable_missionDict fleet)
    refine ⟨bytes, _, written, (plain_missionDict fleet).loads_dumps dumped, ?_⟩
    rw [sameValue_iff distinct strict.sortKeys.distinctKeys, sortKeys_sortKeys]
    exact (sameValue_iff distinct strict.distinctKeys).mp same
  · intro first second firstBytes secondBytes isFirst isSecond noCollision same
    exact eq_of_digest_eq isFirst isSecond noCollision same

def soloMission : FleetMissionIR :=
  ⟨py "1.0.0", py "m", .logical, [⟨py "r", .logical, [], []⟩], [(py "t", py "r")], py "NONE",
    py "NONE", py "NONE"⟩

theorem valid_soloMission : soloMission.validate = .ok () := by
  decide +kernel

theorem codec_solo :
    (asDict soloMission >>= fromMapping) ≠ .ok soloMission ∧
      ∃ bytes, canonicalBytes soloMission = .ok bytes ∧
        ∃ value, loads plainHooks bytes.text = .ok value ∧
          fromMapping (.ofJson value) = .ok soloMission :=
  (codec []).1 soloMission valid_soloMission

def listClass : List (PyStr × Json) :=
  [(py "schema_version", .str (py "1.0.0")), (py "mission_id", .str (py "m")),
    (py "fleet_class", .arr []), (py "roles", .arr []), (py "routing", .arr []),
    (py "authority_effect", .str (py "NONE")), (py "runtime_effect", .str (py "NONE")),
    (py "effect_provider_effect", .str (py "NONE"))]

/-- The dictionary of a valid mission is refused, and a class that is a list raises `TypeError`. -/
theorem codec_fails :
    (¬ ∀ fleet : FleetMissionIR, fleet.validate = .ok () →
      (asDict fleet >>= fromMapping) = .ok fleet) ∧
    ¬ ∀ fields : List (PyStr × Json), DistinctKeys (.obj fields) →
      OnlyRaises IsContractError (fromMapping (.ofJson (.obj fields))) := by
  constructor
  · intro reads
    have refused := fromMapping_asDict valid_soloMission
    rw [reads soloMission valid_soloMission] at refused
    cases refused
  · intro raises
    have distinct : DistinctKeys (.obj listClass) := by
      refine .obj fieldNames_nodup.2.2 ?_
      simp only [listClass, List.forall_mem_cons, List.not_mem_nil, false_implies, implies_true,
        and_true]
      have none : DistinctKeys (.arr []) := .arr fun item member => absurd member List.not_mem_nil
      exact ⟨.str _, .str _, none, none, none, .str _, .str _, .str _⟩
    have raised : fromMapping (.ofJson (.obj listClass)) =
        .error ⟨.typeError, py "unhashable type: 'list'"⟩ := by
      rfl
    exact not_isContractError_typeError _ (raises listClass distinct _ raised)

end FleetMission

end CyberLion
