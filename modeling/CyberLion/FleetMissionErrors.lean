import CyberLion.FleetMissionRoundTrip

/-!
# Errors of the fleet mission codec

`from_mapping` raises `FleetMissionContractError` unless a value that no set takes stands where the
validator puts it into a set, and every check before that place passes.
-/

namespace CyberLion

open PyLib Json ProcessIR

namespace FleetMission

/-- `FleetMissionContractError`. -/
def IsContractError (error : PyError) : Prop :=
  error.cls = contractErrorClass

theorem isContractError_contractError (text : PyStr) : IsContractError (contractError text) :=
  rfl

theorem not_isContractError_typeError (text : PyStr) :
    ¬ IsContractError ⟨.typeError, text⟩ := by
  intro same
  cases same

/-! ### Loops -/

def UntilRefused {α : Type} (passes holds : α → Prop) : List α → Prop
  | [] => True
  | item :: items => holds item ∧ (passes item → UntilRefused passes holds items)

theorem onlyRaises_mapM_iff {α β : Type} {allowed : PyError → Prop}
    {transform : α → Except PyError β} {passes holds : α → Prop}
    (isPassing : ∀ value, passes value ↔ ∃ result, transform value = .ok result)
    (isHolding : ∀ value, holds value ↔ OnlyRaises allowed (transform value)) {values : List α} :
    OnlyRaises allowed (values.mapM transform) ↔ UntilRefused passes holds values := by
  induction values with
  | nil => exact iff_of_true (OnlyRaises.ok _) trivial
  | cons value values ih =>
    rw [List.mapM_cons, OnlyRaises.bind_iff, UntilRefused, isHolding, isPassing]
    have rest : ∀ result, OnlyRaises allowed (values.mapM transform >>= fun results =>
        pure (result :: results)) ↔ UntilRefused passes holds values :=
      fun result => (OnlyRaises.bind_iff_left fun _ _ => .ok _).trans ih
    refine and_congr_right fun _ => ⟨?_, ?_⟩
    · rintro all ⟨result, returned⟩
      exact (rest result).mp (all result returned)
    · intro all result returned
      exact (rest result).mpr (all ⟨result, returned⟩)

/-! ### Checks -/

theorem onlyRaises_identifierOf (name : PyStr) (value : PyObject) :
    OnlyRaises IsContractError (identifierOf name value) := by
  cases value with
  | str text =>
    exact (OnlyRaises.raiseIf (isContractError_contractError _)).bind fun _ => .ok _
  | _ => exact .error (isContractError_contractError _)

theorem onlyRaises_choice_iff {α : Type} {vocabulary : List (α × PyStr)} {text : PyStr}
    {value : PyObject} :
    OnlyRaises IsContractError (choice vocabulary (contractError text) value) ↔ value.Hashable := by
  have allowed := isContractError_contractError text
  have hashing : OnlyRaises IsContractError value.hash ↔ value.Hashable :=
    PyObject.onlyRaises_hash_iff fun _ => not_isContractError_typeError _
  unfold choice
  refine (OnlyRaises.bind_iff_left fun _ _ => ?_).trans hashing
  cases value with
  | str content =>
    dsimp only
    split
    · exact .ok _
    · exact .error allowed
  | _ => exact .error allowed

theorem onlyRaises_requireDistinct_iff {values : List PyObject} {text : PyStr} :
    OnlyRaises IsContractError (PyObject.requireDistinct values (contractError text)) ↔
      ∀ value ∈ values, value.Hashable :=
  PyObject.onlyRaises_requireDistinct_iff (fun _ => not_isContractError_typeError _)
    (isContractError_contractError text)

/-- A value that `_identifier` accepts. -/
def IsIdentifier (value : PyObject) : Prop :=
  ∃ text, value = .str text ∧ isIdentifier text = true

/-! ### Sequences of checks -/

section Sequences

variable {α β : Type} {text : PyStr}

theorem onlyRaises_pure (result : β) :
    OnlyRaises IsContractError (pure result : Except PyError β) ↔ True :=
  iff_true_intro (.ok result)

theorem onlyRaises_raiseIf_bind {condition : Prop} [Decidable condition]
    {next : Unit → Except PyError β} :
    OnlyRaises IsContractError (raiseIf condition (contractError text) >>= next) ↔
      (¬ condition → OnlyRaises IsContractError (next ())) := by
  rw [OnlyRaises.bind_iff_of (.raiseIf (isContractError_contractError _))]
  simp only [raiseIf_eq_ok]
  exact ⟨fun next => next (), fun next _ => next⟩

theorem onlyRaises_identifierOf_bind {value : PyObject} {next : PyStr → Except PyError β} :
    OnlyRaises IsContractError (identifierOf text value >>= next) ↔
      ∀ name, value = .str name → isIdentifier name = true →
        OnlyRaises IsContractError (next name) := by
  rw [OnlyRaises.bind_iff_of (onlyRaises_identifierOf _ _)]
  simp only [identifierOf_eq_ok, and_imp]

theorem onlyRaises_choice_bind {vocabulary : List (α × PyStr)} {value : PyObject}
    {next : α → Except PyError β} :
    OnlyRaises IsContractError (choice vocabulary (contractError text) value >>= next) ↔
      value.Hashable ∧ ∀ found name, value = .str name → ofText vocabulary name = some found →
        OnlyRaises IsContractError (next found) := by
  rw [OnlyRaises.bind_iff, onlyRaises_choice_iff]
  simp only [choice_eq_ok, forall_exists_index, and_imp]

theorem onlyRaises_requireDistinct_bind {values : List PyObject}
    {next : Unit → Except PyError β} :
    OnlyRaises IsContractError
        (PyObject.requireDistinct values (contractError text) >>= next) ↔
      (∀ value ∈ values, value.Hashable) ∧
        (PyObject.Distinct values → OnlyRaises IsContractError (next ())) := by
  rw [OnlyRaises.bind_iff, onlyRaises_requireDistinct_iff]
  refine and_congr_right fun hashable => ?_
  simp only [PyObject.requireDistinct_eq_ok, and_imp]
  exact ⟨fun next => next () hashable, fun next _ _ => next⟩

end Sequences

/-! ### Roles -/

/-- What the validator of a role puts into a set, or looks up in one, can be hashed, when the
checks before it pass. -/
def RawRole.Hashed (raw : RawRole) : Prop :=
  IsIdentifier raw.roleId → raw.executionDomain.Hashable ∧
    ∀ domain, raw.executionDomain = .str (toText executionDomains domain) →
      (∀ capability ∈ raw.capabilities, capability.Hashable) ∧
      (PyObject.Distinct raw.capabilities → ∀ other ∈ raw.independentFrom, other.Hashable)

def RawRole.Passes (raw : RawRole) : Prop :=
  ∃ role, raw = rawRole role ∧ role.validate = .ok ()

theorem onlyRaises_validateRawRole_iff {raw : RawRole} :
    OnlyRaises IsContractError raw.validate ↔ raw.Hashed := by
  have rest : ∀ (roleId : PyStr) (domain : ExecutionDomain),
      OnlyRaises IsContractError (do
        let capabilities ← raw.capabilities.mapM (identifierOf (py "capability"))
        let independentFrom ← raw.independentFrom.mapM (identifierOf (py "independent_from"))
        raiseIf (roleId ∈ independentFrom)
          (contractError (py "role cannot be independent from itself"))
        return (⟨roleId, domain, capabilities, independentFrom⟩ : FleetRoleSpec)) := by
    intro roleId domain
    refine (OnlyRaises.mapM fun value _ => onlyRaises_identifierOf _ value).bind fun _ => ?_
    refine (OnlyRaises.mapM fun value _ => onlyRaises_identifierOf _ value).bind fun _ => ?_
    exact (OnlyRaises.raiseIf (isContractError_contractError _)).bind fun _ => .ok _
  rw [RawRole.validate, RawRole.Hashed]
  simp only [onlyRaises_identifierOf_bind, onlyRaises_choice_bind,
    onlyRaises_requireDistinct_bind, ofText_executionDomains, rest, implies_true, and_true]
  constructor
  · rintro checked ⟨roleId, isRole, isId⟩
    obtain ⟨hashable, sets⟩ := checked roleId isRole isId
    exact ⟨hashable, fun domain isDomain => sets domain _ isDomain rfl⟩
  · intro hashed roleId isRole isId
    obtain ⟨hashable, sets⟩ := hashed ⟨roleId, isRole, isId⟩
    exact ⟨hashable, fun domain _ isDomain isText => sets domain (isText ▸ isDomain)⟩

theorem passes_iff {raw : RawRole} : raw.Passes ↔ ∃ role, raw.validate = .ok role :=
  exists_congr fun _ => validateRawRole_eq_ok.symm

/-! ### Missions -/

def RoutePasses (roles : List FleetRoleSpec) (route : PyObject × PyObject) : Prop :=
  IsIdentifier route.1 ∧ ∃ role ∈ roles, route.2 = .str role.roleId

/-- What the validator puts into a set, or looks up in one, can be hashed, when the checks before
it pass. -/
def RawMission.Hashed (raw : RawMission) : Prop :=
  raw.schemaVersion = .str (py "1.0.0") → IsIdentifier raw.missionId →
    raw.fleetClass.Hashable ∧
    ∀ fleetClass, raw.fleetClass = .str (toText fleetClasses fleetClass) → raw.roles ≠ [] →
      (∀ role ∈ raw.roles, role.roleId.Hashable) ∧
      (PyObject.Distinct (raw.roles.map RawRole.roleId) →
        UntilRefused RawRole.Passes RawRole.Hashed raw.roles ∧
        ∀ roles : List FleetRoleSpec, raw.roles = roles.map rawRole →
          (∀ role ∈ roles, role.validate = .ok ()) →
          FleetMissionIR.domainsFit fleetClass (roles.map FleetRoleSpec.executionDomain) = true →
          raw.routing ≠ [] →
            (∀ route ∈ raw.routing, route.1.Hashable) ∧
            (PyObject.Distinct (raw.routing.map Prod.fst) →
              UntilRefused (RoutePasses roles)
                (fun route => IsIdentifier route.1 → route.2.Hashable) raw.routing))

theorem onlyRaises_validateRoute_iff {roles : List FleetRoleSpec}
    {route : PyObject × PyObject} :
    (IsIdentifier route.1 → route.2.Hashable) ↔
      OnlyRaises IsContractError (validateRoute roles route) := by
  rw [validateRoute, OnlyRaises.bind_iff_of (onlyRaises_identifierOf _ _)]
  have each : ∀ transitionId : PyStr, OnlyRaises IsContractError (do
      let roleId ← choice (roles.map fun role => (role.roleId, role.roleId))
        (contractError (py "routing references undeclared role")) route.2
      return (transitionId, roleId)) ↔ route.2.Hashable :=
    fun _ => (OnlyRaises.bind_iff_left fun _ _ => .ok _).trans onlyRaises_choice_iff
  simp only [each, identifierOf_eq_ok, IsIdentifier, forall_exists_index]

theorem routePasses_iff {roles : List FleetRoleSpec} {route : PyObject × PyObject} :
    RoutePasses roles route ↔ ∃ result, validateRoute roles route = .ok result := by
  simp only [validateRoute, bind_eq_ok, identifierOf_eq_ok, choice_eq_ok, ofText_roles,
    pure_eq_ok, RoutePasses, IsIdentifier]
  constructor
  · rintro ⟨⟨text, isText, isId⟩, role, isRole, named⟩
    exact ⟨_, text, ⟨isText, isId⟩, role.roleId, ⟨_, named, rfl, List.mem_map_of_mem isRole⟩, rfl⟩
  · rintro ⟨_, text, ⟨isText, isId⟩, _, ⟨_, named, rfl, declared⟩, -⟩
    obtain ⟨role, isRole, rfl⟩ := List.mem_map.mp declared
    exact ⟨⟨text, isText, isId⟩, role, isRole, named⟩

theorem onlyRaises_validateRawMission_iff {raw : RawMission} :
    OnlyRaises IsContractError raw.validate ↔ raw.Hashed := by
  have rolesBind : ∀ {next : List FleetRoleSpec → Except PyError FleetMissionIR},
      OnlyRaises IsContractError (raw.roles.mapM RawRole.validate >>= next) ↔
        UntilRefused RawRole.Passes RawRole.Hashed raw.roles ∧
        ∀ roles, raw.roles = roles.map rawRole → (∀ role ∈ roles, role.validate = .ok ()) →
          OnlyRaises IsContractError (next roles) := by
    intro next
    rw [OnlyRaises.bind_iff, onlyRaises_mapM_iff (fun _ => passes_iff)
      fun _ => onlyRaises_validateRawRole_iff.symm]
    simp only [mapM_validateRawRole_eq_ok, and_imp]
  have routesBind : ∀ {roles : List FleetRoleSpec}
      {next : List (PyStr × PyStr) → Except PyError FleetMissionIR},
      (∀ routing, OnlyRaises IsContractError (next routing)) →
      (OnlyRaises IsContractError (raw.routing.mapM (validateRoute roles) >>= next) ↔
        UntilRefused (RoutePasses roles)
          (fun route => IsIdentifier route.1 → route.2.Hashable) raw.routing) := by
    intro roles next rest
    rw [OnlyRaises.bind_iff_left fun routing _ => rest routing]
    exact onlyRaises_mapM_iff (fun _ => routePasses_iff) fun _ => onlyRaises_validateRoute_iff
  rw [RawMission.validate, RawMission.Hashed]
  simp only [onlyRaises_raiseIf_bind, onlyRaises_identifierOf_bind, onlyRaises_choice_bind,
    onlyRaises_requireDistinct_bind, ofText_fleetClasses, rolesBind, routesBind, onlyRaises_pure,
    implies_true, Bool.not_eq_false, isText_iff, List.isEmpty_iff, List.forall_mem_map]
  refine imp_congr_right fun _ => ⟨?_, ?_⟩
  · rintro checked ⟨name, isName, isId⟩
    obtain ⟨hashable, rest⟩ := checked name isName isId
    exact ⟨hashable, fun fleetClass isClass => rest fleetClass _ isClass rfl⟩
  · intro hashed name isName isId
    obtain ⟨hashable, rest⟩ := hashed ⟨name, isName, isId⟩
    exact ⟨hashable, fun fleetClass _ isClass isText => rest fleetClass (isText ▸ isClass)⟩

/-! ### Reading -/

theorem exists_entry {fields : List (PyStr × PyObject)} {expected : List PyStr}
    (covers : expected ⊆ fields.map Prod.fst) {key : PyStr} (known : key ∈ expected) :
    ∃ value, entry fields key = .ok value := by
  rw [entry]
  cases found : fields.lookup key with
  | some value => exact ⟨value, rfl⟩
  | none =>
    obtain ⟨field, isField, rfl⟩ := List.mem_map.mp (covers known)
    have differ := List.lookup_eq_none_iff.mp found field isField
    simp at differ

theorem onlyRaises_exactDict_bind {β : Type} {expected : List PyStr} {notDict notCanonical : PyStr}
    {value : PyObject} {next : List (PyStr × PyObject) → Except PyError β}
    (rest : ∀ fields : List (PyStr × PyObject),
      (∀ key ∈ expected, ∃ value, entry fields key = .ok value) →
      OnlyRaises IsContractError (next fields)) :
    OnlyRaises IsContractError
      (exactDict expected (contractError notDict) (contractError notCanonical) value >>= next) := by
  cases value with
  | dict fields =>
    refine OnlyRaises.bind_of ((OnlyRaises.raiseIf (isContractError_contractError _)).bind
      fun _ => .ok _) fun found isFound => ?_
    simp only [exactDict, bind_eq_ok, raiseIf_eq_ok, not_not, pure_eq_ok] at isFound
    obtain ⟨_, ⟨-, covers⟩, rfl⟩ := isFound
    exact rest fields fun key known => exists_entry covers known
  | _ => exact .error (isContractError_contractError _)

theorem onlyRaises_entry_bind {β : Type} {fields : List (PyStr × PyObject)} {key : PyStr}
    {next : PyObject → Except PyError β} (there : ∃ value, entry fields key = .ok value)
    (rest : ∀ value, OnlyRaises IsContractError (next value)) :
    OnlyRaises IsContractError (entry fields key >>= next) := by
  obtain ⟨value, isValue⟩ := there
  rw [isValue, ok_bind]
  exact rest value

theorem onlyRaises_listItems (text : PyStr) (value : PyObject) :
    OnlyRaises IsContractError (listItems (contractError text) value) := by
  cases value with
  | list items => exact .ok items
  | _ => exact .error (isContractError_contractError _)

theorem onlyRaises_readRole (value : PyObject) : OnlyRaises IsContractError (readRole value) := by
  refine onlyRaises_exactDict_bind fun fields there => ?_
  refine onlyRaises_entry_bind (there _ (by simp [roleFields])) fun _ => ?_
  refine onlyRaises_entry_bind (there _ (by simp [roleFields])) fun _ => ?_
  refine (onlyRaises_listItems _ _).bind fun _ => (onlyRaises_listItems _ _).bind fun _ => ?_
  refine onlyRaises_entry_bind (there _ (by simp [roleFields])) fun _ => ?_
  exact onlyRaises_entry_bind (there _ (by simp [roleFields])) fun _ => .ok _

theorem onlyRaises_readRoute (value : PyObject) : OnlyRaises IsContractError (readRoute value) := by
  refine onlyRaises_exactDict_bind fun fields there => ?_
  refine onlyRaises_entry_bind (there _ (by simp [routeFields])) fun _ => ?_
  exact onlyRaises_entry_bind (there _ (by simp [routeFields])) fun _ => .ok _

theorem onlyRaises_readMission (value : PyObject) :
    OnlyRaises IsContractError (readMission value) := by
  refine onlyRaises_exactDict_bind fun fields there => ?_
  refine onlyRaises_entry_bind (there _ (by simp [missionFields])) fun _ => ?_
  refine (onlyRaises_listItems _ _).bind fun roles => ?_
  refine (OnlyRaises.mapM fun role _ => onlyRaises_readRole role).bind fun _ => ?_
  refine onlyRaises_entry_bind (there _ (by simp [missionFields])) fun _ => ?_
  refine (onlyRaises_listItems _ _).bind fun routes => ?_
  refine (OnlyRaises.mapM fun route _ => onlyRaises_readRoute route).bind fun _ => ?_
  iterate 5 refine onlyRaises_entry_bind (there _ (by simp [missionFields])) fun _ => ?_
  exact onlyRaises_entry_bind (there _ (by simp [missionFields])) fun _ => .ok _

theorem onlyRaises_fromMapping_iff {value : PyObject} :
    OnlyRaises IsContractError (fromMapping value) ↔
      ∀ raw, readMission value = .ok raw → raw.Hashed := by
  rw [fromMapping, OnlyRaises.bind_iff_of (onlyRaises_readMission value)]
  simp only [onlyRaises_validateRawMission_iff]

end FleetMission

end CyberLion
