import CyberLion.PyText
import Mathlib.Data.List.Chain
import Mathlib.Data.List.Forall2

/-!
# Python exceptions

Fallible Python code is embedded in `Except PyError`.  An error carries its
class and its message.  The class hierarchy is data, so a program's own
exception classes are declared over their bases and an `except` clause is the
subclass test.  The lemmas at the end invert successful computations, so that
later proofs never unfold the monad.
-/

namespace PyLib

/-- An exception class: a class of the standard library, or a class that a
program declares over a base class. -/
inductive ErrorClass
  | exception
  | valueError
  | typeError
  | keyError
  | runtimeError
  | overflowError
  | unicodeEncodeError
  | jsonDecodeError
  | integrityError
  | declared (base : ErrorClass) (name : PyStr)
  deriving DecidableEq

/-- `issubclass(first, second)`. -/
def ErrorClass.isSubclass : ErrorClass → ErrorClass → Bool
  | .declared base name, target =>
    ErrorClass.declared base name = target || base.isSubclass target
  | .unicodeEncodeError, target =>
    target = .unicodeEncodeError || target = .valueError || target = .exception
  | .jsonDecodeError, target =>
    target = .jsonDecodeError || target = .valueError || target = .exception
  | builtin, target => builtin = target || target = .exception

/-- A raised exception: its class and `str(exc)`. -/
structure PyError where
  cls : ErrorClass
  text : PyStr
  deriving DecidableEq

/-- `isinstance(exc, cls)`. -/
def PyError.isInstance (error : PyError) (cls : ErrorClass) : Bool :=
  error.cls.isSubclass cls

@[simp]
theorem ErrorClass.isSubclass_declared (base target : ErrorClass) (name : PyStr) :
    (ErrorClass.declared base name).isSubclass target =
      (decide (ErrorClass.declared base name = target) || base.isSubclass target) :=
  rfl

/-! ### Encoding -/

/-- `text.encode("utf-8")`.  The position in the error's message is not kept. -/
def encodeUtf8 (text : PyStr) : Except PyError Utf8Bytes :=
  if encodable : isEncodable text = true then .ok ⟨text, encodable⟩
  else .error ⟨.unicodeEncodeError,
    py "'utf-8' codec can't encode character: surrogates not allowed"⟩

def Utf8Bytes.append (first second : Utf8Bytes) : Utf8Bytes where
  text := first.text ++ second.text
  encodable := by
    have firstEncodable := first.encodable
    have secondEncodable := second.encodable
    simp only [isEncodable, List.all_append, Bool.and_eq_true] at *
    exact ⟨firstEncodable, secondEncodable⟩

theorem encodeUtf8_eq_ok {text : PyStr} {bytes : Utf8Bytes} :
    encodeUtf8 text = .ok bytes ↔ bytes.text = text := by
  unfold encodeUtf8
  split
  · rename_i encodable
    constructor
    · rintro ⟨⟩
      rfl
    · rintro rfl
      rfl
  · rename_i notEncodable
    constructor
    · simp
    · rintro rfl
      exact absurd bytes.encodable notEncodable

theorem exists_encodeUtf8 {text : PyStr} (encodable : isEncodable text = true) :
    ∃ bytes, encodeUtf8 text = .ok bytes :=
  ⟨⟨text, encodable⟩, encodeUtf8_eq_ok.mpr rfl⟩

/-! ### Control flow -/

variable {ε α β : Type}

/-- `if condition: raise error`. -/
def raiseIf (condition : Prop) [Decidable condition] (error : ε) : Except ε Unit :=
  if condition then .error error else .ok ()

/-- `try: ... except <caught> as exc: raise <replacement> from exc`. -/
def rethrow (caught : ε → Bool) (replacement : ε → ε) : Except ε α → Except ε α
  | .ok value => .ok value
  | .error error => .error (if caught error then replacement error else error)

def returned : Except ε α → Bool
  | .ok _ => true
  | .error _ => false

@[simp]
theorem raiseIf_eq_ok {condition : Prop} [Decidable condition] {error : ε} {u : Unit} :
    raiseIf condition error = .ok u ↔ ¬ condition := by
  unfold raiseIf
  split <;> simp_all

@[simp]
theorem raiseIf_eq_error {condition : Prop} [Decidable condition] {error other : ε} :
    raiseIf condition error = .error other ↔ condition ∧ error = other := by
  unfold raiseIf
  split <;> simp_all

@[simp]
theorem rethrow_eq_ok {caught : ε → Bool} {replacement : ε → ε}
    {computation : Except ε α} {value : α} :
    rethrow caught replacement computation = .ok value ↔
      computation = .ok value := by
  cases computation <;> simp [rethrow]

@[simp]
theorem bind_eq_ok {first : Except ε α} {next : α → Except ε β} {value : β} :
    (first >>= next) = .ok value ↔
      ∃ middle, first = .ok middle ∧ next middle = .ok value := by
  cases first <;> simp [bind, Except.bind]

@[simp]
theorem pure_eq_ok {value result : α} :
    (pure value : Except ε α) = .ok result ↔ value = result := by
  simp [pure, Except.pure]

@[simp]
theorem ok_bind (value : α) (next : α → Except ε β) :
    (Except.ok value >>= next) = next value :=
  rfl

@[simp]
theorem error_bind (error : ε) (next : α → Except ε β) :
    ((Except.error error : Except ε α) >>= next) = .error error :=
  rfl

@[simp]
theorem map_eq_ok {first : Except ε α} {next : α → β} {value : β} :
    (next <$> first) = .ok value ↔
      ∃ middle, first = .ok middle ∧ next middle = value := by
  cases first <;> simp [Functor.map, Except.map]

theorem exists_eq_ok_of_returned {computation : Except ε α} (passes : returned computation = true) :
    ∃ value, computation = .ok value := by
  cases computation with
  | ok value => exact ⟨value, rfl⟩
  | error error => exact absurd passes (by simp [returned])

theorem eq_ok_of_returned {computation : Except ε Unit} (passes : returned computation = true) :
    computation = .ok () :=
  (exists_eq_ok_of_returned passes).choose_spec

/-! ### Postconditions -/

def Returns (post : α → Prop) (computation : Except ε α) : Prop :=
  ∀ value, computation = .ok value → post value

theorem Returns.bind {post : β → Prop} {first : Except ε α} {next : α → Except ε β}
    (rest : ∀ middle, first = .ok middle → Returns post (next middle)) :
    Returns post (first >>= next) := by
  intro value returned
  obtain ⟨middle, firstReturned, restReturned⟩ := bind_eq_ok.mp returned
  exact rest middle firstReturned value restReturned

theorem Returns.pure {post : α → Prop} {value : α} (holds : post value) :
    Returns post (Pure.pure value : Except ε α) := by
  intro result returned
  rw [pure_eq_ok] at returned
  exact returned ▸ holds

/-! ### Loops -/

variable {values : List α} {transform : α → Except ε β} {results : List β}

theorem forM_eq_ok {check : α → Except ε PUnit} :
    forM values check = .ok () ↔ ∀ value ∈ values, check value = .ok () := by
  induction values with
  | nil => simp [pure, Except.pure]
  | cons value values ih =>
    rw [List.forM_cons, bind_eq_ok, List.forall_mem_cons, ih]
    constructor
    · rintro ⟨⟨⟩, passed, rest⟩
      exact ⟨passed, rest⟩
    · rintro ⟨passed, rest⟩
      exact ⟨(), passed, rest⟩

theorem forM_zip_tail_eq_ok {check : α → α → Except ε PUnit} :
    forM (values.zip values.tail) (fun pair => check pair.1 pair.2) = .ok () ↔
      values.IsChain fun first second => check first second = .ok () := by
  induction values with
  | nil => simp [pure, Except.pure]
  | cons value values ih =>
    cases values with
    | nil => simp [pure, Except.pure]
    | cons next values =>
      rw [List.isChain_cons_cons, ← ih, forM_eq_ok, forM_eq_ok]
      simp

theorem mapM_eq_ok :
    values.mapM transform = .ok results ↔
      List.Forall₂ (fun value result => transform value = .ok result) values results := by
  induction values generalizing results with
  | nil =>
    rw [List.mapM_nil, pure_eq_ok, List.forall₂_nil_left_iff, eq_comm]
  | cons value values ih =>
    rw [List.mapM_cons, bind_eq_ok, List.forall₂_cons_left_iff]
    constructor
    · rintro ⟨result, resultEq, rest⟩
      obtain ⟨others, othersEq, shape⟩ := bind_eq_ok.mp rest
      exact ⟨result, others, resultEq, ih.mp othersEq, (pure_eq_ok.mp shape).symm⟩
    · rintro ⟨result, others, resultEq, othersEq, rfl⟩
      exact ⟨result, resultEq,
        bind_eq_ok.mpr ⟨others, ih.mpr othersEq, pure_eq_ok.mpr rfl⟩⟩

theorem exists_right_of_forall₂ {R : α → β → Prop} (related : List.Forall₂ R values results)
    {value : α} (member : value ∈ values) :
    ∃ result ∈ results, R value result := by
  induction related with
  | nil => simp at member
  | @cons first result values results holds _ ih =>
    rcases List.mem_cons.mp member with rfl | later
    · exact ⟨result, by simp, holds⟩
    · obtain ⟨other, otherMember, otherHolds⟩ := ih later
      exact ⟨other, by simp [otherMember], otherHolds⟩

theorem exists_left_of_forall₂ {R : α → β → Prop} (related : List.Forall₂ R values results)
    {result : β} (member : result ∈ results) :
    ∃ value ∈ values, R value result :=
  exists_right_of_forall₂ related.flip member

theorem forall₂_and_mem_right {R : α → β → Prop} (related : List.Forall₂ R values results) :
    List.Forall₂ (fun value result => R value result ∧ result ∈ results) values results := by
  induction related with
  | nil => exact .nil
  | cons holds _ ih =>
    apply List.Forall₂.cons ⟨holds, List.mem_cons_self⟩
    exact ih.imp fun _ _ known => ⟨known.1, List.mem_cons_of_mem _ known.2⟩

theorem mapM_eq_ok_map {result : α → β}
    (all : ∀ value ∈ values, transform value = .ok (result value)) :
    values.mapM transform = .ok (values.map result) := by
  apply mapM_eq_ok.mpr
  rw [List.forall₂_map_right_iff, List.forall₂_same]
  exact all

theorem eq_map_of_mapM_eq_ok {result : α → β} (mapped : values.mapM transform = .ok results)
    (each : ∀ value found, transform value = .ok found → result value = found) :
    results = values.map result := by
  have equal := (mapM_eq_ok.mp mapped).imp each
  rw [← List.forall₂_map_left_iff, List.forall₂_eq_eq_eq] at equal
  exact equal.symm

theorem exists_mapM_eq_ok (all : ∀ value ∈ values, ∃ result, transform value = .ok result) :
    ∃ results, values.mapM transform = .ok results := by
  induction values with
  | nil => exact ⟨[], rfl⟩
  | cons value values ih =>
    obtain ⟨result, resultEq⟩ := all value (by simp)
    obtain ⟨results, resultsEq⟩ := ih fun other member => all other (by simp [member])
    exact ⟨result :: results, by rw [List.mapM_cons, resultEq, ok_bind, resultsEq]; rfl⟩

/-! ### Which errors a computation raises -/

def OnlyRaises (allowed : ε → Prop) (computation : Except ε α) : Prop :=
  ∀ error, computation = .error error → allowed error

namespace OnlyRaises

variable {allowed : ε → Prop}

theorem ok (value : α) : OnlyRaises allowed (.ok value : Except ε α) :=
  fun _ raised => nomatch raised

theorem error {raised : ε} (isAllowed : allowed raised) :
    OnlyRaises allowed (.error raised : Except ε α) := by
  rintro _ ⟨⟩
  exact isAllowed

variable {computation first : Except ε α}

theorem of_eq_ok {value : α} (returned : computation = .ok value) :
    OnlyRaises allowed computation := by
  rw [returned]
  exact ok value

theorem raiseIf {condition : Prop} [Decidable condition] {raised : ε}
    (isAllowed : allowed raised) : OnlyRaises allowed (raiseIf condition raised) := by
  intro other isRaised
  rw [raiseIf_eq_error] at isRaised
  rw [← isRaised.2]
  exact isAllowed

theorem bind_of {next : α → Except ε β} (raises : OnlyRaises allowed first)
    (rest : ∀ value, first = .ok value → OnlyRaises allowed (next value)) :
    OnlyRaises allowed (first >>= next) := by
  cases first with
  | error raised => exact error (raises raised rfl)
  | ok value => exact rest value rfl

theorem bind {next : α → Except ε β} (raises : OnlyRaises allowed first)
    (rest : ∀ value, OnlyRaises allowed (next value)) : OnlyRaises allowed (first >>= next) :=
  raises.bind_of fun value _ => rest value

theorem bind_iff {next : α → Except ε β} :
    OnlyRaises allowed (first >>= next) ↔
      OnlyRaises allowed first ∧
        ∀ value, first = .ok value → OnlyRaises allowed (next value) := by
  constructor
  · intro raises
    constructor
    · intro raised isRaised
      exact raises raised (by rw [isRaised, error_bind])
    · intro value returned
      rwa [returned, ok_bind] at raises
  · rintro ⟨raises, rest⟩
    exact raises.bind_of rest

theorem bind_iff_of {next : α → Except ε β} (raises : OnlyRaises allowed first) :
    OnlyRaises allowed (first >>= next) ↔
      ∀ value, first = .ok value → OnlyRaises allowed (next value) := by
  rw [bind_iff]
  exact and_iff_right raises

theorem bind_iff_left {next : α → Except ε β}
    (rest : ∀ value, first = .ok value → OnlyRaises allowed (next value)) :
    OnlyRaises allowed (first >>= next) ↔ OnlyRaises allowed first := by
  rw [bind_iff]
  exact and_iff_left rest

theorem imp {other : ε → Prop} (raises : OnlyRaises allowed computation)
    (implied : ∀ raised, allowed raised → other raised) : OnlyRaises other computation :=
  fun raised isRaised => implied raised (raises raised isRaised)

theorem rethrow {replacement : ε → ε} (isAllowed : ∀ raised, allowed (replacement raised)) :
    OnlyRaises allowed (rethrow (fun _ => true) replacement computation) := by
  cases computation with
  | ok value => exact ok value
  | error raised => exact error (isAllowed raised)

theorem forM {check : α → Except ε PUnit} {values : List α}
    (all : ∀ value ∈ values, OnlyRaises allowed (check value)) :
    OnlyRaises allowed (forM values check) := by
  induction values with
  | nil => exact ok _
  | cons value values ih =>
    rw [List.forM_cons]
    exact (all value (by simp)).bind fun _ => ih fun other member => all other (by simp [member])

theorem mapM {transform : α → Except ε β} {values : List α}
    (all : ∀ value ∈ values, OnlyRaises allowed (transform value)) :
    OnlyRaises allowed (values.mapM transform) := by
  induction values with
  | nil => exact ok _
  | cons value values ih =>
    rw [List.mapM_cons]
    apply (all value (by simp)).bind
    intro result
    exact (ih fun other member => all other (by simp [member])).bind fun _ => ok _

end OnlyRaises

end PyLib
