/-
ParameterDeclaration of the OpenSCENARIO interpreter (openscenario_interpreter's ParameterDeclaration members, which
scenario_runner/syntax/storyboard.hpp holds after struct Storyboard). A declaration binds its name in the scope to its
value read as its type, once its name and its constraint groups accept it.

- `ParameterType`, `ObjectType`: the seven parameter types, and the type make<T> builds for each (DATE_TIME is kept
  as a String).
- `Interpreter`: what the declaration calls from other parts of openscenario_interpreter (make<T>(value),
  ConstraintGroup::evaluate, the operator<< of an Object and Scope::insert), parameters of the model.
- `checkName`, `castValueByParameterType`, `checkValue`, `evaluate` as the source has them; `declare` is the
  constructor that takes a Scope, scope.insert(checkName(name), evaluate()), whose two arguments C++ evaluates in an
  unspecified order (`ArgumentOrder`). The message evaluate prints to std::cout before it throws is not modelled.

Results:
- `checkValue_eq_ok`: checkValue is true with no constraint group and otherwise reads the value and asks the groups
  in turn; any_of over no group would be false.
- `evaluate_eq_ok_iff`: evaluate returns the value read as its type exactly when there is no constraint group or one
  accepts it.
- `declare_eq_ok_iff`: in either order of evaluation, the constructor succeeds iff the declaration is `Admissible`:
  its name does not start with "OSC", its value reads as its type, and no constraint group is given or one accepts
  the value; the scope is then the old one with the name bound to that value. Names with whitespace, '$' or quotes
  pass: the throw of that check is commented out.
-/
import Mathlib

namespace ScenarioSimulator.OpenscenarioInterpreter

/-- ParameterType -/
inductive ParameterType where
  | boolean
  | dateTime
  | double
  | integer
  | string
  | unsignedInt
  | unsignedShort
deriving DecidableEq, Repr

/-- the types castValueByParameterType makes -/
inductive ObjectType where
  | boolean
  | string
  | double
  | integer
  | unsignedInt
  | unsignedShort
deriving DecidableEq, Repr

/-- the members of ParameterDeclaration: name, parameter_type, value and constraint_groups -/
structure ParameterDeclaration (G : Type) where
  name : String
  parameterType : ParameterType
  value : String
  constraintGroups : List G

/-- what a declaration throws: SyntaxError, common::Error, or what make<T> throws on a value it cannot read -/
inductive DeclarationError (ε : Type) where
  | syntaxError (msg : String)
  | error (msg : String)
  | make (e : ε)
deriving DecidableEq, Repr

/-- the interpreter's calls that the declaration makes, from object.hpp, constraint_group.hpp and scope.hpp -/
structure Interpreter (G O S ε : Type) where
  /-- make<T>(value) for the type T: the value's text read as a T -/
  make : ObjectType → String → Except ε O
  /-- ConstraintGroup::evaluate(object) -/
  evaluateGroup : G → O → Bool
  /-- operator<< of an Object -/
  print : O → String
  /-- Scope::insert(name, object) -/
  insert : S → String → O → S

variable {G O S ε : Type}

/-- the includes lambda of checkName: one of chars occurs in name -/
def includes (name : String) (chars : List Char) : Bool := chars.any fun each => name.contains each

/-- checkName: a name whose first three characters are "OSC" throws a SyntaxError; a name with whitespace, a dollar
sign or a quote (the characters of the string below) is returned like any other, its throw commented out -/
def checkName (name : String) : Except (DeclarationError ε) String :=
  if name.take 3 = "OSC" then
    throw (.syntaxError ("Parameter names starting with \"OSC\" are reserved for special use in future versions " ++
      "of OpenSCENARIO. Generally, it is forbidden to use the OSC prefix."))
  else if includes name " $'\"".toList then pure name
  else pure name

/-- the type make<T> builds for each parameter type; the switch names all seven, so its default is never taken -/
def ParameterType.objectType : ParameterType → ObjectType
  | .boolean => .boolean
  | .dateTime => .string
  | .double => .double
  | .integer => .integer
  | .string => .string
  | .unsignedInt => .unsignedInt
  | .unsignedShort => .unsignedShort

section Declaration

variable (I : Interpreter G O S ε) (d : ParameterDeclaration G)

/-- ParameterDeclaration::castValueByParameterType -/
def castValueByParameterType : Except (DeclarationError ε) O :=
  (I.make d.parameterType.objectType d.value).mapError .make

/-- ParameterDeclaration::checkValue: true with no constraint group, otherwise any_of over the groups, which reads
the value again for each group it asks -/
def checkValue : Except (DeclarationError ε) Bool :=
  if d.constraintGroups.isEmpty then pure true
  else d.constraintGroups.anyM fun constraint_group => do
    let object ← castValueByParameterType I d
    pure (I.evaluateGroup constraint_group object)

/-- ParameterDeclaration::evaluate: the value read as its type, or a common::Error naming the declaration -/
def evaluate : Except (DeclarationError ε) O := do
  if ← checkValue I d then castValueByParameterType I d
  else
    let object ← castValueByParameterType I d
    throw (.error ("\x1b[1;31mParameter is not suit for constraints. name : " ++ d.name ++ ", value : " ++
      I.print object ++ "\x1b[0m"))

/-- the order in which C++ evaluates the two arguments of a call, which the standard leaves unspecified -/
inductive ArgumentOrder where
  | leftToRight
  | rightToLeft
deriving DecidableEq, Repr

/-- ParameterDeclaration(message, scope): scope.insert(checkName(name), evaluate()), the arguments evaluated in the
given order -/
def declare (order : ArgumentOrder) (scope : S) : Except (DeclarationError ε) S :=
  match order with
  | .leftToRight => do
    let name ← checkName d.name
    let object ← evaluate I d
    pure (I.insert scope name object)
  | .rightToLeft => do
    let object ← evaluate I d
    let name ← checkName d.name
    pure (I.insert scope name object)

/-- ParameterDeclaration(message): the name checked, nothing inserted -/
def ofMessage : Except (DeclarationError ε) (ParameterDeclaration G) := do
  let _ ← checkName (ε := ε) d.name
  pure d

/-- when a declaration enters the scope, bound to `object` -/
structure Admissible (object : O) : Prop where
  name_not_reserved : d.name.take 3 ≠ "OSC"
  cast : castValueByParameterType I d = .ok object
  accepted : d.constraintGroups = [] ∨ ∃ g ∈ d.constraintGroups, I.evaluateGroup g object = true

theorem bind_eq_ok {α β : Type} {x : Except (DeclarationError ε) α} {f : α → Except (DeclarationError ε) β} {b : β} :
    x >>= f = .ok b ↔ ∃ a, x = .ok a ∧ f a = .ok b := by
  cases x <;> simp [bind, Except.bind]

theorem checkName_eq_ok {name n : String} :
    checkName (ε := ε) name = .ok n ↔ name.take 3 ≠ "OSC" ∧ n = name := by
  unfold checkName
  split_ifs with h <;> simp [h, throw, throwThe, MonadExceptOf.throw, pure, Except.pure, eq_comm]

/-- any_of over the groups when each asks the same read of the value -/
theorem anyM_read {x : Except (DeclarationError ε) O} {p : G → O → Bool} :
    ∀ {l : List G}, l ≠ [] →
      l.anyM (fun g => x >>= fun object => pure (p g object)) = x >>= fun object => pure (l.any (p · object))
  | [g], _ => by
    cases x with
    | error e => rfl
    | ok o => cases h : p g o <;> simp [List.anyM, bind, Except.bind, pure, Except.pure, h]
  | g :: g' :: l, _ => by
    rw [List.anyM, anyM_read (List.cons_ne_nil g' l)]
    cases x with
    | error e => rfl
    | ok o => cases h : p g o <;> simp [bind, Except.bind, pure, Except.pure, h]

theorem checkValue_nil (h : d.constraintGroups = []) : checkValue I d = pure true := by
  simp [checkValue, h]

/-- with constraint groups, checkValue reads the value and asks the groups in turn -/
theorem checkValue_eq_ok (h : d.constraintGroups ≠ []) :
    checkValue I d = castValueByParameterType I d >>= fun object =>
      pure (d.constraintGroups.any (I.evaluateGroup · object)) := by
  rw [checkValue, if_neg (by simpa [List.isEmpty_iff] using h)]
  exact anyM_read h

/-- evaluate returns the value read as its type exactly when no group is given or one accepts it -/
theorem evaluate_eq_ok_iff {object : O} :
    evaluate I d = .ok object ↔ castValueByParameterType I d = .ok object ∧
      (d.constraintGroups = [] ∨ ∃ g ∈ d.constraintGroups, I.evaluateGroup g object = true) := by
  unfold evaluate
  by_cases h : d.constraintGroups = []
  · simp [checkValue_nil I d h, h, bind, Except.bind, pure, Except.pure]
  rw [checkValue_eq_ok I d h]
  cases hc : castValueByParameterType I d with
  | error e => simp [bind, Except.bind]
  | ok o =>
    by_cases hany : d.constraintGroups.any (I.evaluateGroup · o) = true
    · simp only [bind, Except.bind, pure, Except.pure, hany, if_true, Except.ok.injEq, h, false_or]
      constructor
      · rintro rfl
        exact ⟨rfl, List.any_eq_true.mp hany⟩
      · exact fun h' => h'.1
    · simp only [bind, Except.bind, pure, Except.pure, hany, Bool.false_eq_true, if_false, throw, throwThe,
        MonadExceptOf.throw, Except.ok.injEq, h, false_or, reduceCtorEq, false_iff, not_and]
      rintro rfl hg
      exact hany (List.any_eq_true.mpr hg)

/-- in either order of evaluation, a declaration enters the scope iff it is admissible, bound to its value -/
theorem declare_eq_ok_iff (order : ArgumentOrder) (scope scope' : S) :
    declare I d order scope = .ok scope' ↔ ∃ object, Admissible I d object ∧ scope' = I.insert scope d.name object := by
  have hadm : ∀ object, Admissible I d object ↔ d.name.take 3 ≠ "OSC" ∧ evaluate I d = .ok object := fun object => by
    rw [evaluate_eq_ok_iff]
    exact ⟨fun h => ⟨h.1, h.2, h.3⟩, fun h => ⟨h.1, h.2.1, h.2.2⟩⟩
  simp only [hadm]
  cases order <;> simp only [declare, bind_eq_ok, checkName_eq_ok, pure, Except.pure, Except.ok.injEq] <;>
    constructor
  · rintro ⟨n, ⟨hn, rfl⟩, o, ho, rfl⟩
    exact ⟨o, ⟨hn, ho⟩, rfl⟩
  · rintro ⟨o, ⟨hn, ho⟩, rfl⟩
    exact ⟨_, ⟨hn, rfl⟩, o, ho, rfl⟩
  · rintro ⟨o, ho, n, ⟨hn, rfl⟩, rfl⟩
    exact ⟨o, ⟨hn, ho⟩, rfl⟩
  · rintro ⟨o, ⟨hn, ho⟩, rfl⟩
    exact ⟨o, ho, _, ⟨hn, rfl⟩, rfl⟩

end Declaration

end ScenarioSimulator.OpenscenarioInterpreter
