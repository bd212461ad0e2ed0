import KeyAssertion.Json.Value

/-
  This file defines what can be wrong with the fields of a
  record that is read from named values.

  Key definitions include:
    * `FieldProblem`
    * `FieldFault`
    * `FieldFault.sort`
    * `Field.text`
    * `Field.text?`
    * `Field.string?`
-/

namespace KeyAssertion

/- What is wrong with one field. -/
inductive FieldProblem
  | missing
  | stringType
  | stringUnicode
  | intType
  | intParsing
  | intParsingSize
  | intFromFloat
  | finiteNumber
  | floatType
  | floatParsing
  | greaterThanEqual
  | greaterThan
  | dictType
  | notInEnum
  | pathType
  | extraForbidden
deriving DecidableEq, Repr

/- The code of a problem. -/
def FieldProblem.code : FieldProblem → String
  | .missing => "missing"
  | .stringType => "string_type"
  | .stringUnicode => "string_unicode"
  | .intType => "int_type"
  | .intParsing => "int_parsing"
  | .intParsingSize => "int_parsing_size"
  | .intFromFloat => "int_from_float"
  | .finiteNumber => "finite_number"
  | .floatType => "float_type"
  | .floatParsing => "float_parsing"
  | .greaterThanEqual => "greater_than_equal"
  | .greaterThan => "greater_than"
  | .dictType => "dict_type"
  | .notInEnum => "enum"
  | .pathType => "path_type"
  | .extraForbidden => "extra_forbidden"

/- A problem and the place of the field, outermost name first. -/
structure FieldFault where
  path : List String
  problem : FieldProblem
deriving DecidableEq, Repr

namespace FieldFault

/- The place as one text. -/
def location (f : FieldFault) : String :=
  String.intercalate "/" f.path

/- Whether a fault comes before another: by place, then by code. -/
def before (f g : FieldFault) : Bool :=
  f.location < g.location
    || (f.location == g.location && f.problem.code < g.problem.code)

/- Put a fault into a list in order. -/
def insert (f : FieldFault) : List FieldFault → List FieldFault
  | [] => [f]
  | g :: rest => if f.before g then f :: g :: rest else g :: insert f rest

/- Faults in order. -/
def sort (faults : List FieldFault) : List FieldFault :=
  faults.foldr insert []

end FieldFault

namespace Field

/- A text that must be there, unless it has a default. -/
def text
    (members : JsonObject)
    (name : String)
    (default? : Option String := none) :
    Except FieldFault String :=
  match members.member? name with
  | some (.string (.text s)) => .ok s
  | some (.string (.broken _ _)) => .error ⟨[name], .stringUnicode⟩
  | some _ => .error ⟨[name], .stringType⟩
  | none =>
      match default? with
      | some s => .ok s
      | none => .error ⟨[name], .missing⟩

/- A text that may be absent or null. -/
def text?
    (members : JsonObject)
    (name : String) : Except FieldFault (Option String) :=
  match members.member? name with
  | some (.string (.text s)) => .ok (some s)
  | some (.string (.broken _ _)) => .error ⟨[name], .stringUnicode⟩
  | some .null => .ok none
  | some _ => .error ⟨[name], .stringType⟩
  | none => .ok none

/- A string of any kind that may be absent or null. -/
def string?
    (members : JsonObject)
    (name : String) : Except FieldFault (Option JsonString) :=
  match members.memberOrNull name with
  | .string s => .ok (some s)
  | .null => .ok none
  | _ => .error ⟨[name], .stringType⟩

/- The fault of a field that was read. -/
def fault?
    {α : Type}
    (r : Except FieldFault α) : List FieldFault :=
  match r with
  | .ok _ => []
  | .error f => [f]

end Field

end KeyAssertion
