import KeyAssertion.Json.Reader
import KeyAssertion.Record.Fault

/-
  This file defines where the values of settings come from:
  variables of the environment, whose names are compared
  without regard to case, and arguments, which win over them.

  Key definitions include:
    * `Settings.Error`
    * `Settings.Environment`
    * `Settings.plainValue?`
    * `Settings.mapValue`
    * `Settings.merge`
    * `Settings.field`
    * `Settings.extraFaults`
-/

namespace KeyAssertion

namespace Settings

/- Why settings cannot be had. -/
inductive Error
  | invalid (faults : List FieldFault)
  | unreadable (field : String)
  | tooDeep
deriving DecidableEq, Repr

/- The wording of an error. -/
def Error.message : Error → String
  | .unreadable field =>
      "error parsing value for field \"" ++ field
        ++ "\" from source \"EnvSettingsSource\""
  | _ => ""

/- The variables of an environment, each name with its value. -/
abbrev Environment :=
  List (String × String)

/- A name in lower case. -/
def lowerName (s : String) : String :=
  String.ofList (s.toList.map Char.toLower)

/- The value of a variable; of names that differ in case the last wins. -/
def lookup?
    (env : Environment)
    (name : String) : Option String :=
  (env.reverse.find? fun v => lowerName v.1 == lowerName name).map (·.2)

/- The value of a field that is set by its text. -/
def plainValue?
    (env : Environment)
    (namePrefix : String)
    (field : String) : Option Json :=
  (lookup? env (namePrefix ++ field)).map Json.text

/- The value of a field that is set by a JSON text, null counting as unset. -/
def mapValue
    (env : Environment)
    (namePrefix : String)
    (field : String) : Except Error (Option Json) :=
  match lookup? env (namePrefix ++ field) with
  | none => .ok none
  | some s =>
      match Json.read s with
      | .ok .null => .ok none
      | .ok v => .ok (some v)
      | .error .tooDeep => .error .tooDeep
      | .error _ => .error (.unreadable field)

/- The value of a field from both sources; two objects are merged. -/
def merge
    (fromEnv fromInit : Option Json) : Option Json :=
  match fromEnv, fromInit with
  | some (.object a), some (.object b) =>
      some (.object (b.foldl (fun m x => JsonObject.set m x.1 x.2) a))
  | _, some v => some v
  | v, none => v

/- The value of a field, or its default when it is not set. -/
def field
    {α : Type}
    (name : String)
    (value? : Option Json)
    (default : α)
    (read : Json → Except FieldProblem α) : Except FieldFault α :=
  match value? with
  | none => .ok default
  | some v => (read v).mapError fun p => ⟨[name], p⟩

/- The faults of arguments whose names are no fields. -/
def extraFaults
    (fields : List String)
    (init : JsonObject) : List FieldFault :=
  (init.filter fun m => !fields.contains m.1.toText).map fun m =>
    ⟨[m.1.toText], .extraForbidden⟩

/- A record of fields, or all faults in order. -/
def collect
    {α : Type}
    (record : Except FieldFault α)
    (faults : List FieldFault) : Except Error α :=
  match record with
  | .error _ => .error (.invalid (FieldFault.sort faults))
  | .ok r =>
      if faults.isEmpty then
        .ok r
      else
        .error (.invalid (FieldFault.sort faults))

end Settings

end KeyAssertion
