import KeyAssertion.Certificate.Handle
import KeyAssertion.Settings.Path
import KeyAssertion.Settings.Source

/-
  This file defines the settings of certificate stores.

  Key definitions include:
    * `StoreSettings`
    * `StoreSettings.load`
    * `StoreSettings.pathFor`
-/

namespace KeyAssertion

/- The scope of the store and the directory of each scope. -/
structure StoreSettings where
  location : StoreLocation := .currentUser
  currentUserPath : String
  localMachinePath : String := "/etc/clientauth/certs"
deriving DecidableEq, Repr

namespace StoreSettings

/- How the variables of these settings begin. -/
def namePrefix : String :=
  "CLIENTAUTH_CERT_"

/- The names of the fields. -/
def fields : List String :=
  ["store_location", "current_user_path", "local_machine_path"]

/- The settings without any values, for a home directory. -/
def standard (home : String) : StoreSettings :=
  { currentUserPath :=
      Settings.normalPath (home ++ "/.clientauth/certs") }

/- The scope that a value stands for. -/
def locationOf : Json → Except FieldProblem StoreLocation
  | .string (.text s) =>
      match StoreLocation.ofName? s with
      | some l => .ok l
      | none => .error .notInEnum
  | _ => .error .notInEnum

/- The settings of an environment and arguments. -/
def load
    (home : String)
    (env : Settings.Environment)
    (init : JsonObject) : Except Settings.Error StoreSettings :=
  let base := standard home
  let value (name : String) : Option Json :=
    Settings.merge (Settings.plainValue? env namePrefix name)
      (init.member? name)
  let location := Settings.field "store_location"
    (value "store_location") base.location locationOf
  let currentUser := Settings.field "current_user_path"
    (value "current_user_path") base.currentUserPath Settings.path
  let localMachine := Settings.field "local_machine_path"
    (value "local_machine_path") base.localMachinePath Settings.path
  let record : Except FieldFault StoreSettings := do
    return ⟨← location, ← currentUser, ← localMachine⟩
  Settings.collect record
    (Field.fault? location ++ Field.fault? currentUser
      ++ Field.fault? localMachine ++ Settings.extraFaults fields init)

/- The directory of a scope. -/
def pathFor
    (s : StoreSettings)
    (location : StoreLocation) : String :=
  match location with
  | .currentUser => s.currentUserPath
  | .localMachine => s.localMachinePath

end StoreSettings

end KeyAssertion
