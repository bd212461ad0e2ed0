import KeyAssertion.Settings.Number
import KeyAssertion.Settings.Source

/-
  This file defines the settings of client assertions.

  Key definitions include:
    * `AssertionSettings`
    * `AssertionSettings.load`
-/

namespace KeyAssertion

/- The lifetime of assertions. -/
structure AssertionSettings where
  expirationSeconds : Int := 10
deriving DecidableEq, Repr, Inhabited

namespace AssertionSettings

/- How the variables of these settings begin. -/
def namePrefix : String :=
  "CLIENTAUTH_ASSERTION_"

/- The names of the fields. -/
def fields : List String :=
  ["expiration_seconds"]

/- The settings of an environment and arguments. -/
def load
    (env : Settings.Environment)
    (init : JsonObject) : Except Settings.Error AssertionSettings :=
  let standard : AssertionSettings := {}
  let value := Settings.merge
    (Settings.plainValue? env namePrefix "expiration_seconds")
    (init.member? "expiration_seconds")
  let expiration := Settings.field "expiration_seconds" value
    standard.expirationSeconds Settings.natural
  let record : Except FieldFault AssertionSettings := do
    return ⟨← expiration⟩
  Settings.collect record
    (Field.fault? expiration ++ Settings.extraFaults fields init)

end AssertionSettings

end KeyAssertion
