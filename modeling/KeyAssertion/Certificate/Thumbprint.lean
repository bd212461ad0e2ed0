import KeyAssertion.Text.Blank
import KeyAssertion.Text.Uppercase

/-
  This file defines the normal spelling of certificate
  thumbprints.

  Key definitions include:
    * `Thumbprint.normalize`
-/

namespace KeyAssertion

namespace Thumbprint

/- A thumbprint without blanks and in upper case. -/
def normalize (s : String) : String :=
  Text.upper (Text.withoutBlanks s)

end Thumbprint

end KeyAssertion
