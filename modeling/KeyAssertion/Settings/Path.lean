import KeyAssertion.Record.Fault

/-
  This file defines the normal form of file paths: no empty
  segments and no segments of one point.  A path may begin at
  the root, which is one slash or exactly two.

  Key definitions include:
    * `Settings.normalPath`
    * `Settings.path`
-/

namespace KeyAssertion

namespace Settings

/- The root that a path begins at. -/
def pathRoot (cs : List Char) : String :=
  match (cs.takeWhile (· == '/')).length with
  | 0 => ""
  | 2 => "//"
  | _ => "/"

/- The segments that count. -/
def pathSegments (cs : List Char) : List String :=
  ((String.ofList cs).splitOn "/").filter fun s => s != "" && s != "."

/- A path in its normal form. -/
def normalPath (s : String) : String :=
  let root := pathRoot s.toList
  let segments := pathSegments s.toList
  if root = "" && segments.isEmpty then
    "."
  else
    root ++ String.intercalate "/" segments

/- The path that a value stands for. -/
def path : Json → Except FieldProblem String
  | .string s => .ok (normalPath s.toText)
  | _ => .error .pathType

end Settings

end KeyAssertion
