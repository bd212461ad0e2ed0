import KeyAssertion.Number.Shortest
import KeyAssertion.Text.Quoted

/-
  This file defines JSON values.  Whole numbers are exact,
  other numbers are 64-bit floating-point numbers, and a
  string may hold surrogates that stand alone, which no
  `String` can.

  Key definitions include:
    * `JsonString`
    * `Json`
    * `Json.member?`
    * `Json.isTruthy`
    * `Json.display`

  Key statements include:
    * `JsonObject.member?_set_self`
    * `JsonObject.member?_set_of_ne`
-/

namespace KeyAssertion

------------------------------------------------------------
-- Strings
------------------------------------------------------------

namespace JsonString

/- Whether a number is the code point of a character. -/
def isScalar (c : Nat) : Bool :=
  c < 0xd800 || (0xdfff < c && c < 0x110000)

/- Whether a code point is the first of a surrogate pair. -/
def isHighSurrogate (u : Nat) : Bool :=
  0xd800 ≤ u && u ≤ 0xdbff

/- Whether a code point is the second of a surrogate pair. -/
def isLowSurrogate (u : Nat) : Bool :=
  0xdc00 ≤ u && u ≤ 0xdfff

/- The code point of a surrogate pair. -/
def joinSurrogates (high low : Nat) : Nat :=
  0x10000 + (high - 0xd800) * 0x400 + (low - 0xdc00)

/- The code points, those of a surrogate pair replaced by its own. -/
def joinPairs : List Nat → List Nat
  | high :: low :: rest =>
      if isHighSurrogate high && isLowSurrogate low then
        joinSurrogates high low :: joinPairs rest
      else
        high :: joinPairs (low :: rest)
  | points => points

/- Whether there is no surrogate pair among the code points. -/
def isJoined : List Nat → Bool
  | high :: low :: rest =>
      !(isHighSurrogate high && isLowSurrogate low)
        && isJoined (low :: rest)
  | _ => true

/- Whether there are surrogates among the code points, each alone. -/
def isBroken (points : List Nat) : Bool :=
  points.all (· < 0x110000) && !points.all isScalar && isJoined points

end JsonString

/-
  The string of a JSON text: well-formed, or else the list of
  its code points, some of which are surrogates.  A JSON text
  cannot tell a surrogate pair from the character it is for,
  so no string has one.
-/
inductive JsonString
  | text (s : String)
  | broken (points : List Nat) (h : JsonString.isBroken points = true)
deriving DecidableEq, Repr, Inhabited

namespace JsonString

/- The string of a list of code points. -/
def ofPoints (points : List Nat) : JsonString :=
  let joined := joinPairs points
  if h : isBroken joined = true then
    .broken joined h
  else
    .text (String.ofList (joined.map Char.ofNat))

/- Well-formed strings are told apart by their texts. -/
theorem text_beq_text (a b : String) :
    (text a == text b) = (a == b) := by
  rw [Bool.eq_iff_iff, beq_iff_eq, beq_iff_eq, text.injEq]

/- The code points of a string. -/
def points : JsonString → List Nat
  | .text s => s.toList.map Char.toNat
  | .broken ps _ => ps

/- The string as characters, each lone surrogate replaced. -/
def toText : JsonString → String
  | .text s => s
  | .broken ps _ =>
      String.ofList (ps.map fun c =>
        if isScalar c then Char.ofNat c else Char.ofNat 0xfffd)

/- The text of a string that is well-formed. -/
def text? : JsonString → Option String
  | .text s => some s
  | .broken _ _ => none

/- Whether a string has no characters. -/
def isEmpty : JsonString → Bool
  | .text s => s.isEmpty
  | .broken ps _ => ps.isEmpty

/- Whether one list of code points comes before another. -/
def pointsBefore : List Nat → List Nat → Bool
  | [], [] => false
  | [], _ :: _ => true
  | _ :: _, [] => false
  | a :: as, b :: bs =>
      if a = b then pointsBefore as bs else a < b

/- Whether a string comes before another by code points. -/
def before (s t : JsonString) : Bool :=
  pointsBefore s.points t.points

end JsonString

------------------------------------------------------------
-- Values
------------------------------------------------------------

/-
  A JSON value.  The members of an object are in the order in
  which their names first occurred, each name once.
-/
inductive Json
  | null
  | bool (b : Bool)
  | integer (n : Int)
  | real (x : Binary64)
  | string (s : JsonString)
  | array (items : List Json)
  | object (members : List (JsonString × Json))
deriving Repr, Inhabited

/- The members of an object. -/
abbrev JsonObject :=
  List (JsonString × Json)

namespace Json

/- A well-formed string as a value. -/
def text (s : String) : Json :=
  .string (.text s)

/- A string, or null when there is none. -/
def string? : Option JsonString → Json
  | some s => .string s
  | none => .null

/- A well-formed string, or null when there is none. -/
def text? (s? : Option String) : Json :=
  string? (s?.map .text)

/- Whether a value counts as present: not null, false, zero or empty. -/
def isTruthy : Json → Bool
  | .null => false
  | .bool b => b
  | .integer n => n != 0
  | .real x => !x.isZero
  | .string s => !s.isEmpty
  | .array items => !items.isEmpty
  | .object members => !members.isEmpty

end Json

namespace JsonObject

/- The value of a member. -/
def member?
    (members : JsonObject)
    (name : String) : Option Json :=
  (members.find? fun m => m.1 == .text name).map (·.2)

/- The value of a member, null when it is absent. -/
def memberOrNull
    (members : JsonObject)
    (name : String) : Json :=
  (member? members name).getD .null

/-
  Set a member: a name that is there keeps its place and takes
  the new value, a new name comes last.
-/
def set
    (members : JsonObject)
    (name : JsonString)
    (value : Json) : JsonObject :=
  if members.any fun m => m.1 == name then
    members.map fun m => if m.1 == name then (name, value) else m
  else
    members ++ [(name, value)]

/- The first member of a name is the one found. -/
theorem member?_cons
    (m : JsonString × Json)
    (rest : JsonObject)
    (name : String) :
    member? (m :: rest) name =
      if m.1 = .text name then some m.2 else member? rest name := by
  by_cases h : m.1 = .text name <;> simp [member?, h]

/- The value set is the one found. -/
theorem member?_set_self
    (members : JsonObject)
    (name : String)
    (value : Json) :
    member? (set members (.text name) value) name = some value := by
  unfold set
  split
  case isTrue h =>
    induction members with
    | nil => simp at h
    | cons m rest ih =>
        by_cases hm : m.1 = .text name
        · simp [member?_cons, hm]
        · have hRest : rest.any (fun m => m.1 == .text name) := by
            simpa [hm] using h
          rw [List.map_cons, member?_cons]
          simpa [hm] using ih hRest
  case isFalse h =>
    induction members with
    | nil => simp [member?]
    | cons m rest ih =>
        have hm : m.1 ≠ .text name ∧
            ¬ rest.any (fun m => m.1 == .text name) = true := by
          simpa using h
        rw [List.cons_append, member?_cons, if_neg hm.1, ih hm.2]

/- The other members are found as before. -/
theorem member?_set_of_ne
    (members : JsonObject)
    (name : JsonString)
    (other : String)
    (value : Json)
    (h : name ≠ .text other) :
    member? (set members name value) other =
      member? members other := by
  unfold set
  split
  case isTrue hAny =>
    clear hAny
    induction members with
    | nil => rfl
    | cons m rest ih =>
        rw [List.map_cons, member?_cons, member?_cons, ih]
        by_cases hm : m.1 = name
        · simp [hm, h]
        · simp [hm]
  case isFalse hAny =>
    clear hAny
    induction members with
    | nil => simp [member?, h]
    | cons m rest ih =>
        rw [List.cons_append, member?_cons, member?_cons, ih]

/- An object with well-formed names. -/
def ofTexts (members : List (String × Json)) : JsonObject :=
  members.map fun (name, value) => (.text name, value)

end JsonObject

------------------------------------------------------------
-- Display
------------------------------------------------------------

namespace Json

mutual

/- A value inside a displayed list or object, strings quoted. -/
def displayInner : Json → String
  | .null => "None"
  | .bool true => "True"
  | .bool false => "False"
  | .integer n => Text.signedDecimal n
  | .real x => x.toText
  | .string s => Text.quotedPoints s.points
  | .array items => "[" ++ displayItems items ++ "]"
  | .object members => "\x7b" ++ displayMembers members ++ "\x7d"

/- The displayed items of a list, between commas. -/
def displayItems : List Json → String
  | [] => ""
  | [v] => displayInner v
  | v :: rest => displayInner v ++ ", " ++ displayItems rest

/- The displayed members of an object, between commas. -/
def displayMembers : List (JsonString × Json) → String
  | [] => ""
  | [(k, v)] => Text.quotedPoints k.points ++ ": " ++ displayInner v
  | (k, v) :: rest =>
      Text.quotedPoints k.points ++ ": " ++ displayInner v ++ ", "
        ++ displayMembers rest

end

/- A value as messages show it; a string stands as it is. -/
def display : Json → String
  | .string s => s.toText
  | v => displayInner v

end Json

end KeyAssertion
