import KeyAssertion.Json.Reader
import KeyAssertion.Proofs.Json.Text

/-
  JSON texts that are read as the values they were written
  from, whatever stands between items and after names, as long
  as it is a separator and spaces.

  Key definitions include:
    * `Json.Style.IsPlain`
    * `Json.Readable`
    * `Json.Machine.Takes`

  Key theorems include:
    * `Json.closeObject_of_nodup`
    * `Json.takes_value`
    * `Json.read_write`
    * `Json.read_write_longInteger`
-/

namespace KeyAssertion

namespace Json

------------------------------------------------------------
-- Runs of the Machine
------------------------------------------------------------

/- Spaces before a token are passed over. -/
theorem nextToken_spaces
    {spaces : List Char}
    (h : ∀ c ∈ spaces, isSpace c = true)
    (cs : List Char) :
    nextToken (spaces ++ cs) = nextToken cs := by
  unfold nextToken
  rw [List.dropWhile_append_of_pos h]

namespace Machine

/-
  Whether the machine, reading some characters before the
  rest, takes in a token for each at most and ends in another
  state, however much fuel is left.
-/
def Takes
    (m : Machine)
    (cs rest : List Char)
    (m' : Machine) : Prop :=
  ∃ k, k ≤ cs.length ∧
    ∀ fuel, run (k + fuel) m (cs ++ rest) = run fuel m' rest

variable {m m' m'' : Machine} {cs ds rest : List Char}

/- The characters of one token are taken by one step. -/
theorem Takes.token
    {t : Token}
    (hSome : cs ≠ [])
    (hNext : nextToken (cs ++ rest) = some (t, rest))
    (hStep : m.step t = .ok m') :
    m.Takes cs rest m' := by
  have hLength := List.length_pos_iff.mpr hSome
  refine ⟨1, hLength, ?_⟩
  intro fuel
  rw [Nat.add_comm, run, hNext]
  simp only [hStep]

/- What is taken one after the other is taken together. -/
theorem Takes.append
    (hFirst : m.Takes cs (ds ++ rest) m')
    (hSecond : m'.Takes ds rest m'') :
    m.Takes (cs ++ ds) rest m'' := by
  rcases hFirst with ⟨j, hj, hFirst⟩
  rcases hSecond with ⟨k, hk, hSecond⟩
  refine ⟨j + k, ?_, ?_⟩
  · rw [List.length_append]
    omega
  · intro fuel
    rw [Nat.add_assoc, List.append_assoc, hFirst, hSecond]

/- Spaces make no difference to the machine. -/
theorem run_spaces
    {spaces : List Char}
    (hSpaces : ∀ c ∈ spaces, isSpace c = true)
    (fuel : Nat)
    (m : Machine)
    (cs : List Char) :
    run fuel m (spaces ++ cs) = run fuel m cs := by
  cases fuel with
  | zero => rfl
  | succ fuel => rw [run, run, nextToken_spaces hSpaces]

/- Spaces may stand after what is taken. -/
theorem Takes.spaces
    {spaces : List Char}
    (hSpaces : ∀ c ∈ spaces, isSpace c = true)
    (h : m.Takes cs (spaces ++ rest) m') :
    m.Takes (cs ++ spaces) rest m' := by
  rcases h with ⟨k, hk, h⟩
  refine ⟨k, ?_, ?_⟩
  · rw [List.length_append]
    omega
  · intro fuel
    rw [List.append_assoc, h, run_spaces hSpaces]

/- A text that is taken as a whole is read as the value it leaves. -/
theorem Takes.run_eq
    {v : Json}
    (h : m.Takes cs [] ⟨[], .after v⟩) :
    run cs.length m cs = .ok v := by
  rcases h with ⟨k, hk, h⟩
  have hRun := h (cs.length - k)
  rw [List.append_nil, Nat.add_sub_cancel' hk] at hRun
  rw [hRun]
  cases cs.length - k with
  | zero => rfl
  | succ left => rfl

/- A text is given up at a token after what is taken, if it is an error. -/
theorem Takes.run_eq_error
    {t : Token}
    {rest' : List Char}
    {e : ReadError}
    (h : m.Takes cs rest m')
    (hSome : rest ≠ [])
    (hNext : nextToken rest = some (t, rest'))
    (hStep : m'.step t = .error e) :
    run (cs ++ rest).length m (cs ++ rest) = .error e := by
  rcases h with ⟨k, hk, h⟩
  have hLength := List.length_pos_iff.mpr hSome
  have hFuel :
      (cs ++ rest).length =
        k + ((cs.length - k + (rest.length - 1)) + 1) := by
    rw [List.length_append]
    omega
  rw [hFuel, h, run, hNext]
  simp only [hStep]

end Machine

end Json

------------------------------------------------------------
-- Members
------------------------------------------------------------

namespace JsonObject

/- A member of a new name comes last. -/
theorem set_of_not_mem
    {members : JsonObject}
    {name : JsonString}
    (h : name ∉ members.map Prod.fst)
    (value : Json) :
    set members name value = members ++ [(name, value)] := by
  have hAbsent : ¬ (members.any fun m => m.1 == name) = true := by
    simpa using h
  unfold set
  rw [if_neg hAbsent]

/- Setting members of different names one by one keeps them all. -/
theorem foldl_set_of_nodup
    (members before : JsonObject)
    (h : ((before ++ members).map Prod.fst).Nodup) :
    members.foldl (fun done m => set done m.1 m.2) before =
      before ++ members := by
  induction members generalizing before with
  | nil => simp
  | cons m rest ih =>
      have hNew : m.1 ∉ before.map Prod.fst := by
        rw [List.map_append, List.nodup_append] at h
        intro hMem
        exact h.2.2 _ hMem _ (by simp) rfl
      rw [List.foldl_cons, set_of_not_mem hNew, ih]
      · simp
      · simpa using h

end JsonObject

namespace Json

/- Members of different names are the members of the object. -/
theorem closeObject_of_nodup
    {members : JsonObject}
    (h : (members.map Prod.fst).Nodup) :
    closeObject members.reverse = .object members := by
  unfold closeObject
  rw [List.foldr_reverse, JsonObject.foldl_set_of_nodup members [] h,
    List.nil_append]

------------------------------------------------------------
-- Values
------------------------------------------------------------

/- Whether only spaces stand beside the separators of a style. -/
structure Style.IsPlain (style : Style) : Prop where
  item : ∃ spaces : List Char, style.item.toList = ',' :: spaces ∧
    ∀ c ∈ spaces, isSpace c = true
  name : ∃ spaces : List Char, style.name.toList = ':' :: spaces ∧
    ∀ c ∈ spaces, isSpace c = true

/- Nothing at all stands beside those of the compact style. -/
theorem compact_isPlain : compact.IsPlain := by
  constructor
  · exact ⟨[], rfl, by simp⟩
  · exact ⟨[], rfl, by simp⟩

/- One space stands beside those of the spaced style. -/
theorem spaced_isPlain : spaced.IsPlain := by
  constructor
  · exact ⟨[' '], rfl, by simp [isSpace]⟩
  · exact ⟨[' '], rfl, by simp [isSpace]⟩

mutual

/-
  Whether a value can be read from what is written for it, if
  so many arrays and objects may still be opened: its whole
  numbers are not too long, its names different from each
  other, and no other numbers are in it.
-/
def Readable (depth : Nat) : Json → Prop
  | .null => True
  | .bool _ => True
  | .integer n => (Nat.toDigits 10 n.natAbs).length ≤ maxIntegerDigits
  | .real _ => False
  | .string _ => True
  | .array items => 0 < depth ∧ ReadableItems (depth - 1) items
  | .object members =>
      0 < depth ∧ (members.map Prod.fst).Nodup ∧
        ReadableMembers (depth - 1) members

/- Whether all items can be read. -/
def ReadableItems (depth : Nat) : List Json → Prop
  | [] => True
  | v :: rest => Readable depth v ∧ ReadableItems depth rest

/- Whether all members can be read. -/
def ReadableMembers (depth : Nat) : List (JsonString × Json) → Prop
  | [] => True
  | (_, v) :: rest => Readable depth v ∧ ReadableMembers depth rest

end

namespace Machine

/- Whether a machine takes every token but a closing bracket as a value. -/
def AwaitsValue
    (m : Machine)
    (stack : List Frame) : Prop :=
  ∀ t, t ≠ .closeBracket → m.step t = stepValue stack t

/- Whether a machine takes every token but a closing brace as a name. -/
def AwaitsName
    (m : Machine)
    (stack : List Frame) : Prop :=
  ∀ t, t ≠ .closeBrace → m.step t = stepName stack t

/- A machine in the phase of a value awaits a value. -/
theorem awaitsValue_value (stack : List Frame) :
    (⟨stack, .value⟩ : Machine).AwaitsValue stack := by
  intro t _
  rfl

/- So does one after an opening bracket. -/
theorem awaitsValue_itemOrEnd (stack : List Frame) :
    (⟨stack, .itemOrEnd⟩ : Machine).AwaitsValue stack := by
  intro t hOther
  cases t with
  | closeBracket => exact absurd rfl hOther
  | _ => rfl

/- A machine in the phase of a name awaits a name. -/
theorem awaitsName_name (stack : List Frame) :
    (⟨stack, .name⟩ : Machine).AwaitsName stack := by
  intro t _
  rfl

/- So does one after an opening brace. -/
theorem awaitsName_nameOrEnd (stack : List Frame) :
    (⟨stack, .nameOrEnd⟩ : Machine).AwaitsName stack := by
  intro t hOther
  cases t with
  | closeBrace => exact absurd rfl hOther
  | _ => rfl

variable {m : Machine} {stack : List Frame} {rest : List Char}

/- A scalar is taken by a machine that awaits a value. -/
theorem AwaitsValue.takes_scalar
    {cs : List Char}
    {v : Json}
    (h : m.AwaitsValue stack)
    (hSome : cs ≠ [])
    (hNext : nextToken (cs ++ rest) = some (.scalar v, rest)) :
    m.Takes cs rest ⟨stack, .after v⟩ := by
  apply Takes.token hSome hNext
  rw [h _ (by simp)]
  rfl

/- A string is taken by a machine that awaits a value. -/
theorem AwaitsValue.takes_string
    (h : m.AwaitsValue stack)
    (s : JsonString)
    (rest : List Char) :
    m.Takes (writeString s) rest ⟨stack, .after (.string s)⟩ := by
  apply Takes.token (by simp [writeString]) (nextToken_writeString s rest)
  rw [h _ (by simp)]
  rfl

/- An opening bracket is taken by one that awaits a value. -/
theorem AwaitsValue.takes_openBracket
    (h : m.AwaitsValue stack)
    (hDepth : stack.length < maxDepth)
    (rest : List Char) :
    m.Takes ['['] rest ⟨.array [] :: stack, .itemOrEnd⟩ := by
  apply Takes.token (by simp) (t := .openBracket) rfl
  rw [h _ (by simp), stepValue, openFrame, if_neg (by omega)]

/- So is an opening brace. -/
theorem AwaitsValue.takes_openBrace
    (h : m.AwaitsValue stack)
    (hDepth : stack.length < maxDepth)
    (rest : List Char) :
    m.Takes ['{'] rest ⟨.object [] :: stack, .nameOrEnd⟩ := by
  apply Takes.token (by simp) (t := .openBrace) rfl
  rw [h _ (by simp), stepValue, openFrame, if_neg (by omega)]

/- A mark of its own and the spaces after it are taken together. -/
theorem takes_separator
    {c : Char}
    {separator : String}
    {t : Token}
    {m' : Machine}
    (hMark : ∀ rest, nextToken (c :: rest) = some (t, rest))
    (hStep : m.step t = .ok m')
    (hPlain : ∃ spaces : List Char, separator.toList = c :: spaces ∧
      ∀ c ∈ spaces, isSpace c = true)
    (rest : List Char) :
    m.Takes separator.toList rest m' := by
  rcases hPlain with ⟨spaces, hSeparator, hSpaces⟩
  rw [hSeparator]
  exact Takes.spaces hSpaces
    (Takes.token (List.cons_ne_nil c []) (hMark _) hStep)

/- A name and the colon after it are taken by one that awaits a name. -/
theorem AwaitsName.takes_name
    {style : Style}
    {done : List (JsonString × Json)}
    (h : m.AwaitsName (.object done :: stack))
    (hPlain : style.IsPlain)
    (s : JsonString)
    (rest : List Char) :
    m.Takes (writeString s ++ style.name.toList) rest
      ⟨.member done s :: stack, .value⟩ := by
  have hName :
      m.Takes (writeString s) (style.name.toList ++ rest)
        ⟨.member done s :: stack, .colon⟩ := by
    apply Takes.token (by simp [writeString]) (nextToken_writeString s _)
    rw [h _ (by simp)]
    rfl
  exact hName.append
    (takes_separator (fun _ => rfl) rfl hPlain.name rest)

end Machine

------------------------------------------------------------
-- Written Values
------------------------------------------------------------

section Written

open Machine

variable {style : Style}

/- A separator of items ends the value before it. -/
theorem Style.IsPlain.ends_item
    (hPlain : style.IsPlain)
    (rest : List Char) :
    Ends (style.item.toList ++ rest) := by
  rcases hPlain.item with ⟨spaces, hItem, -⟩
  intro c hHead
  rw [hItem] at hHead
  cases hHead
  exact .inl rfl

/- A closing bracket does, too. -/
theorem ends_closeBracket (rest : List Char) :
    Ends (']' :: rest) := by
  intro c hHead
  cases hHead
  exact .inr (.inl rfl)

/- So does a closing brace. -/
theorem ends_closeBrace (rest : List Char) :
    Ends ('}' :: rest) := by
  intro c hHead
  cases hHead
  exact .inr (.inr rfl)

/-
  By recursion over the value: what is written for it is taken
  by a machine that awaits a value.  For items and members the
  machine has already taken those before, and takes the rest
  with the closing mark.
-/
mutual

theorem takes_value
    (hPlain : style.IsPlain) :
    ∀ (v : Json) (depth : Nat) (stack : List Frame) (m : Machine)
      (rest : List Char),
      Readable depth v → depth + stack.length ≤ maxDepth →
      m.AwaitsValue stack → Ends rest →
      m.Takes (writeList style v) rest ⟨stack, .after v⟩
  | .null, _, _, _, _, _, _, hAwaits, _ =>
      hAwaits.takes_scalar (List.cons_ne_nil _ _)
        (nextToken_scalar (by decide) _)
  | .bool true, _, _, _, _, _, _, hAwaits, _ =>
      hAwaits.takes_scalar (List.cons_ne_nil _ _)
        (nextToken_scalar (by decide) _)
  | .bool false, _, _, _, _, _, _, hAwaits, _ =>
      hAwaits.takes_scalar (List.cons_ne_nil _ _)
        (nextToken_scalar (by decide) _)
  | .integer n, _, _, _, _, hReadable, _, hAwaits, hEnds => by
      apply hAwaits.takes_scalar _ (nextToken_integer hReadable hEnds)
      rcases signedDecimal_eq_cons n with ⟨c, cs, hCons, -⟩
      rw [hCons]
      exact List.cons_ne_nil c cs
  | .real _, _, _, _, _, hReadable, _, _, _ => hReadable.elim
  | .string s, _, _, _, rest, _, _, hAwaits, _ =>
      hAwaits.takes_string s rest
  | .array items, depth, stack, m, rest, hReadable, hDepth, hAwaits, _ => by
      rcases hReadable with ⟨hPositive, hItems⟩
      apply Takes.append (hAwaits.takes_openBracket (by omega) _)
      cases items with
      | nil =>
          apply Takes.token (by simp [writeItems]) (t := .closeBracket) rfl
          rfl
      | cons v items =>
          exact takes_items hPlain (v :: items) (depth - 1) [] stack
            ⟨.array [] :: stack, .itemOrEnd⟩ rest (List.cons_ne_nil _ _)
            hItems (by omega) (awaitsValue_itemOrEnd _)
  | .object members, depth, stack, m, rest, hReadable, hDepth, hAwaits,
      _ => by
      rcases hReadable with ⟨hPositive, hNames, hMembers⟩
      apply Takes.append (hAwaits.takes_openBrace (by omega) _)
      cases members with
      | nil =>
          apply Takes.token (by simp [writeMembers]) (t := .closeBrace) rfl
          rfl
      | cons x members =>
          rw [← closeObject_of_nodup hNames,
            ← List.append_nil (x :: members).reverse]
          exact takes_members hPlain (x :: members) (depth - 1) [] stack
            ⟨.object [] :: stack, .nameOrEnd⟩ rest (List.cons_ne_nil _ _)
            hMembers (by omega) (awaitsName_nameOrEnd _)

theorem takes_items
    (hPlain : style.IsPlain) :
    ∀ (items : List Json) (depth : Nat) (done : List Json)
      (stack : List Frame) (m : Machine) (rest : List Char),
      items ≠ [] → ReadableItems depth items →
      depth + stack.length + 1 ≤ maxDepth →
      m.AwaitsValue (.array done :: stack) →
      m.Takes (writeItems style items ++ [']']) rest
        ⟨stack, .after (.array (done.reverse ++ items))⟩
  | [], _, _, _, _, _, hSome, _, _, _ => absurd rfl hSome
  | [v], depth, done, stack, m, rest, _, hReadable, hDepth, hAwaits => by
      have hValue := takes_value hPlain v depth (.array done :: stack) m
        (']' :: rest) hReadable.1 hDepth hAwaits (ends_closeBracket rest)
      apply Takes.append hValue
      apply Takes.token (List.cons_ne_nil _ _) (t := .closeBracket) rfl
      simp [step, stepAfter]
  | v :: w :: items, depth, done, stack, m, rest, _, hReadable, hDepth,
      hAwaits => by
      let left := writeItems style (w :: items) ++ [']']
      have hValue := takes_value hPlain v depth (.array done :: stack) m
        (style.item.toList ++ (left ++ rest)) hReadable.1 hDepth hAwaits
        (hPlain.ends_item _)
      have hComma :
          (⟨.array done :: stack, .after v⟩ : Machine).Takes
            style.item.toList (left ++ rest)
            ⟨.array (v :: done) :: stack, .value⟩ :=
        takes_separator (fun _ => rfl) rfl hPlain.item _
      have hItems := takes_items hPlain (w :: items) depth (v :: done) stack
        ⟨.array (v :: done) :: stack, .value⟩ rest (List.cons_ne_nil _ _)
        hReadable.2 hDepth (awaitsValue_value _)
      have hDone :
          done.reverse ++ v :: w :: items =
            (v :: done).reverse ++ w :: items := by
        simp
      rw [writeItems, List.append_assoc, hDone]
      · exact (hValue.append hComma).append hItems
      · exact List.cons_ne_nil w items

theorem takes_members
    (hPlain : style.IsPlain) :
    ∀ (members : List (JsonString × Json)) (depth : Nat)
      (done : List (JsonString × Json))
      (stack : List Frame) (m : Machine) (rest : List Char),
      members ≠ [] → ReadableMembers depth members →
      depth + stack.length + 1 ≤ maxDepth →
      m.AwaitsName (.object done :: stack) →
      m.Takes (writeMembers style members ++ ['}']) rest
        ⟨stack, .after (closeObject (members.reverse ++ done))⟩
  | [], _, _, _, _, _, hSome, _, _, _ => absurd rfl hSome
  | [(k, v)], depth, done, stack, m, rest, _, hReadable, hDepth,
      hAwaits => by
      rcases hReadable with ⟨hReadable, -⟩
      have hName := hAwaits.takes_name hPlain k
        (writeList style v ++ ('}' :: rest))
      have hValue := takes_value hPlain v depth
        (.member done k :: stack) ⟨_, .value⟩ ('}' :: rest) hReadable
        hDepth (awaitsValue_value _) (ends_closeBrace rest)
      apply Takes.append (hName.append hValue)
      exact Takes.token (List.cons_ne_nil _ _) (t := .closeBrace) rfl rfl
  | (k, v) :: x :: members, depth, done, stack, m, rest, _, hReadable,
      hDepth, hAwaits => by
      rcases hReadable with ⟨hReadable, hMembers⟩
      let left := writeMembers style (x :: members) ++ ['}']
      have hName := hAwaits.takes_name hPlain k
        (writeList style v ++ (style.item.toList ++ (left ++ rest)))
      have hValue := takes_value hPlain v depth
        (.member done k :: stack) ⟨_, .value⟩
        (style.item.toList ++ (left ++ rest)) hReadable hDepth
        (awaitsValue_value _) (hPlain.ends_item _)
      have hComma :
          (⟨.member done k :: stack, .after v⟩ : Machine).Takes
            style.item.toList (left ++ rest)
            ⟨.object ((k, v) :: done) :: stack, .name⟩ :=
        takes_separator (fun _ => rfl) rfl hPlain.item _
      have hRest := takes_members hPlain (x :: members) depth
        ((k, v) :: done) stack
        ⟨.object ((k, v) :: done) :: stack, .name⟩ rest
        (List.cons_ne_nil _ _) hMembers hDepth (awaitsName_name _)
      have hDone :
          ((k, v) :: x :: members).reverse ++ done =
            (x :: members).reverse ++ (k, v) :: done := by
        simp
      rw [writeMembers, List.append_assoc, hDone]
      · exact ((hName.append hValue).append hComma).append hRest
      · exact List.cons_ne_nil x members

end

end Written

/- What is written for a value begins with a character in ASCII. -/
theorem writeList_eq_cons
    (style : Style)
    {v : Json}
    {depth : Nat}
    (h : Readable depth v) :
    ∃ c cs, writeList style v = c :: cs ∧ c.toNat < 128 := by
  cases v with
  | null => exact ⟨_, _, rfl, by decide⟩
  | bool b =>
      cases b with
      | true => exact ⟨_, _, rfl, by decide⟩
      | false => exact ⟨_, _, rfl, by decide⟩
  | integer n => exact signedDecimal_eq_cons n
  | real x => exact h.elim
  | string s => exact ⟨_, _, rfl, by decide⟩
  | array items => exact ⟨_, _, rfl, by decide⟩
  | object members => exact ⟨_, _, rfl, by decide⟩

/- What is written for a value that can be read is read as the value. -/
theorem read_write
    {style : Style}
    {v : Json}
    (hPlain : style.IsPlain)
    (h : Readable maxDepth v) :
    read (write style v) = .ok v := by
  have hTakes :
      Machine.start.Takes (writeList style v) [] ⟨[], .after v⟩ :=
    takes_value hPlain v maxDepth [] .start [] h (by simp)
      (Machine.awaitsValue_value []) (by simp [Ends])
  have hRun := hTakes.run_eq
  rcases writeList_eq_cons style h with ⟨c, cs, hCons, hAscii⟩
  have hMark : ¬ c.toNat = 0xfeff := by
    omega
  unfold read write
  rw [String.toList_ofList]
  rw [hCons] at hRun ⊢
  simp only [readList, if_neg hMark]
  exact hRun

/- What is written for members begins with that of the first. -/
theorem writeMembers_cons
    {style : Style}
    (hPlain : style.IsPlain)
    (name : JsonString)
    (v : Json)
    (members : JsonObject) :
    ∃ tail, Ends tail ∧ tail ≠ [] ∧
      writeMembers style ((name, v) :: members) ++ ['\x7d'] =
        writeString name ++ style.name.toList ++
          (writeList style v ++ tail) := by
  cases members with
  | nil =>
      refine ⟨['\x7d'], ends_closeBrace [], List.cons_ne_nil _ _, ?_⟩
      rw [writeMembers, List.append_assoc]
  | cons x members =>
      refine ⟨style.item.toList ++ (writeMembers style (x :: members) ++
        ['\x7d']), hPlain.ends_item _, ?_, ?_⟩
      · simp
      · rw [writeMembers]
        · simp only [List.append_assoc]
        · exact List.cons_ne_nil x members

/-
  What is written for an object is given up by the reader at
  its first member if this is a whole number of too many digits.
-/
theorem read_write_longInteger
    {style : Style}
    (hPlain : style.IsPlain)
    (name : JsonString)
    {n : Int}
    (hLong : maxIntegerDigits < (Nat.toDigits 10 n.natAbs).length)
    (members : JsonObject) :
    read (write style (.object ((name, .integer n) :: members))) =
      .error (.longInteger (Nat.toDigits 10 n.natAbs).length) := by
  rcases writeMembers_cons hPlain name (.integer n) members with
    ⟨tail, hEnds, hTail, hMembers⟩
  have hTakes :
      Machine.start.Takes
        (['\x7b'] ++ (writeString name ++ style.name.toList))
        (writeList style (.integer n) ++ tail)
        ⟨[.member [] name], .value⟩ := by
    apply Machine.Takes.append
    · exact (Machine.awaitsValue_value []).takes_openBrace (by decide) _
    · exact (Machine.awaitsName_nameOrEnd _).takes_name hPlain name _
  have hToken :
      integerToken n =
        .faultyNumber (Nat.toDigits 10 n.natAbs).length :=
    if_pos hLong
  have hRun := hTakes.run_eq_error
    (List.append_ne_nil_of_right_ne_nil _ hTail)
    (nextToken_signedDecimal n hEnds)
    (by rw [hToken]; rfl)
  unfold read write
  rw [String.toList_ofList, writeList, hMembers, readList,
    if_neg (by decide)]
  simpa only [List.append_assoc, List.cons_append, List.nil_append]
    using hRun

end Json

end KeyAssertion
