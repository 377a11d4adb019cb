import Gleaner.Path.Operation

/-! # Reading paths

    Binary operators have levels; all of them group to the left, and an operator
    takes its right operand up to the next operator of its own or a lower level.
    Brackets, which select items, members, slices or a condition, bind loosest of
    the postfix forms: `a.b[0]` selects from `a.b`.

    Arithmetic binds looser still and groups to the right whatever its operators.
    A bare number next to an operator is that number, and a member name alone is
    that text; elsewhere a bare number is the member of that name.

    Every function below takes tokens off the head of a list, so the remaining
    list is shorter and the recursion ends.
-/

namespace Gleaner.Path.Parser

/-! ## Levels -/

/-- Where nothing is pending: everything may follow. -/
def loosest : Nat := 0

/-- The binary operators with their levels and meanings. -/
def binary? : Token → Option (Nat × (Path → Path → Path))
  | .mark '.' => some (2, .child)
  | .mark '|' => some (3, .union)
  | .mark '&' => some (4, .intersection)
  | .having => some (5, .having)
  | .lacking => some (6, .lacking)
  | _ => none

/-- The level of walking down. -/
def walkLevel : Nat := 1

/-- The arithmetic operators. -/
def operator? : Token → Option Operator
  | .mark '+' => some .plus
  | .mark '-' => some .minus
  | .mark '*' => some .times
  | _ => none

/-- Whether an arithmetic operator comes next. -/
def operatorFollows : List Token → Bool
  | [] => false
  | token :: _ => (operator? token).isSome

/-! ## Operands -/

/-- What the left side of an arithmetic expression looks like. -/
inductive LeftSide
  | bareNumber | bareDecimal | path
  deriving DecidableEq

/-- A path as an operand: one member name alone stands for itself. -/
def toOperand : Path → Operand
  | .members [name] => .constant (.string name)
  | path => .path path

/-- The number after an operator that ends the arithmetic as a constant. After a
    bare whole number a decimal cannot be a constant, nor a whole number after a
    bare decimal. -/
def constantAfter? (left : LeftSide) : (s : List Token) → Option (Taken Document s)
  | .number n :: rest =>
    if operatorFollows rest || left == .bareDecimal then none else some (.head (.int n) rest)
  | .decimal x :: rest =>
    if operatorFollows rest || left == .bareNumber then none else some (.head (.float x) rest)
  | _ => none

/-! ## Names, positions and slices -/

/-- A name, or a reserved word that may stand for one. -/
def nameOf? : Token → Option Text
  | .name text => some text
  | .null => some "null"
  | .bool b => some (if b then "true" else "false")
  | _ => none

/-- Names after commas. -/
def moreNames (s : List Token) : Option (Continued (List Text) s) :=
  match s with
  | .mark ',' :: token :: rest =>
    match nameOf? token with
    | none => none
    | some name => (moreNames rest).map fun more => (more.map (name :: ·)).taken.push.weaken
  | .mark ',' :: [] => none
  | s => some (.stop [] s)

/-- One or more names between commas. -/
def names (s : List Token) : Option (Taken (List Text) s) :=
  match s with
  | [] => none
  | token :: rest =>
    match nameOf? token with
    | none => none
    | some name => (moreNames rest).map fun more => (more.map (name :: ·)).taken

/-- Positions after commas. -/
def morePositions (s : List Token) : Continued (List Int) s :=
  match s with
  | .mark ',' :: .number n :: rest => ((morePositions rest).map (n :: ·)).taken.push.weaken
  | s => .stop [] s

/-- A number if there is one. -/
def number? (s : List Token) : Continued (Option Int) s :=
  match s with
  | .number n :: rest => (Taken.head (some n) rest).weaken
  | s => .stop none s

/-- A mark that must come next. -/
def mark? (c : Char) : (s : List Token) → Option (Taken Unit s)
  | .mark d :: rest => if c = d then some (.head () rest) else none
  | _ => none

/-- A slice: up to three numbers around one or two colons. -/
def slice? (s : List Token) : Option (Taken Path s) :=
  let start := number? s
  match mark? ':' start.rest with
  | none => none
  | some colon =>
    let first := start.andThen colon
    let stop := number? first.rest
    match mark? ':' stop.rest with
    | none => some (first.andOn (stop.map fun n => .slice start.value n none))
    | some colon =>
      let second := first.andThen (stop.andThen colon)
      some (second.andOn ((number? second.rest).map (.slice start.value stop.value)))

/-- What stands in brackets: a star, names, positions or a slice. -/
def selection (s : List Token) : Option (Taken Path s) :=
  match s with
  | .mark '*' :: rest => some (.head .children rest)
  | .number n :: rest =>
    match slice? (.number n :: rest) with
    | some taken => some taken
    | none => some ((morePositions rest).map (.items <| n :: ·)).taken
  | s =>
    match slice? s with
    | some taken => some taken
    | none => (names s).map (Taken.map .members)

/-- A value together with the mark that must come after it. -/
def closedBy (c : Char) {s : List Token} (taken : Taken α s) : Option (Taken α s) :=
  (mark? c taken.rest).map fun mark => taken.andThen (mark.map fun _ => taken.value)

/-- A selection and its closing bracket. -/
def bracketed (s : List Token) : Option (Taken Path s) := (selection s).bind (closedBy ']')

/-! ## What a condition compares with -/

/-- Plain steps of a path on the right of a comparison. -/
def plainSteps (path : Path) (s : List Token) : Continued Path s :=
  match s with
  | .mark '.' :: token :: rest =>
    match nameOf? token with
    | some name => (plainSteps (.child path (.members [name])) rest).taken.push.weaken
    | none => .stop path (.mark '.' :: token :: rest)
  | .mark '[' :: .name name :: .mark ']' :: rest =>
    (plainSteps (.child path (.members [name])) rest).taken.push.push.weaken
  | .mark '[' :: .number n :: .mark ']' :: rest =>
    (plainSteps (.child path (.items [n])) rest).taken.push.push.weaken
  | s => .stop path s

/-- The right side of a comparison and the condition that it makes. -/
def comparand (path : Path) (comparison : Comparison) (s : List Token) :
    Option (Taken Condition s) :=
  match s with
  | .name text :: rest => some (.head (.compare path comparison (.string text)) rest)
  | .decimal x :: rest => some (.head (.compare path comparison (.float x)) rest)
  | .number n :: rest => some (.head (.compare path comparison (.int n)) rest)
  | .bool b :: rest => some (.head (.compare path comparison (.bool b)) rest)
  | .null :: rest => some (.head (.compare path comparison .null) rest)
  | .mark '@' :: rest => some ((plainSteps .this rest).map (.compareWith path comparison)).taken
  | .mark '$' :: rest => some ((plainSteps .root rest).map (.compareWith path comparison)).taken
  | _ => none

/-- A condition that begins with a path: the path alone, or a comparison. -/
def comparison? (path : Path) (s : List Token) : Option (Continued Condition s) :=
  match s with
  | .comparison comparison :: rest =>
    (comparand path comparison rest).map fun taken => taken.push.weaken
  | s => some (.stop (.has path) s)

/-! ## Between keys and conditions -/

/-- The mark of one more key of an order. -/
def sortMark? : (s : List Token) → Option (Taken Bool s)
  | .sortMark descending :: rest => some (.head descending rest)
  | _ => none

/-- Two bars. -/
def bars? : (s : List Token) → Option (Taken Unit s)
  | .bars :: rest => some (.head () rest)
  | _ => none

/-- An ampersand, single or double. -/
def ampersands? : (s : List Token) → Option (Taken Unit s)
  | .ampersands :: rest => some (.head () rest)
  | .mark '&' :: rest => some (.head () rest)
  | _ => none

/-! ## Paths and conditions -/

mutual

/-- A path whose operators are all above `level`. -/
def expression (level : Nat) (s : List Token) : Option (Taken Path s) :=
  match s with
  | [] => none
  | .number n :: rest =>
    match operatorFollows rest with
    | true =>
      match arithmetic .bareNumber (.constant (.int n)) rest with
      | none => none
      | some taken =>
        have := taken.shorter
        (extension level taken.value taken.rest).map fun more => (taken.andOn more).push
    | false => (extension level (.members [Text.ofInt n]) rest).map Continued.taken
  | .decimal x :: rest =>
    match arithmetic .bareDecimal (.constant (.float x)) rest with
    | none => none
    | some taken =>
      have := taken.shorter
      (extension level taken.value taken.rest).map fun more => (taken.andOn more).push
  | .mark '*' :: rest => (extension level .children rest).map Continued.taken
  | .mark '$' :: rest => (extension level .root rest).map Continued.taken
  | .mark '@' :: rest => (extension level .this rest).map Continued.taken
  | .operation text :: rest =>
    if text = "this" then (extension level .this rest).map Continued.taken
    else if text = "parent" then (extension level .parent rest).map Continued.taken
    else
      match Operation.ofText? text with
      | none => none
      | some named => (extension level (.operation named) rest).map Continued.taken
  | .mark '(' :: rest =>
    match (expression loosest rest).bind (closedBy ')') with
    | none => none
    | some taken =>
      have := taken.shorter
      (extension level taken.value taken.rest).map fun more => (taken.andOn more).push
  | .mark '[' :: rest =>
    match bracketed rest with
    | none => none
    | some taken =>
      have := taken.shorter
      (extension level taken.value taken.rest).map fun more => (taken.andOn more).push
  | token :: rest =>
    match names (token :: rest) with
    | none => none
    | some taken =>
      have : taken.rest.length < rest.length + 1 := taken.shorter
      (extension level (.members taken.value) taken.rest).map taken.andOn
termination_by (s.length, 0)

/-- A path that begins with `path` and goes on with operators above `level`. -/
def extension (level : Nat) (path : Path) (s : List Token) : Option (Continued Path s) :=
  match s with
  | [] => some (.stop path [])
  | .dots :: rest =>
    if walkLevel ≤ level then some (.stop path (.dots :: rest))
    else
      match rest with
      | .mark '[' :: .mark '?' :: inside =>
        match (disjunction inside).bind (closedBy ']') with
        | none => none
        | some closed =>
          have := closed.shorter
          (extension level (.descend path (.filter closed.value)) closed.rest).map
            fun more => (closed.andOn more).push.push.push.weaken
      | rest =>
        match expression walkLevel rest with
        | none => none
        | some taken =>
          have := taken.shorter
          (extension level (.descend path taken.value) taken.rest).map
            fun more => (taken.andOn more).push.weaken
  | .mark '[' :: rest =>
    if loosest < level then some (.stop path (.mark '[' :: rest))
    else
      match rest with
      | .mark '?' :: inside =>
        match (disjunction inside).bind (closedBy ']') with
        | none => none
        | some closed =>
          have := closed.shorter
          (extension level (.child path (.filter closed.value)) closed.rest).map
            fun more => (closed.andOn more).push.push.weaken
      | .sortMark descending :: inside =>
        match (sortKeys descending inside).bind (closedBy ']') with
        | none => none
        | some closed =>
          have := closed.shorter
          (extension level (.child path (.order closed.value)) closed.rest).map
            fun more => (closed.andOn more).push.push.weaken
      | rest =>
        match bracketed rest with
        | none => none
        | some taken =>
          have := taken.shorter
          (extension level (.child path taken.value) taken.rest).map
            fun more => (taken.andOn more).push.weaken
  | token :: rest =>
    match binary? token with
    | some (above, join) =>
      if above ≤ level then some (.stop path (token :: rest))
      else
        match expression above rest with
        | none => none
        | some taken =>
          have := taken.shorter
          (extension level (join path taken.value) taken.rest).map
            fun more => (taken.andOn more).push.weaken
    | none =>
      if (operator? token).isSome && level == loosest then
        match arithmetic .path (toOperand path) (token :: rest) with
        | none => none
        | some taken =>
          have : taken.rest.length < rest.length + 1 := taken.shorter
          (extension level taken.value taken.rest).map fun more => (taken.andOn more).weaken
      else some (.stop path (token :: rest))
termination_by (s.length, 1)

/-- An operator and the right side of an arithmetic expression. -/
def arithmetic (left : LeftSide) (first : Operand) (s : List Token) : Option (Taken Path s) :=
  match s with
  | [] => none
  | token :: rest =>
    match operator? token with
    | none => none
    | some operator =>
      match constantAfter? left rest with
      | some constant =>
        some (constant.map fun d => .arithmetic operator first (.constant d)).push
      | none =>
        (expression loosest rest).map fun taken =>
          (taken.map fun path => .arithmetic operator first (toOperand path)).push
termination_by (s.length, 0)

/-- The keys of an order, the first of them after its mark. -/
def sortKeys (descending : Bool) (s : List Token) : Option (Taken (List (Bool × Path)) s) :=
  match expression loosest s with
  | none => none
  | some taken =>
    match sortMark? taken.rest with
    | some mark =>
      have := (taken.andThen mark).shorter
      (sortKeys mark.value mark.rest).map fun more =>
        taken.andThen (mark.andThen (more.map ((descending, taken.value) :: ·)))
    | none => some (taken.map fun path => [(descending, path)])
termination_by (s.length, 1)

/-- Conditions of which one must hold. -/
def disjunction (s : List Token) : Option (Taken Condition s) :=
  match conjunction s with
  | none => none
  | some taken =>
    match bars? taken.rest with
    | some mark =>
      have := (taken.andThen mark).shorter
      (disjunction mark.rest).map fun more =>
        taken.andThen (mark.andThen (more.map (.either taken.value)))
    | none => some taken
termination_by (s.length, 3)

/-- Conditions that must all hold. -/
def conjunction (s : List Token) : Option (Taken Condition s) :=
  match term s with
  | none => none
  | some taken =>
    match ampersands? taken.rest with
    | some mark =>
      have := (taken.andThen mark).shorter
      (conjunction mark.rest).map fun more =>
        taken.andThen (mark.andThen (more.map (.both taken.value)))
    | none => some taken
termination_by (s.length, 2)

/-- One condition. Parentheses around a path alone belong to the path, which may
    then go on; around anything else they group conditions. -/
def term (s : List Token) : Option (Taken Condition s) :=
  match s with
  | .mark '!' :: rest =>
    (expression loosest rest).map fun taken => (taken.map .lacks).push
  | .mark '(' :: rest =>
    match (disjunction rest).bind (closedBy ')') with
    | none => none
    | some closed =>
      have := closed.shorter
      match closed.value with
      | .has path =>
        match extension loosest path closed.rest with
        | none => none
        | some more =>
          let whole := closed.andOn more
          (comparison? whole.value whole.rest).map fun last => (whole.andOn last).push
      | _ => some closed.push
  | s =>
    match expression loosest s with
    | none => none
    | some taken => (comparison? taken.value taken.rest).map taken.andOn
termination_by (s.length, 1)

end

end Gleaner.Path.Parser

/-- The path that a text denotes; `none` if the text is no path. -/
def Gleaner.Path.ofText? (s : Gleaner.Text) : Option Gleaner.Path :=
  match tokens? s with
  | none => none
  | some tokens =>
    match Parser.expression Parser.loosest tokens with
    | some ⟨path, [], _⟩ => some path
    | _ => none
