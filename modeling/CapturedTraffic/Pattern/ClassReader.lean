import CapturedTraffic.Pattern.Lexical

/-!
# Reading bracketed classes

A class is a union of items, and may combine unions with set operators, which all bind alike and
group to the left. Classes nest, so open classes and operators wait on a stack.
-/
namespace CapturedTraffic.Pattern

open Unicode

/-- The classes with a name between colons, as the ASCII characters in them. -/
def asciiClass? (name : List Char) : Option RangeSet :=
  match String.ofList name with
  | "alnum" => some (.ofText "30-39 41-5A 61-7A")
  | "alpha" => some (.ofText "41-5A 61-7A")
  | "ascii" => some (.ofText "0-7F")
  | "blank" => some (.ofText "9 20")
  | "cntrl" => some (.ofText "0-1F 7F")
  | "digit" => some (.ofText "30-39")
  | "graph" => some (.ofText "21-7E")
  | "lower" => some (.ofText "61-7A")
  | "print" => some (.ofText "20-7E")
  | "punct" => some (.ofText "21-2F 3A-40 5B-60 7B-7E")
  | "space" => some (.ofText "9-D 20")
  | "upper" => some (.ofText "41-5A")
  | "word" => some (.ofText "30-39 41-5A 5F 61-7A")
  | "xdigit" => some (.ofText "30-39 41-46 61-66")
  | _ => none

/-- Reads a named class such as `[:alpha:]` after its opening bracket, if one stands there. -/
def asciiItem? : List Char → Option (ClassExpr × List Char)
  | ':' :: rest =>
    let (negated, body) := match rest with
      | '^' :: tail => (true, tail)
      | _ => (false, rest)
    match body.dropWhile (· != ':') with
    | ':' :: ']' :: after =>
      (asciiClass? (body.takeWhile (· != ':'))).map fun set => (.ascii set negated, after)
    | _ => none
  | _ => none

/-- Counts the hyphens at the start of a class, which stand for themselves. -/
def leadingHyphens (verbose inComment : Bool) (count : Nat) : List Char → Nat × List Char
  | [] => (count, [])
  | c :: rest =>
    if inComment then leadingHyphens verbose (c != '\n') count rest
    else if verbose && isWhite c then leadingHyphens verbose false count rest
    else if verbose && c == '#' then leadingHyphens verbose true count rest
    else if c = '-' then leadingHyphens verbose false (count + 1) rest
    else (count, c :: rest)

def hyphen : ClassExpr := .literal ⟨'-', false⟩

/--
Reads the start of a class after its bracket: whether it is negated, and the literal hyphens or the
literal closing bracket that may come first. Something must follow.
-/
def classStart? (verbose : Bool) (s : List Char) : Option (Bool × List ClassExpr × List Char) :=
  let (negated, rest) := match skip verbose s with
    | '^' :: tail => (true, tail)
    | rest => (false, rest)
  let (count, rest) := leadingHyphens verbose false 0 rest
  match count, rest with
  | _, [] => none
  | 0, ']' :: rest =>
    match skip verbose rest with
    | [] => none
    | rest => some (negated, [.literal ⟨']', false⟩], rest)
  | count, rest => some (negated, List.replicate count hyphen, rest)

/-- The first character after blanks and comment signs, which is how a range is told apart. -/
def nextVisible? (commented : Bool) : List Char → Option Char
  | [] => none
  | c :: rest =>
    if isWhite c then nextVisible? commented rest
    else if c = '#' && !commented then nextVisible? true rest
    else some c

/-- The character that follows a hyphen, for telling a range from a literal hyphen. -/
def afterHyphen? (verbose : Bool) (s : List Char) : Option Char :=
  if verbose then (nextVisible? false s).or s.head? else s.head?

def classPrimitive? (verbose : Bool) : List Char → Option (Primitive × List Char)
  | [] => none
  | '\\' :: rest => escape? verbose rest
  | c :: rest => some (.literal ⟨c, false⟩, rest)

/-- Reads an item or a range of a class. -/
def classItem? (verbose : Bool) (s : List Char) : Option (ClassExpr × List Char) :=
  (classPrimitive? verbose s).bind fun (first, rest) =>
    match skip verbose rest with
    | [] => none
    | '-' :: tail =>
      if afterHyphen? verbose tail = some ']' ∨ afterHyphen? verbose tail = some '-' then
        first.toClassItem?.map (·, '-' :: tail)
      else
        (classPrimitive? verbose (skip verbose tail)).bind fun (second, rest) =>
          first.toCode?.bind fun a => second.toCode?.bind fun b =>
            if a.char ≤ b.char then some (.range a b, rest) else none
    | rest => first.toClassItem?.map (·, rest)

/-- What waits for the end of the union being read. -/
inductive ClassFrame
  /-- A class, with the items of the class around it. -/
  | opened (outer : List ClassExpr) (negated : Bool)
  | operand (op : SetOperator) (left : ClassExpr)

/-- Completes the operator that waits for this operand, if one does. -/
def applyOperator (right : ClassExpr) : List ClassFrame → ClassExpr × List ClassFrame
  | .operand op left :: stack => (.binary op left right, stack)
  | stack => (right, stack)

def setOperator? : List Char → Option (SetOperator × List Char)
  | '&' :: '&' :: rest => some (.intersection, rest)
  | '-' :: '-' :: rest => some (.difference, rest)
  | '~' :: '~' :: rest => some (.symmetricDifference, rest)
  | _ => none

/--
Reads a class whose bracket has been opened. The items of the innermost union come last first; the
fuel is the number of characters, of which every round takes at least one.
-/
def classBody? (verbose : Bool) :
    Nat → List ClassExpr → List ClassFrame → List Char → Option ((Bool × ClassExpr) × List Char)
  | 0, _, _, _ => none
  | fuel + 1, items, stack, s =>
    match skip verbose s with
    | [] => none
    | '[' :: rest =>
      match asciiItem? rest with
      | some (item, rest) => classBody? verbose fuel (item :: items) stack rest
      | none => (classStart? verbose rest).bind fun (negated, start, rest) =>
          classBody? verbose fuel start (.opened items negated :: stack) rest
    | ']' :: rest =>
      match applyOperator (.ofItems items.reverse) stack with
      | (body, [.opened _ negated]) => some ((negated, body), rest)
      | (body, .opened outer negated :: stack) =>
        classBody? verbose fuel (.bracketed negated body :: outer) stack rest
      | _ => none
    | s =>
      match setOperator? s with
      | some (op, rest) =>
        let (left, stack) := applyOperator (.ofItems items.reverse) stack
        classBody? verbose fuel [] (.operand op left :: stack) rest
      | none => (classItem? verbose s).bind fun (item, rest) =>
          classBody? verbose fuel (item :: items) stack rest

/-- Reads a class after its opening bracket. -/
def class? (verbose : Bool) (s : List Char) : Option ((Bool × ClassExpr) × List Char) :=
  (classStart? verbose s).bind fun (negated, start, rest) =>
    classBody? verbose (s.length + 1) start [.opened [] negated] rest

end CapturedTraffic.Pattern
