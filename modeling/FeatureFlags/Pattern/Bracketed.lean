import FeatureFlags.Pattern.Escape

/-!
What stands within brackets: characters, ranges, named sets, further brackets,
and operators between them. An operator takes everything on its left within
the same brackets.
-/

namespace FeatureFlags.Pattern

/-- Brackets that are still open: the parts behind the last operator in reverse,
and what stands to the left of that operator. -/
structure OpenBrackets where
  negated : Bool
  items : List ClassForm
  left : Option (SetOperator × ClassForm)

namespace OpenBrackets

def push (brackets : OpenBrackets) (item : ClassForm) : OpenBrackets :=
  { brackets with items := item :: brackets.items }

/-- The parts behind the last operator. -/
def right (brackets : OpenBrackets) : ClassForm :=
  match brackets.items with
  | [] => .empty
  | [item] => item
  | items => .union items.reverse

def body (brackets : OpenBrackets) : ClassForm :=
  match brackets.left with
  | none => brackets.right
  | some (operator, left) => .operation operator left brackets.right

def operate (brackets : OpenBrackets) (operator : SetOperator) : OpenBrackets :=
  ⟨brackets.negated, [], some (operator, brackets.body)⟩

end OpenBrackets

/-- Splits off the hyphens that a text begins with. -/
def spanHyphens (verbose : Bool) (text : List Char) : List Char × List Char :=
  spanAllBlanks verbose (· = '-') text

/-- Reads the beginning of brackets behind the bracket itself. Hyphens stand for
themselves there, and so does a closing bracket. -/
def beginBrackets (verbose : Bool) (text : List Char) : OpenBrackets × List Char :=
  let (negated, text) :=
    match skipBlanks verbose text with
    | '^' :: rest => (true, rest)
    | text => (false, text)
  let (hyphens, text) := spanHyphens verbose text
  let items := hyphens.map fun c => ClassForm.literal ⟨c, false⟩
  match items, skipBlanks verbose text with
  | [], ']' :: rest => (⟨negated, [.literal ⟨']', false⟩], none⟩, rest)
  | items, text => (⟨negated, items, none⟩, text)

/-- Reads a class of ASCII characters behind its first bracket, as in
`[:alpha:]`. -/
def readAsciiClass? : List Char → Option (ClassForm × List Char)
  | ':' :: text =>
      let (negated, text) :=
        match text with
        | '^' :: rest => (true, rest)
        | text => (false, text)
      match text.dropWhile (· ≠ ':') with
      | ':' :: ']' :: rest =>
          (AsciiClass.ofName? (String.ofList (text.takeWhile (· ≠ ':')))).map fun c =>
            (.ascii negated c, rest)
      | _ => none
  | _ => none

/-- Reads one character or escape. -/
def readClassItem (verbose : Bool) : List Char → Option (ClassForm × List Char)
  | [] => none
  | '\\' :: rest => do
      match ← readEscape verbose rest with
      | (.literal l, rest) => some (.literal l, rest)
      | (.named negated c, rest) => some (.named negated c, rest)
      | (.letter negated c, rest) => some (.letter negated c, rest)
      | (.assertion _, _) => none
  | c :: rest => some (.literal ⟨c, false⟩, rest)

/-- The character that decides what a hyphen in front of it means. A number sign
counts as a blank here once, and lines do not matter. -/
def behindHyphen (verbose : Bool) (text : List Char) : Option Char :=
  if verbose then
    let visible := text.filter fun c => ¬ isBlank c
    match visible with
    | '#' :: c :: _ => some c
    | '#' :: [] | [] => text.head?
    | c :: _ => some c
  else text.head?

/-- Whether a text goes on with the hyphen of a range. -/
def beginsRange (verbose : Bool) : List Char → Bool
  | '-' :: rest => behindHyphen verbose rest ∉ [some ']', some '-']
  | _ => false

/-- Reads a part of a class that is no brackets: one item, or two with a hyphen
between them. The ends of a range are characters, and in order. -/
def readClassPart (verbose : Bool) (text : List Char) : Option (ClassForm × List Char) := do
  let (first, rest) ← readClassItem verbose text
  let rest := skipBlanks verbose rest
  if beginsRange verbose rest then
    let (last, rest) ← readClassItem verbose (skipBlanks verbose rest.tail)
    match first, last with
    | .literal first, .literal last =>
        if first.char ≤ last.char then some (.range first last, rest) else none
    | _, _ => none
  else return (first, rest)

/-- The operator that a text begins with, and what follows it. -/
def splitOperator? : List Char → Option (SetOperator × List Char)
  | '&' :: '&' :: rest => some (.intersection, rest)
  | '-' :: '-' :: rest => some (.difference, rest)
  | '~' :: '~' :: rest => some (.symmetricDifference, rest)
  | _ => none

/-- Reads on within brackets, the innermost first, until all of them are closed.
Each part takes at least one of the `fuel` characters that are left. -/
def readBrackets (verbose : Bool) (fuel : Nat) (brackets : OpenBrackets)
    (outer : List OpenBrackets) (text : List Char) : Option (Form × List Char) :=
  match fuel, skipBlanks verbose text with
  | 0, _ | _, [] => none
  | fuel + 1, '[' :: rest =>
      match readAsciiClass? rest with
      | some (item, rest) => readBrackets verbose fuel (brackets.push item) outer rest
      | none =>
          let (inner, rest) := beginBrackets verbose rest
          readBrackets verbose fuel inner (brackets :: outer) rest
  | fuel + 1, ']' :: rest =>
      match outer with
      | [] => some (.bracketed brackets.negated brackets.body, rest)
      | enclosing :: outer =>
          let item := ClassForm.bracketed brackets.negated brackets.body
          readBrackets verbose fuel (enclosing.push item) outer rest
  | fuel + 1, text =>
      match splitOperator? text with
      | some (operator, rest) => readBrackets verbose fuel (brackets.operate operator) outer rest
      | none => do
          let (item, rest) ← readClassPart verbose text
          readBrackets verbose fuel (brackets.push item) outer rest

/-- Reads a class behind its first bracket. -/
def readBracketed (verbose : Bool) (text : List Char) : Option (Form × List Char) :=
  let (brackets, text) := beginBrackets verbose text
  readBrackets verbose text.length brackets [] text

end FeatureFlags.Pattern
