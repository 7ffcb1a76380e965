import FeatureFlags.Pattern.Bracketed

/-!
Reads the written form of a pattern. Groups that are still open are held in a
list, so nesting costs no recursion while reading; the limit on depth is checked
on the finished form.
-/

namespace FeatureFlags.Pattern

/-- What one group holds so far: its finished branches and the parts of the
current branch, both in reverse. -/
structure Branches where
  finished : List Form := []
  parts : List Form := []

namespace Branches

def push (branches : Branches) (part : Form) : Branches :=
  { branches with parts := part :: branches.parts }

/-- The current branch. -/
def current (branches : Branches) : Form :=
  match branches.parts with
  | [] => .empty
  | [part] => part
  | parts => .concat parts.reverse

def next (branches : Branches) : Branches :=
  ⟨branches.current :: branches.finished, []⟩

def form (branches : Branches) : Form :=
  match branches.finished with
  | [] => branches.current
  | finished => .alternation (branches.current :: finished).reverse

end Branches

/-- A group that is still open, and what to go on with behind it. -/
structure OpenGroup where
  kind : GroupKind
  outer : Branches
  outerVerbose : Bool

/-- Where the reading of a pattern stands. -/
structure Reading where
  branches : Branches := {}
  opened : List OpenGroup := []
  verbose : Bool := false
  /-- The names of groups so far. -/
  names : List (List Char) := []

/-- Whether switches turn blanks and comments on or off. -/
def verboseSwitch? (switches : List Switch) : Option Bool :=
  (switches.find? (·.setting = .verbose)).map (·.on)

/-- Whether a form may be repeated. -/
def Form.isRepeatable : Form → Bool
  | .empty | .switches _ => false
  | _ => true

/-- Reads the switches of a group up to the sign that ends them. A setting comes
up once, and the hyphen that turns settings off once and with a setting behind
it. -/
def readSwitches (on dangling : Bool) (done : List Switch) :
    List Char → Option (List Switch × List Char)
  | [] => none
  | c :: rest =>
      if c = ':' ∨ c = ')' then if dangling then none else some (done, c :: rest)
      else if c = '-' then if on then readSwitches false true done rest else none
      else
        match Setting.ofLetter? c with
        | none => none
        | some setting =>
            if done.any (·.setting = setting) then none
            else readSwitches on false (done ++ [⟨setting, on⟩]) rest

/-- Whether a character may begin the name of a group. -/
def beginsName (c : Char) : Bool :=
  c = '_' || Unicode.alphabetic.contains c.toNat

/-- Whether a character may go on in the name of a group. -/
def continuesName (c : Char) : Bool :=
  beginsName c || c = '.' || c = '[' || c = ']' ||
    (Unicode.categories ["nd", "nl", "no"]).contains c.toNat

/-- Reads the name of a group and the bracket that ends it. -/
def readName (text : List Char) : Option (List Char × List Char) :=
  match text.takeWhile (· ≠ '>'), text.dropWhile (· ≠ '>') with
  | first :: more, _ :: rest =>
      if beginsName first && more.all continuesName then some (first :: more, rest) else none
  | _, _ => none

/-- Reads how often something is repeated: a number of 32 bits. -/
def readCount (verbose : Bool) (text : List Char) : Option (Nat × List Char) :=
  let text := (skipBlanks verbose text).dropWhile isBlank
  let (digits, rest) := spanAllBlanks verbose Char.isDigit text
  let count := digits.foldl (fun count c => 10 * count + (c.toNat - '0'.toNat)) 0
  if digits.isEmpty ∨ UInt32.size ≤ count then none
  else some (count, rest.dropWhile isBlank)

/-- Reads the bounds of a repetition behind the opening brace. -/
def readBounds (verbose : Bool) (text : List Char) :
    Option ((Nat × Option Nat) × List Char) := do
  let (least, rest) ← readCount verbose text
  match rest with
  | '}' :: rest => return ((least, some least), rest)
  | ',' :: rest =>
      match skipBlanks verbose rest with
      | '}' :: rest => return ((least, none), rest)
      | rest =>
          match ← readCount verbose rest with
          | (most, '}' :: rest) =>
              if least ≤ most then return ((least, some most), rest) else none
          | _ => none
  | _ => none

namespace Reading

def push (reading : Reading) (part : Form) : Reading :=
  { reading with branches := reading.branches.push part }

/-- Begins a group. -/
def openGroup (reading : Reading) (kind : GroupKind) (verbose : Bool) : Reading :=
  { reading with
    branches := {}
    opened := ⟨kind, reading.branches, reading.verbose⟩ :: reading.opened
    verbose }

/-- Reads on behind an opening parenthesis. -/
def beginGroup? (reading : Reading) (text : List Char) : Option (Reading × List Char) :=
  let beginNamed (text : List Char) : Option (Reading × List Char) := do
    let (name, rest) ← readName text
    if reading.names.contains name then none
    else
      let reading := { reading with names := name :: reading.names }
      return (reading.openGroup .capture reading.verbose, rest)
  match text with
  | '?' :: 'P' :: '<' :: rest => beginNamed rest
  | '?' :: '<' :: rest => beginNamed rest
  | '?' :: rest => do
      let (switches, rest) ← readSwitches true false [] rest
      let verbose := (verboseSwitch? switches).getD reading.verbose
      match rest with
      | ':' :: rest => return (reading.openGroup (.plain switches) verbose, rest)
      | _ :: rest =>
          if switches.isEmpty then none
          else return ({ reading.push (.switches switches) with verbose }, rest)
      | [] => none
  | text => some (reading.openGroup .capture reading.verbose, text)

/-- Ends the innermost group. -/
def closeGroup? (reading : Reading) : Option Reading :=
  match reading.opened with
  | [] => none
  | group :: opened =>
      some { reading with
        branches := group.outer.push (.group group.kind reading.branches.form)
        opened
        verbose := group.outerVerbose }

/-- Repeats the last part. A question mark behind a repetition makes no
difference to what it accepts. -/
def repeat? (reading : Reading) (least : Nat) (most : Option Nat) (text : List Char) :
    Option (Reading × List Char) :=
  match reading.branches.parts with
  | [] => none
  | part :: parts =>
      if part.isRepeatable then
        let parts := .repetition part least most :: parts
        let rest := if text.head? = some '?' then text.tail else text
        some ({ reading with branches := { reading.branches with parts } }, rest)
      else none

/-- Reads the part that begins with a character. -/
def step? (reading : Reading) (c : Char) (rest : List Char) : Option (Reading × List Char) :=
  match c with
  | '(' => reading.beginGroup? (skipBlanks reading.verbose rest)
  | ')' => reading.closeGroup?.map fun reading => (reading, rest)
  | '|' => some ({ reading with branches := reading.branches.next }, rest)
  | '[' => (readBracketed reading.verbose rest).map fun (form, rest) => (reading.push form, rest)
  | '?' => reading.repeat? 0 (some 1) rest
  | '*' => reading.repeat? 0 none rest
  | '+' => reading.repeat? 1 none rest
  | '{' => do
      let ((least, most), rest) ← readBounds reading.verbose rest
      reading.repeat? least most (skipBlanks reading.verbose rest)
  | '.' => some (reading.push .dot, rest)
  | '^' => some (reading.push (.assertion .lineStart), rest)
  | '$' => some (reading.push (.assertion .lineEnd), rest)
  | '\\' => do
      let (escape, rest) ← readEscape reading.verbose rest
      let form :=
        match escape with
        | .literal l => Form.literal l
        | .assertion a => .assertion a
        | .named negated set => .named negated set
        | .letter negated set => .letter negated set
      return (reading.push form, rest)
  | c => some (reading.push (.literal ⟨c, false⟩), rest)

/-- Reads part after part. Each part takes at least one of the `fuel` characters
that are left. -/
def run (fuel : Nat) (reading : Reading) (text : List Char) : Option Reading :=
  match fuel, skipBlanks reading.verbose text with
  | 0, _ | _, [] => some reading
  | fuel + 1, c :: rest =>
      match reading.step? c rest with
      | none => none
      | some (reading, rest) => run fuel reading rest

/-- The form that has been read, if no group is left open. -/
def finish? (reading : Reading) : Option Form :=
  if reading.opened.isEmpty then some reading.branches.form else none

end Reading

/-- The form of a pattern's text. -/
def Form.ofText? (text : List Char) : Option Form := do
  let form ← (← Reading.run text.length {} text).finish?
  if form.depth ≤ depthLimit then some form else none

end FeatureFlags.Pattern
