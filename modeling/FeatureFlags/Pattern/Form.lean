/-!
Patterns as they are written: which parts a pattern has, with settings, names
and classes not yet resolved. How deep the parts nest is a matter of the
written form, and the depth is limited.
-/

namespace FeatureFlags.Pattern

/-- What a pattern can turn on and off by a letter. -/
inductive Setting where
  | ignoreCase
  | multiLine
  | dotAll
  | swapGreed
  | unicode
  | crlf
  | verbose
deriving DecidableEq

def Setting.ofLetter? : Char → Option Setting
  | 'i' => some .ignoreCase
  | 'm' => some .multiLine
  | 's' => some .dotAll
  | 'U' => some .swapGreed
  | 'u' => some .unicode
  | 'R' => some .crlf
  | 'x' => some .verbose
  | _ => none

/-- A setting turned on or off. -/
structure Switch where
  setting : Setting
  on : Bool
deriving DecidableEq

inductive Assertion where
  | lineStart
  | lineEnd
  | textStart
  | textEnd
  | wordBoundary
  | notWordBoundary
  | wordStart
  | wordEnd
  | wordStartHalf
  | wordEndHalf
deriving DecidableEq

/-- A character, and whether two hexadecimal digits stand for it. -/
structure Literal where
  char : Char
  byteEscape : Bool := false
deriving DecidableEq

/-- A set of characters by its name, or by the value of a property. -/
inductive NamedClass where
  | name (name : String)
  | value (property value : String)
deriving DecidableEq

/-- The sets that have a letter of their own. -/
inductive LetterClass where
  | digit
  | space
  | word
deriving DecidableEq

/-- The sets that have a name within brackets. They hold ASCII only. -/
inductive AsciiClass where
  | alnum
  | alpha
  | ascii
  | blank
  | cntrl
  | digit
  | graph
  | lower
  | print
  | punct
  | space
  | upper
  | word
  | xdigit
deriving DecidableEq

def AsciiClass.ofName? : String → Option AsciiClass
  | "alnum" => some .alnum
  | "alpha" => some .alpha
  | "ascii" => some .ascii
  | "blank" => some .blank
  | "cntrl" => some .cntrl
  | "digit" => some .digit
  | "graph" => some .graph
  | "lower" => some .lower
  | "print" => some .print
  | "punct" => some .punct
  | "space" => some .space
  | "upper" => some .upper
  | "word" => some .word
  | "xdigit" => some .xdigit
  | _ => none

inductive SetOperator where
  | intersection
  | difference
  | symmetricDifference
deriving DecidableEq

/-- What stands within brackets. -/
inductive ClassForm where
  | empty
  | literal (l : Literal)
  | range (first last : Literal)
  | ascii (negated : Bool) (c : AsciiClass)
  | named (negated : Bool) (c : NamedClass)
  | letter (negated : Bool) (c : LetterClass)
  | bracketed (negated : Bool) (body : ClassForm)
  | union (items : List ClassForm)
  | operation (operator : SetOperator) (left right : ClassForm)

inductive GroupKind where
  | capture
  | plain (switches : List Switch)
deriving DecidableEq

inductive Form where
  | empty
  /-- Settings for the rest of the group. -/
  | switches (switches : List Switch)
  | literal (l : Literal)
  | dot
  | assertion (a : Assertion)
  | named (negated : Bool) (c : NamedClass)
  | letter (negated : Bool) (c : LetterClass)
  | bracketed (negated : Bool) (body : ClassForm)
  | repetition (body : Form) (min : Nat) (max : Option Nat)
  | group (kind : GroupKind) (body : Form)
  | alternation (branches : List Form)
  | concat (items : List Form)

mutual

def ClassForm.depth : ClassForm → Nat
  | .empty | .literal _ | .range _ _ | .ascii _ _ | .named _ _ | .letter _ _ => 0
  | .bracketed _ body => body.depth + 1
  | .union items => ClassForm.maxDepth items + 1
  | .operation _ left right => max left.depth right.depth + 1

def ClassForm.maxDepth : List ClassForm → Nat
  | [] => 0
  | item :: rest => max item.depth (ClassForm.maxDepth rest)

end

mutual

/-- How many parts stand inside one another. -/
def Form.depth : Form → Nat
  | .empty | .switches _ | .literal _ | .dot | .assertion _ | .named _ _ | .letter _ _ => 0
  | .bracketed _ body => body.depth + 1
  | .repetition body _ _ => body.depth + 1
  | .group _ body => body.depth + 1
  | .alternation branches => Form.maxDepth branches + 1
  | .concat items => Form.maxDepth items + 1

def Form.maxDepth : List Form → Nat
  | [] => 0
  | item :: rest => max item.depth (Form.maxDepth rest)

end

/-- How deep a pattern may nest. -/
def depthLimit : Nat := 250

end FeatureFlags.Pattern
