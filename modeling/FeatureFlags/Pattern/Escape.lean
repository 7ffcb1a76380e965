import FeatureFlags.Pattern.Blank
import FeatureFlags.Pattern.Form

/-!
What a backslash makes of the characters behind it: a character that would
otherwise have a meaning, a character by its number, a set of characters, or an
assertion. A letter or a digit without such a meaning may not be escaped, and
neither may a character beyond ASCII.
-/

namespace FeatureFlags.Pattern

inductive Escape where
  | literal (l : Literal)
  | assertion (a : Assertion)
  | named (negated : Bool) (c : NamedClass)
  | letter (negated : Bool) (c : LetterClass)

/-- The value of a hexadecimal digit. -/
def hexDigit? (c : Char) : Option Nat :=
  if c.isDigit then some (c.toNat - '0'.toNat)
  else if 'a' ≤ c ∧ c ≤ 'f' then some (c.toNat - 'a'.toNat + 10)
  else if 'A' ≤ c ∧ c ≤ 'F' then some (c.toNat - 'A'.toNat + 10)
  else none

/-- The character whose number hexadecimal digits write. Surrogates are no
characters. -/
def charOfHex? (digits : List Char) : Option Char := do
  let values ← digits.mapM hexDigit?
  let number := values.foldl (fun number value => 16 * number + value) 0
  if values.isEmpty ∨ ¬ number.isValidChar then none
  else some (Char.ofNat number)

/-- Reads a character by its number: in braces, or as `width` digits. -/
def readHex (verbose : Bool) (width : Nat) (text : List Char) : Option (Literal × List Char) :=
  match skipBlanks verbose text with
  | '{' :: rest => do
      let (digits, left) := spanAllBlanks verbose (· ≠ '}') rest
      if left.isEmpty then none
      else return (⟨← charOfHex? digits, false⟩, left.tail)
  | text => do
      let (digits, left) := spanBlanks verbose (hexDigit? · |>.isSome) width text
      if digits.length < width then none
      else return (⟨← charOfHex? digits, width = 2⟩, left)

/-- Splits a text where a part of it first occurs, and leaves the part out. -/
def splitAround? (part : List Char) : List Char → Option (List Char × List Char)
  | [] => none
  | c :: rest =>
      if part.isPrefixOf (c :: rest) then some ([], (c :: rest).drop part.length)
      else (splitAround? part rest).map fun (before, after) => (c :: before, after)

/-- A name, or a property and its value. All three signs between the two mean
the same. -/
def NamedClass.ofText (text : List Char) : NamedClass :=
  let split := ["!=", ":", "="].findSome? fun sign => splitAround? sign.toList text
  match split with
  | some (before, after) => .value (String.ofList before) (String.ofList after)
  | none => .name (String.ofList text)

/-- Reads the name of a set: one character, or any number of them in braces. -/
def readNamed (verbose : Bool) (text : List Char) : Option (NamedClass × List Char) :=
  match skipBlanks verbose text with
  | [] | '\\' :: _ => none
  | '{' :: rest =>
      let (name, left) := spanAllBlanks verbose (· ≠ '}') rest
      if left.isEmpty then none else some (.ofText name, left.tail)
  | c :: rest => some (.name (String.singleton c), rest)

def Assertion.ofName? : String → Option Assertion
  | "start" => some .wordStart
  | "end" => some .wordEnd
  | "start-half" => some .wordStartHalf
  | "end-half" => some .wordEndHalf
  | _ => none

/-- Reads what makes an assertion about words special: a name in braces. Braces
that begin with anything else belong to a repetition of the plain assertion. -/
def readWordBoundary (verbose : Bool) : List Char → Option (Assertion × List Char)
  | '{' :: rest =>
      match skipBlanks verbose rest with
      | [] => none
      | c :: _ =>
          let isNameChar (c : Char) : Bool := c.isAlpha || c = '-'
          if isNameChar c then
            match spanAllBlanks verbose isNameChar rest with
            | (name, '}' :: left) =>
                (Assertion.ofName? (String.ofList name)).map fun a => (a, left)
            | _ => none
          else some (.wordBoundary, '{' :: rest)
  | text => some (.wordBoundary, text)

def LetterClass.ofLetter? : Char → Option LetterClass
  | 'd' | 'D' => some .digit
  | 's' | 'S' => some .space
  | 'w' | 'W' => some .word
  | _ => none

/-- The assertions that are a letter or a sign behind the backslash. -/
def Assertion.ofLetter? : Char → Option Assertion
  | 'A' => some .textStart
  | 'z' => some .textEnd
  | 'B' => some .notWordBoundary
  | '<' => some .wordStart
  | '>' => some .wordEnd
  | _ => none

/-- The control characters that have a letter. -/
def control? : Char → Option Char
  | 'a' => some '\x07'
  | 'f' => some '\x0c'
  | 'n' => some '\n'
  | 'r' => some '\r'
  | 't' => some '\t'
  | 'v' => some '\x0b'
  | _ => none

/-- Whether a character stands for itself behind a backslash. -/
def isEscapable (c : Char) : Bool := c.toNat < 128 && !c.isAlphanum

/-- What a single character behind a backslash stands for. -/
def Escape.ofChar? (c : Char) : Option Escape :=
  match LetterClass.ofLetter? c, Assertion.ofLetter? c, control? c with
  | some set, _, _ => some (.letter c.isUpper set)
  | _, some a, _ => some (.assertion a)
  | _, _, some control => some (.literal ⟨control, false⟩)
  | _, _, _ => if isEscapable c then some (.literal ⟨c, false⟩) else none

/-- Reads what stands behind a backslash. -/
def readEscape (verbose : Bool) : List Char → Option (Escape × List Char)
  | [] => none
  | 'x' :: rest => (readHex verbose 2 rest).map fun (l, rest) => (.literal l, rest)
  | 'u' :: rest => (readHex verbose 4 rest).map fun (l, rest) => (.literal l, rest)
  | 'U' :: rest => (readHex verbose 8 rest).map fun (l, rest) => (.literal l, rest)
  | 'p' :: rest => (readNamed verbose rest).map fun (c, rest) => (.named false c, rest)
  | 'P' :: rest => (readNamed verbose rest).map fun (c, rest) => (.named true c, rest)
  | 'b' :: rest => (readWordBoundary verbose rest).map fun (a, rest) => (.assertion a, rest)
  | c :: rest => (Escape.ofChar? c).map fun escape => (escape, rest)

end FeatureFlags.Pattern
