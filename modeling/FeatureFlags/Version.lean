import FeatureFlags.Numeric.Decimal

/-!
Semantic versions: three numbers, optionally the identifiers of a pre-release,
and optionally those of build metadata. The syntax is strict, so a version has
one text, and the order is total: build metadata takes part in it, and two
versions are equal in order only if they are the same.
-/

namespace FeatureFlags

/-- A word of digits, letters and hyphens. -/
structure Version.Identifier where
  text : String
deriving DecidableEq

structure Version where
  major : UInt64
  minor : UInt64
  patch : UInt64
  /-- None for a release. -/
  preRelease : List Version.Identifier
  build : List Version.Identifier
deriving DecidableEq

namespace Version

/-- The value of an identifier of digits only. -/
def Identifier.number? (identifier : Identifier) : Option Nat :=
  match Decimal.spanDigits identifier.text.toList with
  | (digits, []) => some (Decimal.ofDigits digits)
  | _ => none

/-- Numbers come first, by value and then by length, so `1` is before `01`.
Other identifiers follow by their characters. -/
def Identifier.compare (left right : Identifier) : Ordering :=
  match left.number?, right.number? with
  | some m, some n => (Ord.compare m n).then (Ord.compare left.text.length right.text.length)
  | some _, none => .lt
  | none, some _ => .gt
  | none, none => Ord.compare left.text right.text

/-- Identifier by identifier; a list comes after those that it extends. -/
def compareIdentifiers : List Identifier → List Identifier → Ordering
  | [], [] => .eq
  | [], _ :: _ => .lt
  | _ :: _, [] => .gt
  | x :: xs, y :: ys => (x.compare y).then (compareIdentifiers xs ys)

/-- A release comes after all of its pre-releases. -/
def comparePreReleases : List Identifier → List Identifier → Ordering
  | [], [] => .eq
  | [], _ :: _ => .gt
  | _ :: _, [] => .lt
  | xs, ys => compareIdentifiers xs ys

def compare (left right : Version) : Ordering :=
  (Ord.compare left.major right.major).then <|
    (Ord.compare left.minor right.minor).then <|
      (Ord.compare left.patch right.patch).then <|
        (comparePreReleases left.preRelease right.preRelease).then <|
          compareIdentifiers left.build right.build

/-- Reads a number of 64 bits, written without spare zeros. -/
def readNumber (text : List Char) : Option (UInt64 × List Char) :=
  let (digits, rest) := Decimal.spanDigits text
  let value := Decimal.ofDigits digits
  if digits.isEmpty then none
  else if 1 < digits.length ∧ digits.head? = some 0 then none
  else if value < UInt64.size then some (value.toUInt64, rest)
  else none

/-- Reads a given character. -/
def readChar (expected : Char) : List Char → Option (List Char)
  | c :: rest => if c = expected then some rest else none
  | [] => none

def isIdentifierChar (c : Char) : Bool := c.isAlphanum || c = '-'

/-- The parts of a text between its dots. -/
def splitAtDots : List Char → List (List Char)
  | [] => [[]]
  | c :: rest =>
      if c = '.' then [] :: splitAtDots rest
      else
        match splitAtDots rest with
        | part :: parts => (c :: part) :: parts
        | [] => [[c]]

/-- A part as an identifier. The numbers of a pre-release have no spare
zeros. -/
def identifier? (spareZeros : Bool) (part : List Char) : Option Identifier :=
  if part.isEmpty then none
  else if !spareZeros && part.all Char.isDigit && 1 < part.length && part.head? == some '0'
  then none
  else some ⟨String.ofList part⟩

/-- Reads identifiers with dots between them. -/
def readIdentifiers (spareZeros : Bool) (text : List Char) :
    Option (List Identifier × List Char) :=
  let inside (c : Char) : Bool := isIdentifierChar c || c = '.'
  ((splitAtDots (text.takeWhile inside)).mapM (identifier? spareZeros)).map fun identifiers =>
    (identifiers, text.dropWhile inside)

/-- Reads identifiers behind a mark, if the mark is there. -/
def readMarked (mark : Char) (spareZeros : Bool) (text : List Char) :
    Option (List Identifier × List Char) :=
  match readChar mark text with
  | some rest => readIdentifiers spareZeros rest
  | none => some ([], text)

def ofChars? (text : List Char) : Option Version := do
  let (major, rest) ← readNumber text
  let rest ← readChar '.' rest
  let (minor, rest) ← readNumber rest
  let rest ← readChar '.' rest
  let (patch, rest) ← readNumber rest
  let (preRelease, rest) ← readMarked '-' false rest
  let (build, rest) ← readMarked '+' true rest
  if rest.isEmpty then some ⟨major, minor, patch, preRelease, build⟩ else none

/-- Reads a version. -/
def ofText? (text : String) : Option Version :=
  ofChars? text.toList

end Version

end FeatureFlags
