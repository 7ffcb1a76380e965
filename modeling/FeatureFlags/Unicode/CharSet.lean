/-!
Sets of code points as lists of ranges. The ranges are ascending and neither
overlap nor touch, so every set has one list.

Tables of ranges are written as texts: hexadecimal numbers with blanks or line
ends between them, and a hyphen between the ends of a range.
-/

namespace FeatureFlags.Unicode

structure CharSet where
  ranges : List (Nat × Nat)
deriving DecidableEq

namespace CharSet

/-- The last code point. -/
def lastCodePoint : Nat := 0x10FFFF

/-- Puts a range in front of ranges that start no earlier, joining it with
those that it overlaps or touches. -/
def absorb (range : Nat × Nat) : List (Nat × Nat) → List (Nat × Nat)
  | [] => [range]
  | next :: rest =>
      if next.1 ≤ range.2 + 1 then absorb (range.1, max range.2 next.2) rest
      else range :: absorb next rest

/-- The set of ranges that come in the order of their starts. -/
def ofAscending : List (Nat × Nat) → CharSet
  | [] => ⟨[]⟩
  | range :: rest => ⟨absorb range rest⟩

def startsBefore (left right : Nat × Nat) : Bool := left.1 ≤ right.1

/-- The set of some ranges, in any order. -/
def ofRanges (ranges : List (Nat × Nat)) : CharSet :=
  ofAscending (ranges.mergeSort startsBefore)

def empty : CharSet := ⟨[]⟩

def range (first last : Nat) : CharSet := ⟨[(first, last)]⟩

def singleton (codePoint : Nat) : CharSet := range codePoint codePoint

/-- All code points. -/
def full : CharSet := range 0 lastCodePoint

def contains (set : CharSet) (codePoint : Nat) : Bool :=
  set.ranges.any fun range => range.1 ≤ codePoint && codePoint ≤ range.2

def union (left right : CharSet) : CharSet :=
  ofAscending (left.ranges.merge right.ranges startsBefore)

/-- The ranges between the given ones, from `next` on. -/
def gaps (next : Nat) : List (Nat × Nat) → List (Nat × Nat)
  | [] => if next ≤ lastCodePoint then [(next, lastCodePoint)] else []
  | range :: rest =>
      if next < range.1 then (next, range.1 - 1) :: gaps (range.2 + 1) rest
      else gaps (range.2 + 1) rest

def complement (set : CharSet) : CharSet := ⟨gaps 0 set.ranges⟩

def inter (left right : CharSet) : CharSet :=
  (left.complement.union right.complement).complement

def diff (left right : CharSet) : CharSet :=
  left.inter right.complement

/-- The code points in exactly one of the two sets. -/
def symmDiff (left right : CharSet) : CharSet :=
  (left.union right).diff (left.inter right)

def unions (sets : List CharSet) : CharSet :=
  ofRanges (sets.flatMap (·.ranges))

/-- The value of hexadecimal digits. -/
def hexNumber (digits : List Char) : Nat :=
  digits.foldl (fun value c =>
    16 * value + (if c.isDigit then c.toNat - '0'.toNat else c.toNat - 'A'.toNat + 10)) 0

/-- The parts of a text between separators. -/
def fields (separates : Char → Bool) (text : List Char) : List (List Char) :=
  text.foldr
    (fun c parts =>
      if separates c then [] :: parts else (c :: parts.headD []) :: parts.tail)
    [[]]

/-- The entries of a table, each with its numbers. -/
def entries (table : String) : List (List Nat) :=
  let texts := fields (fun c => c = ' ' || c = '\n') table.toList
  (texts.filter (!·.isEmpty)).map fun text => (fields (· = '-') text).map hexNumber

/-- Reads a table of ranges. -/
def ofTable (table : String) : CharSet :=
  ofRanges <| (entries table).filterMap fun
    | [codePoint] => some (codePoint, codePoint)
    | [first, last] => some (first, last)
    | _ => none

end CharSet

end FeatureFlags.Unicode
