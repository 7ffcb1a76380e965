import FeatureFlags.Pattern.Matcher

/-!
How large the automaton of a matcher is. The automaton works on the bytes of
UTF-8 text, so a set of characters takes a state for each distinct beginning of
the byte sequences of its members. A state counts 32, a choice 4 for each of its
ways, and a plain table of ASCII ranges 8 for each range.
-/

namespace FeatureFlags.Pattern

open Unicode

/-- The UTF-8 bytes of a code point. -/
def utf8Bytes (codePoint : Nat) : List Nat :=
  let continuation (block : Nat) : Nat := 0x80 + codePoint / block % 64
  if codePoint < 0x80 then [codePoint]
  else if codePoint < 0x800 then [0xC0 + codePoint / 64, continuation 1]
  else if codePoint < 0x10000 then
    [0xE0 + codePoint / 0x1000, continuation 64, continuation 1]
  else [0xF0 + codePoint / 0x40000, continuation 0x1000, continuation 64, continuation 1]

/-- The scalar values by how many bytes they take, without surrogates. -/
def utf8Lengths : List (Nat × Nat) :=
  [(0, 0x7F), (0x80, 0x7FF), (0x800, 0xD7FF), (0xE000, 0xFFFF), (0x10000, 0x10FFFF)]

/-- Splits a range that crosses a multiple of `size` into whole blocks of that
size, and what is left at both ends. -/
def splitBlocks (size : Nat) (range : Nat × Nat) : List (Nat × Nat) :=
  if range.1 / size = range.2 / size then [range]
  else
    let behind := range.2 + 1
    let innerFirst := (range.1 + size - 1) / size * size
    let innerBehind := behind / size * size
    let parts := [(range.1, innerFirst), (innerFirst, innerBehind), (innerBehind, behind)]
    (parts.filter fun part => part.1 < part.2).map fun part => (part.1, part.2 - 1)

/-- The sequences of byte ranges that make up a range of code points. -/
def byteSequences (range : Nat × Nat) : List (List (Nat × Nat)) :=
  utf8Lengths.flatMap fun limits =>
    let (first, last) := (max range.1 limits.1, min range.2 limits.2)
    if last < first then []
    else if last < 0x80 then [[(first, last)]]
    else
      let parts := [64, 0x1000, 0x40000].foldl
        (fun parts size => parts.flatMap (splitBlocks size)) [(first, last)]
      parts.map fun part => (utf8Bytes part.1).zip (utf8Bytes part.2)

/-- How many items of a list come behind those that it shares with another. -/
def unshared {α : Type} [DecidableEq α] : List α → List α → Nat
  | x :: xs, y :: ys => if x = y then unshared xs ys else (y :: ys).length
  | _, ys => ys.length

/-- How many distinct beginnings the lists have, where those with a common
beginning follow one another. -/
def beginnings {α : Type} [DecidableEq α] (lists : List (List α)) : Nat :=
  (([] :: lists).zip lists).foldl (fun count (previous, list) => count + unshared previous list) 0

/-- The size of a set for which no shorter form fits. -/
def byteSetSize (ranges : List (Nat × Nat)) : Nat :=
  let sequences := ranges.flatMap byteSequences
  32 * (2 + beginnings sequences) + 4 * sequences.length

def setSize (set : CharSet) : Nat :=
  match set.ranges with
  | [] => 32
  | ranges =>
      if set = .singleton (ranges.headD (0, 0)).1 then
        32 * (utf8Bytes (ranges.headD (0, 0)).1).length
      else if ranges.all (·.2 < 0x80) then 64 + 8 * ranges.length
      else byteSetSize ranges

def Atom.size : Atom → Nat
  | .set members => setSize members
  | .look _ => 32

namespace Matcher

/-- Whether only the empty text can match. -/
def takesNothing : Matcher Atom → Bool
  | .empty => true
  | .atom (.set _) => false
  | .atom (.look _) => true
  | .seq first second => first.takesNothing && second.takesNothing
  | .either first second => first.takesNothing && second.takesNothing
  | .repetition body _ most => most = some 0 || body.takesNothing
  | .capture body => body.takesNothing

/-- Whether the empty text can match. -/
def mayTakeNothing : Matcher Atom → Bool
  | .empty => true
  | .atom (.set _) => false
  | .atom (.look _) => true
  | .seq first second => first.mayTakeNothing && second.mayTakeNothing
  | .either first second => first.mayTakeNothing || second.mayTakeNothing
  | .repetition body least _ => least = 0 || body.mayTakeNothing
  | .capture body => body.mayTakeNothing

/-- The size of a repetition, given that of its body. -/
def repetitionSize (body : Nat) (mayTakeNothing : Bool) (least : Nat) (most : Option Nat) : Nat :=
  let atLeast := if least = 0 then 32 else least * body
  match most with
  | some most =>
      if most = least then atLeast
      else if least = 0 ∧ most = 1 then body + 72
      else atLeast + 32 + (most - least) * (body + 40)
  | none =>
      if 0 < least then least * body + 40
      else if mayTakeNothing then body + 112
      else body + 40

/-- The size of a matcher, which may be one way of a choice. Alternatives within
alternatives are one choice, and what takes nothing is repeated at most once. -/
def size (inChoice : Bool) : Matcher Atom → Nat
  | .either first second =>
      first.size true + second.size true + (if inChoice then 0 else 64)
  | .empty => 32 + way
  | .atom a => a.size + way
  | .seq first second => first.size false + second.size false + way
  | .repetition body least most =>
      way +
        if body.takesNothing then
          repetitionSize (body.size false) true (min least 1) (some (min (most.getD 1) 1))
        else repetitionSize (body.size false) body.mayTakeNothing least most
  | .capture body => body.size false + 64 + way
where
  way : Nat := if inChoice then 4 else 0

end Matcher

/-- How large the automaton of a pattern may be. -/
def sizeLimit : Nat := 10 * 1024 * 1024

end FeatureFlags.Pattern
