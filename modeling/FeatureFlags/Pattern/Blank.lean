import FeatureFlags.Unicode.Named

/-!
What a pattern may hold between its parts. A verbose pattern may have blanks
and comments there; a comment goes from a number sign to the end of its line.
-/

namespace FeatureFlags.Pattern

def isBlank (c : Char) : Bool := Unicode.whiteSpace.contains c.toNat

/-- What is left behind blanks and comments, from within a comment or not. -/
def dropBlanks (inComment : Bool) : List Char → List Char
  | [] => []
  | c :: rest =>
      if inComment then dropBlanks (c ≠ '\n') rest
      else if isBlank c then dropBlanks false rest
      else if c = '#' then dropBlanks true rest
      else c :: rest

/-- Passes over blanks and comments where they are allowed. -/
def skipBlanks (verbose : Bool) (text : List Char) : List Char :=
  if verbose then dropBlanks false text else text

/-- Takes up to `limit` characters that satisfy a condition, passing over blanks
and comments in front of each. -/
def spanBlanks (verbose : Bool) (accepts : Char → Bool) : Nat → List Char → List Char × List Char
  | 0, text => ([], text)
  | limit + 1, text =>
      match skipBlanks verbose text with
      | [] => ([], [])
      | c :: rest =>
          if accepts c then
            let (taken, left) := spanBlanks verbose accepts limit rest
            (c :: taken, left)
          else ([], c :: rest)

/-- Takes all characters that satisfy a condition, passing over blanks and
comments in front of each. -/
def spanAllBlanks (verbose : Bool) (accepts : Char → Bool) (text : List Char) :
    List Char × List Char :=
  spanBlanks verbose accepts text.length text

end FeatureFlags.Pattern
