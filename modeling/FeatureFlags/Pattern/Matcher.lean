import FeatureFlags.Unicode.Property

/-!
Patterns ready to be matched: names, classes and settings are resolved to sets
of characters and to conditions on a position.

A text of `n` characters has the positions from `0` to `n`, and a set of
positions is a number: position `i` is in the set if bit `i` is. `Matcher.ends`
gives the positions where a match may end, for all starts at once, so the search
never goes back.
-/

namespace FeatureFlags.Pattern

inductive Matcher (α : Type) where
  | empty
  | atom (a : α)
  | seq (first second : Matcher α)
  | either (first second : Matcher α)
  | repetition (body : Matcher α) (least : Nat) (most : Option Nat)
  | capture (body : Matcher α)

/-- How a position stands to the words around it. -/
inductive WordEdge where
  | boundary
  | notBoundary
  | start
  | finish
  | startHalf
  | finishHalf
deriving DecidableEq

/-- A condition on a position. Lines end with a line feed, and with `crlf` also
with a carriage return; the two in sequence end one line. -/
inductive Look where
  | textStart
  | textEnd
  | lineStart (crlf : Bool)
  | lineEnd (crlf : Bool)
  | word (edge : WordEdge) (unicode : Bool)
deriving DecidableEq

/-- What a matcher is made of: a character of a set, or a condition. -/
inductive Atom where
  | set (members : Unicode.CharSet)
  | look (condition : Look)
deriving DecidableEq

namespace Matcher

def map {α β : Type} (f : α → β) : Matcher α → Matcher β
  | .empty => .empty
  | .atom a => .atom (f a)
  | .seq first second => .seq (first.map f) (second.map f)
  | .either first second => .either (first.map f) (second.map f)
  | .repetition body least most => .repetition (body.map f) least most
  | .capture body => .capture (body.map f)

/-- One matcher after the other. -/
def concat {α : Type} : List (Matcher α) → Matcher α
  | [] => .empty
  | .empty :: rest => concat rest
  | matcher :: rest =>
      match concat rest with
      | .empty => matcher
      | others => .seq matcher others

/-- The ways of a choice. -/
def branches {α : Type} : Matcher α → List (Matcher α)
  | .either first second => first.branches ++ second.branches
  | matcher => [matcher]

/-- The set of a matcher that takes one character. -/
def single? : Matcher Atom → Option Unicode.CharSet
  | .atom (.set members) => some members
  | _ => none

/-- A choice of matchers. Where each of them takes one character, their sets are
united instead. -/
def choice (matchers : List (Matcher Atom)) : Matcher Atom :=
  let branches := matchers.flatMap branches
  match branches.mapM single? with
  | some sets => .atom (.set (.unions sets))
  | none => branches.dropLast.foldr .either (branches.getLastD .empty)

end Matcher

def asciiWord : Unicode.CharSet :=
  ⟨[('0'.toNat, '9'.toNat), ('A'.toNat, 'Z'.toNat), ('_'.toNat, '_'.toNat),
    ('a'.toNat, 'z'.toNat)]⟩

/-- Whether there is a character that is part of a word. -/
def isWordAt (unicode : Bool) (c : Option Char) : Bool :=
  c.any fun c => (if unicode then Unicode.wordCharacters else asciiWord).contains c.toNat

/-- Whether a position stands to words as required, given whether words lie
before and after it. -/
def WordEdge.holds (edge : WordEdge) (before after : Bool) : Bool :=
  match edge with
  | .boundary => before != after
  | .notBoundary => before == after
  | .start => !before && after
  | .finish => before && !after
  | .startHalf => !before
  | .finishHalf => !after

/-- Whether a condition holds between two characters, either of which is absent
at an end of the text. -/
def Look.holds (look : Look) (before after : Option Char) : Bool :=
  match look with
  | .textStart => before.isNone
  | .textEnd => after.isNone
  | .lineStart false => before.all (· = '\n')
  | .lineStart true => before.all fun c => c = '\n' || (c = '\r' && after ≠ some '\n')
  | .lineEnd false => after.all (· = '\n')
  | .lineEnd true => after.all fun c => c = '\r' || (c = '\n' && before ≠ some '\r')
  | .word edge unicode => edge.holds (isWordAt unicode before) (isWordAt unicode after)

/-- The set of the positions whose items satisfy a condition. -/
def positions {α : Type} (accepts : α → Bool) (items : List α) : Nat :=
  items.foldr (fun item set => 2 * set + (accepts item).toNat) 0

/-- The pairs of characters around each position of a text. -/
def surroundings (before : Option Char) : List Char → List (Option Char × Option Char)
  | [] => [(before, none)]
  | c :: rest => (before, some c) :: surroundings (some c) rest

/-- What an atom does in a text: it goes on behind certain characters, or stays
at certain positions. -/
inductive Move where
  | advance (sources : Nat)
  | stay (sources : Nat)

def Atom.move (text : List Char) : Atom → Move
  | .set members => .advance (positions (fun c => members.contains c.toNat) text)
  | .look condition =>
      .stay (positions (fun (before, after) => condition.holds before after)
        (surroundings none text))

/-- The positions that a move leads to. -/
def Move.apply (move : Move) (starts : Nat) : Nat :=
  match move with
  | .advance sources => (starts &&& sources) <<< 1
  | .stay sources => starts &&& sources

/-- Repeats a step a number of times, or until it makes no difference. -/
def settle (step : Nat → Nat) : Nat → Nat → Nat
  | 0, set => set
  | times + 1, set =>
      let next := step set
      if next = set then set else settle step times next

/-- The positions where a match may end if it starts at one of the given ones. A
repetition without an upper bound needs no more rounds than there are positions,
because later rounds reach no new one. -/
def Matcher.ends (length : Nat) : Matcher Move → Nat → Nat
  | .empty, starts => starts
  | .atom move, starts => move.apply starts
  | .seq first second, starts => second.ends length (first.ends length starts)
  | .either first second, starts => first.ends length starts ||| second.ends length starts
  | .repetition body least most, starts =>
      let reached := settle (body.ends length) least starts
      let rounds := most.getD (least + length + 1) - least
      settle (fun set => set ||| body.ends length set) rounds reached
  | .capture body, starts => body.ends length starts

/-- Whether some part of a text matches. -/
def Matcher.occursIn (matcher : Matcher Atom) (text : List Char) : Bool :=
  let everywhere := positions (fun _ => true) (surroundings none text)
  (matcher.map (Atom.move text)).ends text.length everywhere ≠ 0

end FeatureFlags.Pattern
