import FeatureFlags.Pattern.Form
import FeatureFlags.Pattern.Matcher
import FeatureFlags.Unicode.CaseFold
import FeatureFlags.Unicode.Named

/-!
What the written form of a pattern means: a matcher, under the settings that are
in force. A setting made within a group holds up to the end of that group, also
in the branches that follow. A form has no meaning if it names an unknown set,
or if it may stand for bytes that are no text: without Unicode there is no dot,
no negated set, no named set and no byte beyond ASCII.
-/

namespace FeatureFlags.Pattern

open Unicode

structure Settings where
  ignoreCase : Bool := false
  multiLine : Bool := false
  dotAll : Bool := false
  unicode : Bool := true
  crlf : Bool := false

/-- Case classes of ASCII: a letter and its capital. -/
def asciiCasePairs : List (Nat × Nat) :=
  (List.range 26).map fun i => ('a'.toNat + i, 'A'.toNat + i)

/-- Adds to a set the ASCII letters that differ from its members in case only. -/
def foldAsciiCase (set : CharSet) : CharSet :=
  let reached := asciiCasePairs.filter fun (small, capital) =>
    set.contains small || set.contains capital
  set.union (.ofRanges (reached.flatMap fun (small, capital) =>
    [(small, small), (capital, capital)]))

/-- Ranges of ASCII characters, given by their ends. -/
def asciiRanges (ends : List (Char × Char)) : CharSet :=
  .ofRanges (ends.map fun (first, last) => (first.toNat, last.toNat))

def AsciiClass.set : AsciiClass → CharSet
  | .alnum => asciiRanges [('0', '9'), ('A', 'Z'), ('a', 'z')]
  | .alpha => asciiRanges [('A', 'Z'), ('a', 'z')]
  | .ascii => asciiRanges [('\x00', '\x7f')]
  | .blank => asciiRanges [('\t', '\t'), (' ', ' ')]
  | .cntrl => asciiRanges [('\x00', '\x1f'), ('\x7f', '\x7f')]
  | .digit => asciiRanges [('0', '9')]
  | .graph => asciiRanges [('!', '~')]
  | .lower => asciiRanges [('a', 'z')]
  | .print => asciiRanges [(' ', '~')]
  | .punct => asciiRanges [('!', '/'), (':', '@'), ('[', '\x60'), ('\x7b', '~')]
  | .space => asciiRanges [('\t', '\r'), (' ', ' ')]
  | .upper => asciiRanges [('A', 'Z')]
  | .word => asciiWord
  | .xdigit => asciiRanges [('0', '9'), ('A', 'F'), ('a', 'f')]

def LetterClass.set (unicode : Bool) : LetterClass → CharSet
  | .digit => if unicode then digits else AsciiClass.digit.set
  | .space => if unicode then whiteSpace else AsciiClass.space.set
  | .word => if unicode then wordCharacters else AsciiClass.word.set

def NamedClass.set? : NamedClass → Option CharSet
  | .name text => Unicode.named? text
  | .value property text => valued? property text

def SetOperator.apply (operator : SetOperator) (left right : CharSet) : CharSet :=
  match operator with
  | .intersection => left.inter right
  | .difference => left.diff right
  | .symmetricDifference => left.symmDiff right

namespace Settings

def apply (settings : Settings) (switch : Switch) : Settings :=
  match switch.setting with
  | .ignoreCase => { settings with ignoreCase := switch.on }
  | .multiLine => { settings with multiLine := switch.on }
  | .dotAll => { settings with dotAll := switch.on }
  | .unicode => { settings with unicode := switch.on }
  | .crlf => { settings with crlf := switch.on }
  | .swapGreed | .verbose => settings

/-- Adds what differs in case only, if case makes no difference. -/
def fold (settings : Settings) (set : CharSet) : CharSet :=
  if settings.ignoreCase then
    if settings.unicode then set.foldCase else foldAsciiCase set
  else set

/-- The complement of a set where one is asked for. -/
def negate? (settings : Settings) (negated : Bool) (set : CharSet) : Option CharSet :=
  if negated then if settings.unicode then some set.complement else none
  else some set

/-- The set of a named class. -/
def named? (settings : Settings) (negated : Bool) (c : NamedClass) : Option CharSet := do
  if settings.unicode then settings.negate? negated (settings.fold (← c.set?)) else none

/-- The set of a letter class, which case makes no difference to. -/
def letter? (settings : Settings) (negated : Bool) (c : LetterClass) : Option CharSet :=
  settings.negate? negated (c.set settings.unicode)

/-- The code point that a character stands for within brackets. -/
def classMember? (settings : Settings) (l : Literal) : Option Nat :=
  if settings.unicode ∨ l.char.toNat < 128 then some l.char.toNat else none

/-- The set of a character outside brackets. -/
def literal? (settings : Settings) (l : Literal) : Option CharSet :=
  if ¬ settings.unicode ∧ l.byteEscape ∧ 128 ≤ l.char.toNat then none
  else some (settings.fold (.singleton l.char.toNat))

/-- The set of a dot. -/
def dot? (settings : Settings) : Option CharSet :=
  if ¬ settings.unicode then none
  else if settings.dotAll then some .full
  else if settings.crlf then some (asciiRanges [('\n', '\n'), ('\r', '\r')]).complement
  else some (asciiRanges [('\n', '\n')]).complement

/-- The condition of an assertion. -/
def look (settings : Settings) (assertion : Assertion) : Look :=
  let word (edge : WordEdge) : Look := .word edge settings.unicode
  match assertion with
  | .lineStart => if settings.multiLine then .lineStart settings.crlf else .textStart
  | .lineEnd => if settings.multiLine then .lineEnd settings.crlf else .textEnd
  | .textStart => .textStart
  | .textEnd => .textEnd
  | .wordBoundary => word .boundary
  | .notWordBoundary => word .notBoundary
  | .wordStart => word .start
  | .wordEnd => word .finish
  | .wordStartHalf => word .startHalf
  | .wordEndHalf => word .finishHalf

end Settings

mutual

/-- The set of what stands within brackets. -/
def ClassForm.set? (settings : Settings) : ClassForm → Option CharSet
  | .empty => some .empty
  | .literal l => (settings.classMember? l).map CharSet.singleton
  | .range first last => do
      return .range (← settings.classMember? first) (← settings.classMember? last)
  | .ascii negated c => settings.negate? negated (settings.fold c.set)
  | .named negated c => settings.named? negated c
  | .letter negated c => settings.letter? negated c
  | .bracketed negated body => do
      settings.negate? negated (settings.fold (← body.set? settings))
  | .union items => (ClassForm.sets? settings items).map CharSet.unions
  | .operation operator left right => do
      let left ← left.set? settings
      let right ← right.set? settings
      return operator.apply (settings.fold left) (settings.fold right)

def ClassForm.sets? (settings : Settings) : List ClassForm → Option (List CharSet)
  | [] => some []
  | item :: rest => do return (← item.set? settings) :: (← ClassForm.sets? settings rest)

end

/-- The settings in force at the beginning of a group. -/
def GroupKind.settings (kind : GroupKind) (outer : Settings) : Settings :=
  match kind with
  | .capture => outer
  | .plain switches => switches.foldl Settings.apply outer

def GroupKind.wrap (kind : GroupKind) (body : Matcher Atom) : Matcher Atom :=
  match kind with
  | .capture => .capture body
  | .plain _ => body

def Matcher.ofSet (set : CharSet) : Matcher Atom := .atom (.set set)

mutual

/-- The matcher of a form, and the settings in force behind it. -/
def Form.resolve? (settings : Settings) : Form → Option (Matcher Atom × Settings)
  | .empty => some (.empty, settings)
  | .switches changes => some (.empty, changes.foldl Settings.apply settings)
  | .literal l => do return (.ofSet (← settings.literal? l), settings)
  | .dot => do return (.ofSet (← settings.dot?), settings)
  | .assertion a => some (.atom (.look (settings.look a)), settings)
  | .named negated c => do return (.ofSet (← settings.named? negated c), settings)
  | .letter negated c => do return (.ofSet (← settings.letter? negated c), settings)
  | .bracketed negated body => do
      let set ← settings.negate? negated (settings.fold (← body.set? settings))
      return (.ofSet set, settings)
  | .repetition body least most => do
      let (body, _) ← body.resolve? settings
      return (.repetition body least most, settings)
  | .group kind body => do
      let (body, _) ← body.resolve? (kind.settings settings)
      return (kind.wrap body, settings)
  | .alternation branches => do
      let (branches, settings) ← Form.resolveAll? settings branches
      return (.choice branches, settings)
  | .concat items => do
      let (items, settings) ← Form.resolveAll? settings items
      return (.concat items, settings)

/-- The matchers of forms that follow one another. -/
def Form.resolveAll? (settings : Settings) : List Form → Option (List (Matcher Atom) × Settings)
  | [] => some ([], settings)
  | form :: rest => do
      let (matcher, settings) ← form.resolve? settings
      let (matchers, settings) ← Form.resolveAll? settings rest
      return (matcher :: matchers, settings)

end

/-- The matcher of a form on its own. -/
def Form.matcher? (form : Form) : Option (Matcher Atom) :=
  (form.resolve? {}).map (·.1)

end FeatureFlags.Pattern
