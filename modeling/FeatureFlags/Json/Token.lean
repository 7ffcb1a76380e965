import FeatureFlags.Json.Numeral

/-!
The tokens of a JSON text, read from its bytes. Reading is strict: no leading
zeros, no bare signs or points, no control characters inside a string, and
nothing but blanks between tokens.

A string token keeps what was written between the quotes as a list of pieces.
Whether the pieces spell a text is a separate question, because a reader that
only passes over a string never asks it: bytes that are no UTF-8 and unpaired
surrogate escapes are errors only in a string whose text is used.
-/

namespace FeatureFlags.Json

/-- One byte of a string's text, or a `\u` escape, which is a UTF-16 unit. -/
inductive Piece where
  | byte (b : UInt8)
  | unit (value : Nat)
deriving DecidableEq

inductive Token where
  | openArray
  | closeArray
  | openObject
  | closeObject
  | comma
  | colon
  | null
  | boolean (b : Bool)
  | number (n : Numeral)
  | string (pieces : List Piece)
deriving DecidableEq

/-- The byte of an ASCII character. -/
def ascii (c : Char) : UInt8 := c.toNat.toUInt8

def isDigit (b : UInt8) : Bool := ascii '0' ≤ b && b ≤ ascii '9'

/-- The value of a hexadecimal digit. -/
def hexValue? (b : UInt8) : Option Nat :=
  if isDigit b then some (b - ascii '0').toNat
  else if ascii 'a' ≤ b && b ≤ ascii 'f' then some ((b - ascii 'a').toNat + 10)
  else if ascii 'A' ≤ b && b ≤ ascii 'F' then some ((b - ascii 'A').toNat + 10)
  else none

/-- The byte that a one-letter escape stands for. -/
def escaped? (b : UInt8) : Option UInt8 :=
  if b = ascii '"' ∨ b = ascii '\\' ∨ b = ascii '/' then some b
  else if b = ascii 'b' then some 8
  else if b = ascii 'f' then some 12
  else if b = ascii 'n' then some 10
  else if b = ascii 'r' then some 13
  else if b = ascii 't' then some 9
  else none

/-- Reads a string behind its opening quote, and what follows the closing
one. -/
def readString : List UInt8 → Option (List Piece × List UInt8)
  | [] => none
  | b :: rest =>
      if b = ascii '"' then some ([], rest)
      else if b < 32 then none
      else if b ≠ ascii '\\' then
        (readString rest).map fun (pieces, rest) => (.byte b :: pieces, rest)
      else
        match rest with
        | [] => none
        | letter :: rest =>
            if letter = ascii 'u' then
              match rest with
              | h₁ :: h₂ :: h₃ :: h₄ :: rest =>
                  match hexValue? h₁, hexValue? h₂, hexValue? h₃, hexValue? h₄ with
                  | some d₁, some d₂, some d₃, some d₄ =>
                      (readString rest).map fun (pieces, rest) =>
                        (.unit (((d₁ * 16 + d₂) * 16 + d₃) * 16 + d₄) :: pieces, rest)
                  | _, _, _, _ => none
              | _ => none
            else
              match escaped? letter with
              | some byte =>
                  (readString rest).map fun (pieces, rest) => (.byte byte :: pieces, rest)
              | none => none

/-- Splits off the digits that a text begins with; there has to be one. -/
def readDigits (text : List UInt8) : Option (List Nat × List UInt8) :=
  match text.takeWhile isDigit with
  | [] => none
  | digits => some (digits.map fun b => (b - ascii '0').toNat, text.dropWhile isDigit)

/-- Reads the exponent behind its letter. -/
def readExponent (text : List UInt8) : Option (Int × List UInt8) :=
  let (down, unsigned) :=
    match text with
    | b :: rest =>
        if b = ascii '-' then (true, rest)
        else if b = ascii '+' then (false, rest)
        else (false, text)
    | [] => (false, text)
  (readDigits unsigned).map fun (digits, rest) =>
    let size : Int := Decimal.ofDigits digits
    (if down then -size else size, rest)

/-- Reads the digits behind a point, if there is one. -/
def readFraction : List UInt8 → Option (List Nat × List UInt8)
  | b :: rest => if b = ascii '.' then readDigits rest else some ([], b :: rest)
  | [] => some ([], [])

/-- Reads an exponent with its letter, if there is one. -/
def readPower : List UInt8 → Option (Option Int × List UInt8)
  | b :: rest =>
      if b = ascii 'e' ∨ b = ascii 'E' then
        (readExponent rest).map fun (power, rest) => (some power, rest)
      else some (none, b :: rest)
  | [] => some (none, [])

/-- Reads a number: an optional minus, digits that do not begin with a spare
zero, and optionally a fraction and an exponent. -/
def readNumeral (text : List UInt8) : Option (Numeral × List UInt8) := do
  let (negative, unsigned) :=
    match text with
    | b :: rest => if b = ascii '-' then (true, rest) else (false, text)
    | [] => (false, text)
  let (whole, rest) ← readDigits unsigned
  if 1 < whole.length ∧ whole.head? = some 0 then none
  let (fraction, rest) ← readFraction rest
  let (power, rest) ← readPower rest
  return (⟨negative, whole, fraction, power⟩, rest)

/-- Reads a fixed word. -/
def readWord (word : String) (token : Token) (text : List UInt8) :
    Option (Token × List UInt8) :=
  let bytes := word.toList.map ascii
  if bytes.isPrefixOf text then some (token, text.drop bytes.length) else none

/-- Reads the token that a text begins with, which is not blank. -/
def readToken (b : UInt8) (rest : List UInt8) : Option (Token × List UInt8) :=
  if b = ascii '[' then some (.openArray, rest)
  else if b = ascii ']' then some (.closeArray, rest)
  else if b = ascii '\x7b' then some (.openObject, rest)
  else if b = ascii '\x7d' then some (.closeObject, rest)
  else if b = ascii ',' then some (.comma, rest)
  else if b = ascii ':' then some (.colon, rest)
  else if b = ascii '"' then
    (readString rest).map fun (pieces, rest) => (.string pieces, rest)
  else if b = ascii 'n' then readWord "null" .null (b :: rest)
  else if b = ascii 't' then readWord "true" (.boolean true) (b :: rest)
  else if b = ascii 'f' then readWord "false" (.boolean false) (b :: rest)
  else (readNumeral (b :: rest)).map fun (n, rest) => (.number n, rest)

def isBlank (b : UInt8) : Bool :=
  b = ascii ' ' || b = ascii '\n' || b = ascii '\t' || b = ascii '\r'

/-- Reads tokens; every one of them takes a byte, so as many steps as there
are bytes are enough. -/
def readTokens : Nat → List UInt8 → Option (List Token)
  | _, [] => some []
  | 0, _ => none
  | steps + 1, b :: rest =>
      if isBlank b then readTokens steps rest
      else do
        let (token, rest) ← readToken b rest
        let tokens ← readTokens steps rest
        return token :: tokens

/-- The tokens of a text, if it is made of tokens. -/
def tokens? (text : List UInt8) : Option (List Token) :=
  readTokens text.length text

/-- The UTF-8 bytes of a code point. -/
def utf8Bytes (codePoint : Nat) : List UInt8 :=
  String.utf8EncodeChar (Char.ofNat codePoint)

/-- The bytes that pieces stand for. A high surrogate has to be followed by a
low one, and the pair is one code point; a low one stands nowhere else. -/
def spelledBytes? : List Piece → Option (List UInt8)
  | [] => some []
  | .byte b :: rest => (spelledBytes? rest).map (b :: ·)
  | .unit high :: rest =>
      if 0xD800 ≤ high ∧ high < 0xDC00 then
        match rest with
        | .unit low :: rest =>
            if 0xDC00 ≤ low ∧ low < 0xE000 then
              (spelledBytes? rest).map
                (utf8Bytes (0x10000 + (high - 0xD800) * 0x400 + (low - 0xDC00)) ++ ·)
            else none
        | _ => none
      else if 0xDC00 ≤ high ∧ high < 0xE000 then none
      else (spelledBytes? rest).map (utf8Bytes high ++ ·)

/-- The text that pieces spell. -/
def spelled? (pieces : List Piece) : Option String :=
  (spelledBytes? pieces).bind fun bytes => String.fromUTF8? ⟨bytes.toArray⟩

end FeatureFlags.Json
