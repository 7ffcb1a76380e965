import FeatureFlags.Json.Numeral

/-!
The compact text of a JSON value: no blanks, members in the order in which the
value holds them, and only those characters escaped that a string cannot hold
as they are. A float has a point or an exponent, so that it does not read back
as an integer.
-/

namespace FeatureFlags.Json

/-- A character inside a string. -/
def renderChar (c : Char) : String :=
  match c with
  | '"' => "\\\""
  | '\\' => "\\\\"
  | '\n' => "\\n"
  | '\r' => "\\r"
  | '\t' => "\\t"
  | '\x08' => "\\b"
  | '\x0c' => "\\f"
  | c =>
      if c.toNat < 32 then
        "\\u00" ++ String.ofList [Nat.digitChar (c.toNat / 16), Nat.digitChar (c.toNat % 16)]
      else c.toString

def renderString (s : String) : String :=
  "\"" ++ String.join (s.toList.map renderChar) ++ "\""

namespace Numeral

/-- The digits behind a point, with the point if there are any. -/
def fractionText : List Nat → List Char
  | [] => []
  | digits => '.' :: digits.map Nat.digitChar

/-- An exponent with its letter, if there is one. -/
def powerText : Option Int → List Char
  | some power => 'e' :: (toString power).toList
  | none => []

/-- The text of a number. -/
def toText (n : Numeral) : String :=
  let magnitude :=
    n.whole.map Nat.digitChar ++ (fractionText n.fraction ++ powerText n.power)
  String.ofList (if n.negative then '-' :: magnitude else magnitude)

/-- The digits of a number, more than so many of them because zeros are put in
front. -/
def padded (n places : Nat) : List Nat :=
  List.replicate (places + 1 - (Decimal.digits n).length) 0 ++ Decimal.digits n

/-- A decimal with the point where it belongs, and with a zero behind the point
if it is a whole number. -/
def positional (d : Decimal) : Numeral :=
  match d.exponent with
  | .ofNat e => ⟨d.negative, Decimal.digits d.coefficient ++ List.replicate e 0, [0], none⟩
  | .negSucc e =>
      let digits := padded d.coefficient (e + 1)
      let whole := digits.length - (e + 1)
      ⟨d.negative, digits.take whole, digits.drop whole, none⟩

/-- A decimal with the point behind the first of several digits, and with the
power of ten that the first one counts. -/
def scientific (d : Decimal) : Numeral :=
  let digits := Decimal.digits d.coefficient
  ⟨d.negative, digits.take 1, digits.drop 1, some (digits.length + d.exponent - 1)⟩

/-- A float in its shortest digits. It gets an exponent if the point would stand
far to the left or to the right of them. -/
def ofFloat (x : Binary64.Finite) : Numeral :=
  let decimal := Decimal.shortest .even x
  let point : Int := (Decimal.digits decimal.coefficient).length + decimal.exponent
  if -5 < point ∧ point ≤ 16 then positional decimal else scientific decimal

end Numeral

mutual

def render : Json → String
  | .null => "null"
  | .boolean b => if b then "true" else "false"
  | .integer n => toString n.value
  | .float x => (Numeral.ofFloat x).toText
  | .string s => renderString s
  | .array items => "[" ++ ",".intercalate (renderItems items) ++ "]"
  | .object members => "\x7b" ++ ",".intercalate (renderMembers members) ++ "\x7d"

def renderItems : List Json → List String
  | [] => []
  | item :: rest => render item :: renderItems rest

def renderMembers : List (String × Json) → List String
  | [] => []
  | (name, value) :: rest => (renderString name ++ ":" ++ render value) :: renderMembers rest

end

end FeatureFlags.Json
