import FeatureFlags.Bucket
import FeatureFlags.Json.Token
import FeatureFlags.Proofs.Json.Numeral

/-!
Rendered tokens read back. A number is read digit by digit up to what stands
behind it. A character in a string is its own bytes, a letter behind a
backslash, or the number of a control character, and in each form it spells the
character again.
-/

namespace FeatureFlags.Json

/-! ### Texts -/

/-- The UTF-8 bytes of characters. -/
def encode (cs : List Char) : List UInt8 :=
  cs.flatMap String.utf8EncodeChar

theorem textBytes_eq (text : String) : textBytes text = encode text.toList := by
  rw [textBytes, String.toUTF8_eq_toByteArray, ← String.utf8Encode_toList, List.utf8Encode]
  simp [encode]

theorem encode_append (front back : List Char) :
    encode (front ++ back) = encode front ++ encode back :=
  List.flatMap_append

theorem utf8EncodeChar_ascii {c : Char} (h : c.toNat < 128) :
    String.utf8EncodeChar c = [ascii c] := by
  have hle : c.val.toNat ≤ 0x7f := Nat.le_of_lt_succ h
  simp only [String.utf8EncodeChar, hle, if_true]
  rfl

theorem encode_eq_map {cs : List Char} (h : ∀ c ∈ cs, c.toNat < 128) :
    encode cs = cs.map ascii := by
  induction cs with
  | nil => rfl
  | cons c rest ih =>
      obtain ⟨hc, hrest⟩ := List.forall_mem_cons.mp h
      rw [encode, List.flatMap_cons, utf8EncodeChar_ascii hc, List.map_cons, ← ih hrest]
      rfl

/-! ### Digits -/

/-- What can stand behind a value: nothing, a comma, or the end of a container. -/
def Closed (rest : List UInt8) : Prop :=
  ∀ b ∈ rest.head?, b = ascii ',' ∨ b = ascii ']' ∨ b = ascii '\x7d'

def digitByte (digit : Nat) : UInt8 := ascii (Nat.digitChar digit)

theorem isDigit_digitByte {digit : Nat} (h : digit < 10) : isDigit (digitByte digit) = true := by
  interval_cases digit <;> rfl

theorem toNat_digitByte_sub {digit : Nat} (h : digit < 10) :
    (digitByte digit - ascii '0').toNat = digit := by
  interval_cases digit <;> rfl

theorem encode_digits {digits : List Nat} (h : ∀ digit ∈ digits, digit < 10) :
    encode (digits.map Nat.digitChar) = digits.map digitByte := by
  have hascii : ∀ c ∈ digits.map Nat.digitChar, c.toNat < 128 :=
    List.forall_mem_map.mpr fun digit hmem => by
      rw [Nat.toNat_digitChar_of_lt_ten (h digit hmem)]
      exact Nat.lt_trans (Nat.add_lt_add_left (h digit hmem) 48) (by decide)
  rw [encode_eq_map hascii, List.map_map]
  rfl

section Digits

variable {digits : List Nat} {rest : List UInt8}

theorem readDigits_append (hdigits : ∀ digit ∈ digits, digit < 10) (hne : digits ≠ [])
    (hrest : ∀ b ∈ rest.head?, isDigit b = false) :
    readDigits (digits.map digitByte ++ rest) = some (digits, rest) := by
  have hall : ∀ b ∈ digits.map digitByte, isDigit b = true :=
    List.forall_mem_map.mpr fun digit hmem => isDigit_digitByte (hdigits digit hmem)
  have htake : rest.takeWhile isDigit = [] := by
    cases rest with
    | nil => rfl
    | cons b more => rw [List.takeWhile_cons, hrest b rfl, if_neg Bool.false_ne_true]
  have hdrop : rest.dropWhile isDigit = rest := by
    cases rest with
    | nil => rfl
    | cons b more => rw [List.dropWhile_cons, hrest b rfl, if_neg Bool.false_ne_true]
  have hvalues : (digits.map digitByte).map (fun b => (b - ascii '0').toNat) = digits := by
    rw [List.map_map]
    refine (List.map_congr_left fun digit hmem => ?_).trans (List.map_id digits)
    exact toNat_digitByte_sub (hdigits digit hmem)
  rw [readDigits, List.takeWhile_append_of_pos hall, List.dropWhile_append_of_pos hall, htake, hdrop,
    List.append_nil]
  obtain ⟨first, more, rfl⟩ := List.exists_cons_of_ne_nil hne
  exact congrArg (fun values => some (values, rest)) hvalues

/-- The first digit is not a sign. -/
theorem exists_cons_digits (hdigits : ∀ digit ∈ digits, digit < 10) (hne : digits ≠ [])
    (rest : List UInt8) :
    ∃ b more, digits.map digitByte ++ rest = b :: more ∧ isDigit b = true ∧ b ≠ ascii '-' ∧
      b ≠ ascii '+' := by
  obtain ⟨first, others, rfl⟩ := List.exists_cons_of_ne_nil hne
  have hfirst := isDigit_digitByte (hdigits first List.mem_cons_self)
  refine ⟨_, _, rfl, hfirst, ?_, ?_⟩
  · intro hsign
    rw [hsign] at hfirst
    cases hfirst
  · intro hsign
    rw [hsign] at hfirst
    cases hfirst

end Digits

/-! ### Numbers -/

/-- The bytes of a number's sign. -/
def signBytes (negative : Bool) : List UInt8 :=
  if negative then [ascii '-'] else []

/-- The bytes of the digits behind a point, with the point if there are any. -/
def fractionBytes : List Nat → List UInt8
  | [] => []
  | digits => ascii '.' :: digits.map digitByte

/-- The bytes of an exponent with its letter, if there is one. -/
def powerBytes : Option Int → List UInt8
  | some power =>
      ascii 'e' :: (signBytes (power < 0) ++ (Decimal.digits power.natAbs).map digitByte)
  | none => []

section Numerals

variable {n : Numeral} {rest : List UInt8}

theorem encode_signed (negative : Bool) (magnitude : List Char) :
    encode (Decimal.signed negative magnitude) = signBytes negative ++ encode magnitude := by
  cases negative <;> rfl

theorem encode_power (power : Int) : encode (toString power).toList =
    signBytes (power < 0) ++ (Decimal.digits power.natAbs).map digitByte := by
  rw [Decimal.toList_toString, encode_signed, ← Decimal.map_digitChar_digits,
    encode_digits fun _ => Decimal.lt_of_mem_digits]

theorem encode_fractionText {fraction : List Nat} (h : ∀ digit ∈ fraction, digit < 10) :
    encode (Numeral.fractionText fraction) = fractionBytes fraction := by
  cases fraction with
  | nil => rfl
  | cons digit others =>
      rw [fractionBytes, ← encode_digits h]
      · rfl
      · exact List.cons_ne_nil _ _

theorem encode_powerText (power : Option Int) :
    encode (Numeral.powerText power) = powerBytes power := by
  cases power with
  | none => rfl
  | some power =>
      rw [powerBytes, ← encode_power]
      rfl

theorem textBytes_toText (h : n.WellFormed) : textBytes n.toText =
    signBytes n.negative ++
      (n.whole.map digitByte ++ (fractionBytes n.fraction ++ powerBytes n.power)) := by
  rw [textBytes_eq, Numeral.toText, String.toList_ofList, ← Decimal.signed, encode_signed,
    encode_append, encode_append, encode_digits h.whole_lt, encode_fractionText h.fraction_lt,
    encode_powerText]

theorem readExponent_append (power : Int) (hrest : ∀ b ∈ rest.head?, isDigit b = false) :
    readExponent
      (signBytes (power < 0) ++ ((Decimal.digits power.natAbs).map digitByte ++ rest)) =
        some (power, rest) := by
  have hread := readDigits_append (fun _ => Decimal.lt_of_mem_digits)
    (Decimal.digits_ne_nil power.natAbs) hrest
  by_cases hnegative : power < 0
  · have hvalue : -((power.natAbs : Nat) : Int) = power := by omega
    simp only [readExponent, signBytes, hnegative, decide_true, if_true, List.singleton_append,
      hread, Option.map_some, Decimal.ofDigits_digits, hvalue]
  · have hvalue : ((power.natAbs : Nat) : Int) = power := by omega
    obtain ⟨b, more, hdigits, _, hminus, hplus⟩ := exists_cons_digits
      (fun _ => Decimal.lt_of_mem_digits) (Decimal.digits_ne_nil power.natAbs) rest
    rw [hdigits] at hread ⊢
    simp only [readExponent, signBytes, hnegative, decide_false, Bool.false_eq_true, if_false,
      List.nil_append, hminus, hplus, hread, Option.map_some, Decimal.ofDigits_digits, hvalue]

theorem closed_isDigit (hrest : Closed rest) : ∀ b ∈ rest.head?, isDigit b = false := by
  intro b hmem
  rcases hrest b hmem with rfl | rfl | rfl <;> rfl

theorem readPower_append (power : Option Int) (hrest : Closed rest) :
    readPower (powerBytes power ++ rest) = some (power, rest) := by
  cases power with
  | some power =>
      have hread := readExponent_append power (closed_isDigit hrest)
      rw [powerBytes, List.cons_append, List.append_assoc, readPower, if_pos (.inl rfl), hread]
      rfl
  | none =>
      cases rest with
      | nil => rfl
      | cons b more => rcases hrest b rfl with rfl | rfl | rfl <;> rfl

/-- What can stand behind a fraction. -/
theorem head?_powerBytes (power : Option Int) (hrest : Closed rest) :
    ∀ b ∈ (powerBytes power ++ rest).head?, isDigit b = false ∧ b ≠ ascii '.' := by
  intro b hmem
  cases power with
  | some power =>
      cases hmem
      exact ⟨rfl, by decide⟩
  | none => rcases hrest b hmem with rfl | rfl | rfl <;> exact ⟨rfl, by decide⟩

theorem readFraction_append {fraction : List Nat} (hdigits : ∀ digit ∈ fraction, digit < 10)
    (hrest : ∀ b ∈ rest.head?, isDigit b = false ∧ b ≠ ascii '.') :
    readFraction (fractionBytes fraction ++ rest) = some (fraction, rest) := by
  cases fraction with
  | nil =>
      cases rest with
      | nil => rfl
      | cons b more => exact if_neg (hrest b rfl).2
  | cons digit others =>
      have hread := readDigits_append hdigits (List.cons_ne_nil _ _) fun b hmem => (hrest b hmem).1
      show readFraction (ascii '.' :: (_ ++ rest)) = _
      rw [readFraction, if_pos rfl, hread]

/-- What can stand behind the whole part of a number. -/
theorem head?_fractionBytes (fraction : List Nat) (hrest : ∀ b ∈ rest.head?, isDigit b = false) :
    ∀ b ∈ (fractionBytes fraction ++ rest).head?, isDigit b = false := by
  cases fraction with
  | nil => exact hrest
  | cons digit others =>
      intro b hmem
      cases hmem
      rfl

/-- A number that is written is read digit by digit. -/
theorem readNumeral_toText (h : n.WellFormed) (hrest : Closed rest) :
    readNumeral (textBytes n.toText ++ rest) = some (n, rest) := by
  obtain ⟨negative, whole, fraction, power⟩ := n
  have hpower := readPower_append power hrest
  have hbehind := head?_powerBytes power hrest
  have hfraction := readFraction_append h.fraction_lt hbehind
  have hwhole := readDigits_append h.whole_lt h.whole_ne_nil
    (head?_fractionBytes fraction fun b hmem => (hbehind b hmem).1)
  have hspare : ¬ (1 < whole.length ∧ whole.head? = some 0) := fun hzero =>
    h.no_spare hzero.1 hzero.2
  rw [textBytes_toText h]
  simp only [List.append_assoc] at hwhole ⊢
  cases negative with
  | true =>
      simp only [readNumeral, signBytes, if_true, List.singleton_append, hwhole, bind,
        Option.bind_some, hspare, if_false, hfraction, hpower]
      rfl
  | false =>
      obtain ⟨b, more, hdigits, _, hminus, _⟩ :=
        exists_cons_digits h.whole_lt h.whole_ne_nil
          (fractionBytes fraction ++ (powerBytes power ++ rest))
      rw [hdigits] at hwhole ⊢
      simp only [readNumeral, signBytes, Bool.false_eq_true, List.nil_append, hminus, hwhole, bind,
        Option.bind_some, hspare, if_false, hfraction, hpower]
      rfl

end Numerals

/-! ### Strings -/

theorem le_of_mem_utf8EncodeChar {c : Char} (h : 128 ≤ c.toNat) {b : UInt8}
    (hmem : b ∈ String.utf8EncodeChar c) : 128 ≤ b.toNat := by
  have hnot : ¬ c.val.toNat ≤ 0x7f := Nat.not_le.mpr h
  have hbyte (n base : Nat) (hbase : 128 ≤ base) (hn : n + base < 256) :
      128 ≤ (UInt8.ofNat (n + base)).toNat := by
    rw [UInt8.toNat_ofNat', Nat.mod_eq_of_lt hn]
    omega
  simp only [String.utf8EncodeChar, hnot, if_false] at hmem
  split at hmem
  · simp only [List.mem_cons, List.not_mem_nil, or_false] at hmem
    rcases hmem with rfl | rfl <;> exact hbyte _ _ (by decide) (by omega)
  · split at hmem
    · simp only [List.mem_cons, List.not_mem_nil, or_false] at hmem
      rcases hmem with rfl | rfl | rfl <;> exact hbyte _ _ (by decide) (by omega)
    · simp only [List.mem_cons, List.not_mem_nil, or_false] at hmem
      rcases hmem with rfl | rfl | rfl | rfl <;> exact hbyte _ _ (by decide) (by omega)

/-- A byte that stands for itself in a string. -/
def PlainByte (b : UInt8) : Prop :=
  b ≠ ascii '"' ∧ ¬ b < 32 ∧ b ≠ ascii '\\'

theorem readString_plain {bytes : List UInt8} (h : ∀ b ∈ bytes, PlainByte b) (rest : List UInt8) :
    readString (bytes ++ rest) =
      (readString rest).map fun (pieces, rest) => (bytes.map .byte ++ pieces, rest) := by
  induction bytes with
  | nil => simp
  | cons b more ih =>
      obtain ⟨⟨hquote, hcontrol, hescape⟩, hmore⟩ := List.forall_mem_cons.mp h
      rw [List.cons_append, readString.eq_def]
      simp only [if_neg hquote, if_neg hcontrol, if_pos hescape, ih hmore, Option.map_map]
      rfl

theorem readString_letter {letter byte : UInt8} (hbyte : escaped? letter = some byte)
    (hletter : letter ≠ ascii 'u') (rest : List UInt8) :
    readString (ascii '\\' :: letter :: rest) =
      (readString rest).map fun (pieces, rest) => (.byte byte :: pieces, rest) := by
  rw [readString.eq_def]
  simp only [if_neg hletter, hbyte]
  rfl

theorem readString_unit {h₁ h₂ h₃ h₄ : UInt8} {d₁ d₂ d₃ d₄ : Nat} (hd₁ : hexValue? h₁ = some d₁)
    (hd₂ : hexValue? h₂ = some d₂) (hd₃ : hexValue? h₃ = some d₃) (hd₄ : hexValue? h₄ = some d₄)
    (rest : List UInt8) :
    readString (ascii '\\' :: ascii 'u' :: h₁ :: h₂ :: h₃ :: h₄ :: rest) =
      (readString rest).map fun (pieces, rest) =>
        (.unit (((d₁ * 16 + d₂) * 16 + d₃) * 16 + d₄) :: pieces, rest) := by
  rw [readString.eq_def]
  simp only [hd₁, hd₂, hd₃, hd₄]
  rfl

/-- What a character in a string is read as. -/
def charPieces (c : Char) : List Piece :=
  if c.toNat < 32 ∧ c ∉ ['\n', '\r', '\t', '\x08', '\x0c'] then [.unit c.toNat]
  else (String.utf8EncodeChar c).map .byte

theorem hexValue?_digitChar {n : Nat} (h : n < 16) :
    hexValue? (ascii (Nat.digitChar n)) = some n := by
  interval_cases n <;> rfl

theorem encode_renderChar_control {c : Char} (h : c.toNat < 32) :
    encode ("\\u00" ++ String.ofList
        [Nat.digitChar (c.toNat / 16), Nat.digitChar (c.toNat % 16)]).toList =
      [ascii '\\', ascii 'u', ascii '0', ascii '0', ascii (Nat.digitChar (c.toNat / 16)),
        ascii (Nat.digitChar (c.toNat % 16))] := by
  generalize c.toNat = n at h
  interval_cases n <;> rfl

theorem plain_of_mem_utf8EncodeChar {c : Char} (hquote : c ≠ '"') (hslash : c ≠ '\\')
    (hcontrol : ¬ c.toNat < 32) : ∀ b ∈ String.utf8EncodeChar c, PlainByte b := by
  intro b hmem
  by_cases hsmall : c.toNat < 128
  · rw [utf8EncodeChar_ascii hsmall, List.mem_singleton] at hmem
    have htoNat : b.toNat = c.toNat := by
      rw [hmem]
      exact Nat.mod_eq_of_lt (by omega)
    have hne (other : Char) (hother : other.toNat < 128) (h : c ≠ other) : b ≠ ascii other := by
      rintro rfl
      have hsame : other.toNat = c.toNat := by
        rw [← htoNat]
        exact (Nat.mod_eq_of_lt (by omega)).symm
      exact h (Char.toNat_inj.mp hsame.symm)
    refine ⟨hne '"' (by decide) hquote, ?_, hne '\\' (by decide) hslash⟩
    rw [UInt8.lt_iff_toNat_lt, htoNat]
    exact hcontrol
  · have hle := le_of_mem_utf8EncodeChar (Nat.le_of_not_lt hsmall) hmem
    refine ⟨?_, ?_, ?_⟩
    · rintro rfl
      exact absurd hle (by decide)
    · rw [UInt8.lt_iff_toNat_lt]
      exact fun hlt => absurd (Nat.lt_of_le_of_lt hle hlt) (by decide)
    · rintro rfl
      exact absurd hle (by decide)

theorem readString_renderChar (c : Char) (rest : List UInt8) :
    readString (encode (renderChar c).toList ++ rest) =
      (readString rest).map fun (pieces, rest) => (charPieces c ++ pieces, rest) := by
  unfold renderChar
  split
  case h_8 hquote hslash hnewline hreturn htab hback hfeed =>
    split
    case isTrue hcontrol =>
      have hpieces : charPieces c = [.unit c.toNat] := by
        rw [charPieces, if_pos]
        refine ⟨hcontrol, ?_⟩
        simp only [List.mem_cons, List.not_mem_nil, or_false, not_or]
        exact ⟨hnewline, hreturn, htab, hback, hfeed⟩
      have hzero : hexValue? (ascii '0') = some 0 := rfl
      have hhigh := hexValue?_digitChar (n := c.toNat / 16) (by omega)
      have hlow := hexValue?_digitChar (n := c.toNat % 16) (by omega)
      have hread := readString_unit hzero hzero hhigh hlow rest
      have hvalue : ((0 * 16 + 0) * 16 + c.toNat / 16) * 16 + c.toNat % 16 = c.toNat := by omega
      rw [hvalue] at hread
      rw [encode_renderChar_control hcontrol, hpieces]
      exact hread
    case isFalse hcontrol =>
      have hpieces : charPieces c = (String.utf8EncodeChar c).map .byte := by
        rw [charPieces, if_neg fun h => hcontrol h.1]
      have hencode : encode c.toString.toList = String.utf8EncodeChar c := by
        simp [encode, Char.toString]
      rw [hencode, hpieces]
      exact readString_plain (plain_of_mem_utf8EncodeChar hquote hslash hcontrol) rest
  all_goals exact readString_letter rfl (by decide) rest

theorem spelledBytes?_bytes (bytes : List UInt8) (more : List Piece) :
    spelledBytes? (bytes.map .byte ++ more) = (spelledBytes? more).map (bytes ++ ·) := by
  induction bytes with
  | nil => simp
  | cons b rest ih =>
      rw [List.map_cons, List.cons_append, spelledBytes?, ih, Option.map_map]
      rfl

theorem spelledBytes?_charPieces (c : Char) (more : List Piece) :
    spelledBytes? (charPieces c ++ more) =
      (spelledBytes? more).map (String.utf8EncodeChar c ++ ·) := by
  rw [charPieces]
  split
  · next hcontrol =>
      have hutf8 : utf8Bytes c.toNat = String.utf8EncodeChar c := by
        rw [utf8Bytes, Char.ofNat_toNat]
      rw [List.singleton_append, spelledBytes?.eq_def]
      simp only [hutf8]
      rw [if_neg (by omega), if_neg (by omega)]
  · exact spelledBytes?_bytes _ more

theorem spelledBytes?_flatMap (cs : List Char) :
    spelledBytes? (cs.flatMap charPieces) = some (encode cs) := by
  induction cs with
  | nil => rfl
  | cons c rest ih =>
      rw [List.flatMap_cons, spelledBytes?_charPieces, ih]
      rfl

/-- A string spells what was rendered. -/
theorem spelled?_flatMap (s : String) : spelled? (s.toList.flatMap charPieces) = some s := by
  have hbytes : (⟨(encode s.toList).toArray⟩ : ByteArray) = s.toByteArray := by
    rw [← String.utf8Encode_toList, List.utf8Encode]
    exact ByteArray.ext List.data_toByteArray.symm
  rw [spelled?, spelledBytes?_flatMap, Option.bind_some, hbytes, String.fromUTF8?,
    dif_pos s.isValidUTF8]
  rfl

/-- The bytes of a rendered string, without the quotes. -/
theorem readString_render (s : String) (rest : List UInt8) :
    readString (encode (s.toList.flatMap fun c => (renderChar c).toList) ++ ascii '"' :: rest) =
      some (s.toList.flatMap charPieces, rest) := by
  induction s.toList with
  | nil =>
      show readString (ascii '"' :: rest) = some ([], rest)
      rw [readString.eq_def]
      rfl
  | cons c cs ih =>
      rw [List.flatMap_cons, encode_append, List.append_assoc, readString_renderChar, ih,
        List.flatMap_cons]
      rfl

theorem textBytes_renderString (s : String) : textBytes (renderString s) =
    ascii '"' :: (encode (s.toList.flatMap fun c => (renderChar c).toList) ++ [ascii '"']) := by
  rw [textBytes_eq, renderString, String.toList_append, String.toList_append, String.toList_join,
    List.flatMap_map, encode_append, encode_append]
  rfl

end FeatureFlags.Json
