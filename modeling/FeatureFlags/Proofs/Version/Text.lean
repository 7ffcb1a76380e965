import FeatureFlags.Proofs.Json.Numeral
import FeatureFlags.Version

/-!
The texts of versions. A version has one text: three numbers without spare zeros
and with points between them, a hyphen and a plus in front of the lists that are
not empty, and points between identifiers. Exactly the texts of well-formed
versions are read, each as the version that it is the text of, so two texts that
are read as one version are the same.
-/

namespace FeatureFlags

open Decimal (WholeDigits)
open Json (digitChar_digitValue digitValue digitValue_lt)

/-! ### Digits -/

/-- Digits behind a number are digits of a greater number. -/
theorem toDigits_append_digits {digits : List Char} {n : Nat}
    (hdigits : ∀ c ∈ digits, c.isDigit = true) (hpos : 0 < n) :
    Nat.toDigits 10 n ++ digits = Nat.toDigits 10 (Nat.ofDigitChars 10 digits n) := by
  induction digits generalizing n with
  | nil => rw [List.append_nil, Nat.ofDigitChars_nil]
  | cons c rest ih =>
      obtain ⟨hdigit, hrest⟩ := List.forall_mem_cons.mp hdigits
      have hsmall := digitValue_lt hdigit
      have hhead : Nat.toDigits 10 (digitValue c) = [c] := by
        rw [Nat.toDigits_of_lt_base hsmall, digitChar_digitValue hdigit]
      calc Nat.toDigits 10 n ++ c :: rest
          = Nat.toDigits 10 n ++ Nat.toDigits 10 (digitValue c) ++ rest := by
            rw [hhead, List.append_assoc, List.singleton_append]
        _ = Nat.toDigits 10 (10 * n + digitValue c) ++ rest := by
            rw [Nat.toDigits_append_toDigits (by decide) hpos hsmall]
        _ = Nat.toDigits 10 (Nat.ofDigitChars 10 (c :: rest) n) := by
            rw [ih hrest (by omega), Nat.ofDigitChars_cons]
            rfl

/-- Digits without a zero to spare are those of the number that they spell. -/
theorem toDigits_ofDigitChars {digits : List Char} (hdigits : WholeDigits digits) :
    Nat.toDigits 10 (Nat.ofDigitChars 10 digits 0) = digits := by
  obtain ⟨hall, hne, hspare⟩ := hdigits
  obtain ⟨c, rest, rfl⟩ := List.exists_cons_of_ne_nil hne
  obtain ⟨hdigit, hrest⟩ := List.forall_mem_cons.mp hall
  have hcons : Nat.ofDigitChars 10 (c :: rest) 0 = Nat.ofDigitChars 10 rest (digitValue c) := by
    rw [Nat.ofDigitChars_cons, Nat.mul_zero, Nat.zero_add]
    rfl
  have hsmall := digitValue_lt hdigit
  rw [hcons]
  by_cases hzero : digitValue c = 0
  · obtain rfl := Json.digitValue_eq_zero hdigit hzero
    cases rest with
    | nil => rfl
    | cons next more => exact absurd rfl (hspare (by simp))
  · rw [← toDigits_append_digits hrest (by omega), Nat.toDigits_of_lt_base (by omega),
      digitChar_digitValue hdigit]
    rfl

namespace Version

/-- The text does not go on with a character of this kind. -/
def Stops (inside : Char → Bool) (rest : List Char) : Prop :=
  ∀ c ∈ rest.head?, inside c = false

theorem stops_dropWhile (inside : Char → Bool) (text : List Char) :
    Stops inside (text.dropWhile inside) := by
  intro c hmem
  have hhead := List.head?_dropWhile_not inside text
  rw [Option.mem_def.mp hmem] at hhead
  simpa using hhead

/-- A text is split in only one way behind what is of a kind. -/
theorem takeWhile_dropWhile_eq_iff {inside : Char → Bool} {text front rest : List Char} :
    text.takeWhile inside = front ∧ text.dropWhile inside = rest ↔
      text = front ++ rest ∧ (∀ c ∈ front, inside c = true) ∧ Stops inside rest := by
  constructor
  · rintro ⟨rfl, rfl⟩
    exact ⟨List.takeWhile_append_dropWhile.symm, fun c hmem => List.mem_takeWhile_imp hmem,
      stops_dropWhile inside text⟩
  · rintro ⟨rfl, hfront, hrest⟩
    rw [List.takeWhile_append_of_pos hfront, List.dropWhile_append_of_pos hfront]
    cases rest with
    | nil => simp
    | cons c more => simp [hrest c rfl]

theorem readChar_eq_some_iff {expected : Char} {text rest : List Char} :
    readChar expected text = some rest ↔ text = expected :: rest := by
  cases text with
  | nil => exact iff_of_false nofun nofun
  | cons c more => by_cases heq : c = expected <;> simp [readChar, heq]

theorem readChar_eq_none_iff {expected : Char} {text : List Char} :
    readChar expected text = none ↔ text.head? ≠ some expected := by
  cases text with
  | nil => exact iff_of_true rfl nofun
  | cons c more => by_cases heq : c = expected <;> simp [readChar, heq]

/-! ### Numbers -/

/-- The digits that a text begins with. -/
def leadingDigits (text : List Char) : List Char :=
  text.takeWhile Char.isDigit

theorem readNumber_eq (text : List Char) : readNumber text =
    if ((leadingDigits text).map digitValue).isEmpty then none
    else if 1 < ((leadingDigits text).map digitValue).length ∧
        ((leadingDigits text).map digitValue).head? = some 0 then none
    else if Nat.ofDigitChars 10 (leadingDigits text) 0 < UInt64.size then
      some ((Nat.ofDigitChars 10 (leadingDigits text) 0).toUInt64, text.dropWhile Char.isDigit)
    else none := by
  rw [← Json.ofDigits_map_digitValue]
  rfl

/-- The digits in front are a number if they write one and it has 64 bits. -/
theorem readNumber_eq_of_wholeDigits {text : List Char}
    (hdigits : WholeDigits (leadingDigits text)) : readNumber text =
      if Nat.ofDigitChars 10 (leadingDigits text) 0 < UInt64.size then
        some ((Nat.ofDigitChars 10 (leadingDigits text) 0).toUInt64, text.dropWhile Char.isDigit)
      else none := by
  have hspare : ¬ (1 < ((leadingDigits text).map digitValue).length ∧
      ((leadingDigits text).map digitValue).head? = some 0) := by
    rw [List.length_map, Json.head?_map_digitValue hdigits.isDigit]
    exact fun h => hdigits.no_spare h.1 h.2
  rw [readNumber_eq, if_neg, if_neg hspare]
  rw [List.isEmpty_iff, List.map_eq_nil_iff]
  exact hdigits.ne_nil

theorem wholeDigits_of_readNumber {text : List Char} (hread : (readNumber text).isSome = true) :
    WholeDigits (leadingDigits text) := by
  rw [readNumber_eq] at hread
  split at hread
  · cases hread
  · next hne =>
      split at hread
      · cases hread
      · next hspare =>
          have hdigits : ∀ c ∈ leadingDigits text, c.isDigit = true := fun c hmem =>
            List.mem_takeWhile_imp hmem
          rw [List.length_map, Json.head?_map_digitValue hdigits] at hspare
          exact ⟨hdigits, fun hnil => hne (hnil ▸ rfl), fun hmany hhead => hspare ⟨hmany, hhead⟩⟩

theorem readNumber_eq_some_iff {text rest : List Char} {n : UInt64} :
    readNumber text = some (n, rest) ↔
      text = Nat.toDigits 10 n.toNat ++ rest ∧ Stops Char.isDigit rest := by
  constructor
  · intro hread
    have hdigits := wholeDigits_of_readNumber (Option.isSome_of_eq_some hread)
    rw [readNumber_eq_of_wholeDigits hdigits] at hread
    split at hread
    · next hsmall =>
        cases hread
        have hnumber : (Nat.ofDigitChars 10 (leadingDigits text) 0).toUInt64.toNat =
            Nat.ofDigitChars 10 (leadingDigits text) 0 := Nat.mod_eq_of_lt hsmall
        rw [hnumber, toDigits_ofDigitChars hdigits, leadingDigits, List.takeWhile_append_dropWhile]
        exact ⟨rfl, stops_dropWhile _ _⟩
    · cases hread
  · rintro ⟨rfl, hrest⟩
    have hdigits := Decimal.wholeDigits_toDigits n.toNat
    obtain ⟨htake, hdrop⟩ := takeWhile_dropWhile_eq_iff.mpr ⟨rfl, hdigits.isDigit, hrest⟩
    rw [← leadingDigits] at htake
    rw [readNumber_eq_of_wholeDigits (htake.symm ▸ hdigits), htake, hdrop,
      Nat.ofDigitChars_ten_toDigits, if_pos n.toNat_lt]
    exact congrArg (fun m => some (m, rest)) n.ofNat_toNat

/-! ### Identifiers -/

/-- Digits alone do not begin with a zero that could be left out. -/
def NoSpareZero (part : List Char) : Prop :=
  (∀ c ∈ part, c.isDigit = true) → 1 < part.length → part.head? ≠ some '0'

/-- A word of digits, letters and hyphens, in some places without a spare
zero. -/
structure Identifier.WellFormed (spareZeros : Bool) (identifier : Identifier) : Prop where
  ne_nil : identifier.text.toList ≠ []
  chars : ∀ c ∈ identifier.text.toList, isIdentifierChar c = true
  noSpare : spareZeros = false → NoSpareZero identifier.text.toList

/-- Identifiers with points between them. -/
def dotted (identifiers : List Identifier) : List Char :=
  ['.'].intercalate (identifiers.map (·.text.toList))

/-- What can stand within a list of identifiers. -/
def isListChar (c : Char) : Bool := isIdentifierChar c || c = '.'

theorem splitAtDots_eq_splitOn (text : List Char) : splitAtDots text = text.splitOn '.' := by
  induction text with
  | nil => rfl
  | cons c rest ih =>
      rw [splitAtDots, ih, List.splitOn_cons_eq_if_modifyHead]
      obtain ⟨part, parts, hparts⟩ := List.exists_cons_of_ne_nil (List.splitOn_ne_nil '.' rest)
      by_cases hdot : c = '.' <;> simp [hdot, hparts]

/-- The parts between dots have no dots in them. -/
theorem forall_mem_splitAtDots {text part : List Char} (hpart : part ∈ splitAtDots text) :
    ∀ c ∈ part, c ∈ text ∧ c ≠ '.' := by
  induction text generalizing part with
  | nil =>
      obtain rfl := List.mem_singleton.mp hpart
      exact List.forall_mem_nil _
  | cons first rest ih =>
      have hbehind (hrest : part ∈ splitAtDots rest) : ∀ c ∈ part, c ∈ first :: rest ∧ c ≠ '.' :=
        fun c hmem => (ih hrest c hmem).imp_left (List.mem_cons_of_mem first)
      rw [splitAtDots_eq_splitOn, List.splitOn_cons_eq_if_modifyHead, ← splitAtDots_eq_splitOn] at hpart
      obtain ⟨head, parts, hparts⟩ :=
        List.exists_cons_of_ne_nil (splitAtDots_eq_splitOn rest ▸ List.splitOn_ne_nil '.' rest)
      by_cases hdot : first = '.'
      · rw [if_pos (beq_iff_eq.mpr hdot)] at hpart
        rcases List.mem_cons.mp hpart with rfl | hpart
        · exact List.forall_mem_nil _
        · exact hbehind hpart
      · rw [if_neg (mt beq_iff_eq.mp hdot), hparts, List.modifyHead_cons] at hpart
        rcases List.mem_cons.mp hpart with rfl | hpart
        · refine List.forall_mem_cons.mpr ⟨⟨List.mem_cons_self, hdot⟩, fun c hmem => ?_⟩
          exact (ih (hparts ▸ List.mem_cons_self) c hmem).imp_left (List.mem_cons_of_mem first)
        · exact hbehind (hparts ▸ List.mem_cons_of_mem head hpart)

theorem identifier?_eq_some_iff {spareZeros : Bool} {part : List Char} {identifier : Identifier} :
    identifier? spareZeros part = some identifier ↔
      part = identifier.text.toList ∧ part ≠ [] ∧ (spareZeros = false → NoSpareZero part) := by
  have hspare : (!spareZeros && part.all Char.isDigit && 1 < part.length && part.head? == some '0') =
      true ↔ ¬ (spareZeros = false → NoSpareZero part) := by
    simp [NoSpareZero, and_assoc]
  have htext : Identifier.mk (String.ofList part) = identifier ↔ part = identifier.text.toList := by
    obtain ⟨text⟩ := identifier
    rw [Identifier.mk.injEq, ← String.toList_inj, String.toList_ofList]
  unfold identifier?
  split
  · next hempty => exact iff_of_false nofun fun h => h.2.1 (List.isEmpty_iff.mp hempty)
  · next hempty =>
      split
      · next hzero => exact iff_of_false nofun fun h => hspare.mp hzero h.2.2
      · next hzero =>
          rw [Option.some.injEq, htext, and_iff_left]
          exact ⟨mt List.isEmpty_iff.mpr hempty, not_not.mp (mt hspare.mpr hzero)⟩

theorem mapM_identifier?_eq_some_iff {spareZeros : Bool} {parts : List (List Char)}
    {identifiers : List Identifier} (hchars : ∀ part ∈ parts, ∀ c ∈ part, isIdentifierChar c = true) :
    parts.mapM (identifier? spareZeros) = some identifiers ↔
      parts = identifiers.map (·.text.toList) ∧
        ∀ identifier ∈ identifiers, identifier.WellFormed spareZeros := by
  induction parts generalizing identifiers with
  | nil => cases identifiers <;> simp
  | cons part rest ih =>
      obtain ⟨hpart, hrest⟩ := List.forall_mem_cons.mp hchars
      rw [List.mapM_cons]
      simp only [bind, Option.bind_eq_some_iff, pure, Option.some.injEq, identifier?_eq_some_iff,
        ih hrest]
      constructor
      · rintro ⟨identifier, ⟨rfl, hne, hspare⟩, others, ⟨rfl, hothers⟩, rfl⟩
        exact ⟨rfl, List.forall_mem_cons.mpr ⟨⟨hne, hpart, hspare⟩, hothers⟩⟩
      · rintro ⟨heq, hall⟩
        cases identifiers with
        | nil => cases heq
        | cons identifier others =>
            obtain ⟨hidentifier, hothers⟩ := List.forall_mem_cons.mp hall
            obtain ⟨rfl, rfl⟩ := List.cons.inj heq
            exact ⟨identifier, ⟨rfl, hidentifier.ne_nil, hidentifier.noSpare⟩, others,
              ⟨rfl, hothers⟩, rfl⟩

theorem Identifier.WellFormed.dot_not_mem {spareZeros : Bool} {identifier : Identifier}
    (h : identifier.WellFormed spareZeros) : '.' ∉ identifier.text.toList := by
  intro hmem
  cases h.chars '.' hmem

theorem dotted_singleton (identifier : Identifier) :
    dotted [identifier] = identifier.text.toList :=
  List.intercalate_singleton

theorem dotted_cons_cons (first second : Identifier) (rest : List Identifier) :
    dotted (first :: second :: rest) = first.text.toList ++ '.' :: dotted (second :: rest) := by
  simp [dotted, List.intercalate_cons_cons]

theorem isListChar_of_mem_dotted {spareZeros : Bool} {identifiers : List Identifier}
    (hall : ∀ identifier ∈ identifiers, identifier.WellFormed spareZeros) :
    ∀ c ∈ dotted identifiers, isListChar c = true := by
  have hchars {identifier : Identifier} (h : identifier.WellFormed spareZeros) :
      ∀ c ∈ identifier.text.toList, isListChar c = true := by
    intro c hmem
    rw [isListChar, h.chars c hmem, Bool.true_or]
  induction identifiers with
  | nil => exact List.forall_mem_nil _
  | cons identifier rest ih =>
      obtain ⟨hfirst, hrest⟩ := List.forall_mem_cons.mp hall
      cases rest with
      | nil =>
          rw [dotted_singleton]
          exact hchars hfirst
      | cons next more =>
          rw [dotted_cons_cons]
          exact List.forall_mem_append.mpr
            ⟨hchars hfirst, List.forall_mem_cons.mpr ⟨rfl, ih hrest⟩⟩

theorem readIdentifiers_eq_some_iff {spareZeros : Bool} {text rest : List Char}
    {identifiers : List Identifier} :
    readIdentifiers spareZeros text = some (identifiers, rest) ↔
      identifiers ≠ [] ∧ (∀ identifier ∈ identifiers, identifier.WellFormed spareZeros) ∧
        text = dotted identifiers ++ rest ∧ Stops isListChar rest := by
  have hchars : ∀ part ∈ splitAtDots (text.takeWhile isListChar), ∀ c ∈ part,
      isIdentifierChar c = true := by
    intro part hpart c hmem
    obtain ⟨hin, hdot⟩ := forall_mem_splitAtDots hpart c hmem
    have hlist := List.mem_takeWhile_imp hin
    simpa [isListChar, hdot] using hlist
  have hread : readIdentifiers spareZeros text = some (identifiers, rest) ↔
      (splitAtDots (text.takeWhile isListChar)).mapM (identifier? spareZeros) = some identifiers ∧
        text.dropWhile isListChar = rest := by
    rw [show readIdentifiers spareZeros text =
      ((splitAtDots (text.takeWhile isListChar)).mapM (identifier? spareZeros)).map fun identifiers =>
        (identifiers, text.dropWhile isListChar) from rfl, Option.map_eq_some_iff]
    simp [Prod.ext_iff]
  rw [hread, mapM_identifier?_eq_some_iff hchars]
  constructor
  · rintro ⟨⟨hparts, hall⟩, hrest⟩
    have htake : text.takeWhile isListChar = dotted identifiers := by
      rw [dotted, ← hparts, splitAtDots_eq_splitOn, List.intercalate_splitOn]
    obtain ⟨htext, _, hstops⟩ := takeWhile_dropWhile_eq_iff.mp ⟨htake, hrest⟩
    refine ⟨?_, hall, htext, hstops⟩
    rintro rfl
    rw [splitAtDots_eq_splitOn] at hparts
    exact List.splitOn_ne_nil _ _ hparts
  · rintro ⟨hne, hall, htext, hstops⟩
    obtain ⟨htake, hdrop⟩ :=
      takeWhile_dropWhile_eq_iff.mpr ⟨htext, isListChar_of_mem_dotted hall, hstops⟩
    refine ⟨⟨?_, hall⟩, hdrop⟩
    rw [htake, splitAtDots_eq_splitOn, dotted]
    refine List.splitOn_intercalate '.' ?_ (mt List.map_eq_nil_iff.mp hne)
    exact List.forall_mem_map.mpr fun identifier hmem => (hall identifier hmem).dot_not_mem

/-- A list of identifiers behind its mark. An empty list is not written. -/
def marked (mark : Char) (identifiers : List Identifier) : List Char :=
  if identifiers = [] then [] else mark :: dotted identifiers

/-- What stands behind a list of identifiers cannot belong to it. -/
def StopsMarked (mark : Char) (identifiers : List Identifier) (rest : List Char) : Prop :=
  if identifiers = [] then rest.head? ≠ some mark else Stops isListChar rest

theorem readMarked_eq_some_iff {mark : Char} {spareZeros : Bool} {text rest : List Char}
    {identifiers : List Identifier} :
    readMarked mark spareZeros text = some (identifiers, rest) ↔
      (∀ identifier ∈ identifiers, identifier.WellFormed spareZeros) ∧
        text = marked mark identifiers ++ rest ∧ StopsMarked mark identifiers rest := by
  cases hmark : readChar mark text with
  | none =>
      have hhead := readChar_eq_none_iff.mp hmark
      rw [readMarked, hmark, Option.some.injEq, Prod.mk.injEq]
      constructor
      · rintro ⟨rfl, rfl⟩
        exact ⟨List.forall_mem_nil _, rfl, hhead⟩
      · rintro ⟨_, rfl, _⟩
        by_cases hnil : identifiers = []
        · exact ⟨hnil.symm, by rw [hnil]; rfl⟩
        · rw [marked, if_neg hnil] at hhead
          exact absurd rfl hhead
  | some more =>
      obtain rfl := readChar_eq_some_iff.mp hmark
      rw [readMarked, hmark, readIdentifiers_eq_some_iff]
      constructor
      · rintro ⟨hne, hall, rfl, hstops⟩
        rw [marked, if_neg hne, StopsMarked, if_neg hne]
        exact ⟨hall, rfl, hstops⟩
      · rintro ⟨hall, htext, hstops⟩
        by_cases hne : identifiers = []
        · rw [hne, StopsMarked, if_pos rfl] at hstops
          rw [hne] at htext
          exact absurd (congrArg List.head? htext.symm) hstops
        · rw [marked, if_neg hne] at htext
          rw [StopsMarked, if_neg hne] at hstops
          exact ⟨hne, hall, (List.cons.inj htext).2, hstops⟩

/-! ### Versions -/

structure WellFormed (version : Version) : Prop where
  preRelease : ∀ identifier ∈ version.preRelease, identifier.WellFormed false
  build : ∀ identifier ∈ version.build, identifier.WellFormed true

def toChars (version : Version) : List Char :=
  Nat.toDigits 10 version.major.toNat ++ '.' ::
    (Nat.toDigits 10 version.minor.toNat ++ '.' ::
      (Nat.toDigits 10 version.patch.toNat ++
        (marked '-' version.preRelease ++ marked '+' version.build)))

def toText (version : Version) : String :=
  String.ofList version.toChars

/-- What stands behind the numbers begins with no digit, and what stands behind a
pre-release does not belong to it. -/
theorem stops_marked (preRelease build : List Identifier) :
    Stops Char.isDigit (marked '-' preRelease ++ marked '+' build) ∧
      StopsMarked '-' preRelease (marked '+' build) := by
  unfold StopsMarked marked
  refine ⟨fun c hmem => ?_, ?_⟩
  · split at hmem
    · split at hmem <;> cases hmem
      rfl
    · cases hmem
      rfl
  · split
    · split <;> simp
    · intro c hmem
      split at hmem <;> cases hmem
      rfl

theorem wellFormed_of_ofChars? {text : List Char} {version : Version}
    (hread : ofChars? text = some version) : version.WellFormed ∧ text = version.toChars := by
  obtain ⟨⟨major, _⟩, hmajor, hlater⟩ := Option.bind_eq_some_iff.mp hread
  obtain ⟨_, hfirst, hlater⟩ := Option.bind_eq_some_iff.mp hlater
  obtain ⟨⟨minor, _⟩, hminor, hlater⟩ := Option.bind_eq_some_iff.mp hlater
  obtain ⟨_, hsecond, hlater⟩ := Option.bind_eq_some_iff.mp hlater
  obtain ⟨⟨patch, _⟩, hpatch, hlater⟩ := Option.bind_eq_some_iff.mp hlater
  obtain ⟨⟨preRelease, _⟩, hpreRelease, hlater⟩ := Option.bind_eq_some_iff.mp hlater
  obtain ⟨⟨build, rest⟩, hbuild, hlater⟩ := Option.bind_eq_some_iff.mp hlater
  obtain ⟨rfl, rfl⟩ : rest = [] ∧ ⟨major, minor, patch, preRelease, build⟩ = version := by
    dsimp only at hlater
    split at hlater
    · next hend => exact ⟨List.isEmpty_iff.mp hend, Option.some.inj hlater⟩
    · cases hlater
  clear hread
  obtain ⟨rfl, _⟩ := readNumber_eq_some_iff.mp hmajor
  obtain rfl := readChar_eq_some_iff.mp hfirst
  obtain ⟨rfl, _⟩ := readNumber_eq_some_iff.mp hminor
  obtain rfl := readChar_eq_some_iff.mp hsecond
  obtain ⟨rfl, _⟩ := readNumber_eq_some_iff.mp hpatch
  obtain ⟨hpreWell, rfl, _⟩ := readMarked_eq_some_iff.mp hpreRelease
  obtain ⟨hbuildWell, rfl, _⟩ := readMarked_eq_some_iff.mp hbuild
  rw [List.append_nil]
  exact ⟨⟨hpreWell, hbuildWell⟩, rfl⟩

theorem ofChars?_toChars {version : Version} (hwell : version.WellFormed) :
    ofChars? version.toChars = some version := by
  obtain ⟨hstops, hbehind⟩ := stops_marked version.preRelease version.build
  have hpoint (rest : List Char) : Stops Char.isDigit ('.' :: rest) := by
    rintro c ⟨⟩
    rfl
  have hend : StopsMarked '+' version.build [] := by
    unfold StopsMarked
    split
    · exact nofun
    · exact nofun
  have hnumber {n : UInt64} {rest : List Char} (hrest : Stops Char.isDigit rest) :
      readNumber (Nat.toDigits 10 n.toNat ++ rest) = some (n, rest) :=
    readNumber_eq_some_iff.mpr ⟨rfl, hrest⟩
  have hpreRelease : readMarked '-' false (marked '-' version.preRelease ++
      marked '+' version.build) = some (version.preRelease, marked '+' version.build) :=
    readMarked_eq_some_iff.mpr ⟨hwell.preRelease, rfl, hbehind⟩
  have hbuild : readMarked '+' true (marked '+' version.build) = some (version.build, []) :=
    readMarked_eq_some_iff.mpr ⟨hwell.build, (List.append_nil _).symm, hend⟩
  have hdot (rest : List Char) : readChar '.' ('.' :: rest) = some rest :=
    readChar_eq_some_iff.mpr rfl
  rw [toChars, ofChars?, hnumber (hpoint _)]
  simp only [bind, Option.bind_some, hdot, hnumber (hpoint _), hnumber hstops, hpreRelease, hbuild]
  rfl

/-- Exactly the texts of well-formed versions are read. -/
theorem ofText?_eq_some_iff {text : String} {version : Version} :
    ofText? text = some version ↔ version.WellFormed ∧ text = version.toText := by
  rw [toText, ← String.toList_inj, String.toList_ofList]
  constructor
  · exact wellFormed_of_ofChars?
  · rintro ⟨hwell, htext⟩
    rw [ofText?, htext, ofChars?_toChars hwell]

/-- The text of some version. -/
def Valid (text : String) : Prop :=
  ∃ version, WellFormed version ∧ text = version.toText

theorem valid_iff {text : String} : Valid text ↔ ∃ version, ofText? text = some version :=
  exists_congr fun _ => ofText?_eq_some_iff.symm

theorem ofText?_eq_none_iff {text : String} : ofText? text = none ↔ ¬ Valid text := by
  rw [valid_iff, ← Option.isSome_iff_exists, Option.not_isSome_iff_eq_none]

/-- Texts of one version are the same. -/
theorem text_eq_of_ofText? {left right : String} {version : Version}
    (hleft : ofText? left = some version) (hright : ofText? right = some version) :
    left = right := by
  rw [(ofText?_eq_some_iff.mp hleft).2, (ofText?_eq_some_iff.mp hright).2]

end Version

end FeatureFlags
