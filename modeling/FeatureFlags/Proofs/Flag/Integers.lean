import FeatureFlags.Proofs.Flag.Conversions
import FeatureFlags.Proofs.Json.Rendered
import FeatureFlags.Proofs.Rule.Integers

/-!
Integers in documents. A document can give an integer of 64 bits with or without
a sign, and a decoded attribute or flag value keeps it if it fits in a signed
word: its digits are the attribute's text, and it is served as it was written.
A larger one is rounded to a binary64 number. So two integers that are rounded
to the same number cannot be told apart by clauses and buckets any more, and
none of the larger ones is served as an integer. No integer that fits is ever
taken for one that does not.
-/

namespace FeatureFlags

open Json.Integer (leastWide wide_leastWide toText_leastWide)

variable {m n : Json.Integer}

namespace Json.Integer

/-- The integers cannot be told apart after they were decoded. -/
def Merged (m n : Integer) : Prop :=
  m = n ∨ m.Wide ∧ n.Wide ∧ m.nearest = n.nearest

theorem Merged.wide_iff (hmerged : m.Merged n) : m.Wide ↔ n.Wide := by
  rcases hmerged with rfl | ⟨hm, hn, _⟩
  · exact Iff.rfl
  · exact iff_of_true hm hn

theorem Wide.merged_iff (hm : m.Wide) (hn : n.Wide) : m.Merged n ↔ m.nearest = n.nearest := by
  constructor
  · rintro (rfl | ⟨_, _, hnearest⟩)
    · rfl
    · exact hnearest
  · intro hnearest
    exact .inr ⟨hm, hn, hnearest⟩

theorem merged_iff_of_not_wide (hm : ¬ m.Wide) : m.Merged n ↔ m = n := by
  constructor
  · rintro (hsame | ⟨hwide, _, _⟩)
    · exact hsame
    · exact absurd hwide hm
  · exact .inl

end Json.Integer

/-! ### Texts -/

/-- The attribute that an integer stands for. -/
def Attribute.ofInteger (n : Json.Integer) : Attribute :=
  match n.toInt64? with
  | some i => .int i
  | none => .number n.toBinary64

namespace Attribute

theorem ofJson?_integer (n : Json.Integer) : ofJson? (.integer n) = some (ofInteger n) := by
  rw [ofJson?, ofInteger]
  cases n.toInt64? with
  | none => rfl
  | some i => rfl

theorem toText_ofInteger_of_not_wide (hnarrow : ¬ n.Wide) :
    (ofInteger n).toText = toString n.value := by
  obtain ⟨i, hword, rfl⟩ := Json.Integer.exists_toInt64? hnarrow
  rw [ofInteger, hword]
  rfl

theorem toText_ofInteger_of_wide (hwide : n.Wide) :
    (ofInteger n).toText = n.toBinary64.toText := by
  rw [ofInteger, Json.Integer.toInt64?_of_wide hwide]
  rfl

theorem toText_ofInteger_eq_iff : (ofInteger m).toText = (ofInteger n).toText ↔ m.Merged n := by
  by_cases hm : m.Wide
  · by_cases hn : n.Wide
    · rw [toText_ofInteger_of_wide hm, toText_ofInteger_of_wide hn, hm.merged_iff hn,
        ← hm.toBinary64_eq_iff hn]
      obtain ⟨x, hx⟩ := m.exists_finite
      obtain ⟨y, hy⟩ := n.exists_finite
      rw [hx, hy, Binary64.finite.injEq]
      exact ⟨Binary64.Finite.toText_inj, congrArg Binary64.Finite.toText⟩
    · rw [toText_ofInteger_of_wide hm, toText_ofInteger_of_not_wide hn]
      exact iff_of_false (hm.toText_ne hn) fun hmerged => hn (hmerged.wide_iff.mp hm)
  · by_cases hn : n.Wide
    · rw [toText_ofInteger_of_not_wide hm, toText_ofInteger_of_wide hn]
      exact iff_of_false (hn.toText_ne hm).symm fun hmerged => hm (hmerged.wide_iff.mpr hn)
    · rw [Json.Integer.merged_iff_of_not_wide hm]
      obtain ⟨i, hi, rfl⟩ := Json.Integer.exists_toInt64? hm
      obtain ⟨j, hj, rfl⟩ := Json.Integer.exists_toInt64? hn
      simp only [ofInteger, hi, hj, toText_int_inj]
      constructor
      · rintro rfl
        rfl
      · intro hsame
        rw [hsame, hj] at hi
        exact (Option.some.inj hi).symm

end Attribute

/-! ### Buckets -/

theorem textBytes_inj {first second : String} (hbytes : textBytes first = textBytes second) :
    first = second :=
  String.toByteArray_inj.mp (ByteArray.ext (Array.toList_inj.mp hbytes))

/-- Two contexts share their buckets, whatever the hash, just if the attributes
that they are bucketed by have the same text. -/
theorem buckets_eq_iff {left right : Context} {name flagKey : String} {subject other : Attribute}
    (hname : name.isEmpty = false) (hleft : left.resolve name = some subject)
    (hright : right.resolve name = some other) :
    (∀ bucketer, bucket bucketer left name flagKey = bucket bucketer right name flagKey) ↔
      subject.toText = other.toText := by
  constructor
  · intro hshared
    by_contra hdifferent
    have hbytes : textBytes (flagKey ++ ":" ++ other.toText) ≠
        textBytes (flagKey ++ ":" ++ subject.toText) := by
      intro hsame
      exact hdifferent (String.append_right_inj _ |>.mp (textBytes_inj hsame)).symm
    -- a hash that tells the two texts apart, and both from an empty one
    have hhash := hshared ⟨fun bytes =>
      if bytes = textBytes (flagKey ++ ":" ++ subject.toText) then 1 else 2⟩
    simp only [bucket, hname, Bool.false_eq_true, if_false, hleft, hright, if_true,
      if_neg hbytes] at hhash
    split at hhash <;> split at hhash
    · next hnone hnone' =>
        exact hdifferent ((String.isEmpty_iff.mp hnone).trans (String.isEmpty_iff.mp hnone').symm)
    · exact absurd hhash (by decide)
    · exact absurd hhash (by decide)
    · exact absurd hhash (by decide)
  · intro htext bucketer
    simp only [bucket, hname, Bool.false_eq_true, if_false, hleft, hright, htext]

/-! ### Values -/

theorem FlagValue.asJson_integer_iff :
    (ofJson (.integer n)).asJson = some (.integer n) ↔ ¬ n.Wide := by
  rw [asJson_ofJson_iff]
  constructor
  · intro hnarrow
    exact hnarrow n rfl
  · rintro hnarrow _ ⟨⟩
    exact hnarrow

/-- What an integer of a document becomes, and what can be told from it. -/
structure Decoded (n : Json.Integer) : Prop where
  /-- The digits of the integer are a document of it. -/
  document : Json.Writes (textBytes (toString n.value)) (.integer n)
  asAttribute : ∀ nesting document, document.toJson? nesting = some (.integer n) →
    Attribute.decoder nesting document = some (.ofInteger n)
  asValue : ∀ nesting document, document.toJson? nesting = some (.integer n) →
    FlagValue.decoder nesting document = some (.ofJson (.integer n))
  digits : ¬ n.Wide → (Attribute.ofInteger n).toText = toString n.value
  rounded : n.Wide → ∃ x, Attribute.ofInteger n = .number (.finite x) ∧
    FlagValue.ofJson (.integer n) = .float (.finite x) ∧ x.toInt? = some (n.nearest : Int)
  equal : ∀ m context name, context.resolve name = some (.ofInteger m) →
    (Operator.eq.answer context name [.ofInteger n] = true ↔ m.Merged n)
  bucketed : ∀ m left right name flagKey, name.isEmpty = false →
    left.resolve name = some (.ofInteger m) → right.resolve name = some (.ofInteger n) →
    ((∀ bucketer, bucket bucketer left name flagKey = bucket bucketer right name flagKey) ↔
      m.Merged n)
  json : (FlagValue.ofJson (.integer n)).asJson = some (.integer n) ↔ ¬ n.Wide
  served : ∀ (client : Client) context key default,
    client.Resolves context key (.ofJson (.integer n)) →
    ((client.jsonVariation context key default).result = .integer n ↔ ¬ n.Wide)

/-- An integer that fits in a signed word is kept by decoding, as text and as
value, and is told from every other integer. A larger one is told from those
that another multiple is nearest to, and is never served again. -/
theorem integers_of_documents (n : Json.Integer) : Decoded n where
  document := by
    have hwrites := Json.writes_render (.integer n) (Nat.zero_le Json.maxNesting)
    rwa [Json.mapFloats] at hwrites
  asAttribute nesting document hread := by
    rw [Attribute.decoder, hread, Option.bind_some, Attribute.ofJson?_integer]
  asValue nesting document hread := by
    rw [FlagValue.decoder, hread, Option.map_some]
  digits := Attribute.toText_ofInteger_of_not_wide
  rounded hwide := by
    obtain ⟨x, hx, hwhole⟩ := hwide.exists_whole
    refine ⟨x, ?_, ?_, hwhole⟩
    · rw [Attribute.ofInteger, Json.Integer.toInt64?_of_wide hwide, hx]
    · rw [FlagValue.ofJson_of_wide hwide, hx]
  equal m context name hpresent := by
    rw [Operator.answer_eq_iff hpresent, Attribute.toText_ofInteger_eq_iff]
  bucketed m left right name flagKey hname hleft hright := by
    rw [buckets_eq_iff hname hleft hright, Attribute.toText_ofInteger_eq_iff]
  json := FlagValue.asJson_integer_iff
  served client context key default hresolves := by
    rw [Client.jsonVariation, hresolves.result_eq]
    constructor
    · intro hsame hwide
      obtain ⟨x, hfloat, _⟩ := FlagValue.asJson_ofJson_of_wide hwide
      rw [hfloat, Option.getD_some] at hsame
      cases hsame
    · intro hnarrow
      rw [FlagValue.asJson_integer_iff.mpr hnarrow, Option.getD_some]

/-- The integer after the least that does not fit in a signed word. -/
def secondWide : Json.Integer := ⟨0x8000000000000001, by decide, by decide⟩

/-- A user with this number of an account. -/
def holderOf (account : Json.Integer) : Context where
  key := "user"
  custom := Table.ofList [("account", .ofInteger account)]

theorem resolve_holderOf (account : Json.Integer) :
    (holderOf account).resolve "account" = some (.ofInteger account) := rfl

/-- Decoding does not keep all integers: the text of one may have other digits
than the integer, two may be equal for clauses and share all their buckets, and
one may be served as another number. -/
theorem wide_integers_lost :
    (¬ ∀ n, (Attribute.ofInteger n).toText = toString n.value) ∧
      (¬ ∀ m n, m ≠ n →
        Operator.eq.answer (holderOf m) "account" [.ofInteger n] = false) ∧
      (¬ ∀ m n, m ≠ n → ∃ bucketer,
        bucket bucketer (holderOf m) "account" "flag" ≠
          bucket bucketer (holderOf n) "account" "flag") ∧
      ¬ ∀ n, (FlagValue.ofJson (.integer n)).asJson = some (.integer n) := by
  have hne : leastWide ≠ secondWide := by decide
  have hmerged : leastWide.Merged secondWide :=
    .inr ⟨wide_leastWide, Int.le.intro 1 rfl, by decide⟩
  have hsame := Attribute.toText_ofInteger_eq_iff.mpr hmerged
  refine ⟨?digits, ?equal, ?bucketed, ?json⟩
  case digits =>
    intro hkept
    have hdigits := hkept leastWide
    rw [Attribute.toText_ofInteger_of_wide wide_leastWide, toText_leastWide] at hdigits
    exact absurd (Int.repr_inj.mp hdigits) (by decide)
  case equal =>
    intro hkept
    have hequal := hkept leastWide secondWide hne
    rw [(Operator.answer_eq_iff (resolve_holderOf leastWide)).mpr hsame] at hequal
    cases hequal
  case bucketed =>
    intro hkept
    obtain ⟨bucketer, hdifferent⟩ := hkept leastWide secondWide hne
    exact hdifferent ((buckets_eq_iff rfl (resolve_holderOf leastWide)
      (resolve_holderOf secondWide)).mpr hsame bucketer)
  case json =>
    intro hkept
    exact FlagValue.asJson_integer_iff.mp (hkept leastWide) wide_leastWide

end FeatureFlags
