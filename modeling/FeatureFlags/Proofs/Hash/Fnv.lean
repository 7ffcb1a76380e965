import FeatureFlags.Bucket
import Mathlib.Logic.Function.Basic

/-!
The default hash loses nothing on its way through the bytes. One byte changes
the state by an exclusive or and by the product with an odd number, and both can
be undone, so the state before some bytes can be told from the state after them.
Inputs that differ in one byte therefore never have the same hash, and two
inputs of one length that collide differ in at least two places.
-/

namespace FeatureFlags

namespace Hash

variable {state : UInt32} {x y byte : UInt8} {bytes left right : List UInt8}

/-- The number whose product undoes that with the prime. -/
def fnvInverse : UInt32 := 0x359c449b

/-- The state before a byte, from the state after it. -/
def fnvUnstep (state : UInt32) (byte : UInt8) : UInt32 :=
  state * fnvInverse ^^^ byte.toUInt32

theorem fnvPrime_mul_fnvInverse : fnvPrime * fnvInverse = 1 := by decide

theorem fnvUnstep_fnvStep (state : UInt32) (byte : UInt8) :
    fnvUnstep (fnvStep state byte) byte = state := by
  rw [fnvUnstep, fnvStep, UInt32.mul_assoc, fnvPrime_mul_fnvInverse, UInt32.mul_one,
    UInt32.xor_assoc, UInt32.xor_self, UInt32.xor_zero]

theorem fnvStep_fnvUnstep (state : UInt32) (byte : UInt8) :
    fnvStep (fnvUnstep state byte) byte = state := by
  rw [fnvUnstep, fnvStep, UInt32.xor_assoc, UInt32.xor_self, UInt32.xor_zero, UInt32.mul_assoc,
    UInt32.mul_comm fnvInverse, fnvPrime_mul_fnvInverse, UInt32.mul_one]

/-- Different bytes change a state differently. -/
theorem fnvStep_inj : fnvStep state x = fnvStep state y ↔ x = y := by
  refine ⟨fun heq => ?_, fun heq => heq ▸ rfl⟩
  have hproduct := congrArg (· * fnvInverse) heq
  simp only [fnvStep, UInt32.mul_assoc, fnvPrime_mul_fnvInverse, UInt32.mul_one] at hproduct
  have hbytes : x.toUInt32 = y.toUInt32 := (UInt32.xor_right_inj state).mp hproduct
  rw [← UInt8.toUInt8_toUInt32 x, hbytes, UInt8.toUInt8_toUInt32]

/-- The state before some bytes, from the state after them. -/
def fnvRewind (bytes : List UInt8) (state : UInt32) : UInt32 :=
  bytes.foldr (fun byte state => fnvUnstep state byte) state

theorem fnvRewind_foldl (bytes : List UInt8) (state : UInt32) :
    fnvRewind bytes (bytes.foldl fnvStep state) = state := by
  induction bytes generalizing state with
  | nil => rfl
  | cons byte rest ih =>
      rw [List.foldl_cons, fnvRewind, List.foldr_cons, ← fnvRewind, ih, fnvUnstep_fnvStep]

theorem foldl_fnvRewind (bytes : List UInt8) (state : UInt32) :
    bytes.foldl fnvStep (fnvRewind bytes state) = state := by
  induction bytes with
  | nil => rfl
  | cons byte rest ih =>
      rw [List.foldl_cons, fnvRewind, List.foldr_cons, ← fnvRewind, fnvStep_fnvUnstep, ih]

theorem bijective_foldl_fnvStep (bytes : List UInt8) :
    Function.Bijective fun state => bytes.foldl fnvStep state :=
  ⟨Function.LeftInverse.injective (fnvRewind_foldl bytes),
    Function.RightInverse.surjective (foldl_fnvRewind bytes)⟩

theorem fnv1a_append (left right : List UInt8) :
    fnv1a (left ++ right) = right.foldl fnvStep (fnv1a left) :=
  List.foldl_append

/-- Inputs with one byte exchanged have the same hash only if it is the same
byte. -/
theorem fnv1a_exchange_inj :
    fnv1a (left ++ [x] ++ right) = fnv1a (left ++ [y] ++ right) ↔ x = y := by
  rw [fnv1a_append (left ++ [x]), fnv1a_append (left ++ [y]),
    (bijective_foldl_fnvStep right).injective.eq_iff, fnv1a_append, fnv1a_append]
  exact fnvStep_inj

end Hash

/-- Lists of one length that differ in one place have the same items before and
after it. -/
theorem exists_exchange {α : Type} {left right : List α} {place : Nat}
    (hlength : left.length = right.length) (hbefore : left.take place = right.take place)
    (hplace : left[place]? ≠ right[place]?)
    (hafter : ∀ other, place < other → left[other]? = right[other]?) :
    ∃ before x y after, x ≠ y ∧ left = before ++ [x] ++ after ∧ right = before ++ [y] ++ after := by
  have hleft : place < left.length := by
    by_contra hend
    rw [List.getElem?_eq_none (by omega), List.getElem?_eq_none (by omega)] at hplace
    exact hplace rfl
  have hright : place < right.length := hlength ▸ hleft
  have hrest : left.drop (place + 1) = right.drop (place + 1) := by
    refine List.ext_getElem? fun index => ?_
    rw [List.getElem?_drop, List.getElem?_drop]
    exact hafter _ (by omega)
  rw [List.getElem?_eq_getElem hleft, List.getElem?_eq_getElem hright] at hplace
  refine ⟨left.take place, left[place], right[place], left.drop (place + 1),
    fun heq => hplace (congrArg some heq), ?_, ?_⟩
  · rw [List.take_append_getElem, List.take_append_drop]
  · rw [hbefore, hrest, List.take_append_getElem, List.take_append_drop]

/-- A hash that takes one byte after the other and merges no two inputs that
differ in one byte only. -/
structure SeparatesBytes (hash : List UInt8 → UInt32) (step : UInt32 → UInt8 → UInt32) : Prop where
  /-- The hash is the state after all bytes. -/
  append : ∀ left right, hash (left ++ right) = right.foldl step (hash left)
  oneByte : ∀ left right x y, x ≠ y → hash (left ++ [x] ++ right) ≠ hash (left ++ [y] ++ right)
  bijective : ∀ bytes : List UInt8, Function.Bijective fun state => bytes.foldl step state
  /-- Where inputs of one length collide, the first place in which they differ is
  not the last. -/
  later : ∀ left right : List UInt8, left.length = right.length → hash left = hash right →
    ∀ place, left.take place = right.take place → left[place]? ≠ right[place]? →
      ∃ other, place < other ∧ left[other]? ≠ right[other]?

/-- The hash used where none is chosen never merges inputs that differ in one
byte. -/
theorem default_hash_separates_bytes : SeparatesBytes Bucketer.fnv1a.hash Hash.fnvStep where
  append := Hash.fnv1a_append
  oneByte _ _ _ _ hne := mt Hash.fnv1a_exchange_inj.mp hne
  bijective := Hash.bijective_foldl_fnvStep
  later left right hlength hcollide place hbefore hplace := by
    by_contra hnone
    have hafter : ∀ other, place < other → left[other]? = right[other]? := by
      intro other hlt
      by_contra hne
      exact hnone ⟨other, hlt, hne⟩
    obtain ⟨before, x, y, after, hne, rfl, rfl⟩ := exists_exchange hlength hbefore hplace hafter
    exact hne (Hash.fnv1a_exchange_inj.mp hcollide)

end FeatureFlags
