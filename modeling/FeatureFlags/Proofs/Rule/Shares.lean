import FeatureFlags.Rule
import Mathlib

/-!
The shares of a rollout. The weights lie one after the other on the scale of the
buckets, and a bucket goes to the entry that it lies in. The search adds up
weights in 64 bits and ends with the first sum that exceeds the bucket, so the
sums stay small however many entries there are, and they are exact. What the
weights do not reach goes to the first entry.
-/

namespace FeatureFlags

theorem toNat_bucket_lt (bucketer : Bucketer) (context : Context)
    (attributeName flagKey : String) :
    (bucket bucketer context attributeName flagKey).toNat < 100000 := by
  unfold bucket
  split
  · decide
  · dsimp only
    split
    · decide
    · rw [UInt32.toNat_mod]
      exact Nat.mod_lt _ (by decide)

namespace Rollout

/-! ### The search -/

/-- The sums that the search for a variation reaches. The last one may exceed
the bucket; no other does. -/
def sumsFrom (bucket sum : UInt64) : List WeightedVariation → List UInt64
  | [] => []
  | entry :: rest =>
      let sum := sum + entry.weight.toUInt64
      if bucket < sum then [sum] else sum :: sumsFrom bucket sum rest

/-- The position of the entry whose sum exceeds the bucket. -/
def positionFrom (bucket sum : UInt64) (entries : List WeightedVariation) : Option Nat :=
  (sumsFrom bucket sum entries).findIdx? (bucket < ·)

/-- The exact sum of the first so many weights. -/
def weightOfFirst (entries : List WeightedVariation) (count : Nat) : Nat :=
  ((entries.take count).map (·.weight.toNat)).sum

section Search

variable {bucket sum : UInt64} {entries rest : List WeightedVariation} {entry : WeightedVariation}
  {index count : Nat}

theorem weightOfFirst_zero : weightOfFirst entries 0 = 0 := rfl

theorem weightOfFirst_cons :
    weightOfFirst (entry :: rest) (count + 1) = entry.weight.toNat + weightOfFirst rest count := by
  simp only [weightOfFirst, List.take_succ_cons, List.map_cons, List.sum_cons]

theorem weightOfFirst_mono (entries : List WeightedVariation) : Monotone (weightOfFirst entries) := by
  refine monotone_nat_of_le_succ fun count => ?_
  induction entries generalizing count with
  | nil => simp [weightOfFirst]
  | cons entry rest ih =>
      cases count with
      | zero => exact Nat.zero_le _
      | succ count =>
          rw [weightOfFirst_cons, weightOfFirst_cons]
          exact Nat.add_le_add_left (ih count) _

theorem weightOfFirst_succ (hentry : entries[index]? = some entry) :
    weightOfFirst entries (index + 1) = weightOfFirst entries index + entry.weight.toNat := by
  rw [weightOfFirst, List.take_add_one, hentry]
  simp [weightOfFirst]

theorem positionFrom_nil : positionFrom bucket sum [] = none := rfl

theorem positionFrom_cons_of_lt (hexceeds : bucket < sum + entry.weight.toUInt64) :
    positionFrom bucket sum (entry :: rest) = some 0 := by
  simp [positionFrom, sumsFrom, hexceeds]

theorem positionFrom_cons_of_not_lt (hreached : ¬ bucket < sum + entry.weight.toUInt64) :
    positionFrom bucket sum (entry :: rest) =
      (positionFrom bucket (sum + entry.weight.toUInt64) rest).map (· + 1) := by
  simp [positionFrom, sumsFrom, hreached, List.findIdx?_cons]

/-- The search serves the variation at the position that it stops at. -/
theorem variationFrom_eq (bucket sum : UInt64) (entries : List WeightedVariation) :
    variationFrom bucket sum entries =
      (positionFrom bucket sum entries).bind fun index =>
        entries[index]?.map (·.variation) := by
  induction entries generalizing sum with
  | nil => rfl
  | cons entry rest ih =>
      by_cases hexceeds : bucket < sum + entry.weight.toUInt64
      · rw [positionFrom_cons_of_lt hexceeds]
        simp [variationFrom, hexceeds]
      · rw [positionFrom_cons_of_not_lt hexceeds]
        simp [variationFrom, hexceeds, ih, Option.bind_map]

/-- A sum that has not exceeded the bucket has room for one more weight. -/
theorem toNat_add_weight (hbucket : bucket.toNat < UInt32.size) (hsum : sum.toNat ≤ bucket.toNat)
    (weight : UInt32) : (sum + weight.toUInt64).toNat = sum.toNat + weight.toNat := by
  have hweight : weight.toNat < UInt32.size := weight.toNat_lt_size
  rw [UInt64.toNat_add, UInt32.toNat_toUInt64]
  apply Nat.mod_eq_of_lt
  have hsize : UInt32.size + UInt32.size ≤ 2 ^ 64 := by decide
  omega

theorem lt_add_weight_iff (hbucket : bucket.toNat < UInt32.size) (hsum : sum.toNat ≤ bucket.toNat)
    (weight : UInt32) :
    bucket < sum + weight.toUInt64 ↔ bucket.toNat < sum.toNat + weight.toNat := by
  rw [UInt64.lt_iff_toNat_lt, toNat_add_weight hbucket hsum]

/-- The search stops in the part of the scale that an entry takes. -/
theorem positionFrom_eq_some_iff (hbucket : bucket.toNat < UInt32.size)
    (hsum : sum.toNat ≤ bucket.toNat) :
    positionFrom bucket sum entries = some index ↔
      index < entries.length ∧ sum.toNat + weightOfFirst entries index ≤ bucket.toNat ∧
        bucket.toNat < sum.toNat + weightOfFirst entries (index + 1) := by
  induction entries generalizing sum index with
  | nil => simp [positionFrom_nil]
  | cons entry rest ih =>
      have hexact := toNat_add_weight hbucket hsum entry.weight
      have hfirst := lt_add_weight_iff hbucket hsum entry.weight
      rw [List.length_cons, weightOfFirst_cons]
      by_cases hexceeds : bucket < sum + entry.weight.toUInt64
      · rw [positionFrom_cons_of_lt hexceeds]
        have hlt := hfirst.mp hexceeds
        cases index with
        | zero =>
            refine iff_of_true rfl ?_
            rw [weightOfFirst_zero, weightOfFirst_zero]
            omega
        | succ index =>
            refine iff_of_false (by simp) ?_
            rw [weightOfFirst_cons]
            omega
      · rw [positionFrom_cons_of_not_lt hexceeds]
        have hge := mt hfirst.mpr hexceeds
        cases index with
        | zero =>
            refine iff_of_false (by simp) ?_
            rw [weightOfFirst_zero, weightOfFirst_zero]
            omega
        | succ index =>
            have hroom : (sum + entry.weight.toUInt64).toNat ≤ bucket.toNat := by omega
            have hshift : (positionFrom bucket (sum + entry.weight.toUInt64) rest).map (· + 1) =
                some (index + 1) ↔
                  positionFrom bucket (sum + entry.weight.toUInt64) rest = some index := by simp
            rw [hshift, ih hroom, hexact, weightOfFirst_cons]
            omega

/-- The search finds nothing where the weights do not reach. -/
theorem positionFrom_eq_none_iff (hbucket : bucket.toNat < UInt32.size)
    (hsum : sum.toNat ≤ bucket.toNat) :
    positionFrom bucket sum entries = none ↔
      sum.toNat + weightOfFirst entries entries.length ≤ bucket.toNat := by
  induction entries generalizing sum with
  | nil => simp [positionFrom_nil, weightOfFirst_zero, hsum]
  | cons entry rest ih =>
      have hexact := toNat_add_weight hbucket hsum entry.weight
      rw [List.length_cons, weightOfFirst_cons]
      by_cases hexceeds : bucket < sum + entry.weight.toUInt64
      · rw [positionFrom_cons_of_lt hexceeds]
        rw [lt_add_weight_iff hbucket hsum] at hexceeds
        refine iff_of_false (by simp) ?_
        omega
      · rw [positionFrom_cons_of_not_lt hexceeds]
        rw [lt_add_weight_iff hbucket hsum] at hexceeds
        have hroom : (sum + entry.weight.toUInt64).toNat ≤ bucket.toNat := by omega
        rw [Option.map_eq_none_iff, ih hroom, hexact]
        omega

/-- Every sum that the search reaches is exact, and exceeds the bucket by one
weight at most. -/
theorem toNat_of_sumsFrom (hbucket : bucket.toNat < UInt32.size) (hsum : sum.toNat ≤ bucket.toNat)
    {reached : UInt64} (hreached : (sumsFrom bucket sum entries)[count]? = some reached) :
    reached.toNat = sum.toNat + weightOfFirst entries (count + 1) ∧
      reached.toNat < bucket.toNat + UInt32.size := by
  induction entries generalizing sum count with
  | nil => cases hreached
  | cons entry rest ih =>
      have hexact := toNat_add_weight hbucket hsum entry.weight
      have hweight : entry.weight.toNat < UInt32.size := entry.weight.toNat_lt_size
      rw [weightOfFirst_cons]
      rw [sumsFrom] at hreached
      split at hreached
      · next hexceeds =>
          cases count with
          | zero =>
              cases hreached
              rw [hexact, weightOfFirst_zero]
              omega
          | succ count => cases hreached
      · next hle =>
          rw [lt_add_weight_iff hbucket hsum] at hle
          cases count with
          | zero =>
              cases hreached
              rw [hexact, weightOfFirst_zero]
              omega
          | succ count =>
              have hroom : (sum + entry.weight.toUInt64).toNat ≤ bucket.toNat := by omega
              have hrest := ih hroom hreached
              rw [hexact] at hrest
              omega

end Search

/-! ### Who gets a bucket -/

/-- The sums that are reached for a bucket. -/
def sums (rollout : Rollout) (bucket : UInt32) : List UInt64 :=
  sumsFrom bucket.toUInt64 0 rollout.variations

/-- The position of the entry that a bucket goes to. -/
def position (rollout : Rollout) (bucket : UInt32) : Nat :=
  (positionFrom bucket.toUInt64 0 rollout.variations).getD 0

/-- The sum of the weights before a position, where the part of the scale begins
that the entry there takes. -/
def start (rollout : Rollout) (index : Nat) : Nat :=
  weightOfFirst rollout.variations index

/-- Where the weights end. -/
def total (rollout : Rollout) : Nat :=
  rollout.start rollout.variations.length

variable {rollout : Rollout} {bucket : UInt32} {index : Nat}

theorem start_mono (rollout : Rollout) : Monotone rollout.start :=
  weightOfFirst_mono rollout.variations

theorem positionFrom_eq_some_iff_start :
    positionFrom bucket.toUInt64 0 rollout.variations = some index ↔
      index < rollout.variations.length ∧ rollout.start index ≤ bucket.toNat ∧
        bucket.toNat < rollout.start (index + 1) := by
  have hbucket : bucket.toUInt64.toNat < UInt32.size := bucket.toNat_lt_size
  rw [positionFrom_eq_some_iff hbucket (Nat.zero_le _)]
  simp [start]

theorem positionFrom_eq_none_iff_total :
    positionFrom bucket.toUInt64 0 rollout.variations = none ↔ rollout.total ≤ bucket.toNat := by
  have hbucket : bucket.toUInt64.toNat < UInt32.size := bucket.toNat_lt_size
  rw [positionFrom_eq_none_iff hbucket (Nat.zero_le _)]
  simp [total, start]

/-- A bucket that the weights reach goes to the entry in whose part it lies. -/
theorem position_eq_iff (hreached : bucket.toNat < rollout.total) :
    rollout.position bucket = index ↔ index < rollout.variations.length ∧
      rollout.start index ≤ bucket.toNat ∧ bucket.toNat < rollout.start (index + 1) := by
  rw [← positionFrom_eq_some_iff_start, position]
  cases hfound : positionFrom bucket.toUInt64 0 rollout.variations with
  | none =>
      have hnone := positionFrom_eq_none_iff_total.mp hfound
      omega
  | some found => simp

theorem position_eq_zero (hbeyond : rollout.total ≤ bucket.toNat) : rollout.position bucket = 0 := by
  rw [position, positionFrom_eq_none_iff_total.mpr hbeyond]
  rfl

theorem position_lt (hentries : rollout.variations ≠ []) (bucket : UInt32) :
    rollout.position bucket < rollout.variations.length := by
  rcases Nat.lt_or_ge bucket.toNat rollout.total with hreached | hbeyond
  · exact ((position_eq_iff hreached).mp rfl).1
  · rw [position_eq_zero hbeyond]
    exact List.length_pos_iff.mpr hentries

/-- The variation of a bucket is that of the entry that the bucket goes to. -/
theorem variationForBucket_eq (rollout : Rollout) (bucket : UInt32) :
    rollout.variationForBucket bucket =
      rollout.variations[rollout.position bucket]?.map (·.variation) := by
  cases hentries : rollout.variations with
  | nil => simp [variationForBucket, hentries]
  | cons first rest =>
      rw [variationForBucket, hentries]
      dsimp only
      rw [← hentries, variationFrom_eq]
      cases hfound : positionFrom bucket.toUInt64 0 rollout.variations with
      | none =>
          have hfirst : rollout.position bucket = 0 := by rw [position, hfound]; rfl
          simp [hfirst, hentries]
      | some index =>
          have hindex := (positionFrom_eq_some_iff_start.mp hfound).1
          simp [position, hfound, hindex]

/-! ### How many buckets an entry gets -/

/-- The buckets that go to the entry at a position. -/
def bucketsAt (rollout : Rollout) (index : Nat) : Finset Nat :=
  (Finset.range 100000).filter fun bucket => rollout.position (.ofNat bucket) = index

/-- The buckets that a variation is selected for. -/
def bucketsOf (rollout : Rollout) (variation : UInt64) : Finset Nat :=
  (Finset.range 100000).filter fun bucket =>
    rollout.variationForBucket (.ofNat bucket) = some variation

/-- The positions of the entries with a variation. -/
def positionsOf (rollout : Rollout) (variation : UInt64) : Finset Nat :=
  (Finset.range rollout.variations.length).filter fun index =>
    rollout.variations[index]?.map (·.variation) = some variation

/-- The length of the part of the scale that an entry takes. The first entry has
in addition what the weights do not reach. -/
def share (rollout : Rollout) (index : Nat) : Nat :=
  (min (rollout.start (index + 1)) 100000 - min (rollout.start index) 100000) +
    if index = 0 then 100000 - min rollout.total 100000 else 0

theorem toNat_ofNat_of_lt {bucket : Nat} (hbucket : bucket < 100000) :
    (UInt32.ofNat bucket).toNat = bucket := by
  rw [UInt32.toNat_ofNat']
  exact Nat.mod_eq_of_lt (by omega)

theorem position_eq_iff_of_lt (hindex : index < rollout.variations.length) :
    rollout.position bucket = index ↔
      rollout.start index ≤ bucket.toNat ∧ bucket.toNat < rollout.start (index + 1) ∨
        index = 0 ∧ rollout.total ≤ bucket.toNat := by
  rcases Nat.lt_or_ge bucket.toNat rollout.total with hreached | hbeyond
  · rw [position_eq_iff hreached]
    simp [hindex, Nat.not_le.mpr hreached]
  · have hend : rollout.start (index + 1) ≤ rollout.total := rollout.start_mono hindex
    rw [position_eq_zero hbeyond]
    omega

theorem card_bucketsAt (hindex : index < rollout.variations.length) :
    (rollout.bucketsAt index).card = rollout.share index := by
  have hend : rollout.start (index + 1) ≤ rollout.total := rollout.start_mono hindex
  have hsplit : rollout.bucketsAt index =
      Finset.Ico (min (rollout.start index) 100000) (min (rollout.start (index + 1)) 100000) ∪
        Finset.Ico (if index = 0 then min rollout.total 100000 else 100000) 100000 := by
    ext bucket
    simp only [bucketsAt, Finset.mem_filter, Finset.mem_range, Finset.mem_union, Finset.mem_Ico]
    by_cases hbucket : bucket < 100000
    · rw [position_eq_iff_of_lt hindex, toNat_ofNat_of_lt hbucket]
      split <;> omega
    · split <;> omega
  have hdisjoint : Disjoint
      (Finset.Ico (min (rollout.start index) 100000) (min (rollout.start (index + 1)) 100000))
      (Finset.Ico (if index = 0 then min rollout.total 100000 else 100000) 100000) := by
    rw [Finset.disjoint_left]
    intro bucket hpart hrest
    rw [Finset.mem_Ico] at hpart hrest
    split at hrest <;> omega
  rw [hsplit, Finset.card_union_of_disjoint hdisjoint, Nat.card_Ico, Nat.card_Ico, share]
  split <;> omega

/-- A variation is selected for the buckets of all entries that have it. -/
theorem card_bucketsOf (hentries : rollout.variations ≠ []) (variation : UInt64) :
    (rollout.bucketsOf variation).card =
      ∑ index ∈ rollout.positionsOf variation, (rollout.bucketsAt index).card := by
  have hselected (bucket : UInt32) : rollout.variationForBucket bucket = some variation ↔
      rollout.position bucket ∈ rollout.positionsOf variation := by
    rw [variationForBucket_eq, positionsOf, Finset.mem_filter, Finset.mem_range]
    exact (and_iff_right (position_lt hentries bucket)).symm
  have hmaps : ∀ bucket ∈ rollout.bucketsOf variation,
      rollout.position (.ofNat bucket) ∈ rollout.positionsOf variation := fun bucket hmem =>
    (hselected _).mp (Finset.mem_filter.mp hmem).2
  rw [Finset.card_eq_sum_card_fiberwise hmaps]
  refine Finset.sum_congr rfl fun index hindex => congrArg Finset.card ?_
  ext bucket
  simp only [bucketsOf, bucketsAt, Finset.mem_filter, hselected]
  constructor
  · rintro ⟨⟨hrange, -⟩, hposition⟩
    exact ⟨hrange, hposition⟩
  · rintro ⟨hrange, rfl⟩
    exact ⟨⟨hrange, hindex⟩, rfl⟩

/-- How a rollout divides the buckets among its entries. -/
structure SharedOut (rollout : Rollout) : Prop where
  /-- A bucket gets the variation of the entry that it goes to. -/
  selects : ∀ bucket, ∃ entry, rollout.variations[rollout.position bucket]? = some entry ∧
    rollout.variationForBucket bucket = some entry.variation
  contexts : ∀ bucketer context flagKey,
    let own := FeatureFlags.bucket bucketer context (rollout.bucketBy.getD "") flagKey
    own.toNat < 100000 ∧ rollout.select bucketer context flagKey = rollout.variationForBucket own
  /-- A bucket below the total lies in the part of one entry, and goes to it. -/
  reached : ∀ bucket : UInt32, bucket.toNat < rollout.total → ∀ index,
    index < rollout.variations.length ∧ rollout.start index ≤ bucket.toNat ∧
      bucket.toNat < rollout.start (index + 1) ↔ index = rollout.position bucket
  beyond : ∀ bucket : UInt32, rollout.total ≤ bucket.toNat → rollout.position bucket = 0
  shares : ∀ index < rollout.variations.length,
    (rollout.bucketsAt index).card = rollout.share index
  variationShares : ∀ variation, (rollout.bucketsOf variation).card =
    ∑ index ∈ rollout.positionsOf variation, rollout.share index
  /-- An entry without weight has no part of the scale. -/
  weightless : ∀ (bucket : UInt32) entry,
    rollout.variations[rollout.position bucket]? = some entry → entry.weight = 0 →
      rollout.position bucket = 0 ∧ rollout.total ≤ bucket.toNat
  /-- The sums are exact, so they do not wrap, and they are bounded by the
  greatest bucket and one weight. -/
  sums : ∀ (bucket : UInt32) count (sum : UInt64), (rollout.sums bucket)[count]? = some sum →
    sum.toNat = rollout.start (count + 1) ∧
      (bucket.toNat < 100000 → sum.toNat ≤ 99999 + (2 ^ 32 - 1))

/-- A rollout with entries divides the buckets exactly: each entry gets the part
of the scale that its weight takes, cut off where the buckets end, and the first
entry gets the buckets that are left. The sums of the search never wrap. -/
theorem entries_get_their_shares (rollout : Rollout) (hentries : rollout.variations ≠ []) :
    rollout.SharedOut where
  selects bucket := by
    have hlt := position_lt hentries bucket
    refine ⟨_, List.getElem?_eq_getElem hlt, ?_⟩
    rw [variationForBucket_eq, List.getElem?_eq_getElem hlt, Option.map_some]
  contexts bucketer context flagKey := ⟨toNat_bucket_lt bucketer context _ flagKey, rfl⟩
  reached bucket hreached index := (position_eq_iff hreached).symm.trans eq_comm
  beyond _ := position_eq_zero
  shares _ := card_bucketsAt
  variationShares variation := by
    rw [card_bucketsOf hentries]
    refine Finset.sum_congr rfl fun index hindex => card_bucketsAt ?_
    exact Finset.mem_range.mp (Finset.mem_filter.mp hindex).1
  weightless bucket entry hentry hweight := by
    rcases Nat.lt_or_ge bucket.toNat rollout.total with hreached | hbeyond
    · -- a part of no length holds no bucket
      obtain ⟨_, hstart, hend⟩ := (position_eq_iff hreached).mp rfl
      rw [start, weightOfFirst_succ hentry, hweight] at hend
      exact absurd hend (Nat.not_lt.mpr hstart)
    · exact ⟨position_eq_zero hbeyond, hbeyond⟩
  sums bucket count sum hsum := by
    have hbucket : bucket.toUInt64.toNat < UInt32.size := bucket.toNat_lt_size
    obtain ⟨hexact, hbound⟩ := toNat_of_sumsFrom hbucket (Nat.zero_le _) hsum
    refine ⟨by simpa [start] using hexact, fun hsmall => ?_⟩
    rw [UInt32.toNat_toUInt64] at hbound
    have hsize : UInt32.size = 2 ^ 32 := rfl
    omega

/-- Weights that begin with nothing and go far beyond the buckets. -/
def generous : Rollout where
  variations := [⟨3, 0⟩, ⟨1, 60000⟩, ⟨3, 4294967295⟩, ⟨2, 5⟩]

/-- Weights that reach 20 buckets only. -/
def meagre : Rollout where
  variations := [⟨2, 10⟩, ⟨1, 0⟩, ⟨1, 10⟩]

theorem entries_get_their_shares_in_generous_and_meagre :
    generous.SharedOut ∧ meagre.SharedOut ∧
      (generous.bucketsOf 3).card = 40000 ∧ (generous.bucketsAt 3).card = 0 ∧
      (meagre.bucketsAt 0).card = 99990 ∧ (meagre.bucketsOf 1).card = 10 := by
  have hgenerous := entries_get_their_shares generous (by decide)
  have hmeagre := entries_get_their_shares meagre (by decide)
  refine ⟨hgenerous, hmeagre, ?_, ?_, ?_, ?_⟩
  · rw [hgenerous.variationShares]
    decide
  · rw [hgenerous.shares 3 (by decide)]
    decide
  · rw [hmeagre.shares 0 (by decide)]
    decide
  · rw [hmeagre.variationShares]
    decide

end Rollout

end FeatureFlags
