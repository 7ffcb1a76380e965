import FeatureFlags.Proofs.Prerequisite.Locality

/-!
The order of prerequisites does not decide what is served. With the lists of a
store in another order a walk takes another course: other flags may be looked
up, other heights recorded, and another prerequisite may be the first that is
unmet. But whether all prerequisites of a flag are met is a question about each
of them, and where paths are short enough each of them has an answer. So the
order decides only which unmet prerequisite is named.
-/

namespace FeatureFlags

/-- The same flag with its prerequisites in some order. -/
def Flag.Reordered (flag other : Flag) : Prop :=
  ∃ prerequisites, flag.prerequisites.Perm prerequisites ∧ other = { flag with prerequisites }

theorem Flag.Reordered.symm {flag other : Flag} (hreordered : flag.Reordered other) :
    other.Reordered flag := by
  obtain ⟨prerequisites, hperm, rfl⟩ := hreordered
  exact ⟨flag.prerequisites, hperm.symm, rfl⟩

namespace Evaluator

variable {e : Evaluator} {context : Context} {store : String → Option Flag} {chain : List String}
  {key : String} {flag other : Flag}

/-- A store that has the same flags under the same keys, up to the order of
their prerequisites. -/
def Reorders (e : Evaluator) (store : String → Option Flag) : Prop :=
  ∀ key, Option.Rel Flag.Reordered (e.lookup key) (store key)

/-- A store is reordered if it is filled with reordered flags. -/
theorem rel_get?_ofFlags {flags others : List Flag}
    (hflags : List.Forall₂ Flag.Reordered flags others) (key : String) :
    Option.Rel Flag.Reordered ((Store.ofFlags flags).get? key)
      ((Store.ofFlags others).get? key) := by
  have hlookup {flags others : List Flag} (hflags : List.Forall₂ Flag.Reordered flags others) :
      Option.Rel Flag.Reordered ((flags.map fun flag => (flag.key, flag)).lookup key)
        ((others.map fun flag => (flag.key, flag)).lookup key) := by
    induction hflags with
    | nil => exact .none
    | @cons flag other flags others hhead _ ih =>
        obtain ⟨prerequisites, hperm, rfl⟩ := hhead
        simp only [List.map_cons, List.lookup_cons]
        cases key == flag.key with
        | true => exact .some ⟨prerequisites, hperm, rfl⟩
        | false => exact ih
  rw [Store.get?_ofFlags, Store.get?_ofFlags]
  exact hlookup (List.rel_reverse hflags)

section Reorders

variable (hreorders : e.Reorders store)
include hreorders

theorem Reorders.symm : (e.withStore store).Reorders e.lookup := by
  intro key
  have hrel := hreorders key
  change Option.Rel Flag.Reordered (store key) (e.lookup key)
  generalize e.lookup key = held at hrel ⊢
  generalize store key = found at hrel ⊢
  cases hrel with
  | some hreordered => exact .some hreordered.symm
  | none => exact .none

theorem Reorders.held (hheld : e.lookup key = some flag) :
    ∃ other, store key = some other ∧ flag.Reordered other := by
  have hrel := hreorders key
  rw [hheld] at hrel
  generalize store key = found at hrel ⊢
  cases hrel with
  | some hreordered => exact ⟨_, rfl, hreordered⟩

theorem Reorders.missing (hmissing : e.lookup key = none) : store key = none := by
  have hrel := hreorders key
  rw [hmissing] at hrel
  generalize store key = found at hrel ⊢
  cases hrel with
  | none => rfl

/-! ### The graph stays -/

theorem Reorders.wellKeyed (hkeyed : e.WellKeyed) : (e.withStore store).WellKeyed := by
  intro key other hother
  obtain ⟨flag, hheld, prerequisites, hperm, rfl⟩ := hreorders.symm.held hother
  have hkey := hkeyed key _ hheld
  exact hkey

theorem Reorders.requires {required : String}
    (hrequires : (e.withStore store).Requires key required) :
    e.Requires key required := by
  obtain ⟨other, hother, ⟨prerequisite, hmem, hkey⟩, hrequired⟩ := hrequires
  obtain ⟨flag, hheld, prerequisites, hperm, rfl⟩ := hreorders.symm.held hother
  obtain ⟨found, hfound⟩ := Option.isSome_iff_exists.mp hrequired
  obtain ⟨held, hheld', _⟩ := hreorders.symm.held hfound
  exact ⟨_, hheld, ⟨prerequisite, hperm.mem_iff.mp hmem, hkey⟩, by rw [hheld']; rfl⟩

theorem Reorders.pathsWithin {edges : Nat} (hpaths : e.PathsWithin key edges) :
    (e.withStore store).PathsWithin key edges := by
  intro path hpath
  exact hpaths path (hpath.imp fun _ _ hrequires => hreorders.requires hrequires)

end Reorders

/-! ### All prerequisites are met in one order if they are in another -/

section UnmetAmong

variable {answer : String → Except FlagError Resolved} {first second : List Prerequisite}
  {height reached : Nat}

/-- A prerequisite that is reported as unmet has no answer, or another one than
it has to. -/
theorem unmetAmong_listed {unmet : String}
    (hunmet : unmetAmong answer first height = .ok (some unmet, reached)) :
    ∃ prerequisite ∈ first,
      (∀ resolved, answer prerequisite.key = .ok resolved →
        resolved.variationIndex ≠ some prerequisite.variation) ∧
      ∀ error, answer prerequisite.key = .error error → error.isFatal = false := by
  have hpassage := passage (fun key => .known (answer key)) first height {}
  rw [firstUnmet_known, hunmet] at hpassage
  obtain ⟨prerequisite, hmem, _, earlier, result, hresult, hresolved, habsorbed⟩ :=
    hpassage.unmet_listed rfl
  obtain rfl : answer prerequisite.key = result := congrArg Prod.fst hresult
  exact ⟨prerequisite, hmem, hresolved, habsorbed⟩

/-- Answers with the same variations: where the first ones have one, the second
ones have the same or end the evaluation. -/
def Echoes (answer second : String → Except FlagError Resolved) : Prop :=
  ∀ key resolved, answer key = .ok resolved →
    (∀ found, second key = .ok found → found.variationIndex = resolved.variationIndex) ∧
      ∀ error, second key = .error error → error.isFatal = true

theorem unmetAmong_none_of_perm {echo : String → Except FlagError Resolved} {unmet : Option String}
    {reached' : Nat} (hperm : first.Perm second) (hechoes : Echoes answer echo)
    (hfirst : unmetAmong answer first height = .ok (none, reached))
    (hsecond : unmetAmong echo second height = .ok (unmet, reached')) :
    unmet = none := by
  cases unmet with
  | none => rfl
  | some unmet =>
      obtain ⟨prerequisite, hmem, hother, habsorbed⟩ := unmetAmong_listed hsecond
      obtain ⟨resolved, hanswer, hmet, _⟩ :=
        (metWithin_of_unmetAmong hfirst).2 prerequisite (hperm.mem_iff.mpr hmem)
      obtain ⟨hsame, hfatal⟩ := hechoes prerequisite.key resolved hanswer
      cases hecho : echo prerequisite.key with
      | ok found => exact absurd ((hsame found hecho).trans hmet) (hother found hecho)
      | error error =>
          have hcontrary := (hfatal error hecho).symm.trans (habsorbed error hecho)
          cases hcontrary

end UnmetAmong

/-! ### What is served stays -/

/-- Two evaluations that differ at most in the prerequisite that they name. -/
def ServesAlike (evaluation other : Evaluation) : Prop :=
  ∃ prerequisiteKey, other = { evaluation with prerequisiteKey }

theorem ServesAlike.symm {evaluation other : Evaluation} (halike : ServesAlike evaluation other) :
    ServesAlike other evaluation := by
  obtain ⟨prerequisiteKey, rfl⟩ := halike
  exact ⟨evaluation.prerequisiteKey, rfl⟩

/-- An answer in one order is echoed in the other if visits are. -/
theorem answerAfresh_echoes (hreorders : e.Reorders store)
    (hvisit : ∀ flag other evaluation evaluation' height height', flag.Reordered other →
      e.visitAfresh context chain flag = .ok (evaluation, height) →
      (e.withStore store).visitAfresh context chain other = .ok (evaluation', height') →
      ServesAlike evaluation evaluation') :
    Echoes (e.answerAfresh context chain) ((e.withStore store).answerAfresh context chain) := by
  intro key resolved hanswer
  obtain ⟨flag, evaluation, hheld, hflag, hindex⟩ := visitAfresh_of_answerAfresh hanswer
  obtain ⟨other, hother, hreordered⟩ := hreorders.held hheld
  constructor
  · intro found hfound
    obtain ⟨held, evaluation', hheld', hvisit', hindex'⟩ := visitAfresh_of_answerAfresh hfound
    obtain rfl : other = held := Option.some.inj (hother.symm.trans hheld')
    obtain ⟨prerequisiteKey, rfl⟩ := hvisit flag other _ _ _ _ hreordered hflag hvisit'
    rw [← hindex', ← hindex]
  · intro error herror
    cases hfatal : error.isFatal with
    | true => rfl
    | false =>
        have hmissing : store key = none := lookup_of_answerAfresh herror hfatal
        rw [hother] at hmissing
        cases hmissing

theorem servesAlike_of_visits (hreorders : e.Reorders store) {evaluation evaluation' : Evaluation}
    {height height' : Nat} (hreordered : flag.Reordered other)
    (hvisit : e.visitAfresh context chain flag = .ok (evaluation, height))
    (hvisit' : (e.withStore store).visitAfresh context chain other = .ok (evaluation', height')) :
    ServesAlike evaluation evaluation' := by
  induction hroom : e.maxDepth.toNat + 1 - chain.length
    generalizing chain flag other evaluation evaluation' height height' with
  | zero =>
      obtain ⟨_, hdeep, _⟩ := visitAfresh_ok_cases hvisit
      omega
  | succ room ih =>
      obtain ⟨_, hdeep, hcases⟩ := visitAfresh_ok_cases hvisit
      obtain ⟨_, _, hcases'⟩ := visitAfresh_ok_cases hvisit'
      obtain ⟨prerequisites, hperm, rfl⟩ := hreordered
      have hbelow : e.maxDepth.toNat + 1 - (chain ++ [flag.key]).length = room := by
        rw [List.length_append, List.length_singleton]
        omega
      -- An answer may be met in either order, so the echo is needed both ways.
      have hechoes : Echoes (e.answerAfresh context (chain ++ [flag.key]))
          ((e.withStore store).answerAfresh context (chain ++ [flag.key])) :=
        answerAfresh_echoes hreorders fun _ _ _ _ _ _ hreordered hfirst hsecond =>
          ih hreordered hfirst hsecond hbelow
      have hechoes' : Echoes ((e.withStore store).answerAfresh context (chain ++ [flag.key]))
          (e.answerAfresh context (chain ++ [flag.key])) :=
        answerAfresh_echoes hreorders.symm fun _ _ _ _ _ _ hreordered hfirst hsecond =>
          (ih hreordered.symm hsecond hfirst hbelow).symm
      rcases hcases with ⟨hdisabled, rfl⟩ | ⟨henabled, unmet, rfl, hlist⟩ <;>
        rcases hcases' with ⟨hdisabled', rfl⟩ | ⟨henabled', unmet', rfl, hlist'⟩
      case inl.inl => exact ⟨none, rfl⟩
      case inl.inr => exact absurd (hdisabled.symm.trans henabled') (by decide)
      case inr.inl => exact absurd (hdisabled'.symm.trans henabled) (by decide)
      case inr.inr =>
        cases unmet with
        | none =>
            obtain rfl : unmet' = none := unmetAmong_none_of_perm hperm hechoes hlist hlist'
            exact ⟨_, rfl⟩
        | some blamed =>
            cases unmet' with
            | none =>
                have hnone := unmetAmong_none_of_perm hperm.symm hechoes' hlist' hlist
                cases hnone
            | some blamed' => exact ⟨some blamed', rfl⟩

theorem exists_visitAfresh (hkeyed : e.WellKeyed) (hheld : e.lookup key = some flag)
    (hpaths : e.PathsWithin key e.maxDepth.toNat) (context : Context) :
    ∃ evaluation height, e.visitAfresh context [] flag = .ok (evaluation, height) := by
  obtain rfl : flag.key = key := hkeyed key flag hheld
  have hroom : ([] : List String).length + e.maxDepth.toNat ≤ e.maxDepth.toNat := by simp
  have hvisit : ∃ answer, e.visitAfresh context [] flag = .ok answer :=
    visitAfresh_ok_of_pathsWithin hkeyed hheld hpaths hroom fun waiting hmem => nomatch hmem
  obtain ⟨⟨evaluation, height⟩, hanswer⟩ := hvisit
  exact ⟨evaluation, height, hanswer⟩

/-- A flag whose paths fit under the bound is served the same in every order of
its prerequisites and of those of the flags below it. Only the prerequisite that
is named as unmet may be another one. A key without a flag has none in either
store. -/
theorem order_of_prerequisites (hkeyed : e.WellKeyed) (hfits : e.DepthFits)
    (hpaths : e.PathsWithin key e.maxDepth.toNat) (hreorders : e.Reorders store)
    (context : Context) :
    ((e.lookup key).isSome = true → ∃ evaluation other,
        (e.evaluate context key).result = .ok evaluation ∧
          ((e.withStore store).evaluate context key).result = .ok other ∧
          ServesAlike evaluation other) ∧
      (e.lookup key = none →
        (e.evaluate context key).result = .error (.flagNotFound key) ∧
          ((e.withStore store).evaluate context key).result = .error (.flagNotFound key)) := by
  have hkeyed' : (e.withStore store).WellKeyed := hreorders.wellKeyed hkeyed
  have hfits' : (e.withStore store).DepthFits := hfits
  constructor
  · intro hheld
    obtain ⟨flag, hflag⟩ := Option.isSome_iff_exists.mp hheld
    obtain ⟨other, hother, hreordered⟩ := hreorders.held hflag
    obtain ⟨evaluation, height, hvisit⟩ := exists_visitAfresh hkeyed hflag hpaths context
    obtain ⟨evaluation', height', hvisit'⟩ :=
      exists_visitAfresh hkeyed' hother (hreorders.pathsWithin hpaths) context
    exact ⟨evaluation, evaluation',
      (evaluate_eq_ok_iff hkeyed hfits).mpr ⟨flag, height, hflag, hvisit⟩,
      (evaluate_eq_ok_iff hkeyed' hfits').mpr ⟨other, height', hother, hvisit'⟩,
      servesAlike_of_visits hreorders hreordered hvisit hvisit'⟩
  · intro hmissing
    have hmissing' : (e.withStore store).lookup key = none := hreorders.missing hmissing
    exact ⟨evaluate_missing hmissing, evaluate_missing hmissing'⟩

def blockedFlags (prerequisites : List Prerequisite) : List Flag :=
  [.steady "top" prerequisites, { Flag.steady "off" [] with enabled := false }]

/-- A flag with two prerequisites of which none is met: one is off, one is gone. -/
def blocked : Evaluator where
  lookup := (Store.ofFlags (blockedFlags [⟨"off", 0⟩, ⟨"gone", 0⟩])).get?
  maxDepth := 1

/-- The same flags with the two prerequisites in the other order. -/
def turned : String → Option Flag :=
  (Store.ofFlags (blockedFlags [⟨"gone", 0⟩, ⟨"off", 0⟩])).get?

theorem pathsWithin_blocked : blocked.PathsWithin "top" 1 := by
  have hfalls : ∀ flag ∈ blockedFlags [⟨"off", 0⟩, ⟨"gone", 0⟩],
      ∀ prerequisite ∈ flag.prerequisites,
        (if prerequisite.key = "top" then 1 else 0) < if flag.key = "top" then 1 else 0 := by decide
  refine pathsWithin_of_rank (fun key => if key = "top" then 1 else 0) ?_ "top"
  rintro key next ⟨flag, hheld, ⟨prerequisite, hprerequisite, rfl⟩, _⟩
  obtain ⟨hflag, rfl⟩ := Store.mem_of_get?_ofFlags hheld
  exact hfalls flag hflag prerequisite hprerequisite

theorem reorders_turned : blocked.Reorders turned := by
  have hflags : List.Forall₂ Flag.Reordered (blockedFlags [⟨"off", 0⟩, ⟨"gone", 0⟩])
      (blockedFlags [⟨"gone", 0⟩, ⟨"off", 0⟩]) :=
    .cons ⟨_, .swap _ _ _, rfl⟩ (.cons ⟨_, .refl _, rfl⟩ .nil)
  exact fun key => rel_get?_ofFlags hflags key

theorem order_of_prerequisites_in_blocked :
    blocked.WellKeyed ∧ blocked.DepthFits ∧ blocked.PathsWithin "top" blocked.maxDepth.toNat ∧
      blocked.Reorders turned ∧
      ∃ evaluation other, (blocked.evaluate { key := "user" } "top").result = .ok evaluation ∧
        ((blocked.withStore turned).evaluate { key := "user" } "top").result = .ok other ∧
        ServesAlike evaluation other ∧
        evaluation.prerequisiteKey = some "off" ∧ other.prerequisiteKey = some "gone" := by
  have hkeyed : blocked.WellKeyed := Store.wellKeyed_ofFlags _
  have hfits : blocked.DepthFits := by decide
  have hresult : (blocked.evaluate { key := "user" } "top").result =
      .ok (.ofUnmetPrerequisite (.steady "top" [⟨"off", 0⟩, ⟨"gone", 0⟩]) "off") := by cbv
  have hresult' : ((blocked.withStore turned).evaluate { key := "user" } "top").result =
      .ok (.ofUnmetPrerequisite (.steady "top" [⟨"gone", 0⟩, ⟨"off", 0⟩]) "gone") := by cbv
  have hheld : (blocked.lookup "top").isSome = true := by cbv
  obtain ⟨evaluation, other, hfirst, hsecond, halike⟩ :=
    (order_of_prerequisites hkeyed hfits pathsWithin_blocked reorders_turned { key := "user" }).1
      hheld
  refine ⟨hkeyed, hfits, pathsWithin_blocked, reorders_turned, evaluation, other, hfirst, hsecond,
    halike, ?_, ?_⟩
  · rw [hresult] at hfirst
    cases hfirst
    rfl
  · rw [hresult'] at hsecond
    cases hsecond
    rfl

end Evaluator

end FeatureFlags
