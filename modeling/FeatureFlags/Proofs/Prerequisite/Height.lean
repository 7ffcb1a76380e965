import FeatureFlags.Proofs.Prerequisite.Memory
import Mathlib.Data.List.Chain

/-!
The height of a walk. What is remembered stays, so the memory at the end tells
which prerequisites were followed from each flag. The height that comes with an
evaluation is the number of flags on the longest chain that was followed, the
flag itself counted. This holds of every store: it does not matter under which
keys flags are held.
-/

namespace FeatureFlags

/-- The prerequisites that are gone through: those of an enabled flag. -/
def Flag.active (flag : Flag) : List Prerequisite :=
  if flag.enabled then flag.prerequisites else []

theorem Flag.active_enabled {flag : Flag} (henabled : flag.enabled = true) :
    flag.active = flag.prerequisites := by
  rw [active, if_pos henabled]

theorem Flag.active_disabled {flag : Flag} (hdisabled : flag.enabled = false) :
    flag.active = [] := by
  rw [active, hdisabled]
  rfl

namespace Evaluator

variable {e : Evaluator} {context : Context} {chain : List String} {key asked : String}
  {flag : Flag} {walk next : Walk} {memory later : Table Resolved}

/-! ### What the height counts -/

/-- The way through a list, as it is remembered, comes to a key. Everything
before it is remembered as met. -/
inductive Reaches (memory : Table Resolved) : List Prerequisite → String → Prop where
  | here {prerequisite : Prerequisite} {rest : List Prerequisite} :
      Reaches memory (prerequisite :: rest) prerequisite.key
  | beyond {prerequisite : Prerequisite} {rest : List Prerequisite} {asked : String}
      {answer : Resolved} (hmemo : memory.get? prerequisite.key = some answer)
      (hmet : answer.variationIndex = some prerequisite.variation)
      (hrest : Reaches memory rest asked) : Reaches memory (prerequisite :: rest) asked

/-- A list of prerequisites raises a height to another: the least one that is not
below it and is above that of every flag that was followed. -/
structure Raises (e : Evaluator) (memory : Table Resolved) (prerequisites : List Prerequisite)
    (height reached : Nat) : Prop where
  le : height ≤ reached
  above : ∀ asked, Reaches memory prerequisites asked → (e.lookup asked).isSome = true →
    ∃ answer, memory.get? asked = some answer ∧ answer.height < reached
  least : reached = height ∨ ∃ asked answer, Reaches memory prerequisites asked ∧
    (e.lookup asked).isSome = true ∧ memory.get? asked = some answer ∧ reached = answer.height + 1

/-- Every remembered height is that of the flags that were followed. -/
def Grounded (e : Evaluator) (memory : Table Resolved) : Prop :=
  ∀ key answer, memory.get? key = some answer →
    ∃ flag, e.lookup key = some flag ∧ e.Raises memory flag.active 1 answer.height

theorem grounded_empty : e.Grounded Table.empty := by
  intro key answer hmemo
  cases hmemo

theorem Grounded.held (hgrounded : e.Grounded memory) : e.RemembersHeld memory := by
  intro key answer hmemo
  obtain ⟨flag, hheld, _⟩ := hgrounded key answer hmemo
  exact Option.isSome_of_eq_some hheld

theorem raises_nil (height : Nat) : e.Raises memory [] height height where
  le := Nat.le_refl height
  above _ hreaches _ := nomatch hreaches
  least := .inl rfl

section Extension

variable {prerequisites : List Prerequisite}

theorem Reaches.mono (hkeeps : Keeps memory later)
    (hreaches : Reaches memory prerequisites asked) : Reaches later prerequisites asked := by
  induction hreaches with
  | here => exact .here
  | beyond hmemo hmet _ ih => exact .beyond (hkeeps _ _ hmemo) hmet ih

/-- With more remembered, a list is not gone through any further. -/
theorem Reaches.of_later
    (hkeeps : Keeps memory later) (hheld : e.RemembersHeld later)
    (hknown : ∀ asked, Reaches memory prerequisites asked → (e.lookup asked).isSome = true →
      ∃ answer, memory.get? asked = some answer)
    (hreaches : Reaches later prerequisites asked) : Reaches memory prerequisites asked := by
  induction hreaches with
  | here => exact .here
  | beyond hmemo hmet _ ih =>
      obtain ⟨answer, hanswer⟩ := hknown _ .here (hheld _ _ hmemo)
      rw [hkeeps _ _ hanswer] at hmemo
      cases hmemo
      apply Reaches.beyond hanswer hmet
      apply ih
      intro other hother
      exact hknown other (.beyond hanswer hmet hother)

theorem Raises.mono {height reached : Nat}
    (hkeeps : Keeps memory later) (hheld : e.RemembersHeld later)
    (hraises : e.Raises memory prerequisites height reached) :
    e.Raises later prerequisites height reached where
  le := hraises.le
  above asked hreaches hasked := by
    have hknown : ∀ asked, Reaches memory prerequisites asked → (e.lookup asked).isSome = true →
        ∃ answer, memory.get? asked = some answer := by
      intro asked hreaches hasked
      obtain ⟨answer, hmemo, _⟩ := hraises.above asked hreaches hasked
      exact ⟨answer, hmemo⟩
    obtain ⟨answer, hmemo, hlt⟩ :=
      hraises.above asked (hreaches.of_later hkeeps hheld hknown) hasked
    exact ⟨answer, hkeeps asked answer hmemo, hlt⟩
  least := by
    rcases hraises.least with heq | ⟨asked, answer, hreaches, hasked, hmemo, heq⟩
    · exact .inl heq
    · exact .inr ⟨asked, answer, hreaches.mono hkeeps, hasked, hkeeps asked answer hmemo, heq⟩

/-- An answer with the height of its own flag may be remembered. -/
theorem Grounded.insert (hgrounded : e.Grounded memory) (hnew : memory.get? key = none)
    (hheld : e.lookup key = some flag) {answer : Resolved}
    (hraises : e.Raises memory flag.active 1 answer.height) :
    e.Grounded (memory.insert key answer) := by
  have hsource : ∀ other found, (memory.insert key answer).get? other = some found →
      ∃ flag, e.lookup other = some flag ∧ e.Raises memory flag.active 1 found.height := by
    intro other found hother
    rw [Table.get?_insert] at hother
    by_cases heq : other = key
    · rw [if_pos heq] at hother
      cases hother
      exact ⟨flag, heq ▸ hheld, hraises⟩
    · rw [if_neg heq] at hother
      exact hgrounded other found hother
  intro other found hother
  obtain ⟨source, hlookup, hsourced⟩ := hsource other found hother
  exact ⟨source, hlookup, hsourced.mono (keeps_insert hnew answer)
    (hgrounded.held.insert (Option.isSome_of_eq_some hheld) answer)⟩

end Extension

section List

variable {prerequisite : Prerequisite} {rest : List Prerequisite} {height reached : Nat}
  {answer : Resolved}

theorem Raises.met (hmemo : memory.get? prerequisite.key = some answer)
    (hmet : answer.variationIndex = some prerequisite.variation)
    (hheld : (e.lookup prerequisite.key).isSome = true)
    (hrest : e.Raises memory rest (max height (answer.height + 1)) reached) :
    e.Raises memory (prerequisite :: rest) height reached where
  le := Nat.le_trans (Nat.le_max_left _ _) hrest.le
  above asked hreaches hasked := by
    cases hreaches with
    | here =>
        have hle := hrest.le
        exact ⟨answer, hmemo, by omega⟩
    | beyond _ _ hbeyond => exact hrest.above asked hbeyond hasked
  least := by
    rcases hrest.least with heq | ⟨asked, found, hreaches, hasked, hfound, heq⟩
    · by_cases hle : answer.height + 1 ≤ height
      · exact .inl (by omega)
      · exact .inr ⟨prerequisite.key, answer, .here, hheld, hmemo, by omega⟩
    · exact .inr ⟨asked, found, .beyond hmemo hmet hreaches, hasked, hfound, heq⟩

theorem raises_unmet (hmemo : memory.get? prerequisite.key = some answer)
    (hunmet : answer.variationIndex ≠ some prerequisite.variation)
    (hheld : (e.lookup prerequisite.key).isSome = true) :
    e.Raises memory (prerequisite :: rest) height (max height (answer.height + 1)) where
  le := Nat.le_max_left _ _
  above asked hreaches hasked := by
    cases hreaches with
    | here => exact ⟨answer, hmemo, by omega⟩
    | beyond hother hmet _ =>
        rw [hmemo] at hother
        cases hother
        exact absurd hmet hunmet
  least := by
    by_cases hle : answer.height + 1 ≤ height
    · exact .inl (by omega)
    · exact .inr ⟨prerequisite.key, answer, .here, hheld, hmemo, by omega⟩

theorem raises_missing (hgrounded : e.Grounded memory)
    (hmissing : e.lookup prerequisite.key = none) :
    e.Raises memory (prerequisite :: rest) height height where
  le := Nat.le_refl height
  above asked hreaches hasked := by
    cases hreaches with
    | here =>
        rw [hmissing] at hasked
        cases hasked
    | beyond hother _ _ =>
        have hheld := hgrounded.held _ _ hother
        rw [hmissing] at hheld
        cases hheld
  least := .inl rfl

end List

/-- What is remembered when a prerequisite is resolved. -/
def Remembers (e : Evaluator) (key : String) : Except FlagError Resolved × Walk → Prop
  | (.ok answer, next) => e.Grounded next.resolved ∧ next.resolved.get? key = some answer
  | (.error error, next) =>
      error.isFatal = false → e.Grounded next.resolved ∧ e.lookup key = none

/-- The height that comes with an evaluation is that of its flag. -/
def Measures (e : Evaluator) (flag : Flag) : Except FlagError (Evaluation × Nat) × Walk → Prop
  | (.ok (_, height), next) =>
      e.Grounded next.resolved ∧ e.Raises next.resolved flag.active 1 height
  | (.error _, _) => True

theorem resolveBehind_remembers
    (hvisit : ∀ flag walk, e.Grounded walk.resolved →
      e.Measures flag (e.visit context chain flag walk))
    (key : String) (walk : Walk) (hgrounded : e.Grounded walk.resolved) :
    e.Remembers key (e.resolveBehind context chain key walk) := by
  have hresolution := e.resolution context chain key walk
  generalize e.resolveBehind context chain key walk = outcome at hresolution ⊢
  cases hresolution with
  | remembered answer hmemo hroom => exact ⟨hgrounded, hmemo⟩
  | tooHigh answer hmemo hhigh => exact fun habsorbed => nomatch habsorbed
  | missing hmemo hmissing => exact fun _ => ⟨hgrounded, hmissing⟩
  | failed flag error next hmemo hheld hfailed =>
      intro habsorbed
      rw [isFatal_of_visit hfailed] at habsorbed
      cases habsorbed
  | visited flag evaluation height next hmemo hheld hvisited =>
      have hmeasures := hvisit flag (walk.asking key) hgrounded
      have hextends := e.visit_extends context chain flag (walk.asking key)
      rw [hvisited] at hmeasures hextends
      have hnew : next.resolved.get? key = none := hextends.new hheld hmemo
      refine ⟨hmeasures.1.insert hnew hheld hmeasures.2, ?_⟩
      exact next.get?_remembering_self key _

theorem Passage.raises {resolve : String → Walk.Step Resolved} {prerequisites : List Prerequisite}
    {height : Nat} {outcome : Except FlagError (Option String × Nat) × Walk}
    {found : Option String × Nat}
    (hpassage : Passage resolve prerequisites height walk outcome)
    (hextends : ∀ key walk, e.Extends chain walk (resolve key walk).2)
    (hresolve : ∀ key walk, e.Grounded walk.resolved → e.Remembers key (resolve key walk))
    (hgrounded : e.Grounded walk.resolved) (hfound : outcome.1 = .ok found) :
    e.Grounded outcome.2.resolved ∧ e.Raises outcome.2.resolved prerequisites height found.2 := by
  have hstep {key : String} {walk : Walk} {outcome : Except FlagError Resolved × Walk}
      (hgrounded : e.Grounded walk.resolved) (hrun : resolve key walk = outcome) :
      e.Remembers key outcome := hrun ▸ hresolve key walk hgrounded
  induction hpassage with
  | nil =>
      cases hfound
      exact ⟨hgrounded, raises_nil _⟩
  | @met prerequisite rest height walk next answer outcome hrun hmet hrest ih =>
      obtain ⟨hgrounded', hmemo⟩ : e.Remembers _ _ := hstep hgrounded hrun
      obtain ⟨hfinal, hraises⟩ := ih hgrounded' hfound
      have hkept := (hrest.extends hextends).keeps prerequisite.key answer hmemo
      exact ⟨hfinal, hraises.met hkept hmet (hgrounded'.held _ _ hmemo)⟩
  | unmet hrun hunmet =>
      cases hfound
      obtain ⟨hgrounded', hmemo⟩ : e.Remembers _ _ := hstep hgrounded hrun
      exact ⟨hgrounded', raises_unmet hmemo hunmet (hgrounded'.held _ _ hmemo)⟩
  | fatal hrun hfatal => cases hfound
  | absorbed hrun habsorbed =>
      cases hfound
      obtain ⟨hgrounded', hmissing⟩ := hstep hgrounded hrun habsorbed
      exact ⟨hgrounded', raises_missing hgrounded' hmissing⟩

theorem visit_measures (context : Context) (chain : List String) (flag : Flag) (walk : Walk)
    (hgrounded : e.Grounded walk.resolved) : e.Measures flag (e.visit context chain flag walk) := by
  induction chain, flag, walk using visit.induct e with
  | case1 chain flag walk hmem =>
      rw [visit_cyclic hmem]
      trivial
  | case2 chain flag walk hmem hdeep =>
      rw [visit_tooDeep hmem hdeep]
      trivial
  | case3 chain flag walk hmem hdeep ih =>
      have hextends := resolveBehind_extends (e.visit_extends context (chain ++ [flag.key]))
      have hcourse := e.course context chain flag walk
      generalize e.visit context chain flag walk = outcome at hcourse ⊢
      cases hcourse with
      | cyclic hin => trivial
      | tooDeep _ hlong => trivial
      | disabled _ hroom hdisabled =>
          refine ⟨hgrounded, ?_⟩
          rw [Flag.active_disabled hdisabled]
          exact raises_nil 1
      | failed _ hroom henabled error next hlist => trivial
      | concluded _ hroom henabled unmet height next hlist =>
          obtain ⟨hfinal, hraises⟩ :=
            hlist.raises hextends (resolveBehind_remembers ih) hgrounded rfl
          refine ⟨hfinal, ?_⟩
          rw [Flag.active_enabled henabled]
          exact hraises

/-- From the flag of a key, the walk followed another key. -/
def Followed (e : Evaluator) (memory : Table Resolved) (key asked : String) : Prop :=
  ∃ flag, e.lookup key = some flag ∧ Reaches memory flag.active asked ∧
    (e.lookup asked).isSome = true

/-- So many flags are on the longest chain that the walk followed from a key. -/
structure LongestChain (e : Evaluator) (memory : Table Resolved) (key : String) (flags : Nat) :
    Prop where
  attained : ∃ path, (key :: path).IsChain (e.Followed memory) ∧ (key :: path).length = flags
  bound : ∀ path, (key :: path).IsChain (e.Followed memory) → (key :: path).length ≤ flags

theorem longestChain_of_grounded (hgrounded : e.Grounded memory) {height : Nat}
    (hheld : e.lookup key = some flag) (hraises : e.Raises memory flag.active 1 height) :
    e.LongestChain memory key height := by
  induction height using Nat.strongRecOn generalizing key flag with
  | _ height ih =>
      constructor
      · rcases hraises.least with rfl | ⟨asked, answer, hreaches, hasked, hmemo, rfl⟩
        · exact ⟨[], .singleton key, rfl⟩
        · obtain ⟨required, hrequired, hbelow⟩ := hgrounded asked answer hmemo
          obtain ⟨path, hchain, hlength⟩ :=
            (ih answer.height (Nat.lt_succ_self _) hrequired hbelow).attained
          refine ⟨asked :: path, .cons_cons ⟨flag, hheld, hreaches, hasked⟩ hchain, ?_⟩
          rw [List.length_cons, hlength]
      · intro path hchain
        cases path with
        | nil => exact hraises.le
        | cons next rest =>
            obtain ⟨⟨found, hfound, hreaches, hasked⟩, hrest⟩ := List.isChain_cons_cons.mp hchain
            obtain rfl : flag = found := Option.some.inj (hheld.symm.trans hfound)
            obtain ⟨answer, hmemo, hlt⟩ := hraises.above next hreaches hasked
            obtain ⟨required, hrequired, hbelow⟩ := hgrounded next answer hmemo
            have hle := (ih answer.height hlt hrequired hbelow).bound rest hrest
            rw [List.length_cons]
            omega

/-- The height that comes with an evaluation is the number of flags on the
longest chain that was followed, the flag itself counted. -/
theorem longestChain_of_walkFrom {evaluation : Evaluation} {height : Nat}
    (hwalk : e.walkFrom context key {} = (.ok (evaluation, height), next)) :
    e.LongestChain next.resolved key height := by
  cases hheld : e.lookup key with
  | none =>
      rw [walkFrom_missing hheld] at hwalk
      cases hwalk
  | some flag =>
      rw [walkFrom_held hheld] at hwalk
      have hmeasures := e.visit_measures context [] flag (({} : Walk).asking key) grounded_empty
      rw [hwalk] at hmeasures
      exact longestChain_of_grounded hmeasures.1 hheld hmeasures.2

end Evaluator

end FeatureFlags
