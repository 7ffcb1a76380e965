import FeatureFlags.Proofs.Prerequisite.Cycle
import Mathlib.Data.Finset.Card

/-!
How often an evaluation asks the store. A flag that was fetched is either
remembered afterwards or still waits in the chain. If it is remembered it is not
fetched again, and if it waits, to fetch it again ends the evaluation with a
cycle. A key without a flag is asked for whenever a flag lists it, but it also
ends the list, so there are no more of these look-ups than flags fetched.
-/

namespace FeatureFlags

namespace Evaluator

/-- The store has a flag under a key. -/
def holds (e : Evaluator) (key : String) : Bool :=
  (e.lookup key).isSome

/-- No key under which there is a flag is asked for twice. -/
def FetchedOnce (e : Evaluator) (lookups : List String) : Prop :=
  (lookups.filter e.holds).Nodup

variable {e : Evaluator} {context : Context} {chain : List String} {key : String} {flag : Flag}
  {walk next : Walk} {error : FlagError}

theorem holds_of_lookup (hheld : e.lookup key = some flag) : e.holds key = true := by
  rw [holds, hheld]
  rfl

theorem holds_of_missing (hmissing : e.lookup key = none) : e.holds key = false := by
  rw [holds, hmissing]
  rfl

theorem FetchedOnce.dropLast {lookups : List String} (honce : e.FetchedOnce lookups) :
    e.FetchedOnce lookups.dropLast :=
  honce.sublist ((List.dropLast_sublist lookups).filter e.holds)

theorem FetchedOnce.asking (honce : e.FetchedOnce walk.lookups)
    (hnew : e.holds key = true → key ∉ walk.lookups) :
    e.FetchedOnce (walk.asking key).lookups := by
  unfold FetchedOnce Walk.asking
  rw [List.filter_append, List.nodup_append]
  refine ⟨honce, (List.nodup_singleton key).filter _, ?_⟩
  intro asked hasked again hagain heq
  obtain ⟨hmem, hholds⟩ := List.mem_filter.mp hagain
  rw [List.mem_singleton.mp hmem] at heq hholds
  exact hnew hholds (heq ▸ List.mem_of_mem_filter hasked)

/-! ### No flag is fetched twice -/

/-- Every flag that was fetched is remembered or waits, and none was fetched
twice. -/
structure Tracked (e : Evaluator) (chain : List String) (walk : Walk) : Prop where
  once : e.FetchedOnce walk.lookups
  known : ∀ asked ∈ walk.lookups, ∀ flag, e.lookup asked = some flag →
    flag.key ∈ chain ∨ walk.resolved.get? asked ≠ none

/-- From one walk to a later one, everything that was fetched has come to be
remembered. -/
structure Settled (e : Evaluator) (walk next : Walk) : Prop where
  once : e.FetchedOnce next.lookups
  grows : Grows walk next
  known : ∀ asked ∈ next.lookups, e.holds asked = true →
    asked ∈ walk.lookups ∨ next.resolved.get? asked ≠ none

/-- Where a walk is broken off, only the last look-up may have been there before,
and only where a cycle is reported. -/
structure BrokenOff (e : Evaluator) (error : FlagError) (next : Walk) : Prop where
  before : e.FetchedOnce next.lookups.dropLast
  last : e.FetchedOnce next.lookups ∨ ∃ cycle, error = .cyclicPrerequisite cycle

/-- What a part of a walk leaves behind: all is settled, unless a fatal error
breaks the walk off. -/
def LeftBehind (e : Evaluator) {α : Type} (walk : Walk) : Except FlagError α × Walk → Prop
  | (.ok _, next) => e.Settled walk next
  | (.error error, next) =>
      (error.isFatal = false → e.Settled walk next) ∧
        (error.isFatal = true → e.BrokenOff error next)

theorem Settled.refl (honce : e.FetchedOnce walk.lookups) : e.Settled walk walk where
  once := honce
  grows := preserved_grows.refl walk
  known _ hasked _ := .inl hasked

theorem Settled.trans {middle : Walk} (hfirst : e.Settled walk middle)
    (hsecond : e.Settled middle next) : e.Settled walk next where
  once := hsecond.once
  grows := preserved_grows.trans hfirst.grows hsecond.grows
  known asked hasked hholds := by
    rcases hsecond.known asked hasked hholds with hmiddle | hmemo
    · rcases hfirst.known asked hmiddle hholds with hwalk | hmemo
      · exact .inl hwalk
      · exact .inr fun hnone => hmemo (hsecond.grows asked hnone)
    · exact .inr hmemo

theorem Tracked.after (htracked : e.Tracked chain walk) (hsettled : e.Settled walk next) :
    e.Tracked chain next where
  once := hsettled.once
  known asked hasked flag hheld := by
    rcases hsettled.known asked hasked (holds_of_lookup hheld) with hwalk | hmemo
    · rcases htracked.known asked hwalk flag hheld with hwaits | hmemo
      · exact .inl hwaits
      · exact .inr fun hnone => hmemo (hsettled.grows asked hnone)
    · exact .inr hmemo

/-- A flag that is neither remembered nor waiting has not been fetched yet, and
waits from now on. -/
theorem Tracked.asking (htracked : e.Tracked chain walk) (hmemo : walk.resolved.get? key = none)
    (hheld : e.lookup key = some flag) (hmem : flag.key ∉ chain) :
    e.Tracked (chain ++ [flag.key]) (walk.asking key) where
  once := by
    apply htracked.once.asking
    intro _ hasked
    rcases htracked.known key hasked flag hheld with hwaits | hremembered
    · exact hmem hwaits
    · exact hremembered hmemo
  known asked hasked found hfound := by
    rcases List.mem_append.mp hasked with hwalk | hown
    · rcases htracked.known asked hwalk found hfound with hwaits | hremembered
      · exact .inl (List.mem_append_left _ hwaits)
      · exact .inr hremembered
    · rw [List.mem_singleton.mp hown, hheld] at hfound
      cases hfound
      exact .inl (List.mem_append_right _ (List.mem_singleton_self _))

/-- A fetched flag is settled once it is remembered. -/
theorem Settled.remembering (hsettled : e.Settled (walk.asking key) next) (resolved : Resolved) :
    e.Settled walk (next.remembering key resolved) where
  once := hsettled.once
  grows := preserved_grows.trans (preserved_grows.asking walk key)
    (preserved_grows.trans hsettled.grows (preserved_grows.remembering next key resolved))
  known asked hasked hholds := by
    by_cases hown : asked = key
    · right
      rw [Walk.remembering_resolved, Table.get?_insert, if_pos hown]
      exact Option.some_ne_none resolved
    · rcases hsettled.known asked hasked hholds with hwalk | hmemo
      · rcases List.mem_append.mp hwalk with hwalk | hlast
        · exact .inl hwalk
        · exact absurd (List.mem_singleton.mp hlast) hown
      · right
        intro hnone
        exact hmemo (preserved_grows.remembering next key resolved asked hnone)

theorem Settled.missing (honce : e.FetchedOnce walk.lookups) (hmissing : e.lookup key = none) :
    e.Settled walk (walk.asking key) where
  once := by
    apply honce.asking
    intro hholds
    rw [holds_of_missing hmissing] at hholds
    cases hholds
  grows := preserved_grows.asking walk key
  known asked hasked hholds := by
    rcases List.mem_append.mp hasked with hwalk | hown
    · exact .inl hwalk
    · rw [List.mem_singleton.mp hown, holds_of_missing hmissing] at hholds
      cases hholds

theorem Settled.leaves {α : Type} {outcome : Except FlagError α × Walk}
    (hsettled : e.Settled walk next) (hleft : e.LeftBehind next outcome) :
    e.LeftBehind walk outcome := by
  obtain ⟨result, final⟩ := outcome
  cases result with
  | ok answer => exact hsettled.trans hleft
  | error error => exact ⟨fun hgoes => hsettled.trans (hleft.1 hgoes), hleft.2⟩

theorem leftBehind_of_fatal {α : Type} (hfatal : error.isFatal = true)
    (hbroken : e.BrokenOff error next) :
    e.LeftBehind walk ((.error error, next) : Except FlagError α × Walk) := by
  refine ⟨fun hgoes => ?_, fun _ => hbroken⟩
  rw [hfatal] at hgoes
  cases hgoes

theorem Tracked.brokenOff (htracked : e.Tracked chain walk) (error : FlagError) :
    e.BrokenOff error walk :=
  ⟨htracked.once.dropLast, .inl htracked.once⟩

/-- What the resolution of a prerequisite leaves behind, given the same of
visits of flags that do not wait yet. -/
theorem resolveBehind_leaves
    (hvisit : ∀ flag walk, flag.key ∉ chain → e.Tracked (chain ++ [flag.key]) walk →
      e.LeftBehind walk (e.visit context chain flag walk))
    (htracked : e.Tracked chain walk) :
    e.LeftBehind walk (e.resolveBehind context chain key walk) := by
  have hresolution := e.resolution context chain key walk
  generalize e.resolveBehind context chain key walk = outcome at hresolution ⊢
  cases hresolution with
  | remembered answer hmemo hroom => exact .refl htracked.once
  | tooHigh answer hmemo hhigh => exact leftBehind_of_fatal rfl (htracked.brokenOff _)
  | missing hmemo hmissing =>
      exact ⟨fun _ => .missing htracked.once hmissing, fun hfatal => nomatch hfatal⟩
  | failed flag error next hmemo hheld hfailed =>
      by_cases hmem : flag.key ∈ chain
      · rw [visit_cyclic hmem] at hfailed
        cases hfailed
        refine leftBehind_of_fatal rfl ⟨?_, .inr ⟨_, rfl⟩⟩
        rw [Walk.asking, List.dropLast_concat]
        exact htracked.once
      · have hleft := hvisit flag (walk.asking key) hmem (htracked.asking hmemo hheld hmem)
        have hfatal := isFatal_of_visit hfailed
        rw [hfailed] at hleft
        exact leftBehind_of_fatal hfatal (hleft.2 hfatal)
  | visited flag evaluation height next hmemo hheld hvisited =>
      have hmem := not_mem_of_visit hvisited
      have hleft := hvisit flag (walk.asking key) hmem (htracked.asking hmemo hheld hmem)
      rw [hvisited] at hleft
      exact Settled.remembering hleft _

/-- What the way through a list leaves behind, given the same of its steps. -/
theorem Passage.leaves {resolve : String → Walk.Step Resolved} {prerequisites : List Prerequisite}
    {height : Nat} {outcome : Except FlagError (Option String × Nat) × Walk}
    (hpassage : Passage resolve prerequisites height walk outcome)
    (hresolve : ∀ key walk, e.Tracked chain walk → e.LeftBehind walk (resolve key walk))
    (htracked : e.Tracked chain walk) : e.LeftBehind walk outcome := by
  have hstep {key : String} {walk : Walk} {outcome : Except FlagError Resolved × Walk}
      (htracked : e.Tracked chain walk) (hrun : resolve key walk = outcome) :
      e.LeftBehind walk outcome := hrun ▸ hresolve key walk htracked
  induction hpassage with
  | nil => exact .refl htracked.once
  | met hrun hmet hrest ih =>
      have hsettled : e.Settled _ _ := hstep htracked hrun
      exact hsettled.leaves (ih (htracked.after hsettled))
  | unmet hrun hunmet => exact hstep htracked hrun
  | fatal hrun hfatal => exact leftBehind_of_fatal hfatal ((hstep htracked hrun).2 hfatal)
  | absorbed hrun habsorbed => exact (hstep htracked hrun).1 habsorbed

/-- A visit fetches no flag twice, unless it ends with a cycle. -/
theorem visit_leaves (context : Context) (hmem : flag.key ∉ chain)
    (htracked : e.Tracked (chain ++ [flag.key]) walk) :
    e.LeftBehind walk (e.visit context chain flag walk) := by
  induction chain, flag, walk using visit.induct e with
  | case1 chain flag walk hin => exact absurd hin hmem
  | case2 chain flag walk _ hdeep =>
      rw [visit_tooDeep hmem hdeep]
      exact leftBehind_of_fatal rfl (htracked.brokenOff _)
  | case3 chain flag walk _ hdeep ih =>
      have hsteps : ∀ key walk, e.Tracked (chain ++ [flag.key]) walk →
          e.LeftBehind walk (e.resolveBehind context (chain ++ [flag.key]) key walk) := by
        intro key walk htracked
        apply resolveBehind_leaves _ htracked
        intro prerequisite walk hmem htracked
        exact ih prerequisite walk hmem htracked
      have hcourse := e.course context chain flag walk
      generalize e.visit context chain flag walk = outcome at hcourse ⊢
      cases hcourse with
      | cyclic hin => exact absurd hin hmem
      | tooDeep _ hlong => exact absurd hlong hdeep
      | disabled _ hroom hdisabled => exact .refl htracked.once
      | failed _ hroom henabled error next hlist => exact hlist.leaves hsteps htracked
      | concluded _ hroom henabled unmet height next hlist =>
          exact hlist.leaves hsteps htracked

/-! ### Look-ups that find nothing -/

/-- By how many the look-ups that found a flag outnumber those that did not. -/
def surplus (e : Evaluator) (walk : Walk) : Int :=
  (walk.lookups.countP e.holds : Int) - walk.lookups.countP fun key => !e.holds key

theorem surplus_asking_held (hheld : e.lookup key = some flag) :
    e.surplus (walk.asking key) = e.surplus walk + 1 := by
  have hholds := holds_of_lookup hheld
  simp only [surplus, Walk.asking, List.countP_append, List.countP_singleton, hholds]
  simp
  omega

theorem surplus_asking_missing (hmissing : e.lookup key = none) :
    e.surplus (walk.asking key) = e.surplus walk - 1 := by
  have hholds := holds_of_missing hmissing
  simp only [surplus, Walk.asking, List.countP_append, List.countP_singleton, hholds]
  simp
  omega

theorem surplus_remembering (resolved : Resolved) :
    e.surplus (walk.remembering key resolved) = e.surplus walk := rfl

/-- A visit, or the way through a list, gives up at most one flag's worth of the
surplus, and nothing if it fails. -/
def Spends (e : Evaluator) {α : Type} (walk : Walk) : Except FlagError α × Walk → Prop
  | (.ok _, next) => e.surplus walk ≤ e.surplus next + 1
  | (.error _, next) => e.surplus walk ≤ e.surplus next

/-- A resolution gives up nothing, unless the flag is missing. -/
def SpendsIfMissing (e : Evaluator) (walk : Walk) : Except FlagError Resolved × Walk → Prop
  | (.ok _, next) => e.surplus walk ≤ e.surplus next
  | (.error error, next) =>
      (error.isFatal = true → e.surplus walk ≤ e.surplus next) ∧
        e.surplus walk ≤ e.surplus next + 1

theorem Spends.of_le {α : Type} {outcome : Except FlagError α × Walk}
    (hle : e.surplus walk ≤ e.surplus next) (hspends : e.Spends next outcome) :
    e.Spends walk outcome := by
  obtain ⟨result, final⟩ := outcome
  cases result with
  | ok answer =>
      have hlater : e.surplus next ≤ e.surplus final + 1 := hspends
      exact (show e.surplus walk ≤ e.surplus final + 1 by omega)
  | error error =>
      have hlater : e.surplus next ≤ e.surplus final := hspends
      exact Int.le_trans hle hlater

theorem resolveBehind_spends (chain : List String)
    (hvisit : ∀ flag walk, e.Spends walk (e.visit context chain flag walk)) (key : String)
    (walk : Walk) : e.SpendsIfMissing walk (e.resolveBehind context chain key walk) := by
  have hresolution := e.resolution context chain key walk
  generalize e.resolveBehind context chain key walk = outcome at hresolution ⊢
  cases hresolution with
  | remembered answer hmemo hroom => exact Int.le_refl _
  | tooHigh answer hmemo hhigh => exact ⟨fun _ => Int.le_refl _, by omega⟩
  | missing hmemo hmissing =>
      have hasked : e.surplus (walk.asking key) = e.surplus walk - 1 :=
        surplus_asking_missing hmissing
      exact ⟨(fun hfatal => nomatch hfatal), by omega⟩
  | failed flag error next hmemo hheld hfailed =>
      have hspends := hvisit flag (walk.asking key)
      rw [hfailed, Spends, surplus_asking_held hheld] at hspends
      exact ⟨fun _ => by omega, by omega⟩
  | visited flag evaluation height next hmemo hheld hvisited =>
      have hspends := hvisit flag (walk.asking key)
      rw [hvisited, Spends, surplus_asking_held hheld] at hspends
      rw [SpendsIfMissing, surplus_remembering]
      omega

theorem Passage.spends {resolve : String → Walk.Step Resolved} {prerequisites : List Prerequisite}
    {height : Nat} {outcome : Except FlagError (Option String × Nat) × Walk}
    (hpassage : Passage resolve prerequisites height walk outcome)
    (hresolve : ∀ key walk, e.SpendsIfMissing walk (resolve key walk)) :
    e.Spends walk outcome := by
  have hstep {key : String} {walk : Walk} {outcome : Except FlagError Resolved × Walk}
      (hrun : resolve key walk = outcome) : e.SpendsIfMissing walk outcome :=
    hrun ▸ hresolve key walk
  induction hpassage with
  | @nil height walk => exact (show e.surplus walk ≤ e.surplus walk + 1 by omega)
  | met hrun hmet hrest ih => exact Spends.of_le (hstep hrun) ih
  | @unmet prerequisite rest height walk next answer hrun hunmet =>
      have hle : e.surplus walk ≤ e.surplus next := hstep hrun
      exact (show e.surplus walk ≤ e.surplus next + 1 by omega)
  | fatal hrun hfatal => exact (hstep hrun).1 hfatal
  | absorbed hrun habsorbed => exact (hstep hrun).2

/-- A visit asks for at most one missing key more than it fetches flags. -/
theorem visit_spends (context : Context) (chain : List String) (flag : Flag) (walk : Walk) :
    e.Spends walk (e.visit context chain flag walk) := by
  induction chain, flag, walk using visit.induct e with
  | case1 chain flag walk hmem =>
      rw [visit_cyclic hmem]
      exact Int.le_refl _
  | case2 chain flag walk hmem hdeep =>
      rw [visit_tooDeep hmem hdeep]
      exact Int.le_refl _
  | case3 chain flag walk hmem hdeep ih =>
      have hsteps := resolveBehind_spends (chain ++ [flag.key]) ih
      have hcourse := e.course context chain flag walk
      generalize e.visit context chain flag walk = outcome at hcourse ⊢
      cases hcourse with
      | cyclic hin => exact Int.le_refl _
      | tooDeep _ hlong => exact Int.le_refl _
      | disabled _ hroom hdisabled => exact (show e.surplus walk ≤ e.surplus walk + 1 by omega)
      | failed _ hroom henabled error next hlist => exact hlist.spends hsteps
      | concluded _ hroom henabled unmet height next hlist => exact hlist.spends hsteps

/-! ### The look-ups of an evaluation -/

theorem FetchedOnce.countP_le {lookups : List String} {held : Finset String}
    (honce : e.FetchedOnce lookups) (hheld : ∀ key, (e.lookup key).isSome = true → key ∈ held) :
    lookups.countP e.holds ≤ held.card := by
  rw [List.countP_eq_length_filter, ← List.toFinset_card_of_nodup honce]
  apply Finset.card_le_card
  intro asked hasked
  have hmem : asked ∈ lookups.filter e.holds := List.mem_toFinset.mp hasked
  exact hheld asked (List.mem_filter.mp hmem).2

theorem length_lookups (e : Evaluator) (walk : Walk) :
    (walk.lookups.length : Int) = 2 * walk.lookups.countP e.holds - e.surplus walk := by
  have hsplit := List.length_eq_countP_add_countP e.holds (l := walk.lookups)
  simp only [surplus]
  simp at hsplit
  omega

/-- At the start nothing is remembered, and the only flag that was fetched waits. -/
theorem tracked_start (hheld : e.lookup key = some flag) :
    e.Tracked ([] ++ [flag.key]) (({} : Walk).asking key) := by
  have hempty : e.Tracked [] {} := ⟨List.nodup_nil, fun _ hasked => nomatch hasked⟩
  exact hempty.asking rfl hheld List.not_mem_nil

/-- The look-ups of an evaluation that ends well. -/
theorem lookups_of_settled {held : Finset String}
    (hheld : ∀ key, (e.lookup key).isSome = true → key ∈ held) (hsettled : e.Settled walk next)
    (hspends : e.surplus walk ≤ e.surplus next + 1) (hstart : 1 ≤ e.surplus walk) :
    e.FetchedOnce next.lookups ∧ next.lookups.length ≤ 2 * held.card := by
  have hcount := hsettled.once.countP_le hheld
  have hlength := e.length_lookups next
  exact ⟨hsettled.once, by omega⟩

/-- The look-ups of an evaluation that is broken off. The last look-up may be
one more than there are flags. -/
theorem lookups_of_brokenOff {held : Finset String}
    (hheld : ∀ key, (e.lookup key).isSome = true → key ∈ held) (hbroken : e.BrokenOff error next)
    (hspends : e.surplus walk ≤ e.surplus next) (hstart : 1 ≤ e.surplus walk) :
    next.lookups.length ≤ 2 * held.card + 1 := by
  have hcount := hbroken.before.countP_le hheld
  have hlength := e.length_lookups next
  have hlast : next.lookups.countP e.holds ≤ next.lookups.dropLast.countP e.holds + 1 := by
    rcases List.eq_nil_or_concat next.lookups with hnil | ⟨earlier, last, hconcat⟩
    · rw [hnil]
      exact Nat.zero_le _
    · have hone : [last].countP e.holds ≤ 1 := List.countP_le_length
      rw [hconcat, List.concat_eq_append, List.dropLast_concat, List.countP_append]
      omega
  omega

/-- No flag is fetched twice in an evaluation, except that the last look-up may
come back to a flag that was fetched, and then the result is a cycle. There are
at most two look-ups for each flag of the store, and one more. -/
theorem flags_fetched_once (held : Finset String)
    (hheld : ∀ key, (e.lookup key).isSome = true → key ∈ held) (context : Context) (key : String) :
    e.FetchedOnce (e.evaluate context key).lookups.dropLast ∧
      (e.FetchedOnce (e.evaluate context key).lookups ∨
        ∃ cycle, (e.evaluate context key).result = .error (.cyclicPrerequisite cycle)) ∧
      (e.evaluate context key).lookups.length ≤ 2 * held.card + 1 := by
  unfold evaluate
  cases hfound : e.lookup key with
  | none =>
      have hsettled : e.Settled {} (({} : Walk).asking key) := .missing List.nodup_nil hfound
      rw [walkFrom_missing hfound]
      exact ⟨hsettled.once.dropLast, .inl hsettled.once, Nat.le_add_left _ _⟩
  | some flag =>
      rw [walkFrom_held hfound]
      have hleft := visit_leaves context List.not_mem_nil (tracked_start hfound)
      have hspends := e.visit_spends context [] flag (({} : Walk).asking key)
      have hstart : 1 ≤ e.surplus (({} : Walk).asking key) := by
        rw [surplus_asking_held hfound]
        exact Int.le_refl _
      cases hvisit : e.visit context [] flag (({} : Walk).asking key) with
      | mk result next =>
          rw [hvisit] at hleft hspends
          cases result with
          | ok answer =>
              obtain ⟨honce, hlength⟩ := lookups_of_settled hheld hleft hspends hstart
              exact ⟨honce.dropLast, .inl honce, Nat.le_succ_of_le hlength⟩
          | error error =>
              have hbroken := hleft.2 (isFatal_of_visit hvisit)
              refine ⟨hbroken.before, ?_, lookups_of_brokenOff hheld hbroken hspends hstart⟩
              rcases hbroken.last with honce | ⟨cycle, rfl⟩
              · exact .inl honce
              · exact .inr ⟨cycle, rfl⟩

/-- In `lasso` the last look-up comes back to a flag that waits. -/
theorem flags_fetched_once_in_lasso :
    (∀ key, (lasso.lookup key).isSome = true → key ∈ (lassoFlags.map (·.key)).toFinset) ∧
      (lasso.evaluate { key := "user" } "entry").lookups = ["entry", "left", "right", "left"] ∧
      lasso.FetchedOnce ["entry", "left", "right"] ∧
      ["entry", "left", "right", "left"].length ≤
        2 * (lassoFlags.map (·.key)).toFinset.card + 1 := by
  have hheld : ∀ key, (lasso.lookup key).isSome = true →
      key ∈ (lassoFlags.map (·.key)).toFinset := by
    intro key hsome
    obtain ⟨flag, hflag⟩ := Option.isSome_iff_exists.mp hsome
    obtain ⟨hmem, rfl⟩ := Store.mem_of_get?_ofFlags hflag
    exact List.mem_toFinset.mpr (List.mem_map_of_mem hmem)
  have hlookups : (lasso.evaluate { key := "user" } "entry").lookups =
      ["entry", "left", "right", "left"] := by cbv
  have hwhole := flags_fetched_once _ hheld { key := "user" } "entry"
  rw [hlookups] at hwhole
  exact ⟨hheld, hlookups, hwhole.1, hwhole.2.2⟩

end Evaluator

end FeatureFlags
