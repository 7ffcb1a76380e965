import FeatureFlags.Proofs.Prerequisite.Memo
import Mathlib.Logic.Relation

/-!
What an evaluation reads of a context. Clauses and buckets look at a context
through `resolve` only, clauses by the names that they mention and buckets by
the name of a rollout or by the key. Two contexts that are alike under these
names are therefore alike to every rule, and to every walk through
prerequisites. A context may be retouched where `resolve` does not look: empty
texts may be dropped, and custom attributes may be set under built-in names.
-/

namespace FeatureFlags

/-- A rule mentions an attribute, in a clause or to bucket by. -/
def Rule.Mentions (rule : Rule) (name : String) : Prop :=
  (∃ clause ∈ rule.clauses, clause.attributeName = name) ∨
    ∃ rollout, rule.rollout = some rollout ∧ rollout.bucketBy = some name

def Flag.Mentions (flag : Flag) (name : String) : Prop :=
  ∃ rule ∈ flag.rules, rule.Mentions name

/-- Two contexts have the same key and the same attributes of certain names,
absent ones included. -/
structure Context.AlikeOn (first second : Context) (names : String → Prop) : Prop where
  key : first.resolve "key" = second.resolve "key"
  named : ∀ name, names name → first.resolve name = second.resolve name

variable {first second : Context} {bucketer : Bucketer} {flagKey : String}

theorem Context.AlikeOn.mono {names fewer : String → Prop} (halike : first.AlikeOn second names)
    (hfewer : ∀ name, fewer name → names name) : first.AlikeOn second fewer where
  key := halike.key
  named name hname := halike.named name (hfewer name hname)

theorem Context.alikeOn_of_resolve (hsame : ∀ name, first.resolve name = second.resolve name)
    (names : String → Prop) : first.AlikeOn second names where
  key := hsame "key"
  named name _ := hsame name

/-! ### Rules -/

theorem Clause.accepts_congr {clause : Clause}
    (hsame : first.resolve clause.attributeName = second.resolve clause.attributeName) :
    clause.accepts first = clause.accepts second := by
  rw [accepts, accepts, holds, holds, hsame]

/-- A bucket goes by the named attribute, or by the key if the name is empty. -/
theorem bucket_congr {name : String} (hkey : first.resolve "key" = second.resolve "key")
    (hnamed : name.isEmpty = false → first.resolve name = second.resolve name) :
    bucket bucketer first name flagKey = bucket bucketer second name flagKey := by
  have hread : first.resolve (if name.isEmpty then "key" else name) =
      second.resolve (if name.isEmpty then "key" else name) := by
    cases hempty : name.isEmpty with
    | true => simpa using hkey
    | false => simpa using hnamed hempty
  rw [bucket, bucket, hread]

theorem Rollout.select_congr {rollout : Rollout}
    (hkey : first.resolve "key" = second.resolve "key")
    (hnamed : ∀ name, rollout.bucketBy = some name → first.resolve name = second.resolve name) :
    rollout.select bucketer first flagKey = rollout.select bucketer second flagKey := by
  have hbucket : bucket bucketer first (rollout.bucketBy.getD "") flagKey =
      bucket bucketer second (rollout.bucketBy.getD "") flagKey := by
    refine bucket_congr hkey fun hnonempty => ?_
    cases hname : rollout.bucketBy with
    | none =>
        rw [hname] at hnonempty
        cases hnonempty
    | some name => exact hnamed name hname
  rw [select, select, hbucket]

theorem Rule.accepts_congr {rule : Rule} (halike : first.AlikeOn second rule.Mentions) :
    rule.accepts first = rule.accepts second := by
  have hclause : ∀ clause ∈ rule.clauses, clause.accepts first = clause.accepts second :=
    fun clause hmem => Clause.accepts_congr (halike.named _ (.inl ⟨clause, hmem, rfl⟩))
  rw [accepts, accepts, Bool.eq_iff_iff, List.all_eq_true, List.all_eq_true]
  exact forall₂_congr fun clause hmem => by rw [hclause clause hmem]

theorem Rule.decide_congr {rule : Rule} (halike : first.AlikeOn second rule.Mentions) :
    rule.decide bucketer first flagKey = rule.decide bucketer second flagKey := by
  unfold decide
  cases hrollout : rule.rollout with
  | none =>
      have hbucket : bucket bucketer first "key" flagKey = bucket bucketer second "key" flagKey :=
        bucket_congr halike.key fun _ => halike.key
      simp only [hbucket]
  | some rollout =>
      have hselect : rollout.select bucketer first flagKey =
          rollout.select bucketer second flagKey := by
        refine Rollout.select_congr halike.key fun name hname => ?_
        exact halike.named name (.inr ⟨rollout, hrollout, hname⟩)
      simp only [hselect]

theorem Rule.outcome_congr {rule : Rule} (halike : first.AlikeOn second rule.Mentions) :
    rule.outcome bucketer first flagKey = rule.outcome bucketer second flagKey := by
  rw [outcome, outcome, accepts_congr halike, decide_congr halike]

theorem Flag.serve_congr {flag : Flag} (halike : first.AlikeOn second flag.Mentions) :
    flag.serve bucketer first = flag.serve bucketer second := by
  have hdecision : flag.decision bucketer first = flag.decision bucketer second := by
    rw [decision, decision, ← List.head?_filterMap, ← List.head?_filterMap]
    refine congrArg _ (List.filterMap_congr fun rule hrule => ?_)
    have hrule' : first.AlikeOn second rule.Mentions :=
      halike.mono fun name hname => ⟨rule, hrule, hname⟩
    rw [Rule.outcome_congr hrule']
  rw [serve, serve, hdecision]

/-! ### Walks -/

namespace Evaluator

variable {e : Evaluator} {chain : List String} {flag : Flag} {key : String} {walk : Walk}

/-- A flag of the store mentions an attribute. -/
def Mentions (e : Evaluator) (name : String) : Prop :=
  ∃ key flag, e.lookup key = some flag ∧ flag.Mentions name

/-- A prerequisite resolves to the same if the visit of its flag is the same. -/
theorem resolve_congr {chainLength : Nat} {visit other : Flag → Walk.Step (Evaluation × Nat)}
    (hvisit : ∀ flag walk, e.lookup key = some flag → visit flag walk = other flag walk) :
    e.resolve chainLength visit key walk = e.resolve chainLength other key walk := by
  cases hmemo : walk.resolved.get? key with
  | some resolved => rw [resolve_remembered hmemo, resolve_remembered hmemo]
  | none =>
      cases hheld : e.lookup key with
      | none => rw [resolve_missing hmemo hheld, resolve_missing hmemo hheld]
      | some flag =>
          cases hrun : visit flag (walk.asking key) with
          | mk result next =>
              have hother : other flag (walk.asking key) = (result, next) :=
                (hvisit flag _ hheld).symm.trans hrun
              cases result with
              | error error =>
                  rw [resolve_failed hmemo hheld hrun, resolve_failed hmemo hheld hother]
              | ok answer =>
                  rw [resolve_visited hmemo hheld hrun, resolve_visited hmemo hheld hother]

theorem steps_congr {resolve other : String → Walk.Step Resolved}
    (hserve : flag.serve e.bucketer first = flag.serve e.bucketer second)
    (hresolve : ∀ key walk, resolve key walk = other key walk) :
    e.steps first flag resolve walk = e.steps second flag other walk := by
  obtain rfl : resolve = other := funext fun key => funext fun walk => hresolve key walk
  unfold steps
  rw [hserve]

/-- A visit is the same for contexts that the flag and the flags of the store
do not tell apart. -/
theorem visit_congr (hstore : first.AlikeOn second e.Mentions)
    (hflag : first.AlikeOn second flag.Mentions) :
    e.visit first chain flag walk = e.visit second chain flag walk := by
  induction chain, flag, walk using visit.induct e with
  | case1 chain flag walk hmem => rw [visit_cyclic hmem, visit_cyclic hmem]
  | case2 chain flag walk hmem hdeep => rw [visit_tooDeep hmem hdeep, visit_tooDeep hmem hdeep]
  | case3 chain flag walk hmem hdeep ih =>
      rw [visit_steps hmem hdeep, visit_steps hmem hdeep]
      refine steps_congr (Flag.serve_congr hflag) fun key walk => ?_
      refine resolve_congr fun required walk hheld => ?_
      exact ih required walk (hstore.mono fun name hname => ⟨key, required, hheld, hname⟩)

theorem walkFrom_congr (hstore : first.AlikeOn second e.Mentions) :
    e.walkFrom first key walk = e.walkFrom second key walk := by
  cases hheld : e.lookup key with
  | none => rw [walkFrom_missing hheld, walkFrom_missing hheld]
  | some flag =>
      rw [walkFrom_held hheld, walkFrom_held hheld]
      exact visit_congr hstore (hstore.mono fun name hname => ⟨key, flag, hheld, hname⟩)

end Evaluator

/-! ### Changes that nothing shows -/

namespace Context

/-- The names of the attributes that are no custom ones. -/
def builtInNames : List String :=
  ["key", "name", "email", "ip", "country", "anonymous", "groups"]

/-- A change to a context at a place that `resolve` does not look at. -/
inductive Retouched : Context → Context → Prop where
  | name (context : Context) (hempty : context.name = some "") :
      Retouched context { context with name := none }
  | email (context : Context) (hempty : context.email = some "") :
      Retouched context { context with email := none }
  | ip (context : Context) (hempty : context.ip = some "") :
      Retouched context { context with ip := none }
  | country (context : Context) (hempty : context.country = some "") :
      Retouched context { context with country := none }
  | custom (context : Context) (name : String) (value : Attribute) (hname : name ∈ builtInNames) :
      Retouched context (context.setCustom name value)

theorem nonEmpty_empty : nonEmpty (some "") = nonEmpty none := by
  rfl

theorem Retouched.resolve_eq (hretouched : Retouched first second) (name : String) :
    first.resolve name = second.resolve name := by
  cases hretouched with
  | name hempty => unfold resolve; split <;> simp [hempty, nonEmpty_empty]
  | email hempty => unfold resolve; split <;> simp [hempty, nonEmpty_empty]
  | ip hempty => unfold resolve; split <;> simp [hempty, nonEmpty_empty]
  | country hempty => unfold resolve; split <;> simp [hempty, nonEmpty_empty]
  | custom taken value htaken =>
      unfold resolve
      split
      case h_8 =>
        -- No built-in name is left, so the changed attribute has another name.
        have hne : name ≠ taken := by
          rintro rfl
          simp_all [builtInNames]
        rw [setCustom, Table.get?_insert, if_neg hne]
      all_goals rfl

theorem resolve_eq_of_retouched (hretouched : Relation.ReflTransGen Retouched first second)
    (name : String) : first.resolve name = second.resolve name := by
  induction hretouched with
  | refl => rfl
  | tail _ hlast ih => exact ih.trans (hlast.resolve_eq name)

end Context

namespace Evaluator

/-- An evaluation depends on the context only through the key and the attributes
that clauses and rollouts of the stored flags mention. So nothing that leaves
the attributes as they are can be noticed: neither to drop empty texts nor to
set custom attributes under built-in names. -/
theorem evaluate_depends_on_mentions (e : Evaluator) (key : String) :
    (∀ first second, Context.AlikeOn first second e.Mentions →
        e.evaluate first key = e.evaluate second key) ∧
      ∀ first second, Relation.ReflTransGen Context.Retouched first second →
        e.evaluate first key = e.evaluate second key := by
  have hcontexts (first second : Context) (halike : first.AlikeOn second e.Mentions) :
      e.evaluate first key = e.evaluate second key :=
    congrArg Outcome.ofStep (walkFrom_congr halike)
  refine ⟨hcontexts, ?_⟩
  intro first second hretouched
  apply hcontexts
  exact Context.alikeOn_of_resolve (Context.resolve_eq_of_retouched hretouched) e.Mentions

def targetedFlags : List Flag :=
  [{ Flag.steady "top" [⟨"base", 0⟩] with
      rules := [{
        clauses := [{ attributeName := "plan", operator := .eq, values := [.string "pro"] }]
        rollout := some { bucketBy := some "account", variations := [⟨0, 100000⟩] } }] },
    .steady "base" []]

/-- A flag that mentions an attribute in a clause and another one to bucket by. -/
def targeted : Evaluator where
  lookup := (Store.ofFlags targetedFlags).get?

theorem mentions_targeted {name : String} (hmentions : targeted.Mentions name) :
    name = "plan" ∨ name = "account" := by
  have hrules : ∀ flag ∈ targetedFlags, ∀ rule ∈ flag.rules,
      (∀ clause ∈ rule.clauses, clause.attributeName = "plan") ∧
        ∀ rollout ∈ rule.rollout, ∀ name ∈ rollout.bucketBy, name = "account" := by decide
  obtain ⟨key, flag, hheld, rule, hrule, hname⟩ := hmentions
  obtain ⟨hclauses, hrollout⟩ := hrules flag (Store.mem_of_get?_ofFlags hheld).1 rule hrule
  rcases hname with ⟨clause, hclause, rfl⟩ | ⟨rollout, hmem, hname⟩
  · exact .inl (hclauses clause hclause)
  · exact .inr (hrollout rollout hmem name hname)

/-- Two users of one plan are not told apart by their addresses or countries,
nor one user by texts that are empty and attributes that cannot be found. -/
theorem evaluate_depends_on_mentions_in_targeted :
    let pro : Table Attribute := Table.ofList [("plan", .string "pro")]
    let plain : Context := { key := "user", custom := pro }
    Context.AlikeOn { plain with email := some "user@example.com" }
        { plain with country := some "NZ" } targeted.Mentions ∧
      targeted.evaluate { plain with email := some "user@example.com" } "top" =
        targeted.evaluate { plain with country := some "NZ" } "top" ∧
      targeted.evaluate { plain with name := some "" } "top" =
        targeted.evaluate (plain.setCustom "groups" (.bool true)) "top" := by
  intro pro plain
  have hwhole := evaluate_depends_on_mentions targeted "top"
  have halike : Context.AlikeOn { plain with email := some "user@example.com" }
      { plain with country := some "NZ" } targeted.Mentions := by
    refine ⟨rfl, fun name hname => ?_⟩
    rcases mentions_targeted hname with rfl | rfl <;> rfl
  have hretouched : Relation.ReflTransGen Context.Retouched { plain with name := some "" }
      (plain.setCustom "groups" (.bool true)) :=
    .tail (.single (.name _ rfl)) (.custom _ "groups" _ (by decide))
  exact ⟨halike, hwhole.1 _ _ halike, hwhole.2 _ _ hretouched⟩

end Evaluator

end FeatureFlags
