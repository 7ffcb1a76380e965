import FeatureFlags.Rule
import Mathlib

/-!
Clauses and rules follow boolean algebra. A clause is the disjunction of the
comparisons with its values, except that not to be among the values is the
negation of such a disjunction; a rule is the conjunction of its clauses. So the
values of a clause and the clauses of a rule count as sets, and values that
cannot be compared count as false. What departs from this is an absent attribute
and a clause without values, which are false for every operator, also for the
one that negates.
-/

namespace FeatureFlags

variable {operator : Operator} {subject value : Attribute} {context : Context} {name : String}
  {values left right : List Attribute}

/-! ### Comparisons -/

theorem Attribute.compare?_of_toNumber?_eq_none (hnone : value.toNumber? = none) :
    subject.compare? value = none := by
  unfold compare?
  split
  · cases hnone
  · rw [hnone]
    cases subject.toNumber? with
    | none => rfl
    | some x => rfl

theorem Attribute.compareVersions?_of_ofText?_eq_none
    (hnone : Version.ofText? value.toText = none) : subject.compareVersions? value = none := by
  rw [compareVersions?, hnone]
  cases Version.ofText? subject.toText with
  | none => rfl
  | some version => rfl

namespace Operator

/-- The values that an operator cannot be applied to, whatever the attribute:
those that are no pattern, no number or no version. -/
def Unreadable (operator : Operator) (value : Attribute) : Prop :=
  match operator with
  | .matches => Pattern.compile? value.toText = none
  | .gt | .gte | .lt | .lte => value.toNumber? = none
  | .semverEq | .semverGt | .semverLt => Version.ofText? value.toText = none
  | .eq | .neq | .contains | .startsWith | .endsWith | .isIn | .notIn => False

theorem compare?_of_unreadable (hunreadable : operator.Unreadable value) (subject : Attribute) :
    operator.compare? subject value = none := by
  cases operator with
  | eq | neq | contains | startsWith | endsWith | isIn | notIn => exact hunreadable.elim
  | gt | gte | lt | lte =>
      rw [compare?, Attribute.compare?_of_toNumber?_eq_none hunreadable]
      rfl
  | «matches» =>
      have hpattern : Pattern.compile? value.toText = none := hunreadable
      rw [compare?, Pattern.isMatch?, hpattern]
      rfl
  | semverEq | semverGt | semverLt =>
      rw [compare?, Attribute.compareVersions?_of_ofText?_eq_none hunreadable]
      rfl

theorem holdsForAny_append : holdsForAny operator subject (left ++ right) =
    (holdsForAny operator subject left || holdsForAny operator subject right) :=
  List.any_append

theorem holdsForAny_congr (hsame : ∀ value, value ∈ left ↔ value ∈ right) :
    holdsForAny operator subject left = holdsForAny operator subject right := by
  rw [holdsForAny, holdsForAny, Bool.eq_iff_iff, List.any_eq_true, List.any_eq_true]
  simp only [hsame]

theorem holdsForAny_eq_false
    (hnone : ∀ value ∈ values, operator.compare? subject value = none) :
    holdsForAny operator subject values = false := by
  rw [holdsForAny, List.any_eq_false]
  intro value hmem
  rw [hnone value hmem]
  exact Bool.false_ne_true

theorem holds_of_ne (hne : operator ≠ .notIn) :
    operator.holds subject values = holdsForAny operator subject values := by
  cases operator with
  | notIn => exact absurd rfl hne
  | _ => rfl

/-! ### Clauses -/

/-- What a clause that is not negated says of a context, by its values. -/
def answer (operator : Operator) (context : Context) (name : String) (values : List Attribute) :
    Bool :=
  Clause.accepts { attributeName := name, operator, values } context

theorem answer_absent (habsent : context.resolve name = none) :
    operator.answer context name values = false := by
  simp [answer, Clause.accepts, Clause.holds, habsent]

theorem answer_nil : operator.answer context name [] = false := by
  cases hresolve : context.resolve name with
  | none => exact answer_absent hresolve
  | some subject => simp [answer, Clause.accepts, Clause.holds, hresolve]

theorem answer_of_ne_nil (hpresent : context.resolve name = some subject) (hvalues : values ≠ []) :
    operator.answer context name values = operator.holds subject values := by
  have hsome : values.isEmpty = false := by simpa using hvalues
  simp [answer, Clause.accepts, Clause.holds, hpresent, hsome]

theorem answer_of_ne (hpresent : context.resolve name = some subject) (hne : operator ≠ .notIn) :
    operator.answer context name values = holdsForAny operator subject values := by
  cases values with
  | nil => exact answer_nil
  | cons value rest => rw [answer_of_ne_nil hpresent (List.cons_ne_nil _ _), holds_of_ne hne]

/-- Not to be among the values is the opposite of being among them. -/
theorem answer_notIn (hpresent : context.resolve name = some subject) (hvalues : values ≠ []) :
    notIn.answer context name values = !isIn.answer context name values := by
  rw [answer_of_ne_nil hpresent hvalues, answer_of_ne_nil hpresent hvalues]
  rfl

theorem answer_append (hne : operator ≠ .notIn) : operator.answer context name (left ++ right) =
    (operator.answer context name left || operator.answer context name right) := by
  cases hresolve : context.resolve name with
  | none => simp only [answer_absent hresolve, Bool.or_false]
  | some subject => simp only [answer_of_ne hresolve hne, holdsForAny_append]

theorem answer_notIn_append (hleft : left ≠ []) (hright : right ≠ []) :
    notIn.answer context name (left ++ right) =
      (notIn.answer context name left && notIn.answer context name right) := by
  cases hresolve : context.resolve name with
  | none => simp only [answer_absent hresolve, Bool.and_false]
  | some subject =>
      have hboth : left ++ right ≠ [] := List.append_ne_nil_of_left_ne_nil hleft right
      rw [answer_notIn hresolve hboth, answer_notIn hresolve hleft, answer_notIn hresolve hright,
        answer_append (by decide), Bool.not_or]

/-- The values count as a set. -/
theorem answer_congr (hsame : ∀ value, value ∈ left ↔ value ∈ right) :
    operator.answer context name left = operator.answer context name right := by
  have hnil : left = [] ↔ right = [] := by
    rw [List.eq_nil_iff_forall_not_mem, List.eq_nil_iff_forall_not_mem]
    exact forall_congr' fun value => not_congr (hsame value)
  cases hresolve : context.resolve name with
  | none => rw [answer_absent hresolve, answer_absent hresolve]
  | some subject =>
      by_cases hne : operator = .notIn
      · subst hne
        by_cases hempty : left = []
        · rw [hempty, hnil.mp hempty]
        · rw [answer_notIn hresolve hempty, answer_notIn hresolve (mt hnil.mpr hempty),
            answer_of_ne hresolve (by decide), answer_of_ne hresolve (by decide),
            holdsForAny_congr hsame]
      · rw [answer_of_ne hresolve hne, answer_of_ne hresolve hne, holdsForAny_congr hsame]

/-- Values that the operator says nothing about may be left out. -/
theorem answer_of_perm {kept dropped : List Attribute} (hne : operator ≠ .notIn)
    (hperm : values.Perm (kept ++ dropped))
    (hdropped : ∀ value ∈ dropped, ∀ subject ∈ context.resolve name,
      operator.compare? subject value = none) :
    operator.answer context name values = operator.answer context name kept := by
  have hnothing : operator.answer context name dropped = false := by
    cases hresolve : context.resolve name with
    | none => exact answer_absent hresolve
    | some subject =>
        rw [answer_of_ne hresolve hne]
        exact holdsForAny_eq_false fun value hmem => hdropped value hmem subject hresolve
  rw [answer_congr fun value => hperm.mem_iff, answer_append hne, hnothing, Bool.or_false]

end Operator

/-- How clauses and rules follow boolean algebra for a context. -/
structure BooleanMatching (context : Context) : Prop where
  absent : ∀ (operator : Operator) name values, context.resolve name = none →
    operator.answer context name values = false
  empty : ∀ (operator : Operator) name, operator.answer context name [] = false
  append : ∀ (operator : Operator) name left right, operator ≠ .notIn →
    operator.answer context name (left ++ right) =
      (operator.answer context name left || operator.answer context name right)
  deleted : ∀ (operator : Operator) name values kept dropped, operator ≠ .notIn →
    values.Perm (kept ++ dropped) →
    (∀ value ∈ dropped, ∀ subject ∈ context.resolve name,
      operator.compare? subject value = none) →
      operator.answer context name values = operator.answer context name kept
  unreadable : ∀ (operator : Operator) value, operator.Unreadable value → ∀ subject,
    operator.compare? subject value = none
  notAmong : ∀ name values, context.resolve name ≠ none → values ≠ [] →
    Operator.notIn.answer context name values = !Operator.isIn.answer context name values
  notAmongAppend : ∀ name left right, left ≠ [] → right ≠ [] →
    Operator.notIn.answer context name (left ++ right) =
      (Operator.notIn.answer context name left && Operator.notIn.answer context name right)
  /-- Neither the order of the values counts nor how often one is given. -/
  sameValues : ∀ (operator : Operator) name left right, (∀ value, value ∈ left ↔ value ∈ right) →
    operator.answer context name left = operator.answer context name right
  negated : ∀ (operator : Operator) name values,
    Clause.accepts { attributeName := name, operator, values, negate := true } context =
      !operator.answer context name values
  noClauses : ∀ rule : Rule, Rule.accepts { rule with clauses := [] } context = true
  clauses : ∀ (rule : Rule) left right,
    Rule.accepts { rule with clauses := left ++ right } context =
      (Rule.accepts { rule with clauses := left } context &&
        Rule.accepts { rule with clauses := right } context)
  /-- Neither the order of the clauses counts nor how often one is given. -/
  sameClauses : ∀ (rule : Rule) left right, (∀ clause, clause ∈ left ↔ clause ∈ right) →
    Rule.accepts { rule with clauses := left } context =
      Rule.accepts { rule with clauses := right } context

/-- Clauses and rules follow boolean algebra, for every context, attribute and
operator. -/
theorem matching_is_boolean (context : Context) : BooleanMatching context where
  absent _ _ _ := Operator.answer_absent
  empty _ _ := Operator.answer_nil
  append _ _ _ _ := Operator.answer_append
  deleted _ _ _ _ _ := Operator.answer_of_perm
  unreadable _ _ := Operator.compare?_of_unreadable
  notAmong name values hpresent hvalues := by
    obtain ⟨subject, hsubject⟩ := Option.ne_none_iff_exists'.mp hpresent
    exact Operator.answer_notIn hsubject hvalues
  notAmongAppend _ _ _ := Operator.answer_notIn_append
  sameValues _ _ _ _ := Operator.answer_congr
  negated operator name values := by
    rw [Operator.answer, Clause.accepts, Clause.accepts, Bool.bne_true, Bool.bne_false]
    rfl
  noClauses _ := rfl
  clauses _ _ _ := List.all_append
  sameClauses rule left right hsame := by
    rw [Rule.accepts, Rule.accepts, Bool.eq_iff_iff, List.all_eq_true, List.all_eq_true]
    exact forall_congr' fun clause => imp_congr_left (hsame clause)

def adult : Context :=
  { key := "user", country := some "NZ", custom := Table.ofList [("age", .int 30)] }

/-- A text is no number and may be left out of a comparison, and a country that
is among the values is not absent from them. -/
theorem matching_is_boolean_for_adult :
    Operator.gt.answer adult "age" [.string "old", .int 18] =
        Operator.gt.answer adult "age" [.int 18] ∧
      Operator.gt.answer adult "age" [.int 18] = true ∧
      Operator.notIn.answer adult "country" [.string "DE", .string "NZ"] = false ∧
      Clause.accepts
        { attributeName := "country", operator := .notIn, values := [], negate := true } adult =
          true := by
  have hboolean := matching_is_boolean adult
  refine ⟨?_, by cbv, ?_, ?_⟩
  · refine hboolean.deleted .gt "age" _ [.int 18] [.string "old"] (by decide) (.swap _ _ _) ?_
    intro value hvalue subject _
    obtain rfl := List.mem_singleton.mp hvalue
    have htext : Operator.gt.Unreadable (.string "old") := rfl
    exact hboolean.unreadable .gt _ htext subject
  · rw [hboolean.notAmong "country" _ (by cbv; simp) (List.cons_ne_nil _ _)]
    cbv
  · rw [hboolean.negated, hboolean.empty]
    rfl

end FeatureFlags
