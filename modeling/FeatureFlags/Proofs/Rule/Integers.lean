import FeatureFlags.Proofs.Rule.Matching

/-!
Integers in clauses. Equality goes by the decimal texts of two integers, and the
orders go by the integers themselves. A decimal text belongs to one integer, and
no integer becomes a binary64 number on the way, so both kinds of operators say
the same over all of 64 bits: of equal, greater and less exactly one holds. An
integer may also be given by its decimal text where equality is asked for, on
either side.
-/

namespace FeatureFlags

variable {operator : Operator} {context : Context} {name : String} {subject value : Attribute}
  {a v : Int64}

theorem Attribute.toText_int_inj : (int a).toText = (int v).toText ↔ a = v := by
  rw [← Int64.toInt_inj]
  exact Int.repr_inj

namespace Operator

theorem answer_single (hpresent : context.resolve name = some subject) (hne : operator ≠ .notIn) :
    operator.answer context name [value] = (operator.compare? subject value).getD false := by
  rw [answer_of_ne hpresent hne, holdsForAny, List.any_cons, List.any_nil, Bool.or_false]

/-! ### By text -/

theorem answer_eq_iff (hpresent : context.resolve name = some subject) :
    eq.answer context name [value] = true ↔ subject.toText = value.toText := by
  rw [answer_single hpresent (by decide)]
  exact beq_iff_eq

theorem answer_neq_iff (hpresent : context.resolve name = some subject) :
    neq.answer context name [value] = true ↔ subject.toText ≠ value.toText := by
  rw [answer_single hpresent (by decide)]
  exact bne_iff_ne

/-- To be in a list of one value is to be equal to it. -/
theorem answer_isIn_single : isIn.answer context name [value] = eq.answer context name [value] := by
  cases hpresent : context.resolve name with
  | none => rw [answer_absent hpresent, answer_absent hpresent]
  | some subject =>
      rw [answer_single hpresent (by decide), answer_single hpresent (by decide)]
      rfl

/-- Equality does not depend on what has the text, on either side. -/
theorem answer_eq_congr {other : Context} {otherName : String}
    {otherSubject otherValue : Attribute} (hpresent : context.resolve name = some subject)
    (hother : other.resolve otherName = some otherSubject)
    (hsubject : otherSubject.toText = subject.toText) (hvalue : otherValue.toText = value.toText) :
    eq.answer other otherName [otherValue] = eq.answer context name [value] := by
  rw [Bool.eq_iff_iff, answer_eq_iff hother, answer_eq_iff hpresent, hsubject, hvalue]

/-! ### By order -/

/-- The operator that holds between two numbers in this order. -/
def ofOrdering : Ordering → Operator
  | .lt => lt
  | .eq => eq
  | .gt => gt

section Order

variable (hpresent : context.resolve name = some (.int a))

include hpresent

theorem answer_gt_iff : gt.answer context name [.int v] = true ↔ v < a := by
  rw [answer_single hpresent (by decide), Int64.lt_iff_toInt_lt, ← Int.compare_eq_gt]
  exact beq_iff_eq

theorem answer_lt_iff : lt.answer context name [.int v] = true ↔ a < v := by
  rw [answer_single hpresent (by decide), Int64.lt_iff_toInt_lt, ← Int.compare_eq_lt]
  exact beq_iff_eq

theorem answer_gte_iff : gte.answer context name [.int v] = true ↔ v ≤ a := by
  rw [answer_single hpresent (by decide), Int64.le_iff_toInt_le, ← Int.compare_ne_lt]
  exact bne_iff_ne

theorem answer_lte_iff : lte.answer context name [.int v] = true ↔ a ≤ v := by
  rw [answer_single hpresent (by decide), Int64.le_iff_toInt_le, ← Int.compare_ne_gt]
  exact bne_iff_ne

/-- Of the three, the one for the order of the integers holds and no other. -/
theorem answer_iff_eq_ofOrdering (hmem : operator ∈ [eq, gt, lt]) :
    operator.answer context name [.int v] = true ↔
      operator = ofOrdering (compare a.toInt v.toInt) := by
  simp only [List.mem_cons, List.not_mem_nil, or_false] at hmem
  rcases hmem with rfl | rfl | rfl
  · rw [answer_eq_iff hpresent, Attribute.toText_int_inj, ← Int64.toInt_inj, ← Int.compare_eq_eq]
    cases compare a.toInt v.toInt <;> decide
  · rw [answer_gt_iff hpresent, Int64.lt_iff_toInt_lt, ← Int.compare_eq_gt]
    cases compare a.toInt v.toInt <;> decide
  · rw [answer_lt_iff hpresent, Int64.lt_iff_toInt_lt, ← Int.compare_eq_lt]
    cases compare a.toInt v.toInt <;> decide

theorem existsUnique_answer (v : Int64) :
    ∃! operator, operator ∈ [eq, gt, lt] ∧ operator.answer context name [.int v] = true := by
  have hmem : ofOrdering (compare a.toInt v.toInt) ∈ [eq, gt, lt] := by
    cases compare a.toInt v.toInt <;> decide
  refine ⟨_, ⟨hmem, (answer_iff_eq_ofOrdering hpresent hmem).mpr rfl⟩, ?_⟩
  rintro operator ⟨hoperator, hholds⟩
  exact (answer_iff_eq_ofOrdering hpresent hoperator).mp hholds

end Order

end Operator

/-- How clauses compare an integer attribute with an integer that is their only
value. -/
structure ComparesExactly (context : Context) (name : String) (a v : Int64) : Prop where
  eq : Operator.eq.answer context name [.int v] = true ↔ a = v
  gt : Operator.gt.answer context name [.int v] = true ↔ v < a
  lt : Operator.lt.answer context name [.int v] = true ↔ a < v
  one : ∃! operator, operator ∈ [Operator.eq, .gt, .lt] ∧
    operator.answer context name [.int v] = true
  neq : Operator.neq.answer context name [.int v] = true ↔ a ≠ v
  gte : Operator.gte.answer context name [.int v] = true ↔ v ≤ a
  lte : Operator.lte.answer context name [.int v] = true ↔ a ≤ v
  isIn : Operator.isIn.answer context name [.int v] = true ↔ a = v
  notIn : Operator.notIn.answer context name [.int v] = true ↔ a ≠ v
  /-- The value may be the decimal text of the integer, and so may the attribute
  be in another context, with either form of the value. -/
  texts : ∀ value ∈ [.int v, .string (toString v.toInt)],
    Operator.eq.answer context name [value] = Operator.eq.answer context name [.int v] ∧
      ∀ other otherName, other.resolve otherName = some (.string (toString a.toInt)) →
        Operator.eq.answer other otherName [value] = Operator.eq.answer context name [.int v]

/-- Integers are compared exactly, whatever their size: by equality, by order and
in lists, and with no contradiction between these. -/
theorem integers_compared_exactly (hpresent : context.resolve name = some (.int a)) (v : Int64) :
    ComparesExactly context name a v := by
  have heq : Operator.eq.answer context name [.int v] = true ↔ a = v := by
    rw [Operator.answer_eq_iff hpresent, Attribute.toText_int_inj]
  have hisIn : Operator.isIn.answer context name [.int v] = true ↔ a = v := by
    rw [Operator.answer_isIn_single, heq]
  have hvalues : ∀ value ∈ [Attribute.int v, .string (toString v.toInt)],
      value.toText = (Attribute.int v).toText := by
    intro value hmem
    simp only [List.mem_cons, List.not_mem_nil, or_false] at hmem
    rcases hmem with rfl | rfl <;> rfl
  exact {
    eq := heq
    gt := Operator.answer_gt_iff hpresent
    lt := Operator.answer_lt_iff hpresent
    one := Operator.existsUnique_answer hpresent v
    neq := by rw [Operator.answer_neq_iff hpresent, ne_eq, Attribute.toText_int_inj]
    gte := Operator.answer_gte_iff hpresent
    lte := Operator.answer_lte_iff hpresent
    isIn := hisIn
    notIn := by
      rw [Operator.answer_notIn hpresent (List.cons_ne_nil _ _), Bool.not_eq_true',
        ← Bool.not_eq_true, hisIn]
    texts := fun value hmem =>
      ⟨Operator.answer_eq_congr hpresent hpresent rfl (hvalues value hmem),
        fun _ _ hother => Operator.answer_eq_congr hpresent hother rfl (hvalues value hmem)⟩ }

/-- The account and its neighbour below are one binary64 number, and the balance
is the least integer that there is. -/
def accountHolder : Context where
  key := "user"
  custom := Table.ofList
    [("account", .int 9007199254740993), ("balance", .int (-9223372036854775808))]

theorem integers_compared_exactly_for_accountHolder :
    accountHolder.resolve "account" = some (.int 9007199254740993) ∧
      accountHolder.resolve "balance" = some (.int (-9223372036854775808)) ∧
      Binary64.ofInt 9007199254740993 = Binary64.ofInt 9007199254740992 ∧
      Operator.gt.answer accountHolder "account" [.int 9007199254740992] = true ∧
      Operator.notIn.answer accountHolder "account" [.int 9007199254740992] = true ∧
      Operator.lt.answer accountHolder "balance" [.int 9223372036854775807] = true ∧
      Operator.eq.answer accountHolder "balance" [.string "-9223372036854775808"] = true := by
  have haccount : accountHolder.resolve "account" = some (.int 9007199254740993) := by cbv
  have hbalance : accountHolder.resolve "balance" = some (.int (-9223372036854775808)) := by cbv
  have hneighbour := integers_compared_exactly haccount 9007199254740992
  have hgreatest := integers_compared_exactly hbalance 9223372036854775807
  have hitself := integers_compared_exactly hbalance (-9223372036854775808)
  have htext : "-9223372036854775808" = toString (-9223372036854775808 : Int64).toInt := by
    decide +kernel
  refine ⟨haccount, hbalance, by decide +kernel, hneighbour.gt.mpr (by decide),
    hneighbour.notIn.mpr (by decide), hgreatest.lt.mpr (by decide), ?_⟩
  rw [htext, (hitself.texts _ (List.mem_cons_of_mem _ List.mem_cons_self)).1, hitself.eq]

end FeatureFlags
