import FeatureFlags.Proofs.Rule.Integers
import FeatureFlags.Proofs.Version.Order

/-!
Versions in clauses. The three operators on versions are the three outcomes of
one total order, so of two versions exactly one of them holds, and to be greater
passes on from one version to the next. A version has one text, and so two texts
that are equal as versions are equal. What is no version is in no order with
anything.
-/

namespace FeatureFlags

variable {first second : Context} {name other : String} {a b c : Attribute}

namespace Operator

/-- The operator that holds between two versions in this order. -/
def ofVersionOrdering : Ordering → Operator
  | .lt => semverLt
  | .eq => semverEq
  | .gt => semverGt

/-- An operator on versions holds if both texts are versions and stand in its
order. -/
theorem answer_ofVersionOrdering_iff (hpresent : first.resolve name = some a)
    (ordering : Ordering) : (ofVersionOrdering ordering).answer first name [b] = true ↔
      ∃ v w, Version.ofText? a.toText = some v ∧ Version.ofText? b.toText = some w ∧
        v.compare w = ordering := by
  have hne : ofVersionOrdering ordering ≠ .notIn := by cases ordering <;> decide
  have hcompare : (ofVersionOrdering ordering).compare? a b =
      (a.compareVersions? b).map (· == ordering) := by cases ordering <;> rfl
  rw [answer_single hpresent hne, hcompare, Attribute.compareVersions?]
  cases Version.ofText? a.toText with
  | none => simp
  | some v => cases Version.ofText? b.toText <;> simp

theorem mem_versionOperators_iff {operator : Operator} :
    operator ∈ [semverEq, semverGt, semverLt] ↔
      ∃ ordering, operator = ofVersionOrdering ordering := by
  constructor
  · intro hmem
    simp only [List.mem_cons, List.not_mem_nil, or_false] at hmem
    rcases hmem with rfl | rfl | rfl
    · exact ⟨.eq, rfl⟩
    · exact ⟨.gt, rfl⟩
    · exact ⟨.lt, rfl⟩
  · rintro ⟨ordering, rfl⟩
    cases ordering <;> decide

/-- Of the three, the one for the order of two versions holds and no other. -/
theorem existsUnique_versionOperator (hpresent : first.resolve name = some a)
    (ha : Version.Valid a.toText) (hb : Version.Valid b.toText) :
    ∃! operator, operator ∈ [semverEq, semverGt, semverLt] ∧
      operator.answer first name [b] = true := by
  obtain ⟨v, hv⟩ := Version.valid_iff.mp ha
  obtain ⟨w, hw⟩ := Version.valid_iff.mp hb
  refine ⟨ofVersionOrdering (v.compare w), ⟨mem_versionOperators_iff.mpr ⟨_, rfl⟩, ?_⟩, ?_⟩
  · exact (answer_ofVersionOrdering_iff hpresent _).mpr ⟨v, w, hv, hw, rfl⟩
  · rintro operator ⟨hmem, hholds⟩
    obtain ⟨ordering, rfl⟩ := mem_versionOperators_iff.mp hmem
    obtain ⟨v', w', hv', hw', rfl⟩ := (answer_ofVersionOrdering_iff hpresent ordering).mp hholds
    rw [Option.some.inj (hv.symm.trans hv'), Option.some.inj (hw.symm.trans hw')]

theorem answer_semverGt_comm (hfirst : first.resolve name = some a)
    (hsecond : second.resolve other = some b) :
    semverGt.answer first name [b] = true ↔ semverLt.answer second other [a] = true := by
  refine (answer_ofVersionOrdering_iff hfirst .gt).trans
    (Iff.trans ?_ (answer_ofVersionOrdering_iff hsecond .lt).symm)
  constructor
  · rintro ⟨v, w, hv, hw, hcompare⟩
    exact ⟨w, v, hw, hv, Std.OrientedCmp.gt_iff_lt.mp hcompare⟩
  · rintro ⟨w, v, hw, hv, hcompare⟩
    exact ⟨v, w, hv, hw, Std.OrientedCmp.gt_iff_lt.mpr hcompare⟩

theorem answer_semverGt_trans (hfirst : first.resolve name = some a)
    (hsecond : second.resolve other = some b)
    (hab : semverGt.answer first name [b] = true) (hbc : semverGt.answer second other [c] = true) :
    semverGt.answer first name [c] = true := by
  obtain ⟨u, v, hu, hv, huv⟩ := (answer_ofVersionOrdering_iff hfirst .gt).mp hab
  obtain ⟨v', w, hv', hw, hvw⟩ := (answer_ofVersionOrdering_iff hsecond .gt).mp hbc
  obtain rfl := Option.some.inj (hv.symm.trans hv')
  exact (answer_ofVersionOrdering_iff hfirst .gt).mpr
    ⟨u, w, hu, hw, Std.TransCmp.gt_trans huv hvw⟩

theorem answer_semverEq_iff (hpresent : first.resolve name = some a) :
    semverEq.answer first name [b] = true ↔
      Version.Valid a.toText ∧ Version.Valid b.toText ∧ a.toText = b.toText := by
  refine (answer_ofVersionOrdering_iff hpresent .eq).trans ?_
  constructor
  · rintro ⟨v, w, hv, hw, hcompare⟩
    obtain rfl := Std.LawfulEqCmp.eq_of_compare hcompare
    exact ⟨Version.valid_iff.mpr ⟨v, hv⟩, Version.valid_iff.mpr ⟨v, hw⟩,
      Version.text_eq_of_ofText? hv hw⟩
  · rintro ⟨hvalid, _, htext⟩
    obtain ⟨v, hv⟩ := Version.valid_iff.mp hvalid
    exact ⟨v, v, hv, htext ▸ hv, Std.ReflCmp.compare_self⟩

theorem answer_of_not_valid (hpresent : first.resolve name = some a)
    (hinvalid : ¬ (Version.Valid a.toText ∧ Version.Valid b.toText)) {operator : Operator}
    (hmem : operator ∈ [semverEq, semverGt, semverLt]) : operator.answer first name [b] = false := by
  obtain ⟨ordering, rfl⟩ := mem_versionOperators_iff.mp hmem
  rw [← Bool.not_eq_true, answer_ofVersionOrdering_iff hpresent]
  rintro ⟨v, w, hv, hw, _⟩
  exact hinvalid ⟨Version.valid_iff.mpr ⟨v, hv⟩, Version.valid_iff.mpr ⟨w, hw⟩⟩

end Operator

/-- How clauses compare the version texts `a`, `b` and `c`, of which `a` and `b`
are also attributes. -/
structure OrdersVersions (first second : Context) (name other : String) (a b c : Attribute) :
    Prop where
  one : Version.Valid a.toText → Version.Valid b.toText →
    ∃! operator, operator ∈ [Operator.semverEq, .semverGt, .semverLt] ∧
      operator.answer first name [b] = true
  converse : Operator.semverGt.answer first name [b] = Operator.semverLt.answer second other [a]
  trans : Operator.semverGt.answer first name [b] = true →
    Operator.semverGt.answer second other [c] = true →
      Operator.semverGt.answer first name [c] = true
  eq_iff : Operator.semverEq.answer first name [b] = true ↔
    Version.Valid a.toText ∧ Version.Valid b.toText ∧ a.toText = b.toText
  eq : Operator.semverEq.answer first name [b] = true → Operator.eq.answer first name [b] = true
  invalid : ¬ (Version.Valid a.toText ∧ Version.Valid b.toText) →
    ∀ operator ∈ [Operator.semverEq, .semverGt, .semverLt],
      operator.answer first name [b] = false

/-- The operators on versions are one strict total order. -/
theorem versions_strictly_ordered (hfirst : first.resolve name = some a)
    (hsecond : second.resolve other = some b) (c : Attribute) :
    OrdersVersions first second name other a b c where
  one := Operator.existsUnique_versionOperator hfirst
  converse := Bool.eq_iff_iff.mpr (Operator.answer_semverGt_comm hfirst hsecond)
  trans := Operator.answer_semverGt_trans hfirst hsecond
  eq_iff := Operator.answer_semverEq_iff hfirst
  eq hequal := (Operator.answer_eq_iff hfirst).mpr ((Operator.answer_semverEq_iff hfirst).mp hequal).2.2
  invalid hinvalid _ hmem := Operator.answer_of_not_valid hfirst hinvalid hmem

/-- A release, a candidate for it, and a text that has a spare zero. -/
def versionedDevice : Context where
  key := "device"
  custom := Table.ofList
    [("current", .string "1.10.0"), ("former", .string "1.10.0-rc.2+linux"),
      ("typed", .string "1.010.0")]

/-- A release is greater than its candidate, and so than what the candidate is
greater than. A text that is no version is neither of the three. -/
theorem versions_strictly_ordered_in_versionedDevice :
    versionedDevice.resolve "current" = some (.string "1.10.0") ∧
      versionedDevice.resolve "former" = some (.string "1.10.0-rc.2+linux") ∧
      Operator.semverLt.answer versionedDevice "former" [.string "1.10.0"] = true ∧
      Operator.semverGt.answer versionedDevice "current" [.string "1.9.7"] = true ∧
      Operator.semverEq.answer versionedDevice "current" [.string "1.10.0-rc.2+linux"] = false ∧
      Operator.semverGt.answer versionedDevice "current" [.string "1.010.0"] = false := by
  have hcurrent : versionedDevice.resolve "current" = some (.string "1.10.0") := by cbv
  have hformer : versionedDevice.resolve "former" = some (.string "1.10.0-rc.2+linux") := by cbv
  have htyped : versionedDevice.resolve "typed" = some (.string "1.010.0") := by cbv
  have hordered := versions_strictly_ordered hcurrent hformer (.string "1.9.7")
  have hunread := versions_strictly_ordered hcurrent htyped (.string "1.9.7")
  have hgreater : Operator.semverGt.answer versionedDevice "current"
      [.string "1.10.0-rc.2+linux"] = true := by cbv
  have hinvalid : ¬ Version.Valid "1.010.0" := Version.ofText?_eq_none_iff.mp (by cbv)
  refine ⟨hcurrent, hformer, hordered.converse ▸ hgreater, hordered.trans hgreater (by cbv), ?_, ?_⟩
  · rw [← Bool.not_eq_true, hordered.eq_iff]
    rintro ⟨_, _, htext⟩
    exact absurd htext (by decide)
  · exact hunread.invalid (fun h => hinvalid h.2) _ (by decide)

end FeatureFlags
