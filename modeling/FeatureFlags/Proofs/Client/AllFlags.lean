import FeatureFlags.Client
import FeatureFlags.Proofs.Store
import FeatureFlags.Proofs.Prerequisite.Step
import Mathlib.Data.List.Perm.Basic

/-!
A client has two ways to a flag: by its key, and in a listing of all flags. The
listing takes each flag from the store as it stands there, under whatever key,
and filters out the overridden keys by itself. It comes to the same entries and
the same events as asking for its keys one by one.
-/

namespace FeatureFlags

namespace Client

variable {client : Client} {store : Store} {context : Context} {key : String} {flag : Flag}

/-! ### One key -/

theorem variation_overridden {value : FlagValue} (hoverride : client.overrides.get? key = some value) :
    client.variation context key = { result := .ok (.ofOverride key value) } := by
  simp only [variation, hoverride]

theorem variation_stored (context : Context) (hstore : client.store = some store)
    (hfree : client.overrides.get? key = none) :
    (client.variation context key).result =
        ((client.evaluator store).evaluate context key).result ∧
      (client.variation context key).events =
        ((client.evaluator store).evaluate context key).result.toOption.toList.map
          fun evaluation => .ofEvaluation evaluation context := by
  simp only [variation, hfree, hstore, and_self]

theorem variationOr_of_ok {default : FlagValue} {evaluation : Evaluation}
    (hrun : (client.variation context key).result = .ok evaluation) :
    (client.variationOr context key default).result = evaluation := by
  simp only [variationOr, Consultation.map, hrun]

theorem variationOr_of_error {default : FlagValue} {error : FlagError}
    (hrun : (client.variation context key).result = .error error) :
    (client.variationOr context key default).result = .ofError key default := by
  simp only [variationOr, Consultation.map, hrun]

/-- A stored flag is listed as its key is served with the flag's own default,
and sends out the same events. -/
theorem storedVariation_eq_variationOr (hstore : client.store = some store)
    (hfree : client.overrides.get? key = none) (hheld : store.get? key = some flag) :
    (client.storedVariation store context key flag).result =
        (key, (client.variationOr context key flag.defaultValue).result) ∧
      (client.storedVariation store context key flag).events =
        (client.variation context key).events := by
  obtain ⟨hresult, hevents⟩ := variation_stored context hstore hfree
  have hsame : ((client.evaluator store).evaluate context key).result =
      ((client.evaluator store).evaluateFlag context flag).result :=
    Evaluator.evaluate_result_eq_evaluateFlag hheld
  rw [hsame] at hresult hevents
  cases hrun : ((client.evaluator store).evaluateFlag context flag).result with
  | ok evaluation =>
      rw [hrun] at hresult hevents
      rw [variationOr_of_ok hresult, hevents]
      simp [storedVariation, hrun, Except.toOption]
  | error error =>
      rw [hrun] at hresult hevents
      rw [variationOr_of_error hresult, hevents]
      simp [storedVariation, hrun, Except.toOption]

/-! ### The listing -/

/-- The flags of the store that no override hides, each with its key. -/
def unhidden (client : Client) (store : Store) : List (String × Flag) :=
  store.flags.entries.filter fun entry => !client.overrides.contains entry.1

theorem mem_unhidden_iff {entry : String × Flag} :
    entry ∈ client.unhidden store ↔
      store.get? entry.1 = some entry.2 ∧ client.overrides.get? entry.1 = none := by
  rw [unhidden, List.mem_filter, Store.get?, Table.get?_eq_some_iff]
  simp [Table.contains]

theorem unhidden_keys :
    (client.unhidden store).map (·.1) =
      store.flags.keys.filter fun key => !client.overrides.contains key := by
  rw [unhidden, Table.keys, List.filter_map]
  rfl

theorem mem_unhidden_keys_iff :
    key ∈ (client.unhidden store).map (·.1) ↔
      key ∈ store.flags.keys ∧ key ∉ client.overrides.keys := by
  rw [unhidden_keys, List.mem_filter]
  simp [Table.mem_keys_iff, Table.contains]

theorem nodup_unhidden_keys : ((client.unhidden store).map (·.1)).Nodup := by
  rw [unhidden_keys]
  exact store.flags.keys_nodup.filter _

/-- What all flags of a store come to, under their keys. -/
def listing (client : Client) (store : Store) (context : Context) : Table Evaluation :=
  (Table.ofList ((client.unhidden store).map fun entry =>
      (client.storedVariation store context entry.1 entry.2).result)).insertMany
    (client.overrides.map Evaluation.ofOverride).entries

theorem allFlags_stored (context : Context) (hstore : client.store = some store) :
    (client.allFlags context).result = .ok (client.listing store context) ∧
      (client.allFlags context).events = (client.unhidden store).flatMap fun entry =>
        (client.storedVariation store context entry.1 entry.2).events := by
  simp [allFlags, hstore, listing, unhidden, List.flatMap_map, Function.comp_def]

theorem get?_listing (hstore : client.store = some store) (key : String) :
    (client.listing store context).get? key =
      match client.overrides.get? key with
      | some value => some (.ofOverride key value)
      | none => (store.get? key).map fun flag =>
          (client.variationOr context key flag.defaultValue).result := by
  have hserved : ((client.unhidden store).map fun entry =>
      (client.storedVariation store context entry.1 entry.2).result) =
      (client.unhidden store).map fun entry =>
        (entry.1, (client.variationOr context entry.1 entry.2.defaultValue).result) := by
    refine List.map_congr_left fun entry hmem => ?_
    obtain ⟨hheld, hfree⟩ := mem_unhidden_iff.mp hmem
    exact (storedVariation_eq_variationOr hstore hfree hheld).1
  have hnodup : (((client.unhidden store).map fun entry =>
      (entry.1, (client.variationOr context entry.1 entry.2.defaultValue).result)).map
        (·.1)).Nodup := by
    rw [List.map_map]
    exact nodup_unhidden_keys
  rw [listing, hserved, Table.get?_insertMany_entries, Table.get?_map]
  cases hoverride : client.overrides.get? key with
  | some value => rfl
  | none =>
      refine Option.ext fun evaluation => ?_
      rw [Option.map_none, Option.none_or, Table.get?_ofList_eq_some_iff hnodup,
        Option.map_eq_some_iff]
      constructor
      · intro hmem
        obtain ⟨⟨own, flag⟩, hentry, heq⟩ := List.mem_map.mp hmem
        cases heq
        exact ⟨flag, (mem_unhidden_iff.mp hentry).1, rfl⟩
      · rintro ⟨flag, hheld, rfl⟩
        exact List.mem_map.mpr ⟨(key, flag), mem_unhidden_iff.mpr ⟨hheld, hoverride⟩, rfl⟩

/-- An entry is an override, or a stored flag under the key that it is served for. -/
theorem get?_listing_of_mem (hstore : client.store = some store)
    (hkey : key ∈ (client.listing store context).keys) :
    (∃ value, client.overrides.get? key = some value ∧
        (client.listing store context).get? key = some (.ofOverride key value)) ∨
      ∃ flag, store.get? key = some flag ∧
        (client.listing store context).get? key =
          some (client.variationOr context key flag.defaultValue).result := by
  rw [Table.mem_keys_iff] at hkey
  rw [get?_listing hstore] at hkey ⊢
  cases hoverride : client.overrides.get? key with
  | some value => exact .inl ⟨value, rfl, rfl⟩
  | none =>
      cases hheld : store.get? key with
      | some flag => exact .inr ⟨flag, rfl, rfl⟩
      | none => simp [hoverride, hheld] at hkey

/-- The keys of a listing: those in the store and those of the overrides. -/
theorem mem_listing_keys_iff (context : Context) (hstore : client.store = some store) :
    key ∈ (client.listing store context).keys ↔
      key ∈ store.flags.keys ∨ key ∈ client.overrides.keys := by
  rw [Table.mem_keys_iff, Table.mem_keys_iff, Table.mem_keys_iff, get?_listing hstore]
  cases client.overrides.get? key <;> simp [Store.get?]

/-- Each key that is not overridden comes once, and so does each override. -/
theorem listing_keys_perm (context : Context) (hstore : client.store = some store) :
    (client.listing store context).keys.Perm
      ((client.unhidden store).map (·.1) ++ client.overrides.keys) := by
  have hdisjoint : ∀ free ∈ (client.unhidden store).map (·.1),
      ∀ overridden ∈ client.overrides.keys, free ≠ overridden := by
    rintro key hfree _ hover rfl
    exact (mem_unhidden_keys_iff.mp hfree).2 hover
  have hnodup := List.nodup_append.mpr
    ⟨nodup_unhidden_keys, client.overrides.keys_nodup, hdisjoint⟩
  refine (List.perm_ext_iff_of_nodup (Table.keys_nodup _) hnodup).mpr fun key => ?_
  rw [mem_listing_keys_iff context hstore, List.mem_append, mem_unhidden_keys_iff]
  by_cases hover : key ∈ client.overrides.keys <;> simp [hover]

theorem events_overridden (context : Context) (hover : key ∈ client.overrides.keys) :
    (client.variation context key).events = [] := by
  rw [Table.mem_keys_iff] at hover
  obtain ⟨value, hvalue⟩ := Option.isSome_iff_exists.mp hover
  rw [variation_overridden hvalue]

/-- The events of a listing come from the keys of the store that no override
hides. -/
theorem allFlags_events (context : Context) (hstore : client.store = some store) :
    (client.allFlags context).events = ((client.unhidden store).map (·.1)).flatMap fun key =>
      (client.variation context key).events := by
  rw [(allFlags_stored context hstore).2, List.flatMap_map]
  refine List.flatMap_congr fun entry hmem => ?_
  obtain ⟨hheld, hfree⟩ := mem_unhidden_iff.mp hmem
  exact (storedVariation_eq_variationOr hstore hfree hheld).2

/-- The events of a listing are those of its keys, up to their order. -/
theorem allFlags_events_perm (context : Context) (hstore : client.store = some store) :
    (client.allFlags context).events.Perm
      ((client.listing store context).keys.flatMap fun key =>
        (client.variation context key).events) := by
  have hoverridden : (client.overrides.keys.flatMap fun key =>
      (client.variation context key).events) = [] :=
    List.flatMap_eq_nil_iff.mpr fun key hover => events_overridden context hover
  have hkeys := (listing_keys_perm context hstore).flatMap_right fun key =>
    (client.variation context key).events
  rw [List.flatMap_append, hoverridden, List.append_nil, ← allFlags_events context hstore] at hkeys
  exact hkeys.symm

/-! ### Agreement -/

/-- Evaluations by key, and events, that are those of the single variations of
all keys in the store and of all overridden keys. -/
structure Agrees (client : Client) (store : Store) (context : Context)
    (evaluations : Table Evaluation) (events : List Event) : Prop where
  /-- No key of the store is left out and no override is, and there are no others. -/
  keys : ∀ key, key ∈ evaluations.keys ↔ key ∈ store.flags.keys ∨ key ∈ client.overrides.keys
  once : evaluations.keys.Nodup
  served : ∀ key ∈ evaluations.keys, ∀ evaluation,
    (client.variation context key).result = .ok evaluation →
      evaluations.get? key = some evaluation
  failed : ∀ key ∈ evaluations.keys, ∀ error,
    (client.variation context key).result = .error error →
      ∃ flag, store.get? key = some flag ∧
        evaluations.get? key = some (.ofError key flag.defaultValue)
  events : events.Perm (evaluations.keys.flatMap fun key => (client.variation context key).events)

/-- Listing all flags and asking for them one by one agree, in entries and in
events, whatever the store holds under whatever keys. Without a store nothing
is listed and nothing is sent out. -/
theorem allFlags_agrees (client : Client) (context : Context) :
    match client.store with
    | none =>
        (client.allFlags context).result = .error .noStore ∧ (client.allFlags context).events = []
    | some store =>
        ∃ evaluations, (client.allFlags context).result = .ok evaluations ∧
          client.Agrees store context evaluations (client.allFlags context).events := by
  cases hstore : client.store with
  | none => simp [allFlags, hstore]
  | some store =>
      refine ⟨client.listing store context, (allFlags_stored context hstore).1, ?_⟩
      constructor
      case keys => exact fun key => mem_listing_keys_iff context hstore
      case once => exact Table.keys_nodup _
      case served =>
        intro key hkey evaluation hrun
        rcases get?_listing_of_mem hstore hkey with ⟨value, hvalue, hentry⟩ | ⟨flag, _, hentry⟩
        · rw [variation_overridden hvalue] at hrun
          cases hrun
          exact hentry
        · rw [hentry, variationOr_of_ok hrun]
      case failed =>
        intro key hkey error hrun
        rcases get?_listing_of_mem hstore hkey with ⟨value, hvalue, _⟩ | ⟨flag, hheld, hentry⟩
        · rw [variation_overridden hvalue] at hrun
          cases hrun
        · rw [variationOr_of_error hrun] at hentry
          exact ⟨flag, hheld, hentry⟩
      case events => exact allFlags_events_perm context hstore

end Client

end FeatureFlags
