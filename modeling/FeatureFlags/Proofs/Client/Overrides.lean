import FeatureFlags.Client.Setting
import FeatureFlags.Proofs.Table

/-!
Overrides stand alone. The value given last for a key is all that a client needs
to answer for that key, and no other key can tell that it was given. An override
takes the place of a flag only where the flag itself is asked for, not where it
is the prerequisite of another flag.
-/

namespace FeatureFlags

namespace Client

/-- What a setting gives as overrides, in order. -/
def Setting.given : Setting → List (String × FlagValue)
  | .override key value => [(key, value)]
  | .overrides entries => entries
  | _ => []

def Setting.isOverride : Setting → Bool
  | .override .. | .overrides .. => true
  | _ => false

/-- The value given last as the override of a key. -/
def lastGiven? (settings : List Setting) (key : String) : Option FlagValue :=
  (settings.flatMap Setting.given).reverse.lookup key

variable {client : Client}

/-! ### Overrides given -/

theorem get?_overrides_configure (client : Client) (setting : Setting) (key : String) :
    (client.configure setting).overrides.get? key =
      (setting.given.reverse.lookup key).or (client.overrides.get? key) := by
  cases setting with
  | store _ | bucketer _ | maxDepth _ => rfl
  | overrides entries => exact Table.get?_insertMany client.overrides entries key
  | override own value =>
      change (client.overrides.insert own value).get? key = _
      rw [Table.get?_insert]
      by_cases heq : key = own
      · simp [Setting.given, heq]
      · simp [Setting.given, List.lookup_cons, heq, beq_eq_false_iff_ne.mpr heq]

/-- Settings later in the list win over earlier ones, and over what the client
had before. -/
theorem get?_overrides_foldl (settings : List Setting) (client : Client) (key : String) :
    (settings.foldl configure client).overrides.get? key =
      (lastGiven? settings key).or (client.overrides.get? key) := by
  induction settings generalizing client with
  | nil => rfl
  | cons setting rest ih =>
      have hlast : lastGiven? (setting :: rest) key =
          (lastGiven? rest key).or (setting.given.reverse.lookup key) := by
        rw [lastGiven?, List.flatMap_cons, List.reverse_append, List.lookup_append]
        rfl
      rw [List.foldl_cons, ih, get?_overrides_configure, hlast, Option.or_assoc]

theorem get?_overrides_ofSettings (settings : List Setting) (key : String) :
    (ofSettings settings).overrides.get? key = lastGiven? settings key := by
  rw [ofSettings, get?_overrides_foldl]
  exact Option.or_none

/-! ### The client without its overrides -/

def withoutOverrides (client : Client) : Client :=
  { client with overrides := Table.empty }

theorem withoutOverrides_configure_override {setting : Setting}
    (hoverride : setting.isOverride = true) :
    (client.configure setting).withoutOverrides = client.withoutOverrides := by
  cases setting with
  | store _ | bucketer _ | maxDepth _ => cases hoverride
  | override _ _ | overrides _ => rfl

theorem withoutOverrides_configure_other {setting : Setting}
    (hother : setting.isOverride = false) :
    (client.configure setting).withoutOverrides = client.withoutOverrides.configure setting := by
  cases setting with
  | store _ | bucketer _ | maxDepth _ => rfl
  | override _ _ | overrides _ => cases hother

/-- To leave out the overrides in the end is to leave out the settings that gave
them. -/
theorem withoutOverrides_foldl (settings : List Setting) (client : Client) :
    (settings.foldl configure client).withoutOverrides =
      (settings.filter (!·.isOverride)).foldl configure client.withoutOverrides := by
  induction settings generalizing client with
  | nil => rfl
  | cons setting rest ih =>
      rw [List.foldl_cons, ih]
      cases hoverride : setting.isOverride with
      | true =>
          rw [withoutOverrides_configure_override hoverride,
            List.filter_cons_of_neg (by simp [hoverride])]
      | false =>
          rw [withoutOverrides_configure_other hoverride,
            List.filter_cons_of_pos (by simp [hoverride]), List.foldl_cons]

theorem withoutOverrides_ofSettings (settings : List Setting) :
    (ofSettings settings).withoutOverrides = ofSettings (settings.filter (!·.isOverride)) :=
  withoutOverrides_foldl settings {}

/-- Where a key has no override, the overrides of other keys are not looked at,
neither for the flag nor for its prerequisites. -/
theorem variation_withoutOverrides {key : String} (context : Context)
    (hfree : client.overrides.get? key = none) :
    client.withoutOverrides.variation context key = client.variation context key := by
  have hempty : client.withoutOverrides.overrides.get? key = none := Table.get?_empty key
  simp only [variation, hfree, hempty]
  rfl

/-- A key with an override is answered by the value given last for it, without
a look-up and without an event, whatever the store holds and whether there is a
store. Any other key is answered with the same result, look-ups and events as
by a client that no override was given to. -/
theorem overrides_stand_alone (settings : List Setting) (context : Context) (key : String) :
    match lastGiven? settings key with
    | some value =>
        (ofSettings settings).variation context key =
          { result := .ok (.ofOverride key value), lookups := [], events := [] }
    | none =>
        (ofSettings settings).variation context key =
          (ofSettings (settings.filter (!·.isOverride))).variation context key := by
  have hgiven := get?_overrides_ofSettings settings key
  cases hlast : lastGiven? settings key with
  | some value =>
      rw [hlast] at hgiven
      simp only [variation, hgiven]
  | none =>
      rw [hlast] at hgiven
      rw [← withoutOverrides_ofSettings, variation_withoutOverrides context hgiven]

end Client

end FeatureFlags
