import FeatureFlags.Error
import FeatureFlags.Store

/-!
Operations on a store, one after the other. A store is created and loaded from
sources, flags are put into it and taken out of it, and it is read. The text of
a document need not be a flag set; an operation that is given such a text fails.
-/

namespace FeatureFlags

/-- What a store is filled from: the text of a document, or flags at hand. -/
inductive FlagSource where
  | document (text : List UInt8)
  | listing (flags : List Flag)

def FlagSource.read : FlagSource → Except FlagError FlagSet
  | .document text =>
      match FlagSet.decoder.run text with
      | some set => .ok set
      | none => .error .invalidFlagSet
  | .listing flags => .ok (.ofFlags flags)

namespace Store

inductive Operation where
  /-- A new store, filled from a source, takes the place of the one in use. -/
  | create (source : FlagSource)
  /-- The flags of a source take the place of all flags in the store. -/
  | load (source : FlagSource)
  | upsert (flag : Flag)
  | remove (key : String)
  | get (key : String)
  | getAll

/-- What an operation answers. `F` is how a flag is given, and `M` how all flags
are. -/
inductive Answer (F M : Type) where
  | done
  | failed (error : FlagError)
  | flag (found : Option F)
  | flags (held : M)

def Answer.map {F G M N : Type} (flag : Option F → Option G) (flags : M → N) :
    Answer F M → Answer G N
  | .done => .done
  | .failed error => .failed error
  | .flag found => .flag (flag found)
  | .flags held => .flags (flags held)

/-- The answers to operations, and the state after the last. What a state is,
and how it answers one operation, is left open. -/
def Operation.run {σ α : Type} (perform : σ → Operation → α × σ) :
    σ → List Operation → List α × σ
  | state, [] => ([], state)
  | state, operation :: rest =>
      let (answer, state) := perform state operation
      let (answers, state) := run perform state rest
      (answer :: answers, state)

/-- The answer of a store, and the store afterwards. A source that cannot be
read changes nothing. -/
def perform (store : Store) : Operation → Answer Flag (Table Flag) × Store
  | .create source =>
      match source.read with
      | .ok set => (.done, ofFlagSet set)
      | .error error => (.failed error, store)
  | .load source =>
      match source.read with
      | .ok set =>
          let (previous, store) := store.replace set
          (.flags previous, store)
      | .error error => (.failed error, store)
  | .upsert flag => (.done, store.upsert flag)
  | .remove key =>
      let (removed, store) := store.remove key
      (.flag removed, store)
  | .get key => (.flag (store.get? key), store)
  | .getAll => (.flags store.flags, store)

end Store

end FeatureFlags
