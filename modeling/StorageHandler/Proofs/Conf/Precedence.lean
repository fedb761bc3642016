import Mathlib.Data.List.ReduceOption
import StorageHandler.Proofs.Conf.Masters

/-!
# Which text names the masters

Three sources can name the masters of a table : its own setting, the setting of the default, and the
environment of the process, which is asked without the blanks around it. They count in this order,
and an empty one does not count (`firstText`), also where both settings have the same name. The
environment is written into the configuration only where the setting of the default says nothing
(`Seeded`), and there it changes this setting alone.

`masters_precedence` puts both together.
-/

namespace StorageHandler

/-- The first of the texts that is there and not empty. -/
def firstText (sources : List (Option String)) : Option String :=
  sources.reduceOption.find? (· ≠ "")

theorem firstText_nil : firstText [] = none := rfl

theorem firstText_cons (s : Option String) (sources : List (Option String)) :
    firstText (s :: sources) = (s.filter (· ≠ "")).or (firstText sources) := by
  cases s with
  | none => rfl
  | some t => by_cases h : t = "" <;> simp [firstText, Option.filter_some, h]

theorem firstText_eq_none_iff {sources : List (Option String)} :
    firstText sources = none ↔ ∀ s ∈ sources, s = none ∨ s = some "" := by
  induction sources with
  | nil => simp [firstText_nil]
  | cons s sources ih =>
    have hs : s.filter (· ≠ "") = none ↔ s = none ∨ s = some "" := by cases s <;> simp
    rw [firstText_cons, Option.or_eq_none_iff, hs, ih, List.forall_mem_cons]

namespace JobConf

/-- What says where the masters are, in the order in which it counts. -/
def mastersSources (c : JobConf) (env : Environment) (key defaultKey : String) :
    List (Option String) :=
  [c.find? key, c.find? defaultKey, env.masters.map Text.strip]

theorem firstText_mastersSources (c : JobConf) (env : Environment) (key defaultKey : String) :
    firstText (c.mastersSources env key defaultKey) =
      ((c.nonempty? key).or (c.nonempty? defaultKey)).or env.defaultMasters := by
  simp only [mastersSources, firstText_cons, firstText_nil, Option.or_none, Option.or_assoc,
    nonempty?, Environment.defaultMasters]

/-- The default is asked after both settings, also if they have the same name. -/
theorem nonempty?_or_withDefaultMasters (c : JobConf) (addresses : Option String)
    (key defaultKey : String) :
    ((c.withDefaultMasters addresses defaultKey).nonempty? key).or
        ((c.withDefaultMasters addresses defaultKey).nonempty? defaultKey) =
      ((c.nonempty? key).or (c.nonempty? defaultKey)).or (addresses.filter (· ≠ "")) := by
  have hdefault := nonempty?_withDefaultMasters c addresses defaultKey
  by_cases h : defaultKey = key
  · subst h
    rw [hdefault, Option.or_self, Option.or_self]
  · have hkey : (c.withDefaultMasters addresses defaultKey).nonempty? key = c.nonempty? key := by
      rw [nonempty?, find?_withDefaultMasters_of_ne c addresses h, nonempty?]
    rw [hdefault, hkey, Option.or_assoc]

theorem filter_defaultMasters (env : Environment) :
    env.defaultMasters.filter (· ≠ "") = env.defaultMasters := by
  rw [Environment.defaultMasters, Option.filter_filter]
  simp

theorem masters_withDefaultMasters (c : JobConf) (env : Environment) (key defaultKey : String) :
    (c.withDefaultMasters env.defaultMasters defaultKey).masters key defaultKey =
      (firstText (c.mastersSources env key defaultKey)).elim (.error ⟨key, defaultKey⟩) .ok := by
  have hfirst : ((c.withDefaultMasters env.defaultMasters defaultKey).nonempty? key).or
      ((c.withDefaultMasters env.defaultMasters defaultKey).nonempty? defaultKey) =
        firstText (c.mastersSources env key defaultKey) := by
    rw [nonempty?_or_withDefaultMasters, filter_defaultMasters, firstText_mastersSources]
  rw [masters_eq, hfirst]
  cases firstText (c.mastersSources env key defaultKey) <;> rfl

/-! ## What is written -/

/-- What a configuration becomes with a default. -/
inductive Seeded (c : JobConf) (defaultKey : String) : Option String → JobConf → Prop
  /-- There is no default, or the configuration has one. -/
  | kept {default : Option String} :
      default = none ∨ (∃ v, v ≠ "" ∧ c.find? defaultKey = some v) →
      Seeded c defaultKey default c
  /-- The default goes to the end. -/
  | appended {a : String} {c' : JobConf} :
      defaultKey ∉ c.keys → c'.entries = c.entries ++ [(defaultKey, a)] →
      Seeded c defaultKey (some a) c'
  /-- The default takes the place of an empty text. -/
  | filled {a : String} {c' : JobConf} {before after : List (String × String)} :
      c.entries = before ++ (defaultKey, "") :: after →
      c'.entries = before ++ (defaultKey, a) :: after → Seeded c defaultKey (some a) c'

theorem seeded_withDefaultMasters (c : JobConf) (addresses : Option String) (defaultKey : String) :
    c.Seeded defaultKey (addresses.filter (· ≠ ""))
      (c.withDefaultMasters addresses defaultKey) := by
  rw [withDefaultMasters]
  cases addresses.filter (· ≠ "") with
  | none => exact .kept (Or.inl rfl)
  | some a =>
    cases hc : c.nonempty? defaultKey with
    | some v =>
      obtain ⟨hfind, hne⟩ := Option.filter_eq_some_iff.1 hc
      exact .kept (Or.inr ⟨v, by simpa using hne, hfind⟩)
    | none =>
      cases hfind : c.find? defaultKey with
      | none =>
        have hkeys : defaultKey ∉ c.keys := OrderedMap.lookup_eq_none_iff.1 hfind
        exact .appended hkeys (OrderedMap.put_of_notMem hkeys a)
      | some v =>
        have hv : v = "" := by
          rw [nonempty?, hfind] at hc
          simpa using hc
        subst hv
        obtain ⟨before, after, hentries, hput⟩ := OrderedMap.put_of_lookup hfind a
        exact .filled hentries hput

end JobConf

/-- What missing addresses say names both settings. -/
theorem MastersMissing.names_keys (e : MastersMissing) : ∃ before between after : String,
    e.message = before ++ e.key ++ between ++ e.defaultKey ++ after :=
  ⟨_, _, _, rfl⟩

/-- The masters are the first text that is not empty : under `key`, under `defaultKey`, or in the
environment without the blanks around it. They are missing exactly if all three say nothing, which
the failure says with both names. What the environment says is written into the configuration at
most, and there only under `defaultKey`. -/
theorem masters_precedence (c : JobConf) (env : Environment) (key defaultKey : String) :
    (∀ addresses, (c.withDefaultMasters env.defaultMasters defaultKey).masters key defaultKey =
        .ok addresses ↔ firstText [c.find? key, c.find? defaultKey, env.masters.map Text.strip] =
          some addresses) ∧
      ((c.withDefaultMasters env.defaultMasters defaultKey).masters key defaultKey =
        .error ⟨key, defaultKey⟩ ↔
          ∀ s ∈ [c.find? key, c.find? defaultKey, env.masters.map Text.strip],
            s = none ∨ s = some "") ∧
      ((MastersMissing.failure ⟨key, defaultKey⟩).kind = .configuration ∧
        ∃ before between after : String, (MastersMissing.failure ⟨key, defaultKey⟩).message =
          before ++ key ++ between ++ defaultKey ++ after) ∧
      c.Seeded defaultKey env.defaultMasters
        (c.withDefaultMasters env.defaultMasters defaultKey) := by
  have hsources : [c.find? key, c.find? defaultKey, env.masters.map Text.strip] =
      c.mastersSources env key defaultKey := rfl
  have hseeded := c.seeded_withDefaultMasters env.defaultMasters defaultKey
  rw [JobConf.filter_defaultMasters] at hseeded
  rw [hsources, JobConf.masters_withDefaultMasters, ← firstText_eq_none_iff]
  refine ⟨fun addresses => ?_, ?_, ⟨rfl, MastersMissing.names_keys ⟨key, defaultKey⟩⟩, hseeded⟩
  · cases firstText (c.mastersSources env key defaultKey) <;> simp
  · cases firstText (c.mastersSources env key defaultKey) <;> simp

end StorageHandler
