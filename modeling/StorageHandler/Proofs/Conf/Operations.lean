import Mathlib.Data.List.Basic
import StorageHandler.Conf.ListValue
import StorageHandler.Conf.Masters
import StorageHandler.Conf.Overlay

/-!
# Runs over configurations

A caller constructs configurations, derives new ones from them and changes them, in any order. What
holds configurations is a `Store` : it says what each operation does. `Store.run` is a run of
operations over the configurations that are there, each called by its number.

If a function takes the configurations of one store to those of another and agrees with every
operation (`Store.Maps`), it takes whole runs to runs, with the same outcomes (`Maps.run_eq`). The
configurations of the library are such a store, `JobConf.store`.
-/

namespace StorageHandler

/-! ## Operations -/

/-- Operations that change a configuration. -/
inductive Change where
  | set (key value : Datum)
  | delete (key : Datum)
  | setStrings (key : Datum) (items : List Datum)
  | update (entries : Table)
  | pop (key : Datum) (default : Option Datum)
  | popFirst
  | setDefault (key value : Datum)
  | clear

/-- Operations that make a new configuration from one. -/
inductive Derivation where
  | copy
  | overlay (properties : Option Table)
  | withDefault (addresses key : Datum)

/-- What a caller can do. Configurations have numbers, in the order in which they were made. -/
inductive Operation where
  | construct (entries : Table)
  | derive (i : ℕ) (d : Derivation)
  | change (i : ℕ) (ch : Change)

/-- What a successful change returns. -/
inductive Reply where
  | nothing
  | value (d : Datum)
  | entry (key value : Datum)

/-- What an operation comes to. -/
abbrev Outcome := Except ConfError Reply

/-! ## Stores -/

/-- Configurations of some kind, and what the operations do with them. -/
structure Store (σ : Type) where
  construct : Table → Except ConfError σ
  derive : σ → Derivation → Except ConfError σ
  /-- The configuration after a change, also one that fails. -/
  change : σ → Change → σ × Outcome

namespace Store

variable {σ τ : Type}

/-- A new configuration comes last. If it could not be made, nothing does. -/
def keep (confs : List σ) : Except ConfError σ → List σ × Option Outcome
  | .ok c => (confs ++ [c], some (.ok .nothing))
  | .error e => (confs, some (.error e))

/-- What one operation does. There is no outcome if there is no configuration of the number. -/
def step (S : Store σ) (confs : List σ) : Operation → List σ × Option Outcome
  | .construct entries => keep confs (S.construct entries)
  | .derive i d =>
    match confs[i]? with
    | none => (confs, none)
    | some c => keep confs (S.derive c d)
  | .change i ch =>
    match confs[i]? with
    | none => (confs, none)
    | some c => (confs.set i (S.change c ch).1, some (S.change c ch).2)

/-- The configurations after operations, and the outcome of each. -/
def run (S : Store σ) : List σ → List Operation → List σ × List (Option Outcome)
  | confs, [] => (confs, [])
  | confs, op :: ops =>
    let after := S.run (S.step confs op).1 ops
    (after.1, (S.step confs op).2 :: after.2)

/-- The configurations of one store as those of another. -/
structure Maps (S : Store σ) (T : Store τ) (f : σ → τ) : Prop where
  construct : ∀ entries, T.construct entries = (S.construct entries).map f
  derive : ∀ c d, T.derive (f c) d = (S.derive c d).map f
  change : ∀ c ch, T.change (f c) ch = (f (S.change c ch).1, (S.change c ch).2)

namespace Maps

variable {S : Store σ} {T : Store τ} {f : σ → τ}

theorem keep_eq (f : σ → τ) (confs : List σ) (r : Except ConfError σ) :
    keep (confs.map f) (r.map f) = ((keep confs r).1.map f, (keep confs r).2) := by
  cases r with
  | error e => rfl
  | ok c => simp [keep, Except.map]

theorem step_eq (h : S.Maps T f) (confs : List σ) (op : Operation) :
    T.step (confs.map f) op = ((S.step confs op).1.map f, (S.step confs op).2) := by
  cases op with
  | construct entries =>
    simp only [step]
    rw [h.construct, keep_eq]
  | derive i d =>
    simp only [step, List.getElem?_map]
    cases confs[i]? with
    | none => rfl
    | some c =>
      dsimp only [Option.map_some]
      rw [h.derive, keep_eq]
  | change i ch =>
    simp only [step, List.getElem?_map]
    cases confs[i]? with
    | none => rfl
    | some c =>
      dsimp only [Option.map_some]
      rw [h.change, List.map_set]

/-- Runs are taken to runs. -/
theorem run_eq (h : S.Maps T f) (confs : List σ) (ops : List Operation) :
    T.run (confs.map f) ops = ((S.run confs ops).1.map f, (S.run confs ops).2) := by
  induction ops generalizing confs with
  | nil => rfl
  | cons op ops ih =>
    unfold run
    rw [h.step_eq, ih]

end Maps

end Store

/-! ## The library's configurations -/

namespace JobConf

/-- The configuration after a change that gives a new one if it succeeds. -/
def settle {α : Type} (c : JobConf) (reply : α → Reply) :
    Except ConfError (α × JobConf) → JobConf × Outcome
  | .ok (a, c') => (c', .ok (reply a))
  | .error e => (c, .error e)

/-- The same for a change that returns nothing. -/
def settleUnit (c : JobConf) (r : Except ConfError JobConf) : JobConf × Outcome :=
  c.settle (fun _ : Unit => .nothing) (r.map fun c' => ((), c'))

/-- What a change does. -/
def change (c : JobConf) : Change → JobConf × Outcome
  | .set key value => c.settleUnit (c.set key value)
  | .delete key => c.settleUnit (c.delete key)
  | .setStrings key items => c.settleUnit (c.setStrings key items)
  | .update entries =>
    match c.assign entries with
    | (c', none) => (c', .ok .nothing)
    | (c', some e) => (c', .error e)
  | .pop key default => c.settle .value (c.pop key default)
  | .popFirst => c.settle (fun e => .entry (.text e.1) (.text e.2)) c.popFirst
  | .setDefault key value => c.settle .value (c.setDefault key value)
  | .clear => (.empty, .ok .nothing)

/-- The configuration with a default under a name of any kind. -/
def withDefaultUnder (c : JobConf) (addresses key : Datum) : Except ConfError JobConf := do
  if addresses.isVoid then return c
  match (← c.get? key).filter (· ≠ "") with
  | some _ => return c
  | none => c.set key addresses

theorem withDefaultUnder_text (c : JobConf) (addresses : Datum) (key : String) :
    c.withDefaultUnder addresses (.text key) = c.withDefaultDatum addresses key := by
  unfold withDefaultUnder withDefaultDatum nonempty? get?
  cases addresses.isVoid with
  | true => rfl
  | false =>
    simp only [Bool.false_eq_true, false_or, if_false, Bind.bind, Except.bind]
    cases (c.find? key).filter (· ≠ "") <;> rfl

/-- What a derivation makes. -/
def derive (c : JobConf) : Derivation → Except ConfError JobConf
  | .copy => .ok c
  | .overlay properties => c.overlay properties
  | .withDefault addresses key => c.withDefaultUnder addresses key

/-- The configurations of the library. -/
def store : Store JobConf where
  construct := ofEntries
  derive := derive
  change := change

end JobConf

end StorageHandler
