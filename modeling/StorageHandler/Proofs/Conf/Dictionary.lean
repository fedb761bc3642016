import StorageHandler.Proofs.Conf.Entries
import StorageHandler.Proofs.Conf.Operations
import StorageHandler.Proofs.Results

/-!
# Configurations as dictionaries changed in place

A configuration keeps its settings in a dictionary, whose names and values can be any data, and its
operations are programs that look into the dictionary and change it step by step (`program`). A step
can fail after others have changed something, and only an entry of texts is let in (`setItem`).

A dictionary of texts goes through every program as the configuration with the same entries goes
through the operation (`Runs`, `dictionary_maps`). So what a failing program leaves is what its
operation leaves.
-/

namespace StorageHandler

namespace Table

/-- The value under a datum. -/
def value? (t : Table) (key : Datum) : Option Datum :=
  (t.find? fun e => e.1.name? = key.name?).map Prod.snd

/-- The entries under other names. -/
def remove (t : Table) (key : Datum) : Table := t.filter fun e => e.1.name? ≠ key.name?

end Table

/-- A program over a dictionary. If it fails, what it has done until then stays. -/
abbrev InPlace := ExceptT ConfError (StateM Table)

namespace InPlace

variable {α β : Type}

/-- What a program comes to, and the dictionary after it. -/
def runOn (p : InPlace α) (t : Table) : Except ConfError α × Table := p.run.run t

/-! ## Programs -/

/-- The value under a name, which must be there. -/
def getItem (key : Datum) : InPlace Datum := do
  if key.name? = none then throw (.notAName key)
  match (← get).value? key with
  | some v => return v
  | none => throw (.missing key)

/-- Puts an entry of texts. Anything else is refused before the dictionary is touched. -/
def setItem (key value : Datum) : InPlace Unit := do
  if key.text? = none ∨ value.text? = none then throw (.notText key value)
  modify fun t => t.put key value

/-- Takes out an entry, which must be there. -/
def deleteItem (key : Datum) : InPlace Unit := do
  let _ ← getItem key
  modify fun t => t.remove key

/-- What a program returns, or nothing if something was not there. -/
def attempt (p : InPlace α) : InPlace (Option α) :=
  tryCatch (p >>= fun a => return some a) fun e =>
    if e.kind = .key then return none else throw e

def update (entries : Table) : InPlace Unit := entries.forM fun e => setItem e.1 e.2

def pop (key : Datum) (default : Option Datum) : InPlace Datum := do
  match ← attempt (getItem key) with
  | some v => deleteItem key; return v
  | none =>
    match default with
    | some d => return d
    | none => throw (.missing key)

def popFirst : InPlace (Datum × Datum) := do
  match ← get with
  | [] => throw .empty
  | e :: _ => let v ← getItem e.1; deleteItem e.1; return (e.1, v)

/-- Takes out the first entry, so many times. -/
def popMany : ℕ → InPlace Unit
  | 0 => return ()
  | n + 1 => do let _ ← popFirst; popMany n

/-- Takes out the first entry until there is none, which is found when one more is asked for. -/
def clear : InPlace Unit := do
  let t ← get
  let _ ← attempt (popMany (t.length + 1))

def setDefault (key value : Datum) : InPlace Datum := do
  match ← attempt (getItem key) with
  | some v => return v
  | none => setItem key value; return value

def setStrings (key : Datum) (items : List Datum) : InPlace Unit := do
  let texts ← liftExcept (JobConf.textItems items)
  setItem key (.text (Text.join "," texts))

/-- Puts a default, unless it is empty or the name has a value that is not. -/
def seed (addresses key : Datum) : InPlace Unit := do
  if addresses.isVoid then return
  match ← attempt (getItem key) with
  | some v => if v.isVoid then setItem key addresses
  | none => setItem key addresses

/-- The program of a change. -/
def program : Change → InPlace Reply
  | .set key value => do setItem key value; return .nothing
  | .delete key => do deleteItem key; return .nothing
  | .setStrings key items => do setStrings key items; return .nothing
  | .update entries => do update entries; return .nothing
  | .pop key default => do return .value (← pop key default)
  | .popFirst => do let e ← popFirst; return .entry e.1 e.2
  | .setDefault key value => do return .value (← setDefault key value)
  | .clear => do clear; return .nothing

/-- The dictionary that a program makes of an empty one, if it does not fail. -/
def fresh (p : InPlace Unit) : Except ConfError Table := (p.runOn []).1.map fun _ => (p.runOn []).2

/-- The program that makes the dictionary of a derivation from the entries of another. -/
def derivation (t : Table) : Derivation → InPlace Unit
  | .copy => update t
  | .overlay properties => do update t; update (properties.getD [])
  | .withDefault addresses key => do update t; seed addresses key

/-- Configurations as dictionaries. -/
def dictionary : Store Table where
  construct := fun entries => fresh (update entries)
  derive := fun t d => fresh (derivation t d)
  change := fun t ch => (((program ch).runOn t).2, ((program ch).runOn t).1)

/-! ## Running programs -/

theorem runOn_bind (p : InPlace α) (f : α → InPlace β) (t : Table) :
    (p >>= f).runOn t =
      match p.runOn t with
      | (.ok a, t') => (f a).runOn t'
      | (.error e, t') => (.error e, t') := by
  cases hp : p.runOn t with
  | mk r t' =>
    cases r with
    | ok a => exact run_run_bind_of_ok hp f
    | error e => exact run_run_bind_of_error hp f

theorem runOn_tryCatch (p : InPlace α) (handle : ConfError → InPlace α) (t : Table) :
    (tryCatch p handle).runOn t =
      match p.runOn t with
      | (.ok a, t') => (.ok a, t')
      | (.error e, t') => (handle e).runOn t' := by
  cases hp : p.runOn t with
  | mk r t' =>
    cases r with
    | ok a => exact run_run_tryCatch_of_ok hp handle
    | error e => exact run_run_tryCatch_of_error hp handle

/-- Started on the entries of `c`, the program comes to `r` and leaves the entries of `c'`. -/
def Runs (p : InPlace α) (c c' : JobConf) (r : Except ConfError α) : Prop :=
  p.runOn c.toEntries = (r, c'.toEntries)

namespace Runs

variable {p : InPlace α} {c c' c'' : JobConf} {a : α} {e : ConfError}

theorem pure (a : α) (c : JobConf) : Runs (return a) c c (.ok a) := rfl

theorem throw (e : ConfError) (c : JobConf) : Runs (throw e : InPlace α) c c (.error e) := rfl

theorem get (c : JobConf) : Runs (get : InPlace Table) c c (.ok c.toEntries) := rfl

theorem bind {f : α → InPlace β} {r : Except ConfError β} (hp : Runs p c c' (.ok a))
    (hf : Runs (f a) c' c'' r) : Runs (p >>= f) c c'' r := by
  unfold Runs at *
  rw [runOn_bind, hp]
  exact hf

theorem bind_error (hp : Runs p c c' (.error e)) (f : α → InPlace β) :
    Runs (p >>= f) c c' (.error e) := by
  unfold Runs at *
  rw [runOn_bind, hp]

theorem attempt_ok (hp : Runs p c c' (.ok a)) : Runs (attempt p) c c' (.ok (some a)) := by
  have hsome : Runs (p >>= fun a => return some a) c c' (.ok (some a)) := hp.bind (.pure _ _)
  unfold Runs attempt at *
  rw [runOn_tryCatch, hsome]

theorem attempt_error (hp : Runs p c c' (.error e)) :
    Runs (attempt p) c c' (if e.kind = .key then .ok none else .error e) := by
  have herror : Runs (p >>= fun a => return some a) c c' (.error e) := hp.bind_error _
  unfold Runs attempt at *
  rw [runOn_tryCatch, herror]
  dsimp only
  split_ifs <;> rfl

end Runs

/-! ## Dictionaries of texts -/

theorem value?_text (ts : List (String × String)) (k : String) :
    (textEntries ts).value? (.text k) = (OrderedMap.lookup k ts).map .text := by
  induction ts with
  | nil => rfl
  | cons e ts ih =>
    have hname : (Datum.text e.1).name? = (Datum.text k).name? ↔ e.1 = k := by
      simp [Datum.name?]
    unfold textEntries Table.value? at *
    rw [List.map_cons, OrderedMap.lookup]
    by_cases hk : e.1 = k
    · rw [List.find?_cons_of_pos (by simpa using hname.2 hk), if_pos hk]
      rfl
    · rw [List.find?_cons_of_neg (by simpa using mt hname.1 hk), if_neg hk, ih]

theorem value?_of_ne_text (ts : List (String × String)) {key : Datum} (h : ∀ k, key ≠ .text k) :
    (textEntries ts).value? key = none := by
  have hnone : (textEntries ts).find? (fun e => e.1.name? = key.name?) = none := by
    refine List.find?_eq_none.2 fun e he => ?_
    obtain ⟨e, -, rfl⟩ := List.mem_map.1 he
    have hne : (Datum.text e.1).name? ≠ key.name? := fun hname =>
      h e.1 (Datum.eq_text_of_name?_eq hname.symm)
    simpa using hne
  rw [Table.value?, hnone]
  rfl

theorem remove_text (ts : List (String × String)) (k : String) :
    (textEntries ts).remove (.text k) = textEntries (ts.filter fun e => e.1 ≠ k) := by
  unfold textEntries Table.remove
  rw [List.filter_map]
  congr 1
  refine List.filter_congr fun e _ => ?_
  simp [Datum.name?]

theorem value?_toEntries (c : JobConf) (k : String) :
    Table.value? c.toEntries (.text k) = (c.find? k).map .text :=
  value?_text c.entries k

theorem value?_toEntries_of_none {c : JobConf} {key : Datum}
    (h : ∀ k, key = .text k → c.find? k = none) : Table.value? c.toEntries key = none := by
  cases key with
  | text k => rw [value?_toEntries, h k rfl, Option.map_none]
  | _ => exact value?_of_ne_text c.entries (by simp)

/-! ## What the programs do -/

variable (c : JobConf)

theorem getItem_text_runs {k v : String} (hfind : c.find? k = some v) :
    Runs (getItem (.text k)) c c (.ok (.text v)) := by
  unfold getItem
  rw [if_neg (by simp [Datum.name?])]
  refine .bind (.get c) ?_
  rw [value?_toEntries, hfind]
  exact .pure _ c

theorem getItem_runs (key : Datum) : Runs (getItem key) c c ((c.get key).map .text) := by
  unfold JobConf.get
  rcases c.get?_cases key with ⟨k, v, rfl, hfind, hget⟩ | ⟨hname, hfind, hget⟩ | ⟨hname, hget⟩
  · rw [hget]
    exact getItem_text_runs c hfind
  · unfold getItem
    rw [hget, if_neg hname]
    refine .bind (.get c) ?_
    rw [value?_toEntries_of_none hfind]
    exact .throw _ c
  · unfold getItem
    rw [hget, if_pos hname]
    exact .bind_error (.throw _ c) _

/-- Only that something is not there is caught. -/
theorem attempt_getItem_runs (key : Datum) :
    Runs (attempt (getItem key)) c c ((c.get? key).map fun o => o.map .text) := by
  have hrun := getItem_runs c key
  unfold JobConf.get at hrun
  rcases c.get?_cases key with ⟨k, v, rfl, -, hget⟩ | ⟨-, -, hget⟩ | ⟨-, hget⟩
  · rw [hget] at hrun ⊢
    exact hrun.attempt_ok
  · rw [hget] at hrun ⊢
    exact hrun.attempt_error
  · rw [hget] at hrun ⊢
    exact hrun.attempt_error

theorem remove_runs (k : String) :
    Runs (modify fun t => Table.remove t (.text k)) c (c.erase k) (.ok ()) :=
  congrArg (Except.ok (), ·) (remove_text c.entries k)

theorem deleteItem_text_runs {k v : String} (hfind : c.find? k = some v) :
    Runs (deleteItem (.text k)) c (c.erase k) (.ok ()) :=
  (getItem_text_runs c hfind).bind (remove_runs c k)

theorem setItem_runs (key value : Datum) :
    Runs (setItem key value) c (c.settleUnit (c.set key value)).1
      ((c.set key value).map fun _ => ()) := by
  unfold setItem
  rcases text_or_refused key value with ⟨k, v, rfl, rfl⟩ | h
  · rw [if_neg (by simp)]
    exact congrArg (Except.ok (), ·) (put_textEntries k v c.entries)
  · have hrefused : key.text? = none ∨ value.text? = none := h
    rw [if_pos hrefused, JobConf.set_refused c h]
    exact .bind_error (.throw _ c) _

theorem setItem_return_runs (key value : Datum) (a : α) :
    Runs (do setItem key value; return a) c (c.settleUnit (c.set key value)).1
      ((c.set key value).map fun _ => a) := by
  have hset := setItem_runs c key value
  cases hc : c.set key value with
  | error e =>
    rw [hc] at hset
    exact hset.bind_error _
  | ok c' =>
    rw [hc] at hset
    exact hset.bind (.pure a _)

/-- What is left of an update, and how it ends. -/
theorem update_runs (entries : Table) :
    Runs (update entries) c (c.assign entries).1
      (match (c.assign entries).2 with
      | none => .ok ()
      | some e => .error e) := by
  induction entries generalizing c with
  | nil => exact .pure () c
  | cons e entries ih =>
    have hset := setItem_runs c e.1 e.2
    rw [JobConf.assign]
    cases hc : c.set e.1 e.2 with
    | error err =>
      rw [hc] at hset
      exact hset.bind_error _
    | ok c' =>
      rw [hc] at hset
      exact hset.bind (ih c')

theorem update_toEntries_runs (c : JobConf) : Runs (update c.toEntries) .empty c (.ok ()) := by
  have hrun := update_runs .empty c.toEntries
  have hassign : JobConf.assign .empty c.toEntries = (c, none) := by
    rw [JobConf.toEntries, JobConf.assign_texts]
    exact congrArg (·, none) c.ofList_entries
  rwa [hassign] at hrun

theorem popFirst_runs_nil {c : JobConf} (hc : c.entries = []) :
    Runs popFirst c c (.error .empty) := by
  have htable : c.toEntries = [] := by rw [JobConf.toEntries, hc, List.map_nil]
  refine .bind (.get c) ?_
  rw [htable]
  exact .throw _ c

theorem popFirst_runs_cons {c : JobConf} {e : String × String} {l : List (String × String)}
    (hc : c.entries = e :: l) :
    Runs popFirst c (c.erase e.1) (.ok (.text e.1, .text e.2)) := by
  have hfind : c.find? e.1 = some e.2 := by
    rw [OrderedMap.find?, hc, OrderedMap.lookup, if_pos rfl]
  have htable : c.toEntries = (.text e.1, .text e.2) :: textEntries l := by
    rw [JobConf.toEntries, hc, List.map_cons]
    rfl
  refine .bind (.get c) ?_
  rw [htable]
  exact (getItem_text_runs c hfind).bind ((deleteItem_text_runs c hfind).bind (.pure _ _))

/-- One more than there are entries : all of them are taken out, and the last try fails. -/
theorem popMany_runs {n : ℕ} {c : JobConf} (hn : c.entries.length = n) :
    Runs (popMany (n + 1)) c .empty (.error .empty) := by
  -- on the number of entries : taking one out leaves one less
  induction n generalizing c with
  | zero =>
    have hc : c.entries = [] := List.length_eq_zero_iff.1 hn
    obtain rfl : c = .empty := OrderedMap.ext hc
    exact (popFirst_runs_nil hc).bind_error _
  | succ n ih =>
    obtain ⟨e, l, hc⟩ := List.exists_cons_of_length_eq_add_one hn
    have hrest : (c.erase e.1).entries.length = n := by
      rw [OrderedMap.entries_erase_of_cons hc]
      simpa [hc] using hn
    exact (popFirst_runs_cons hc).bind (ih hrest)

theorem clear_runs : Runs clear c .empty (.ok ()) := by
  have hlength : c.toEntries.length = c.entries.length := List.length_map _
  refine .bind (.get c) ?_
  rw [hlength]
  exact (popMany_runs rfl).attempt_error.bind (.pure _ _)

theorem delete_runs (key : Datum) :
    Runs (program (.delete key)) c (c.change (.delete key)).1 (c.change (.delete key)).2 := by
  have hget := getItem_runs c key
  simp only [program, JobConf.change, JobConf.delete]
  unfold JobConf.get at *
  rcases c.get?_cases key with ⟨k, v, rfl, hfind, hc⟩ | ⟨-, -, hc⟩ | ⟨-, hc⟩
  · rw [hc]
    exact (deleteItem_text_runs c hfind).bind (.pure _ _)
  · rw [hc] at hget ⊢
    exact (hget.bind_error _).bind_error _
  · rw [hc] at hget ⊢
    exact (hget.bind_error _).bind_error _

theorem setStrings_runs (key : Datum) (items : List Datum) :
    Runs (program (.setStrings key items)) c (c.change (.setStrings key items)).1
      (c.change (.setStrings key items)).2 := by
  simp only [program, setStrings, JobConf.change, JobConf.setStrings]
  cases hitems : JobConf.textItems items with
  | error e => exact (Runs.bind_error (.throw e c) _).bind_error _
  | ok texts =>
    have htexts : Runs (liftExcept (.ok texts : Except ConfError (List String))) c c (.ok texts) :=
      .pure texts c
    have hset := setItem_runs c key (.text (Text.join "," texts))
    cases hc : c.set key (.text (Text.join "," texts)) with
    | error e =>
      rw [hc] at hset
      simp only [Bind.bind, Except.bind, hc]
      exact (htexts.bind hset).bind_error _
    | ok c' =>
      rw [hc] at hset
      simp only [Bind.bind, Except.bind, hc]
      exact (htexts.bind hset).bind (.pure _ c')

theorem pop_runs (key : Datum) (default : Option Datum) :
    Runs (program (.pop key default)) c (c.change (.pop key default)).1
      (c.change (.pop key default)).2 := by
  have hget := attempt_getItem_runs c key
  simp only [program, pop, JobConf.change, JobConf.pop]
  rcases c.get?_cases key with ⟨k, v, rfl, hfind, hc⟩ | ⟨-, -, hc⟩ | ⟨-, hc⟩
  · rw [hc] at hget ⊢
    have hdelete : Runs (do deleteItem (.text k); return Datum.text v) c (c.erase k)
        (.ok (.text v)) := (deleteItem_text_runs c hfind).bind (.pure _ _)
    exact (hget.bind hdelete).bind (.pure _ _)
  · rw [hc] at hget ⊢
    cases default with
    | none => exact (hget.bind (.throw _ c)).bind_error _
    | some d => exact (hget.bind (.pure d c)).bind (.pure _ _)
  · rw [hc] at hget ⊢
    exact (hget.bind_error _).bind_error _

theorem setDefault_runs (key value : Datum) :
    Runs (program (.setDefault key value)) c (c.change (.setDefault key value)).1
      (c.change (.setDefault key value)).2 := by
  have hget := attempt_getItem_runs c key
  simp only [program, setDefault, JobConf.change, JobConf.setDefault]
  rcases c.get?_cases key with ⟨k, v, rfl, -, hc⟩ | ⟨-, -, hc⟩ | ⟨-, hc⟩
  · rw [hc] at hget ⊢
    exact (hget.bind (.pure (Datum.text v) c)).bind (.pure _ c)
  · rw [hc] at hget ⊢
    have hset := setItem_return_runs c key value value
    cases hset' : c.set key value with
    | error e =>
      rw [hset'] at hset
      exact (hget.bind hset).bind_error _
    | ok c' =>
      rw [hset'] at hset
      exact (hget.bind hset).bind (.pure _ c')
  · rw [hc] at hget ⊢
    exact (hget.bind_error _).bind_error _

/-- The program of a change does what the change does, also if it fails. -/
theorem program_runs (ch : Change) : Runs (program ch) c (c.change ch).1 (c.change ch).2 := by
  cases ch with
  | set key value =>
    have hset := setItem_return_runs c key value Reply.nothing
    simp only [JobConf.change]
    cases hc : c.set key value with
    | error e =>
      rw [hc] at hset
      exact hset
    | ok c' =>
      rw [hc] at hset
      exact hset
  | delete key => exact delete_runs c key
  | setStrings key items => exact setStrings_runs c key items
  | update entries =>
    have hupdate := update_runs c entries
    simp only [program, JobConf.change]
    cases hc : c.assign entries with
    | mk c' failure =>
      rw [hc] at hupdate
      cases failure with
      | none => exact hupdate.bind (.pure _ _)
      | some e => exact hupdate.bind_error _
  | pop key default => exact pop_runs c key default
  | popFirst =>
    simp only [program, JobConf.change, JobConf.popFirst]
    cases hc : c.entries with
    | nil => exact (popFirst_runs_nil hc).bind_error _
    | cons e l => exact (popFirst_runs_cons hc).bind (.pure _ _)
  | setDefault key value => exact setDefault_runs c key value
  | clear => exact (clear_runs c).bind (.pure _ _)

/-! ## New dictionaries -/

theorem fresh_of_runs {p : InPlace Unit} {c : JobConf} {r : Except ConfError Unit}
    (h : Runs p .empty c r) : fresh p = r.map fun _ => c.toEntries := by
  have hrun : p.runOn [] = (r, c.toEntries) := h
  rw [fresh, hrun]

theorem fresh_update {p : InPlace Unit} (entries : Table)
    (h : Runs p .empty (c.assign entries).1
      (match (c.assign entries).2 with
      | none => .ok ()
      | some e => .error e)) :
    fresh p = (c.assignAll entries).map JobConf.toEntries := by
  rw [fresh_of_runs h, JobConf.assignAll]
  cases c.assign entries with
  | mk c' failure => cases failure <;> rfl

theorem seed_runs (addresses key : Datum) :
    Runs (seed addresses key) c (c.settleUnit (c.withDefaultUnder addresses key)).1
      ((c.withDefaultUnder addresses key).map fun _ => ()) := by
  have hget := attempt_getItem_runs c key
  have hset := setItem_runs c key addresses
  unfold seed JobConf.withDefaultUnder
  cases addresses.isVoid with
  | true => exact .pure () c
  | false =>
    rcases c.get?_cases key with ⟨k, v, rfl, -, hc⟩ | ⟨-, -, hc⟩ | ⟨-, hc⟩
    · rw [hc] at hget ⊢
      by_cases hv : v = ""
      · rw [hv] at hget ⊢
        exact hget.bind hset
      · have hvoid : (Datum.text v).isVoid = false := by simp [Datum.isVoid, hv]
        have hfilter : (some v).filter (· ≠ "") = some v := by simp [Option.filter, hv]
        simp only [Bind.bind, Except.bind, hfilter]
        refine hget.bind ?_
        simp only [Option.map_some, hvoid]
        exact .pure () c
    · rw [hc] at hget ⊢
      exact hget.bind hset
    · rw [hc] at hget ⊢
      exact hget.bind_error _

theorem fresh_derivation (d : Derivation) :
    fresh (derivation c.toEntries d) = (c.derive d).map JobConf.toEntries := by
  have hcopy := update_toEntries_runs c
  cases d with
  | copy => exact fresh_of_runs hcopy
  | overlay properties => exact fresh_update c _ (hcopy.bind (update_runs c _))
  | withDefault addresses key =>
    rw [derivation, fresh_of_runs (hcopy.bind (seed_runs c addresses key)), JobConf.derive]
    cases c.withDefaultUnder addresses key <;> rfl

/-- A dictionary with the entries of a configuration does what the configuration does. -/
theorem dictionary_maps : JobConf.store.Maps dictionary JobConf.toEntries where
  construct := fun entries => fresh_update .empty entries (update_runs .empty entries)
  derive := fresh_derivation
  change := fun c ch => congrArg Prod.swap (program_runs c ch)

end InPlace

end StorageHandler
