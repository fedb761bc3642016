import StorageHandler.Proofs.Conf.Entries
import StorageHandler.Proofs.Conf.Operations

/-!
# Configurations as lists of settings

A list of settings, the oldest first, is all that a configuration holds : a name that is there takes
a new value where it stands, a new one goes to the end, and the first setting is the one that is
taken out without a name. `Settings.store` does every operation on such lists, in this way. A
configuration of the library does the same with its entries (`settings_maps`).
-/

namespace StorageHandler

/-- Settings in the order in which they came. -/
abbrev Settings := List (String × String)

namespace Settings

/-! ## Operations on lists -/

/-- A name that is there takes the value where it stands. A new one goes to the end. -/
def assign (l : Settings) (k v : String) : Settings :=
  if k ∈ l.map Prod.fst then l.map fun e => if e.1 = k then (k, v) else e else l ++ [(k, v)]

/-- Assigns entries from left to right. -/
def assignAll (l : Settings) (es : List (String × String)) : Settings :=
  es.foldl (fun l e => l.assign e.1 e.2) l

/-- The settings without a name. -/
def remove (l : Settings) (k : String) : Settings := l.filter fun e => e.1 ≠ k

/-- The setting of a name of any kind. -/
def named? (l : Settings) (key : Datum) : Except ConfError (Option (String × String)) :=
  if key.name? = none then .error (.notAName key)
  else .ok (l.find? fun e => key.text? = some e.1)

/-- Assigns a datum to a datum. Both must be texts. -/
def set (l : Settings) (key value : Datum) : Settings × Outcome :=
  match key.text?, value.text? with
  | some k, some v => (l.assign k v, .ok .nothing)
  | _, _ => (l, .error (.notText key value))

/-- An entry as texts, if it is one of texts. -/
def texts? (e : Datum × Datum) : Option (String × String) :=
  e.1.text?.bind fun k => e.2.text?.map fun v => (k, v)

/-- Assigns the entries before the first that is not of texts. -/
def update (l : Settings) (entries : Table) : Settings × Outcome :=
  (l.assignAll ((entries.takeWhile fun e => (texts? e).isSome).filterMap texts?),
    match entries.find? fun e => (texts? e).isNone with
    | none => .ok .nothing
    | some e => .error (.notText e.1 e.2))

/-- What a change does. -/
def change (l : Settings) : Change → Settings × Outcome
  | .set key value => l.set key value
  | .delete key =>
    match l.named? key with
    | .error e => (l, .error e)
    | .ok none => (l, .error (.missing key))
    | .ok (some e) => (l.remove e.1, .ok .nothing)
  | .setStrings key items =>
    match items.find? fun d => d.text?.isNone with
    | some d => (l, .error (.itemNotText d))
    | none => l.set key (.text (Text.join "," (items.filterMap Datum.text?)))
  | .update entries => l.update entries
  | .pop key default =>
    match l.named? key, default with
    | .error e, _ => (l, .error e)
    | .ok (some e), _ => (l.remove e.1, .ok (.value (.text e.2)))
    | .ok none, some d => (l, .ok (.value d))
    | .ok none, none => (l, .error (.missing key))
  | .popFirst =>
    match l with
    | [] => ([], .error .empty)
    | e :: l => (l, .ok (.entry (.text e.1) (.text e.2)))
  | .setDefault key value =>
    match l.named? key with
    | .error e => (l, .error e)
    | .ok (some e) => (l, .ok (.value (.text e.2)))
    | .ok none => ((l.set key value).1, (l.set key value).2.map fun _ => .value value)
  | .clear => ([], .ok .nothing)

/-- The settings after a change that succeeds. -/
def whole : Settings × Outcome → Except ConfError Settings
  | (l, .ok _) => .ok l
  | (_, .error e) => .error e

/-- What a derivation makes. -/
def derive (l : Settings) : Derivation → Except ConfError Settings
  | .copy => .ok l
  | .overlay properties => whole (l.update (properties.getD []))
  | .withDefault addresses key =>
    if addresses.isVoid then .ok l
    else match l.named? key with
      | .error e => .error e
      | .ok none => whole (l.set key addresses)
      | .ok (some e) => if e.2 = "" then whole (l.set key addresses) else .ok l

/-- Configurations as lists of settings. -/
def store : Store Settings where
  construct := fun entries => whole (update [] entries)
  derive := derive
  change := change

/-! ## Assigning -/

theorem put_eq_assign {es : List (String × String)} (h : (es.map Prod.fst).Nodup) (k v : String) :
    OrderedMap.put k v es = assign es k v := by
  unfold assign
  induction es with
  | nil => rfl
  | cons e es ih =>
    obtain ⟨he, hes⟩ := List.nodup_cons.1 h
    rw [OrderedMap.put]
    by_cases hk : e.1 = k
    · have hrest : (es.map fun e => if e.1 = k then (k, v) else e) = es := by
        refine (List.map_congr_left fun e' he' => if_neg fun hek => he ?_).trans (List.map_id' es)
        rw [hk, ← hek]
        exact List.mem_map_of_mem he'
      rw [if_pos hk, if_pos (by rw [← hk]; exact List.mem_cons_self), List.map_cons, if_pos hk,
        hrest]
    · have hmem : k ∈ (e :: es).map Prod.fst ↔ k ∈ es.map Prod.fst := by
        simp [Ne.symm hk]
      rw [if_neg hk, ih hes, if_congr hmem rfl rfl]
      split_ifs
      · rw [List.map_cons, if_neg hk]
      · rw [List.cons_append]

theorem entries_insert (c : JobConf) (k v : String) :
    (c.insert k v).entries = assign c.entries k v :=
  put_eq_assign c.nodup k v

theorem entries_insertMany (c : JobConf) (ts : List (String × String)) :
    (c.insertMany ts).entries = assignAll c.entries ts := by
  induction ts generalizing c with
  | nil => rfl
  | cons e ts ih =>
    have hstep : c.insertMany (e :: ts) = (c.insert e.1 e.2).insertMany ts := rfl
    rw [hstep, ih, entries_insert]
    rfl

theorem texts?_refused {k v : Datum} (h : Refused k v) : texts? (k, v) = none := by
  unfold texts?
  rcases h with h | h
  · rw [h]
    rfl
  · rw [h]
    cases k.text? <;> rfl

/-- An entry of texts is assigned, then the others are. -/
theorem update_cons_texts (l : Settings) (e : String × String) (es : Table) :
    l.update ((.text e.1, .text e.2) :: es) = (l.assign e.1 e.2).update es := by
  have htexts : texts? (.text e.1, .text e.2) = some e := rfl
  simp only [update, List.takeWhile_cons, List.find?_cons, htexts, Option.isSome_some,
    Option.isNone_some, if_true]
  rw [List.filterMap_cons_some htexts]
  rfl

theorem update_cons_refused (l : Settings) {k v : Datum} (h : Refused k v) (more : Table) :
    l.update ((k, v) :: more) = (l, .error (.notText k v)) := by
  simp only [update, List.takeWhile_cons, List.find?_cons, texts?_refused h, Option.isSome_none,
    Option.isNone_none]
  rfl

theorem update_textEntries (l : Settings) (ts : List (String × String)) :
    l.update (textEntries ts) = (l.assignAll ts, .ok .nothing) := by
  induction ts generalizing l with
  | nil => rfl
  | cons e ts ih => exact (update_cons_texts l e _).trans (ih _)

theorem update_refused (l : Settings) (ts : List (String × String)) {k v : Datum} (more : Table)
    (h : Refused k v) :
    l.update (textEntries ts ++ (k, v) :: more) = (l.assignAll ts, .error (.notText k v)) := by
  induction ts generalizing l with
  | nil => exact update_cons_refused l h more
  | cons e ts ih => exact (update_cons_texts l e _).trans (ih _)

/-! ## Finding -/

theorem find?_eq_lookup (l : Settings) (k : String) :
    (l.find? fun e => some k = some e.1) = (OrderedMap.lookup k l).map fun v => (k, v) := by
  induction l with
  | nil => rfl
  | cons e l ih =>
    obtain ⟨k', v⟩ := e
    rw [OrderedMap.lookup]
    by_cases hk : k' = k
    · rw [List.find?_cons_of_pos (by simp [hk]), if_pos hk, hk]
      rfl
    · rw [List.find?_cons_of_neg (by simp [Ne.symm hk]), if_neg hk, ih]

/-- A setting is found under a name exactly if the configuration has a value there. -/
theorem named?_cases (c : JobConf) (key : Datum) :
    (∃ k v, key = .text k ∧ c.get? key = .ok (some v) ∧ named? c.entries key = .ok (some (k, v))) ∨
      (c.get? key = .ok none ∧ named? c.entries key = .ok none) ∨
      ∃ e, c.get? key = .error e ∧ named? c.entries key = .error e := by
  rcases c.get?_cases key with ⟨k, v, rfl, hfind, hget⟩ | ⟨hname, hfind, hget⟩ | ⟨hname, hget⟩
  · have hnamed : named? c.entries (.text k) = .ok ((c.find? k).map fun v => (k, v)) :=
      congrArg Except.ok (find?_eq_lookup c.entries k)
    exact .inl ⟨k, v, rfl, hget, by rw [hnamed, hfind]; rfl⟩
  · refine .inr (.inl ⟨hget, ?_⟩)
    rw [named?, if_neg hname]
    cases htext : key.text? with
    | none => simp
    | some k =>
      rw [find?_eq_lookup]
      exact congrArg (fun o => Except.ok (o.map fun v => (k, v)))
        (hfind k (Datum.text?_eq_some_iff.1 htext))
  · exact .inr (.inr ⟨_, hget, if_pos hname⟩)

/-! ## Setting -/

/-- The settings after an operation of a configuration, with its outcome. -/
def view (r : JobConf × Outcome) : Settings × Outcome := (r.1.entries, r.2)

theorem set_of_refused (l : Settings) {k v : Datum} (h : Refused k v) :
    l.set k v = (l, .error (.notText k v)) := by
  unfold set
  rcases h with h | h
  · rw [h]
  · rw [h]
    cases k.text? <;> rfl

variable (c : JobConf)

theorem set_entries (key value : Datum) :
    set c.entries key value = view (c.settleUnit (c.set key value)) := by
  rcases text_or_refused key value with ⟨k, v, rfl, rfl⟩ | h
  · exact congrArg (·, Except.ok Reply.nothing) (entries_insert c k v).symm
  · rw [set_of_refused _ h, JobConf.set_refused c h]
    rfl

theorem whole_set (key value : Datum) :
    whole (set c.entries key value) = (c.set key value).map OrderedMap.entries := by
  rw [set_entries]
  cases c.set key value <;> rfl

theorem update_entries (entries : Table) :
    update c.entries entries =
      view (c.change (.update entries)) := by
  rcases textEntries_or_refused entries with ⟨ts, rfl⟩ | ⟨ts, k, v, more, rfl, h⟩
  · rw [update_textEntries, JobConf.change, JobConf.assign_textEntries, ← entries_insertMany]
    rfl
  · rw [update_refused _ ts more h, JobConf.change, JobConf.assign_refused c ts more h,
      ← entries_insertMany]
    rfl

theorem whole_update (entries : Table) :
    whole (update c.entries entries) = (c.assignAll entries).map OrderedMap.entries := by
  rcases textEntries_or_refused entries with ⟨ts, rfl⟩ | ⟨ts, k, v, more, rfl, h⟩
  · rw [update_textEntries, JobConf.assignAll, JobConf.assign_textEntries, ← entries_insertMany]
    rfl
  · rw [update_refused _ ts more h, JobConf.assignAll, JobConf.assign_refused c ts more h]
    rfl

theorem textItems_eq (items : List Datum) :
    JobConf.textItems items =
      match items.find? fun d => d.text?.isNone with
      | some d => .error (.itemNotText d)
      | none => .ok (items.filterMap Datum.text?) := by
  induction items with
  | nil => rfl
  | cons d items ih =>
    cases d with
    | text s =>
      rw [JobConf.textItems, ih, List.find?_cons_of_neg (by simp),
        List.filterMap_cons_some (Datum.text?_text s)]
      cases items.find? fun d => d.text?.isNone <;> rfl
    | _ => rfl

/-! ## The store -/

theorem delete_entries (key : Datum) :
    change c.entries (.delete key) = view (c.change (.delete key)) := by
  simp only [change, JobConf.change, JobConf.delete, JobConf.get]
  rcases named?_cases c key with ⟨k, v, rfl, hget, hnamed⟩ | ⟨hget, hnamed⟩ | ⟨e, hget, hnamed⟩
  all_goals
    rw [hget, hnamed]
    rfl

theorem setStrings_entries (key : Datum) (items : List Datum) :
    change c.entries (.setStrings key items) = view (c.change (.setStrings key items)) := by
  simp only [change, JobConf.change, JobConf.setStrings]
  rw [textItems_eq]
  cases items.find? fun d => d.text?.isNone with
  | some d => rfl
  | none => exact set_entries c key _

theorem pop_entries (key : Datum) (default : Option Datum) :
    change c.entries (.pop key default) = view (c.change (.pop key default)) := by
  simp only [change, JobConf.change, JobConf.pop]
  rcases named?_cases c key with ⟨k, v, rfl, hget, hnamed⟩ | ⟨hget, hnamed⟩ | ⟨e, hget, hnamed⟩
  all_goals
    rw [hget, hnamed]
    cases default <;> rfl

theorem setDefault_entries (key value : Datum) :
    change c.entries (.setDefault key value) = view (c.change (.setDefault key value)) := by
  simp only [change, JobConf.change, JobConf.setDefault]
  rcases named?_cases c key with ⟨k, v, rfl, hget, hnamed⟩ | ⟨hget, hnamed⟩ | ⟨e, hget, hnamed⟩
  · rw [hget, hnamed]
    rfl
  · rw [hget, hnamed]
    dsimp only
    rw [set_entries]
    cases c.set key value <;> rfl
  · rw [hget, hnamed]
    rfl

theorem popFirst_entries : change c.entries .popFirst = view (c.change .popFirst) := by
  simp only [change, JobConf.change, JobConf.popFirst]
  cases hc : c.entries with
  | nil => exact congrArg (·, Except.error ConfError.empty) hc.symm
  | cons e l =>
    exact congrArg (·, Except.ok (Reply.entry (.text e.1) (.text e.2)))
      (OrderedMap.entries_erase_of_cons hc).symm

theorem change_entries (ch : Change) : change c.entries ch = view (c.change ch) := by
  cases ch with
  | set key value => exact set_entries c key value
  | delete key => exact delete_entries c key
  | setStrings key items => exact setStrings_entries c key items
  | update entries => exact update_entries c entries
  | pop key default => exact pop_entries c key default
  | popFirst => exact popFirst_entries c
  | setDefault key value => exact setDefault_entries c key value
  | clear => rfl

theorem derive_entries (d : Derivation) :
    derive c.entries d = (c.derive d).map OrderedMap.entries := by
  cases d with
  | copy => rfl
  | overlay properties => exact whole_update c _
  | withDefault addresses key =>
    simp only [derive, JobConf.derive, JobConf.withDefaultUnder]
    cases addresses.isVoid with
    | true => rfl
    | false =>
      rcases named?_cases c key with ⟨k, v, rfl, hget, hnamed⟩ | ⟨hget, hnamed⟩ | ⟨e, hget, hnamed⟩
      · rw [hget, hnamed, whole_set]
        by_cases hv : v = ""
        · rw [hv]
          rfl
        · have hfilter : (some v).filter (· ≠ "") = some v := by simp [Option.filter, hv]
          simp only [Bool.false_eq_true, if_false, hv, Bind.bind, Except.bind, hfilter]
          rfl
      · rw [hget, hnamed, whole_set]
        rfl
      · rw [hget, hnamed]
        rfl

/-- A configuration does with its entries what is done with lists of settings. -/
theorem settings_maps : JobConf.store.Maps store OrderedMap.entries where
  construct := whole_update .empty
  derive := derive_entries
  change := change_entries

end Settings

end StorageHandler
