import Mathlib.Data.List.Nodup
import StorageHandler.Proofs.Conf.Dictionary
import StorageHandler.Proofs.Conf.Settings

/-!
# What a run makes of configurations

However configurations are constructed, derived and changed, they hold what lists of settings hold
that are handled the same way, and operations end in the same way (`run_refines`). The dictionaries
under them hold texts only, each name once. An operation that fails changes nothing, except an
update, which leaves the entries before the first bad one assigned. Two configurations have the same
entries exactly if every name looks the same up in both.
-/

namespace StorageHandler

/-- A dictionary of texts with distinct names. -/
structure Table.OfTexts (t : Table) : Prop where
  texts : ∀ e ∈ t, ∃ k v, e = (.text k, .text v)
  distinct : (t.map Prod.fst).Nodup

namespace JobConf

theorem ofTexts_toEntries (c : JobConf) : Table.OfTexts c.toEntries where
  texts := by
    intro e he
    obtain ⟨e, -, rfl⟩ := List.mem_map.1 he
    exact ⟨e.1, e.2, rfl⟩
  distinct := by
    have hnames : c.toEntries.map Prod.fst = c.keys.map Datum.text := by
      rw [toEntries, OrderedMap.keys, List.map_map, List.map_map]
      rfl
    have hinjective : Function.Injective Datum.text := fun _ _ h => Datum.text.inj h
    rw [hnames]
    exact List.Nodup.map hinjective c.nodup

/-! ## Failing operations -/

theorem settle_failed {α : Type} {c : JobConf} {reply : α → Reply} {e : ConfError}
    {r : Except ConfError (α × JobConf)} (h : (c.settle reply r).2 = .error e) :
    (c.settle reply r).1 = c := by
  cases r with
  | error _ => rfl
  | ok _ => cases h

theorem change_failed {c : JobConf} {ch : Change} {e : ConfError} (h : (c.change ch).2 = .error e)
    (hch : ∀ entries, ch ≠ .update entries) : (c.change ch).1 = c := by
  cases ch with
  | update entries => exact absurd rfl (hch entries)
  | clear => cases h
  | _ => exact settle_failed h

/-- An update that fails stops at the first entry that is not of texts. -/
theorem update_failed {c : JobConf} {entries : Table} {e : ConfError}
    (h : (c.change (.update entries)).2 = .error e) :
    ∃ ts k v more, entries = textEntries ts ++ (k, v) :: more ∧ Refused k v ∧ e = .notText k v ∧
      (c.change (.update entries)).1 = c.insertMany ts := by
  simp only [change] at *
  rcases textEntries_or_refused entries with ⟨ts, rfl⟩ | ⟨ts, k, v, more, rfl, hrefused⟩
  · rw [assign_textEntries] at h
    cases h
  · rw [assign_refused c ts more hrefused] at h ⊢
    cases h
    exact ⟨ts, k, v, more, rfl, hrefused, rfl, rfl⟩

theorem keep_failed {confs : List JobConf} {r : Except ConfError JobConf} {e : ConfError}
    (h : (Store.keep confs r).2 = some (.error e)) : (Store.keep confs r).1 = confs := by
  cases r with
  | error _ => rfl
  | ok _ => cases h

theorem step_failed {confs : List JobConf} {op : Operation} {e : ConfError}
    (h : (store.step confs op).2 = some (.error e))
    (hop : ∀ i entries, op ≠ .change i (.update entries)) : (store.step confs op).1 = confs := by
  cases op with
  | construct entries => exact keep_failed h
  | derive i d =>
    simp only [Store.step] at *
    cases hi : confs[i]? with
    | none => rfl
    | some c =>
      rw [hi] at h
      exact keep_failed h
  | change i ch =>
    simp only [Store.step] at *
    cases hi : confs[i]? with
    | none => rfl
    | some c =>
      rw [hi] at h
      have hc : (c.change ch).1 = c := change_failed (Option.some.inj h) fun entries hch =>
        hop i entries (hch ▸ rfl)
      have hset : confs.set i c = confs := by
        obtain ⟨hlt, rfl⟩ := List.getElem?_eq_some_iff.1 hi
        exact List.set_getElem_self hlt
      exact (congrArg (confs.set i) hc).trans hset

theorem toEntries_insertMany (c : JobConf) (ts : List (String × String)) :
    JobConf.toEntries (c.insertMany ts) = Table.putAll c.toEntries (textEntries ts) := by
  induction ts generalizing c with
  | nil => rfl
  | cons e ts ih =>
    have hput : Table.put (.text e.1) (.text e.2) c.toEntries =
        JobConf.toEntries (c.insert e.1 e.2) :=
      put_textEntries e.1 e.2 c.entries
    have hstep : Table.putAll c.toEntries (textEntries (e :: ts)) =
        Table.putAll (Table.put (.text e.1) (.text e.2) c.toEntries) (textEntries ts) := rfl
    rw [hstep, hput]
    exact ih (c.insert e.1 e.2)

/-! ## Runs -/

/-- What is true of the configurations that operations have made. -/
structure Refines (ops : List Operation) : Prop where
  /-- The settings are those of lists that are handled the same way. -/
  settings : Settings.store.run [] ops =
    ((store.run [] ops).1.map OrderedMap.entries, (store.run [] ops).2)
  /-- The dictionaries hold these settings. -/
  dictionaries : InPlace.dictionary.run [] ops =
    ((store.run [] ops).1.map toEntries, (store.run [] ops).2)
  texts : ∀ t ∈ (InPlace.dictionary.run [] ops).1, Table.OfTexts t
  /-- Failing changes nothing and makes nothing. -/
  failed : ∀ op e,
    (InPlace.dictionary.step (InPlace.dictionary.run [] ops).1 op).2 = some (.error e) →
    (∀ i entries, op ≠ .change i (.update entries)) →
    (InPlace.dictionary.step (InPlace.dictionary.run [] ops).1 op).1 =
      (InPlace.dictionary.run [] ops).1
  /-- An update that fails has put the entries before the first that is not of texts. -/
  updateFailed : ∀ t ∈ (InPlace.dictionary.run [] ops).1, ∀ entries e,
    (InPlace.dictionary.change t (.update entries)).2 = .error e →
    ∃ ts k v more, entries = textEntries ts ++ (k, v) :: more ∧ Refused k v ∧ e = .notText k v ∧
      (InPlace.dictionary.change t (.update entries)).1 = Table.putAll t (textEntries ts)
  /-- Configurations are the same if every name looks the same up in both. -/
  same : ∀ c ∈ (store.run [] ops).1, ∀ d ∈ (store.run [] ops).1,
    c.sameEntries d = true ↔ ∀ key, c.get? key = d.get? key

theorem sameEntries_iff_get? (c d : JobConf) :
    c.sameEntries d = true ↔ ∀ key, c.get? key = d.get? key := by
  rw [OrderedMap.sameEntries_iff]
  constructor
  · intro h key
    cases key with
    | text k => exact congrArg Except.ok (h k)
    | _ => rfl
  · intro h k
    exact Except.ok.inj (h (.text k))

theorem run_refines (ops : List Operation) : Refines ops := by
  have hrun : InPlace.dictionary.run [] ops =
      ((store.run [] ops).1.map toEntries, (store.run [] ops).2) :=
    InPlace.dictionary_maps.run_eq [] ops
  have htables : (InPlace.dictionary.run [] ops).1 = (store.run [] ops).1.map toEntries :=
    congrArg Prod.fst hrun
  refine ⟨Settings.settings_maps.run_eq [] ops, hrun, ?_, ?_, ?_, ?_⟩
  · intro t ht
    rw [htables] at ht
    obtain ⟨c, -, rfl⟩ := List.mem_map.1 ht
    exact c.ofTexts_toEntries
  · intro op e h hop
    rw [htables, InPlace.dictionary_maps.step_eq] at *
    exact congrArg (List.map toEntries) (step_failed h hop)
  · intro t ht entries e h
    rw [htables] at ht
    obtain ⟨c, -, rfl⟩ := List.mem_map.1 ht
    rw [InPlace.dictionary_maps.change] at *
    obtain ⟨ts, k, v, more, hentries, hrefused, he, hc⟩ := update_failed h
    exact ⟨ts, k, v, more, hentries, hrefused, he,
      (congrArg toEntries hc).trans (toEntries_insertMany c ts)⟩
  · exact fun c _ d _ => sameEntries_iff_get? c d

/-- A setting that was deleted comes back at the end, and an update stops at its bad entry. -/
example :
    (store.run []
      [.construct [(.text "a", .text "1"), (.text "b", .text "2")],
        .change 0 (.delete (.text "a")),
        .change 0 (.update [(.text "a", .text "3"), (.text "c", .null), (.text "d", .text "4")]),
        .derive 0 (.withDefault (.text "m:1") (.text "b"))]).1.map OrderedMap.entries =
      [[("b", "2"), ("a", "3")], [("b", "2"), ("a", "3")]] := by
  decide

end JobConf

end StorageHandler
