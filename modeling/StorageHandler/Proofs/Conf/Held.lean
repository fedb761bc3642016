import Mathlib.Data.List.GetD
import StorageHandler.Proofs.Conf.Entries
import StorageHandler.Proofs.Conf.Masters

/-!
# Configurations that are held by reference

A caller goes on holding the configuration that it hands over. `Held` numbers the configurations of
a process ; the default masters are written into a copy of the caller's, which is a new one
(`Held.seed`). The copy is the configuration with the default (`seed_of_taken`), and the
configurations that were held before are as they were (`prefix_seed`).
-/

namespace StorageHandler

/-- Changing what is behind a list changes nothing before it. -/
theorem modify_append_length {α : Type} (l : List α) (a : α) (f : α → α) :
    (l ++ [a]).modify l.length f = l ++ [f a] := by
  induction l with
  | nil => rfl
  | cons b l ih =>
    rw [List.cons_append, List.length_cons, List.modify_succ_cons, ih, List.cons_append]

/-- The configurations that the parties of a process hold, by number. -/
abbrev Held := List Table

namespace Held

/-- Configuration `i`, without entries if there is none. -/
def conf (held : Held) (i : ℕ) : Table := held.getD i []

/-- Configuration `i` as far as its entries are taken. -/
def jobConf (held : Held) (i : ℕ) : JobConf := (JobConf.assign .empty (held.conf i)).1

/-- A new configuration with the entries of configuration `i` as far as they are taken. Its number,
or why an entry was refused. -/
def copy (held : Held) (i : ℕ) : Held × Except ConfError ℕ :=
  match JobConf.assign .empty (held.conf i) with
  | (c, none) => (held ++ [c.toEntries], .ok held.length)
  | (c, some e) => (held ++ [c.toEntries], .error e)

/-- Gives a setting of configuration `i` a text. -/
def write (held : Held) (i : ℕ) (key value : String) : Held :=
  held.modify i (Table.put (.text key) (.text value))

/-- A copy of configuration `i`, into which the default masters are written if it names none. -/
def seed (held : Held) (i : ℕ) (addresses : Option String) : Held × Except ConfError ℕ :=
  match held.copy i with
  | (held, .error e) => (held, .error e)
  | (held, .ok j) =>
    match addresses.filter (· ≠ ""), (held.jobConf j).nonempty? defaultMastersKey with
    | some a, none => (held.write j defaultMastersKey a, .ok j)
    | _, _ => (held, .ok j)

/-! ## Copies -/

theorem copy_of_refused {held : Held} {i : ℕ} {e : ConfError}
    (h : JobConf.ofEntries (held.conf i) = .error e) :
    ∃ t, held.copy i = (held ++ [t], .error e) := by
  rw [JobConf.ofEntries, JobConf.assignAll] at h
  rw [copy]
  generalize JobConf.assign .empty (held.conf i) = assigned at h ⊢
  obtain ⟨c, _ | error⟩ := assigned
  · cases h
  · obtain rfl := Except.error.inj h
    exact ⟨_, rfl⟩

theorem copy_of_taken {held : Held} {i : ℕ} {c : JobConf}
    (h : JobConf.ofEntries (held.conf i) = .ok c) :
    held.copy i = (held ++ [c.toEntries], .ok held.length) := by
  rw [JobConf.ofEntries, JobConf.assignAll] at h
  rw [copy]
  generalize JobConf.assign .empty (held.conf i) = assigned at h ⊢
  obtain ⟨c', _ | error⟩ := assigned
  · obtain rfl := Except.ok.inj h
    rfl
  · cases h

theorem conf_append_length (held : Held) (t : Table) : conf (held ++ [t]) held.length = t := by
  simp [conf]

/-- The entries of a configuration that is held make it again. -/
theorem jobConf_append_length (held : Held) (c : JobConf) :
    jobConf (held ++ [c.toEntries]) held.length = c := by
  rw [jobConf, conf_append_length, JobConf.toEntries, JobConf.assign_texts]
  exact c.ofList_entries

/-- Writing into a configuration that is held is giving it a setting. -/
theorem write_append_length (held : Held) (c : JobConf) (key value : String) :
    write (held ++ [c.toEntries]) held.length key value =
      held ++ [JobConf.toEntries (c.insert key value)] := by
  rw [write, modify_append_length]
  exact congrArg (held ++ [·]) (put_textEntries key value c.entries)

/-! ## Seeding -/

theorem seed_of_refused {held : Held} {i : ℕ} {e : ConfError}
    (h : JobConf.ofEntries (held.conf i) = .error e) (addresses : Option String) :
    ∃ t, held.seed i addresses = (held ++ [t], .error e) := by
  obtain ⟨t, ht⟩ := copy_of_refused h
  exact ⟨t, by rw [seed, ht]⟩

/-- The default is written into the copy and into nothing else. -/
theorem seed_of_taken {held : Held} {i : ℕ} {c : JobConf}
    (h : JobConf.ofEntries (held.conf i) = .ok c) (addresses : Option String) :
    held.seed i addresses =
      (held ++ [JobConf.toEntries (c.withDefaultMasters addresses defaultMastersKey)],
        .ok held.length) := by
  rw [seed, copy_of_taken h, JobConf.withDefaultMasters]
  dsimp only
  rw [jobConf_append_length]
  cases addresses.filter (· ≠ "") with
  | none => rfl
  | some a =>
    cases c.nonempty? defaultMastersKey with
    | none => exact congrArg (·, Except.ok held.length) (write_append_length held c _ a)
    | some v => rfl

/-- The configurations that were held stay as they are. -/
theorem prefix_seed (held : Held) (i : ℕ) (addresses : Option String) :
    held <+: (held.seed i addresses).1 := by
  cases h : JobConf.ofEntries (held.conf i) with
  | error e =>
    obtain ⟨t, ht⟩ := seed_of_refused h addresses
    rw [ht]
    exact List.prefix_append held [t]
  | ok c =>
    rw [seed_of_taken h]
    exact List.prefix_append held _

theorem conf_of_prefix {held held' : Held} (h : held <+: held') {i : ℕ} (hi : i < held.length) :
    held'.conf i = held.conf i := by
  obtain ⟨more, rfl⟩ := h
  exact List.getD_append held more [] i hi

end Held

end StorageHandler
