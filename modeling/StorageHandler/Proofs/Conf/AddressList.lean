import StorageHandler.Conf.Address
import StorageHandler.Conf.ListValue
import StorageHandler.Proofs.Results
import StorageHandler.Proofs.Text.Cut

/-!
# Lists of addresses, entry by entry

The entries of a list are its pieces between the commas, stripped, without the empty ones
(`entries_eq_iff`), as a configuration reads them too. A list of addresses is read all or nothing :
it is refused with the first entry that is refused alone, or it has one address for each entry, the
one that the entry gives alone (`entryWise_readAll`). So a list with another one behind it has the
addresses of the one, then those of the other (`readAll_entryWise`).
-/

namespace StorageHandler

variable {s : String} {es : List String}

/-- `es` are the pieces of `s` between the commas, stripped, without the empty ones. -/
def EntriesOf (s : String) (es : List String) : Prop :=
  ∃ pieces, Text.Pieces pieces s ∧ es = (pieces.map Text.strip).filter (· ≠ "")

theorem entries_eq_iff : Text.entries s = es ↔ EntriesOf s es := by
  constructor
  · rintro rfl
    exact ⟨Text.split ',' s, Text.pieces_split s, rfl⟩
  · rintro ⟨pieces, hpieces, rfl⟩
    rw [Text.entries, Text.split_eq_iff.2 hpieces]

/-- A configuration reads the same entries. -/
theorem getStrings_of_find?_eq_some {c : JobConf} {key : String} (h : c.find? key = some s) :
    c.getStrings (.text key) = .ok (Text.entries s) := by
  have hget : c.get? (.text key) = .ok (some s) := congrArg Except.ok h
  rw [JobConf.getStrings, hget]
  rfl

namespace Address

variable {a : Address} {as bs : List Address} {error : AddressError}

/-! ## Lists from entries -/

theorem readAll_eq (s : String) :
    readAll s = (Text.entries s).mapM read >>= fun as =>
      if as = [] then .error (.noEntries s) else .ok as := by
  rw [readAll]
  congr
  funext as
  cases as <;> rfl

/-- An entry alone gives its address alone. -/
theorem readAll_of_isEntry {e : String} (h : Text.IsEntry e) :
    readAll e = (read e).map fun a => [a] := by
  rw [readAll_eq, Text.entries_of_isEntry h, List.mapM_cons, List.mapM_nil]
  cases read e <;> rfl

theorem readAll_eq_ok_iff_of_isEntry {e : String} (h : Text.IsEntry e) :
    readAll e = .ok as ↔ ∃ a, as = [a] ∧ read e = .ok a := by
  rw [readAll_of_isEntry h]
  cases read e with
  | error error => simp [Except.map]
  | ok a => simp [Except.map, eq_comm]

theorem readAll_eq_ok_singleton_iff {e : String} (h : Text.IsEntry e) :
    readAll e = .ok [a] ↔ read e = .ok a := by
  simp [readAll_eq_ok_iff_of_isEntry h]

theorem readAll_eq_error_iff_of_isEntry {e : String} (h : Text.IsEntry e) :
    readAll e = .error error ↔ read e = .error error := by
  rw [readAll_of_isEntry h]
  cases read e with
  | error error' => simp [Except.map]
  | ok a => simp [Except.map]

theorem readAll_eq_ok_iff :
    readAll s = .ok as ↔ as ≠ [] ∧ (Text.entries s).mapM read = .ok as := by
  rw [readAll_eq]
  cases (Text.entries s).mapM read with
  | error error => simp [bind, Except.bind]
  | ok as' =>
    change (if as' = [] then _ else _) = _ ↔ _
    split_ifs with hnil
    · subst hnil
      exact iff_of_false (by simp) fun h => h.1 (Except.ok.inj h.2).symm
    · constructor
      · intro h
        exact ⟨Except.ok.inj h ▸ hnil, h⟩
      · exact And.right

/-! ## All or nothing -/

/-- What a list `s` with the entries `es` must give : it has no entries, or its first entry that is
refused alone is `e`, or every entry gives one address alone. -/
inductive EntryWise (s : String) (es : List String) : Except AddressError (List Address) → Prop
  | none (hes : es = []) : EntryWise s es (.error (.noEntries s))
  | rejected {pre post : List String} {e : String} {error : AddressError}
    (hes : es = pre ++ e :: post) (hpre : ∀ e' ∈ pre, ∃ a, readAll e' = .ok [a])
    (he : readAll e = .error error) : EntryWise s es (.error error)
  | accepted {as : List Address} (hes : es ≠ [])
    (has : List.Forall₂ (fun e a => readAll e = .ok [a]) es as) : EntryWise s es (.ok as)

theorem entryWise_readAll (s : String) : EntryWise s (Text.entries s) (readAll s) := by
  have hentry : ∀ e ∈ Text.entries s, Text.IsEntry e := fun _ => Text.isEntry_of_mem_entries
  rw [readAll_eq]
  cases hresult : (Text.entries s).mapM read with
  | error error =>
    obtain ⟨pre, e, post, hes, hpre, he⟩ := mapM_eq_error_iff.1 hresult
    rw [hes, List.forall_mem_append, List.forall_mem_cons] at hentry
    refine .rejected hes (fun e' he' => ?_) ((readAll_eq_error_iff_of_isEntry hentry.2.1).2 he)
    obtain ⟨a, ha⟩ := hpre e' he'
    exact ⟨a, (readAll_eq_ok_singleton_iff (hentry.1 e' he')).2 ha⟩
  | ok as =>
    have heach := mapM_eq_ok_iff_forall₂.1 hresult
    change EntryWise _ _ (if as = [] then _ else _)
    split_ifs with hnil
    · rw [hnil, List.forall₂_nil_right_iff] at heach
      exact .none heach
    · refine .accepted (fun hes => hnil (List.forall₂_nil_left_iff.1 (hes ▸ heach))) ?_
      exact ((List.forall₂_and_left _ _).2 ⟨hentry, heach⟩).imp fun _ _ h =>
        (readAll_eq_ok_singleton_iff h.1).2 h.2

/-! ## One list behind another -/

/-- A list that has no entries, or that is accepted with the addresses `as`. -/
def Yields (s : String) (as : List Address) : Prop :=
  (Text.entries s = [] ∧ as = []) ∨ readAll s = .ok as

theorem Yields.mapM_eq (h : Yields s as) : (Text.entries s).mapM read = .ok as := by
  rcases h with ⟨hes, rfl⟩ | h
  · rw [hes]
    rfl
  · exact (readAll_eq_ok_iff.1 h).2

theorem Yields.ne_nil (h : Yields s as) (hes : Text.entries s ≠ []) : as ≠ [] := by
  rcases h with ⟨hnil, -⟩ | h
  · exact absurd hnil hes
  · exact (readAll_eq_ok_iff.1 h).1

theorem readAll_append_comma {s t : String} (hs : Yields s as) (ht : Yields t bs)
    (hentries : Text.entries s ≠ [] ∨ Text.entries t ≠ []) :
    readAll (s ++ "," ++ t) = .ok (as ++ bs) := by
  refine readAll_eq_ok_iff.2 ⟨fun hnil => ?_, ?_⟩
  · obtain ⟨has, hbs⟩ := List.append_eq_nil_iff.1 hnil
    rcases hentries with h | h
    · exact hs.ne_nil h has
    · exact ht.ne_nil h hbs
  · rw [Text.entries_append_comma, List.mapM_append, hs.mapM_eq, ht.mapM_eq]
    rfl

/-- A list of addresses is read entry by entry, all or nothing, and an entry alone as the one
address that it is read as. Lists are only ever refused for their configuration, and lists with a
comma between them give the addresses of both. -/
theorem readAll_entryWise :
    (∀ s es, Text.entries s = es ↔ EntriesOf s es) ∧
    (∀ (s : String) (c : JobConf) (key : String), c.find? key = some s →
      c.getStrings (.text key) = .ok (Text.entries s)) ∧
    (∀ s, EntryWise s (Text.entries s) (readAll s)) ∧
    (∀ e, Text.IsEntry e → readAll e = (read e).map fun a => [a]) ∧
    (∀ s error, readAll s = .error error → error.failure.kind = .configuration) ∧
    ∀ s t as bs, Yields s as → Yields t bs → Text.entries s ≠ [] ∨ Text.entries t ≠ [] →
      readAll (s ++ "," ++ t) = .ok (as ++ bs) :=
  ⟨fun _ _ => entries_eq_iff, fun _ _ _ => getStrings_of_find?_eq_some, entryWise_readAll,
    fun _ => readAll_of_isEntry, fun _ _ _ => rfl, fun _ _ _ _ => readAll_append_comma⟩

theorem readAll_entryWise_blankThenTwo :
    JobConf.getStrings (.ofList [("k", " , ")]) (.text "k") = .ok (Text.entries " , ") ∧
      readAll "[::1]:9" = .ok [⟨"::1", 9⟩] ∧
      (AddressError.noEntries " , ").failure.kind = .configuration ∧
      readAll (" , " ++ "," ++ "alpha,[::1]:9") = .ok ([] ++ [⟨"alpha", 7051⟩, ⟨"::1", 9⟩]) := by
  have hblank : Text.entries " , " = [] := by decide
  have hrefused : readAll " , " = .error (.noEntries " , ") := by decide
  have hone : Text.IsEntry "[::1]:9" := ⟨by decide, by decide, by decide⟩
  have htwo : readAll "alpha,[::1]:9" = .ok [⟨"alpha", 7051⟩, ⟨"::1", 9⟩] := by decide +kernel
  have hentries : Text.entries "alpha,[::1]:9" ≠ [] := by decide
  obtain ⟨-, hstrings, -, halone, hkind, happend⟩ := readAll_entryWise
  refine ⟨hstrings _ _ "k" (by decide), ?_, hkind _ _ hrefused,
    happend _ _ _ _ (.inl ⟨hblank, rfl⟩) (.inr htwo) (.inr hentries)⟩
  rw [halone _ hone]
  decide +kernel

end Address

end StorageHandler
