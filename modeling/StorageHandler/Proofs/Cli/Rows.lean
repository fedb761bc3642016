import StorageHandler.Proofs.Cli.TokenList
import StorageHandler.Proofs.Text.Cut
import StorageHandler.Proofs.Token.RoundTrip

/-!
# The list of tokens as a table

The list of tokens has a line for each token, with tabs between the alias, the kind and the service.
None of the three is escaped. So the tokens can be read off the list exactly if no tab and no line
break stands in any of them (`tabulates_iff`), and lists of such tokens are told apart
(`Inspection.tabulates_exactly`). A token whose alias has both can be listed like two other tokens
(`Inspection.not_tabulates_forgedRow`).
-/

namespace StorageHandler

namespace Cli

open TokenStorage (Storable takes_readCredentials)

/-! ## Tables -/

/-- What a row says of a token : its alias, its kind and its service. -/
def labelCells (e : String × String × String) : List String := [e.1, e.2.1, e.2.2]

theorem labelCells_injective : Function.Injective labelCells := by
  rintro ⟨name, kind, service⟩ ⟨name', kind', service'⟩ h
  simpa [labelCells] using h

/-- The text of a row, without the end of its line. -/
def rowText (e : String × String × String) : String := e.1 ++ "\t" ++ e.2.1 ++ "\t" ++ e.2.2

theorem join_labelCells (e : String × String × String) :
    Text.join "\t" (labelCells e) = rowText e := by
  simp [Text.join, labelCells, rowText, String.append_assoc]

/-- A text that can be told apart from what stands around it in a table. -/
structure IsCell (s : String) : Prop where
  tab : '\t' ∉ s.toList
  newline : '\n' ∉ s.toList

instance (s : String) : Decidable (IsCell s) :=
  decidable_of_iff ('\t' ∉ s.toList ∧ '\n' ∉ s.toList)
    ⟨fun ⟨htab, hnewline⟩ => ⟨htab, hnewline⟩, fun h => ⟨h.tab, h.newline⟩⟩

/-- All that labels say can be told apart in a table. -/
def Tabular (labels : List (String × String × String)) : Prop :=
  ∀ e ∈ labels, ∀ cell ∈ labelCells e, IsCell cell

instance (labels : List (String × String × String)) : Decidable (Tabular labels) :=
  inferInstanceAs (Decidable (∀ e ∈ labels, ∀ cell ∈ labelCells e, IsCell cell))

/-- The lines of an output are rows for the labels, one for each and in their order, and the last
line ends. What stands between the tabs of a row is what the label says. -/
def Tabulates (output : String) (labels : List (String × String × String)) : Prop :=
  ∃ rows, Text.split '\n' output = rows ++ [""] ∧
    rows.map (Text.split '\t') = labels.map labelCells

section Tables

variable {labels labels' : List (String × String × String)} {output : String}

/-- No output has rows for two lists of labels. -/
theorem Tabulates.unique (h : Tabulates output labels) (h' : Tabulates output labels') :
    labels = labels' := by
  obtain ⟨rows, hsplit, hrows⟩ := h
  obtain ⟨rows', hsplit', hrows'⟩ := h'
  obtain rfl : rows = rows' := List.append_cancel_right (hsplit.symm.trans hsplit')
  exact labelCells_injective.list_map (hrows.symm.trans hrows')

/-- What is read off a table has no separators in it. -/
theorem Tabulates.tabular (h : Tabulates output labels) : Tabular labels := by
  obtain ⟨rows, hsplit, hrows⟩ := h
  intro e he cell hcell
  obtain ⟨row, hrow, hcells⟩ : ∃ row ∈ rows, Text.split '\t' row = labelCells e :=
    List.mem_map.1 (hrows ▸ List.mem_map_of_mem he)
  refine ⟨Text.notMem_of_mem_split (hcells ▸ hcell), fun hnewline => ?_⟩
  have hline : '\n' ∉ row.toList :=
    Text.notMem_of_mem_split (hsplit ▸ List.mem_append_left [""] hrow)
  have htext : row = rowText e := by
    rw [← join_labelCells, ← hcells]
    exact (Text.join_split '\t' row).symm
  refine hline ?_
  rw [htext]
  simp only [labelCells, List.mem_cons, List.not_mem_nil, or_false] at hcell
  rcases hcell with rfl | rfl | rfl <;> simp [rowText, hnewline]

theorem forall_mem_labelCells {e : String × String × String} :
    (∀ cell ∈ labelCells e, IsCell cell) ↔ IsCell e.1 ∧ IsCell e.2.1 ∧ IsCell e.2.2 := by
  simp [labelCells]

theorem split_rowText {e : String × String × String} (h : ∀ cell ∈ labelCells e, IsCell cell) :
    Text.split '\t' (rowText e) = labelCells e := by
  obtain ⟨name, kind, service⟩ := e
  obtain ⟨hname, hkind, hservice⟩ := forall_mem_labelCells.1 h
  have hservices : Text.split '\t' (rowText (name, kind, service)) =
      Text.split '\t' (name ++ "\t" ++ kind) ++ Text.split '\t' service :=
    Text.split_append '\t' (name ++ "\t" ++ kind) service
  have hkinds : Text.split '\t' (name ++ "\t" ++ kind) =
      Text.split '\t' name ++ Text.split '\t' kind := Text.split_append '\t' name kind
  rw [hservices, hkinds, Text.split_of_notMem hname.tab, Text.split_of_notMem hkind.tab,
    Text.split_of_notMem hservice.tab]
  rfl

theorem newline_notMem_rowText {e : String × String × String}
    (h : ∀ cell ∈ labelCells e, IsCell cell) : '\n' ∉ (rowText e).toList := by
  obtain ⟨hname, hkind, hservice⟩ := forall_mem_labelCells.1 h
  simp [rowText, hname.newline, hkind.newline, hservice.newline]

/-- Texts in lines of their own are the lines of what they make together. -/
theorem split_join_lines {texts : List String} (h : ∀ s ∈ texts, '\n' ∉ s.toList) :
    Text.split '\n' (String.join (texts.map (· ++ "\n"))) = texts ++ [""] := by
  induction texts with
  | nil => rfl
  | cons s texts ih =>
    obtain ⟨hs, htexts⟩ := List.forall_mem_cons.1 h
    have hlines := Text.split_append '\n' s (String.join (texts.map (· ++ "\n")))
    rw [Text.split_of_notMem hs, ih htexts] at hlines
    rw [List.map_cons, String.join_cons]
    exact hlines

theorem Tabular.tabulates (h : Tabular labels) :
    Tabulates (String.join (labels.map labelRow)) labels := by
  refine ⟨labels.map rowText, ?_, ?_⟩
  · rw [← split_join_lines, List.map_map]
    · rfl
    · rintro _ hrow
      obtain ⟨e, he, rfl⟩ := List.mem_map.1 hrow
      exact newline_notMem_rowText (h e he)
  · rw [List.map_map]
    exact List.map_congr_left fun e he => split_rowText (h e he)

/-- Labels can be read off their list exactly if there are no separators in them. -/
theorem tabulates_iff : Tabulates (String.join (labels.map labelRow)) labels ↔ Tabular labels :=
  ⟨Tabulates.tabular, Tabular.tabulates⟩

end Tables

/-! ## Inspections -/

namespace Inspection

/-- The run on a file with what is written for credentials, whatever follows it. -/
def ofStorable {reader : Option Yaml.Reader} {env : Environment} {fs : FileSystem}
    {tokenFile : Option String} {path : Path} {c : Credentials} {extra : List UInt8}
    (h : Storable c) (listed : listedFile env fs tokenFile = .ok path)
    (content : fs.read path = .ok (TokenStorage.write c ++ extra)) : Inspection where
  reader := reader
  env := env
  fs := fs
  tokenFile := tokenFile
  path := path
  bytes := TokenStorage.write c ++ extra
  credentials := c
  listed := listed
  content := content
  accepted := TokenStorage.read_eq_ok_iff.2 ⟨extra, takes_readCredentials h extra⟩

/-- The output has a row with the alias, the kind and the service of each token, and nothing else,
exactly if there is no tab and no line break in any of them. Where that is so of two files, they are
printed alike only if their tokens have the same labels in the same order. -/
theorem tabulates_exactly (i : Inspection) :
    (∃ output, i.outcome = .ok ⟨0, output, ""⟩ ∧
      (Tabulates output i.credentials.labels ↔ Tabular i.credentials.labels) ∧
      ∀ arguments, Command.ofArguments arguments = .ok (.inspectTokens i.tokenFile) →
        run i.reader i.env i.fs arguments = .ok ⟨0, output, ""⟩) ∧
    ∀ i' : Inspection, Tabular i.credentials.labels → Tabular i'.credentials.labels →
      i.credentials.labels ≠ i'.credentials.labels → i.outcome ≠ i'.outcome := by
  constructor
  · exact ⟨_, i.outcome_eq, tabulates_iff, fun arguments h => (i.run_eq h).trans i.outcome_eq⟩
  · intro i' h h' hne heq
    rw [i.outcome_eq, i'.outcome_eq] at heq
    have houtput : String.join (i.credentials.labels.map labelRow) =
        String.join (i'.credentials.labels.map labelRow) :=
      congrArg Outcome.output (Except.ok.inj heq)
    exact hne ((houtput ▸ h.tabulates).unique h'.tabulates)

/-- Credentials of tokens with the same kind and service. -/
def alikeTokens (names : List String) : Credentials where
  tokens := .ofList (names.map fun name => (name, ⟨[], [7], "k", "s"⟩))
  secretKeys := .empty

/-- Token files that hold two tokens, the same two the other way round, and a single token with an
alias that looks like a row. -/
def rowFiles : FileSystem where
  entries := [(["two"], .file (TokenStorage.write (alikeTokens ["a", "b"]))),
    (["turned"], .file (TokenStorage.write (alikeTokens ["b", "a"]))),
    (["forged"], .file (TokenStorage.write (alikeTokens ["a\tk\ts\nb"])))]
  workingDirectory := []
  home := "/"
  homes := []

theorem read_rowFiles :
    rowFiles.read ⟨"", ["two"]⟩ = .ok (TokenStorage.write (alikeTokens ["a", "b"]) ++ []) ∧
      rowFiles.read ⟨"", ["turned"]⟩ = .ok (TokenStorage.write (alikeTokens ["b", "a"]) ++ []) ∧
      rowFiles.read ⟨"", ["forged"]⟩ =
        .ok (TokenStorage.write (alikeTokens ["a\tk\ts\nb"]) ++ []) := by
  simp only [List.append_nil]
  exact ⟨FileSystem.read_name (by decide) rfl rfl,
    FileSystem.read_name (by decide) rfl rfl,
    FileSystem.read_name (by decide) rfl rfl⟩

theorem storable_rowFiles :
    Storable (alikeTokens ["a", "b"]) ∧ Storable (alikeTokens ["b", "a"]) ∧
      Storable (alikeTokens ["a\tk\ts\nb"]) :=
  ⟨⟨by decide, by decide, by decide, by decide⟩, ⟨by decide, by decide, by decide, by decide⟩,
    ⟨by decide, by decide, by decide, by decide⟩⟩

/-- The run on two tokens. -/
def twoRows : Inspection :=
  @ofStorable (some Yaml.read) ⟨none, none⟩ rowFiles (some "two") ⟨"", ["two"]⟩ _ []
    storable_rowFiles.1 (by decide) read_rowFiles.1

/-- The run on the same tokens the other way round. -/
def turnedRows : Inspection :=
  @ofStorable (some Yaml.read) ⟨none, none⟩ rowFiles (some "turned") ⟨"", ["turned"]⟩ _ []
    storable_rowFiles.2.1 (by decide) read_rowFiles.2.1

/-- The run on a single token with an alias that looks like a row. -/
def forgedRow : Inspection :=
  @ofStorable (some Yaml.read) ⟨none, none⟩ rowFiles (some "forged") ⟨"", ["forged"]⟩ _ []
    storable_rowFiles.2.2 (by decide) read_rowFiles.2.2

/-- Two tokens have two rows, and another output than the other way round. -/
theorem tabulates_exactly_twoRows :
    Tabular twoRows.credentials.labels ∧ Tabular turnedRows.credentials.labels ∧
      (∃ output, run (some Yaml.read) ⟨none, none⟩ rowFiles
          ["inspect-tokens", "--token-file", "two"] = .ok ⟨0, output, ""⟩ ∧
        Tabulates output [("a", "k", "s"), ("b", "k", "s")]) ∧
      twoRows.outcome ≠ turnedRows.outcome := by
  have htwo : Tabular twoRows.credentials.labels := by decide
  have hturned : Tabular turnedRows.credentials.labels := by decide
  obtain ⟨⟨output, -, hrows, hrun⟩, hdistinct⟩ := tabulates_exactly twoRows
  exact ⟨htwo, hturned, ⟨output, hrun _ (by rfl), hrows.2 htwo⟩,
    hdistinct _ htwo hturned (by decide)⟩

/-- A single token is listed like two others, so its own row cannot be read off the list. -/
theorem not_tabulates_forgedRow :
    let output := "a\tk\ts\nb\tk\ts\n"
    twoRows.credentials.labels = [("a", "k", "s"), ("b", "k", "s")] ∧
      forgedRow.credentials.labels = [("a\tk\ts\nb", "k", "s")] ∧
      twoRows.outcome = .ok ⟨0, output, ""⟩ ∧ forgedRow.outcome = .ok ⟨0, output, ""⟩ ∧
      ¬Tabulates output forgedRow.credentials.labels := by
  intro output
  have houtput : String.join (forgedRow.credentials.labels.map labelRow) = output := by decide
  refine ⟨by decide, by decide, ?_, ?_, ?_⟩
  · rw [outcome_eq]
    decide
  · rw [outcome_eq, houtput]
  · rw [← houtput, tabulates_iff]
    decide

end Inspection

end Cli

end StorageHandler
