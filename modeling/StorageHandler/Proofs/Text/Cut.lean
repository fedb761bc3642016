import Mathlib.Data.List.DropRight
import StorageHandler.Text.Cut

/-!
# Trimmed texts and comma-separated lists

A trimmed text is one without blanks at its ends (`trimList_eq_self_iff`), so trimming again changes
nothing. The pieces of a text are the texts without commas that make it with commas between them
(`split_eq_iff`), and the entries of a list are texts that are not empty, without commas and trimmed
(`isEntry_of_mem_entries`). Texts that are joined by commas are read piece by piece
(`entries_join`), so a list of such entries is read back as it was (`entries_join_of_isEntry`).
-/

namespace StorageHandler.Text

/-! ## Trimming -/

section Trim

variable {p : Char → Bool} {cs : List Char} {c : Char}

theorem trimList_eq_rdropWhile (p : Char → Bool) (cs : List Char) :
    trimList p cs = (cs.dropWhile p).rdropWhile p := rfl

/-- Trimming takes from the start, then from the end. -/
theorem exists_trimList_append (p : Char → Bool) (cs : List Char) :
    ∃ rest, trimList p cs ++ rest = cs.dropWhile p := List.rdropWhile_prefix p _

/-- What is taken from the ends satisfies `p`. -/
theorem exists_trimList_eq (p : Char → Bool) (cs : List Char) :
    ∃ before after, cs = before ++ trimList p cs ++ after ∧
      (∀ c ∈ before, p c = true) ∧ ∀ c ∈ after, p c = true := by
  refine ⟨cs.takeWhile p, (cs.dropWhile p).rtakeWhile p, ?_, fun c => List.mem_takeWhile_imp,
    fun c => List.mem_rtakeWhile_imp⟩
  rw [trimList_eq_rdropWhile, List.append_assoc, List.rdropWhile_append_rtakeWhile,
    List.takeWhile_append_dropWhile]

theorem mem_of_mem_trimList (h : c ∈ trimList p cs) : c ∈ cs := by
  obtain ⟨rest, hrest⟩ := exists_trimList_append p cs
  exact List.dropWhile_subset p (hrest ▸ List.mem_append_left rest h)

theorem not_of_head?_trimList (h : (trimList p cs).head? = some c) : p c = false := by
  obtain ⟨rest, hrest⟩ := exists_trimList_append p cs
  have hhead := List.head?_dropWhile_not p cs
  rw [← hrest, List.head?_append, h, Option.some_or] at hhead
  exact hhead

theorem not_of_getLast?_trimList (h : (trimList p cs).getLast? = some c) : p c = false := by
  have hne : (cs.dropWhile p).rdropWhile p ≠ [] := by
    rintro hnil
    rw [trimList_eq_rdropWhile, hnil] at h
    cases h
  have hlast := List.rdropWhile_last_not p _ hne
  rw [trimList_eq_rdropWhile, List.getLast?_eq_getLast_of_ne_nil hne] at h
  rw [Option.some.inj h] at hlast
  exact Bool.eq_false_iff.2 hlast

/-- Trimming leaves alone exactly what has nothing to trim at its ends. -/
theorem trimList_eq_self_iff : trimList p cs = cs ↔
    (∀ c, cs.head? = some c → p c = false) ∧ ∀ c, cs.getLast? = some c → p c = false := by
  constructor
  · intro h
    rw [← h]
    exact ⟨fun c => not_of_head?_trimList, fun c => not_of_getLast?_trimList⟩
  · rintro ⟨hhead, hlast⟩
    have hdrop : cs.dropWhile p = cs := by
      cases cs with
      | nil => rfl
      | cons c cs => exact List.dropWhile_cons_of_neg (by simp [hhead c rfl])
    rw [trimList_eq_rdropWhile, hdrop, List.rdropWhile_eq_self_iff]
    intro hne
    simp [hlast _ (List.getLast?_eq_getLast_of_ne_nil hne)]

theorem trimList_trimList : trimList p (trimList p cs) = trimList p cs :=
  trimList_eq_self_iff.2 ⟨fun _ => not_of_head?_trimList, fun _ => not_of_getLast?_trimList⟩

/-- What satisfies `p` around something without anything to trim is taken away. -/
theorem trimList_append_append {before after : List Char} (hbefore : ∀ c ∈ before, p c = true)
    (hafter : ∀ c ∈ after, p c = true) (h : trimList p cs = cs) :
    trimList p (before ++ cs ++ after) = cs := by
  have hstart : (before ++ cs ++ after).dropWhile p = (cs ++ after).dropWhile p := by
    rw [List.append_assoc, List.dropWhile_append_of_pos hbefore]
  have hend : (cs ++ after).rdropWhile p = cs.rdropWhile p := by
    have hafter' : ∀ c ∈ after.reverse, p c = true := fun c hc => hafter c (List.mem_reverse.1 hc)
    rw [List.rdropWhile, List.reverse_append, List.dropWhile_append_of_pos hafter',
      List.rdropWhile]
  rw [trimList_eq_rdropWhile, hstart]
  cases cs with
  | nil =>
    rw [List.nil_append, List.dropWhile_eq_nil_iff.2 hafter, List.rdropWhile_nil]
  | cons c cs =>
    have hc : p c = false := (trimList_eq_self_iff.1 h).1 c rfl
    have hkeep (ys : List Char) : (c :: ys).dropWhile p = c :: ys :=
      List.dropWhile_cons_of_neg (by simp [hc])
    rw [List.cons_append, hkeep, ← List.cons_append, hend]
    rw [trimList_eq_rdropWhile, hkeep] at h
    exact h

theorem trimList_of_forall (h : ∀ c ∈ cs, p c = false) : trimList p cs = cs :=
  trimList_eq_self_iff.2
    ⟨fun c hc => h c (List.mem_of_head? hc), fun c hc => h c (List.mem_of_getLast? hc)⟩

end Trim

theorem strip_strip (s : String) : strip (strip s) = strip s := by
  rw [strip, toList_strip, stripList, trimList_trimList]
  rfl

/-- No blank stands at an end of a text. -/
structure Trimmed (s : String) : Prop where
  first : ∀ c, s.toList.head? = some c → isBlank c = false
  last : ∀ c, s.toList.getLast? = some c → isBlank c = false

theorem strip_eq_self_iff {s : String} : strip s = s ↔ Trimmed s := by
  rw [← String.toList_inj, toList_strip, trimList_eq_self_iff]
  exact ⟨fun h => ⟨h.1, h.2⟩, fun h => ⟨h.first, h.last⟩⟩

theorem trimmed_strip (s : String) : Trimmed (strip s) := strip_eq_self_iff.1 (strip_strip s)

/-- Of blanks alone nothing is left. -/
theorem strip_eq_empty_iff {s : String} : strip s = "" ↔ ∀ c ∈ s.toList, isBlank c = true := by
  rw [← String.toList_inj, toList_strip, stripList, String.toList_empty]
  constructor
  · intro h
    obtain ⟨before, after, hs, hbefore, hafter⟩ := exists_trimList_eq isBlank s.toList
    rw [h, List.append_nil] at hs
    rw [hs]
    exact List.forall_mem_append.2 ⟨hbefore, hafter⟩
  · intro h
    have hends := trimList_append_append h (List.forall_mem_nil _) (trimList_nil isBlank)
    rwa [List.append_nil, List.append_nil] at hends

/-! ## Cutting -/

/-- A text is cut at the first separator, or it has none. -/
theorem cutList_cases (sep : Char) (cs : List Char) :
    (sep ∉ cs ∧ cutList sep cs = (cs, none)) ∨
      ∃ xs ys, sep ∉ xs ∧ cs = xs ++ sep :: ys ∧ cutList sep cs = (xs, some ys) := by
  by_cases h : sep ∈ cs
  · obtain ⟨xs, ys, rfl, hxs⟩ := List.eq_append_cons_of_mem h
    exact .inr ⟨xs, ys, hxs, rfl, cutList_append_cons hxs ys⟩
  · exact .inl ⟨h, cutList_of_not_mem h⟩

theorem cut_of_notMem {sep : Char} {s : String} (h : sep ∉ s.toList) : cut sep s = (s, none) := by
  rw [cut, cutList_of_not_mem h, String.ofList_toList]
  rfl

theorem cut_append {sep : Char} {s : String} (h : sep ∉ s.toList) (t : String) :
    cut sep (s ++ String.singleton sep ++ t) = (s, some t) := by
  have htoList : (s ++ String.singleton sep ++ t).toList = s.toList ++ sep :: t.toList := by simp
  rw [cut, htoList, cutList_append_cons h]
  simp

/-- A text with a separator in it is what stands before the first one, the separator and the
rest. -/
theorem exists_append_of_mem {sep : Char} {s : String} (h : sep ∈ s.toList) :
    ∃ t u, sep ∉ t.toList ∧ s = t ++ String.singleton sep ++ u := by
  obtain ⟨xs, ys, hs, hxs⟩ := List.eq_append_cons_of_mem h
  refine ⟨String.ofList xs, String.ofList ys, by rwa [String.toList_ofList], ?_⟩
  simp [← String.toList_inj, hs]

/-! ## Lists -/

theorem notMem_of_mem_splitList {sep : Char} {cs piece : List Char}
    (h : piece ∈ splitList sep cs) : sep ∉ piece := by
  induction cs generalizing piece with
  | nil =>
    rw [splitList, List.mem_singleton] at h
    exact h ▸ List.not_mem_nil
  | cons c cs ih =>
    rw [splitList] at h
    split_ifs at h with hc
    · rcases List.mem_cons.1 h with rfl | h
      · exact List.not_mem_nil
      · exact ih h
    · cases hs : splitList sep cs with
      | nil => exact absurd hs (splitList_ne_nil sep cs)
      | cons first rest =>
        rw [hs] at h ih
        rcases List.mem_cons.1 h with rfl | h
        · rw [List.mem_cons, not_or]
          exact ⟨Ne.symm hc, ih List.mem_cons_self⟩
        · exact ih (List.mem_cons_of_mem first h)

theorem split_of_notMem {sep : Char} {s : String} (h : sep ∉ s.toList) : split sep s = [s] := by
  rw [split, splitList_of_not_mem h, List.map_singleton, String.ofList_toList]

theorem split_append (sep : Char) (s t : String) :
    split sep (s ++ String.singleton sep ++ t) = split sep s ++ split sep t := by
  have htoList : (s ++ String.singleton sep ++ t).toList = s.toList ++ sep :: t.toList := by simp
  rw [split, htoList, splitList_append_cons, List.map_append]
  rfl

theorem split_append_comma (s t : String) :
    split ',' (s ++ "," ++ t) = split ',' s ++ split ',' t := split_append ',' s t

theorem notMem_of_mem_split {sep : Char} {s piece : String} (h : piece ∈ split sep s) :
    sep ∉ piece.toList := by
  obtain ⟨cs, hcs, rfl⟩ := List.mem_map.1 h
  rw [String.toList_ofList]
  exact notMem_of_mem_splitList hcs

/-- The pieces with the separator between them make the text again. -/
theorem intercalate_splitList (sep : Char) (cs : List Char) :
    [sep].intercalate (splitList sep cs) = cs := by
  induction cs with
  | nil => rfl
  | cons c cs ih =>
    rw [splitList]
    cases hs : splitList sep cs with
    | nil => exact absurd hs (splitList_ne_nil sep cs)
    | cons piece rest =>
      rw [hs] at ih
      split_ifs with hc
      · rw [List.intercalate_cons_cons, ih, hc]
        rfl
      · cases rest with
        | nil =>
          rw [List.intercalate_singleton] at ih ⊢
          rw [ih]
        | cons next rest =>
          rw [List.intercalate_cons_cons] at ih ⊢
          rw [List.cons_append, List.cons_append, ih]

theorem join_split (sep : Char) (s : String) : join (String.singleton sep) (split sep s) = s := by
  have hchars : String.toList ∘ String.ofList = id := funext fun _ => String.toList_ofList
  rw [← String.toList_inj, join, String.toList_intercalate, split, List.map_map, hchars,
    List.map_id, String.toList_singleton, intercalate_splitList]

/-- Texts without commas that make `s` with commas between them. -/
structure Pieces (pieces : List String) (s : String) : Prop where
  ne_nil : pieces ≠ []
  comma : ∀ piece ∈ pieces, ',' ∉ piece.toList
  joined : join "," pieces = s

theorem pieces_split (s : String) : Pieces (split ',' s) s where
  ne_nil := mt List.map_eq_nil_iff.1 (splitList_ne_nil ',' s.toList)
  comma _ hpiece := notMem_of_mem_split hpiece
  joined := join_split ',' s

/-- A text has no other pieces than those it is split into. -/
theorem split_eq_iff {s : String} {pieces : List String} :
    split ',' s = pieces ↔ Pieces pieces s := by
  constructor
  · rintro rfl
    exact pieces_split s
  · rintro ⟨hne, hcomma, rfl⟩
    induction pieces with
    | nil => exact absurd rfl hne
    | cons piece pieces ih =>
      obtain ⟨hpiece, hpieces⟩ := List.forall_mem_cons.1 hcomma
      have hsplit : split ',' piece = [piece] := split_of_notMem hpiece
      cases pieces with
      | nil => rwa [join, String.intercalate_singleton]
      | cons next pieces =>
        rw [join, String.intercalate_cons_cons, split_append_comma, hsplit, ← join,
          ih (List.cons_ne_nil next pieces) hpieces]
        rfl

/-- A text that is an entry of a list as it stands. -/
structure IsEntry (s : String) : Prop where
  ne_empty : s ≠ ""
  comma : ',' ∉ s.toList
  stripped : strip s = s

theorem isEntry_iff {s : String} : IsEntry s ↔ s ≠ "" ∧ ',' ∉ s.toList ∧ Trimmed s := by
  rw [← strip_eq_self_iff]
  exact ⟨fun h => ⟨h.ne_empty, h.comma, h.stripped⟩, fun h => ⟨h.1, h.2.1, h.2.2⟩⟩

theorem isEntry_of_mem_entries {e s : String} (h : e ∈ entries s) : IsEntry e := by
  rw [entries, List.mem_filter, List.mem_map] at h
  obtain ⟨⟨piece, hpiece, rfl⟩, hne⟩ := h
  refine ⟨by simpa using hne, fun hcomma => ?_, strip_strip piece⟩
  rw [toList_strip] at hcomma
  exact (pieces_split s).comma piece hpiece (mem_of_mem_trimList hcomma)

theorem entries_of_isEntry {s : String} (h : IsEntry s) : entries s = [s] := by
  rw [entries, split_of_notMem h.comma, List.map_singleton, h.stripped]
  simp [h.ne_empty]

theorem entries_empty : entries "" = [] := by decide

theorem entries_append_comma (s t : String) : entries (s ++ "," ++ t) = entries s ++ entries t := by
  rw [entries, split_append_comma, List.map_append, List.filter_append]
  rfl

/-- A joined list has the entries of its pieces. -/
theorem entries_join (pieces : List String) :
    entries (join "," pieces) = pieces.flatMap entries := by
  induction pieces with
  | nil => exact entries_empty
  | cons s pieces ih =>
    cases pieces with
    | nil => simp [join]
    | cons t pieces =>
      rw [join, String.intercalate_cons_cons, entries_append_comma, ← join, ih]
      rfl

/-- Entries are read back as they were. -/
theorem entries_join_of_isEntry {items : List String} (h : ∀ e ∈ items, IsEntry e) :
    entries (join "," items) = items := by
  rw [entries_join]
  induction items with
  | nil => rfl
  | cons e items ih =>
    obtain ⟨he, hitems⟩ := List.forall_mem_cons.1 h
    rw [List.flatMap_cons, entries_of_isEntry he, ih hitems, List.singleton_append]

end StorageHandler.Text
