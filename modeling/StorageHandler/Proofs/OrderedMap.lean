import Mathlib.Data.List.Basic
import Mathlib.Data.List.Perm.Subperm
import StorageHandler.OrderedMap
import StorageHandler.Proofs.Distinct

/-!
# Laws of ordered maps

A key that is not there goes to the end (`put_of_notMem`), so a map is what inserting its entries
one by one makes (`ofList_entries`). In a union the second map is asked first (`find?_union`) and
its new keys come last (`keys_union`). Of entries with repeated keys, a key stands where it came
first (`keys_ofList`) and has the value that came last (`find?_ofList`). Maps have the same entries
if every key has the same value in both (`sameEntries_iff`). Inserting entries keeps all of them in
their order, or drops some for others with the same key (`length_flatMap_ofList`).
-/

namespace StorageHandler.OrderedMap

universe u v

variable {κ : Type u} {ν : Type v} [DecidableEq κ]

theorem put_of_notMem {k : κ} {es : List (κ × ν)} (h : k ∉ es.map Prod.fst) (v : ν) :
    put k v es = es ++ [(k, v)] := by
  induction es with
  | nil => rfl
  | cons e es ih =>
    rw [List.map_cons, List.mem_cons, not_or] at h
    rw [put, if_neg (Ne.symm h.1), ih h.2, List.cons_append]

/-- Of two values that a key is given, the last counts. -/
theorem put_put (k : κ) (v w : ν) (es : List (κ × ν)) : put k w (put k v es) = put k w es := by
  induction es with
  | nil => simp [put]
  | cons e es ih =>
    by_cases h : e.1 = k
    · rw [put, if_pos h, put, if_pos rfl, put, if_pos h]
    · rw [put, if_neg h, put, if_neg h, ih, put, if_neg h]

theorem insert_insert (m : OrderedMap κ ν) (k : κ) (v w : ν) :
    (m.insert k v).insert k w = m.insert k w :=
  ext (put_put k v w m.entries)

/-- New entries with distinct keys go to the end in their order. -/
theorem entries_insertMany_of_nodup (m : OrderedMap κ ν) (es : List (κ × ν))
    (h : ((m.entries ++ es).map Prod.fst).Nodup) :
    (m.insertMany es).entries = m.entries ++ es := by
  induction es generalizing m with
  | nil => simp [insertMany]
  | cons e es ih =>
    have hk : e.1 ∉ m.entries.map Prod.fst := by
      rw [List.map_append, List.map_cons] at h
      exact fun hm => (List.nodup_append.1 h).2.2 _ hm _ (List.mem_cons_self ..) rfl
    have hput : (m.insert e.1 e.2).entries = m.entries ++ [e] := put_of_notMem hk e.2
    have hes : (m.insertMany (e :: es)).entries = ((m.insert e.1 e.2).insertMany es).entries := rfl
    rw [hes, ih _ (by rw [hput, List.append_assoc]; exact h), hput, List.append_assoc,
      List.singleton_append]

/-- A map is what its entries make. -/
theorem ofList_entries (m : OrderedMap κ ν) : ofList m.entries = m :=
  ext (entries_insertMany_of_nodup empty m.entries m.nodup)

theorem lookup_eq_none_of_notMem {k : κ} {es : List (κ × ν)} (h : k ∉ es.map Prod.fst) :
    lookup k es = none := by
  induction es with
  | nil => rfl
  | cons e es ih =>
    rw [List.map_cons, List.mem_cons, not_or] at h
    rw [lookup, if_neg (Ne.symm h.1), ih h.2]

theorem lookup_eq_none_iff {k : κ} {es : List (κ × ν)} :
    lookup k es = none ↔ k ∉ es.map Prod.fst := by
  refine ⟨fun h hk => ?_, lookup_eq_none_of_notMem⟩
  induction es with
  | nil => exact absurd hk List.not_mem_nil
  | cons e es ih =>
    rw [lookup] at h
    split_ifs at h with he
    exact ih h ((List.mem_cons.1 hk).resolve_left (Ne.symm he))

/-- A key that is found keeps its place when it is put again. -/
theorem put_of_lookup {k : κ} {v : ν} {es : List (κ × ν)} (h : lookup k es = some v) (w : ν) :
    ∃ before after, es = before ++ (k, v) :: after ∧ put k w es = before ++ (k, w) :: after := by
  induction es with
  | nil => cases h
  | cons e es ih =>
    obtain ⟨k', v'⟩ := e
    rw [lookup] at h
    split_ifs at h with he
    · obtain rfl : k' = k := he
      obtain rfl := Option.some.inj h
      exact ⟨[], es, rfl, by rw [put, if_pos rfl]; rfl⟩
    · obtain ⟨before, after, rfl, hput⟩ := ih h
      exact ⟨(k', v') :: before, after, rfl, by rw [put, if_neg he, hput, List.cons_append]⟩

/-- Of entries with distinct keys, the one that is inserted is the one that is found. -/
theorem find?_insertMany (m : OrderedMap κ ν) {es : List (κ × ν)} (h : (es.map Prod.fst).Nodup)
    (k : κ) : (m.insertMany es).find? k = (lookup k es).or (m.find? k) := by
  induction es generalizing m with
  | nil => rfl
  | cons e es ih =>
    obtain ⟨he, hes⟩ := List.nodup_cons.1 h
    have hstep : m.insertMany (e :: es) = (m.insert e.1 e.2).insertMany es := rfl
    rw [hstep, ih _ hes, find?_insert, lookup]
    by_cases hk : e.1 = k
    · rw [if_pos hk, if_pos hk, lookup_eq_none_of_notMem (hk ▸ he)]
      rfl
    · rw [if_neg hk, if_neg hk]

theorem find?_union (m n : OrderedMap κ ν) (k : κ) :
    (m.union n).find? k = (n.find? k).or (m.find? k) :=
  find?_insertMany m n.nodup k

/-- Without the first key the other entries are left. -/
theorem entries_erase_of_cons {m : OrderedMap κ ν} {e : κ × ν} {es : List (κ × ν)}
    (h : m.entries = e :: es) : (m.erase e.1).entries = es := by
  have hnodup := m.nodup
  rw [h] at hnodup
  obtain ⟨he, -⟩ := List.nodup_cons.1 hnodup
  have hfilter : (m.erase e.1).entries = (e :: es).filter fun e' => e'.1 ≠ e.1 := by
    rw [← h]
    rfl
  rw [hfilter, List.filter_cons_of_neg (by simp), List.filter_eq_self]
  intro e' he'
  have hne : e'.1 ≠ e.1 := fun heq => he (heq ▸ List.mem_map_of_mem he')
  simp [hne]

/-! ## Repeated keys -/

theorem insertMany_append_singleton (m : OrderedMap κ ν) (es : List (κ × ν)) (e : κ × ν) :
    m.insertMany (es ++ [e]) = (m.insertMany es).insert e.1 e.2 :=
  insertMany_append m es [e]

/-- A repeated key stands where it came first. -/
theorem keys_insertMany (m : OrderedMap κ ν) (es : List (κ × ν)) :
    (m.insertMany es).keys = (m.keys ++ es.map Prod.fst).eraseDups := by
  induction es using List.reverseRecOn with
  | nil =>
    rw [List.map_nil, List.append_nil]
    exact (eraseDups_of_nodup m.nodup).symm
  | append_singleton es e ih =>
    have hmem : e.1 ∈ (m.insertMany es).keys ↔ e.1 ∈ m.keys ++ es.map Prod.fst := by
      rw [ih, List.mem_eraseDups]
    rw [insertMany_append_singleton, keys_insert, if_congr hmem rfl rfl, ih, List.map_append,
      List.map_singleton, ← List.append_assoc, eraseDups_append_singleton]

theorem keys_ofList (es : List (κ × ν)) : (ofList es).keys = (es.map Prod.fst).eraseDups :=
  keys_insertMany empty es

/-- A repeated key has the value that came last. -/
theorem find?_insertMany_reverse (m : OrderedMap κ ν) (es : List (κ × ν)) (k : κ) :
    (m.insertMany es).find? k = (lookup k es.reverse).or (m.find? k) := by
  induction es using List.reverseRecOn with
  | nil => rfl
  | append_singleton es e ih =>
    rw [insertMany_append_singleton, find?_insert, ih, List.reverse_append, List.reverse_singleton,
      List.singleton_append, lookup]
    split_ifs <;> rfl

theorem find?_ofList (es : List (κ × ν)) (k : κ) : (ofList es).find? k = lookup k es.reverse := by
  rw [ofList, find?_insertMany_reverse, find?_empty, Option.or_none]

/-- A value stays if its key does not come again. -/
theorem find?_ofList_append_cons (pre : List (κ × ν)) {e : κ × ν} {post : List (κ × ν)}
    (h : e.1 ∉ post.map Prod.fst) : (ofList (pre ++ e :: post)).find? e.1 = some e.2 := by
  have hpost : e.1 ∉ post.reverse.map Prod.fst := by rwa [List.map_reverse, List.mem_reverse]
  have hstep : ofList (pre ++ e :: post) = ((ofList pre).insert e.1 e.2).insertMany post :=
    insertMany_append empty pre (e :: post)
  rw [hstep, find?_insertMany_reverse, lookup_eq_none_of_notMem hpost, Option.none_or, find?_insert,
    if_pos rfl]

/-! ## Same entries -/

theorem mem_iff_lookup {es : List (κ × ν)} (h : (es.map Prod.fst).Nodup) {k : κ} {v : ν} :
    (k, v) ∈ es ↔ lookup k es = some v := by
  induction es with
  | nil => simp [lookup]
  | cons e es ih =>
    obtain ⟨he, hes⟩ := List.nodup_cons.1 h
    rw [List.mem_cons, ih hes, lookup]
    by_cases hk : e.1 = k
    · have hnone : lookup k es = none := lookup_eq_none_of_notMem (hk ▸ he)
      rw [if_pos hk, hnone]
      constructor
      · rintro (rfl | h)
        · rfl
        · cases h
      · intro h
        exact .inl (Prod.ext hk.symm (Option.some.inj h).symm)
    · rw [if_neg hk]
      refine or_iff_right fun h => hk ?_
      rw [← h]

theorem mem_entries_iff {m : OrderedMap κ ν} {k : κ} {v : ν} :
    (k, v) ∈ m.entries ↔ m.find? k = some v :=
  mem_iff_lookup m.nodup

theorem find?_eq_none_iff {m : OrderedMap κ ν} {k : κ} : m.find? k = none ↔ k ∉ m.keys :=
  lookup_eq_none_iff

/-- Maps have the same entries exactly if every key has the same value in both. -/
theorem sameEntries_iff [DecidableEq ν] (m n : OrderedMap κ ν) :
    m.sameEntries n = true ↔ ∀ k, m.find? k = n.find? k := by
  have hlength (m : OrderedMap κ ν) : m.keys.length = m.size := List.length_map _
  have hall : (m.entries.all fun e => n.find? e.1 = some e.2) = true ↔
      ∀ k v, m.find? k = some v → n.find? k = some v := by
    simp only [List.all_eq_true, decide_eq_true_eq, Prod.forall, mem_entries_iff]
  rw [sameEntries, Bool.and_eq_true, beq_iff_eq, hall]
  constructor
  · rintro ⟨hsize, hfound⟩ k
    cases hk : m.find? k with
    | some v => exact (hfound k v hk).symm
    | none =>
      -- as many keys, all of them found : there is no other
      have hsub : m.keys ⊆ n.keys := by
        intro k' hk'
        obtain ⟨e, he, rfl⟩ := List.mem_map.1 hk'
        exact List.mem_map_of_mem (mem_entries_iff.2 (hfound e.1 e.2 (mem_entries_iff.1 he)))
      have hle : n.keys.length = m.keys.length := by rw [hlength, hlength, hsize]
      have hperm : m.keys.Perm n.keys :=
        (List.subperm_of_subset m.nodup hsub).perm_of_length_le (Nat.le_of_eq hle)
      rw [eq_comm, find?_eq_none_iff, ← hperm.mem_iff, ← find?_eq_none_iff]
      exact hk
  · intro h
    refine ⟨?_, fun k v hk => h k ▸ hk⟩
    have hkeys : ∀ k, k ∈ m.keys ↔ k ∈ n.keys := fun k => by
      rw [← not_iff_not, ← find?_eq_none_iff, ← find?_eq_none_iff, h k]
    rw [← hlength, ← hlength]
    exact ((List.perm_ext_iff_of_nodup m.nodup n.nodup).2 hkeys).length_eq

/-! ## Unions -/

theorem entries_eq_filterMap_lookup {es : List (κ × ν)} (h : (es.map Prod.fst).Nodup) :
    es = (es.map Prod.fst).filterMap fun k => (lookup k es).map fun v => (k, v) := by
  induction es with
  | nil => rfl
  | cons e es ih =>
    obtain ⟨he, hes⟩ := List.nodup_cons.1 h
    have hhead : (lookup e.1 (e :: es)).map (fun v => (e.1, v)) = some e := by
      rw [lookup, if_pos rfl]
      rfl
    -- the keys behind the first one are other keys
    have htail : ∀ k ∈ es.map Prod.fst, lookup k (e :: es) = lookup k es := fun k hk => by
      have hne : e.1 ≠ k := fun hek => he (hek ▸ hk)
      rw [lookup, if_neg hne]
    have hrest : ((es.map Prod.fst).filterMap fun k => (lookup k (e :: es)).map fun v => (k, v)) =
        es := by
      rw [List.filterMap_congr fun k hk => congrArg (Option.map fun v => (k, v)) (htail k hk)]
      exact (ih hes).symm
    simp only [List.map_cons, List.filterMap_cons, hhead, hrest]

/-- A map is its keys and what is found under them. -/
theorem ext_of_find? {m n : OrderedMap κ ν} (hkeys : m.keys = n.keys)
    (hfind : ∀ k, m.find? k = n.find? k) : m = n := by
  refine ext ?_
  calc m.entries
      = m.keys.filterMap fun k => (m.find? k).map fun v => (k, v) :=
        entries_eq_filterMap_lookup m.nodup
    _ = n.keys.filterMap fun k => (n.find? k).map fun v => (k, v) := by
        rw [hkeys, funext hfind]
    _ = n.entries := (entries_eq_filterMap_lookup n.nodup).symm

/-- The new keys follow in their order. -/
theorem keys_union (m n : OrderedMap κ ν) :
    (m.union n).keys = m.keys ++ n.keys.filter (· ∉ m.keys) := by
  have hm : m.keys.Nodup := m.nodup
  have hn : (n.keys.filter (· ∉ m.keys)).Nodup := List.filter_sublist.nodup n.nodup
  have hremove : n.keys.removeAll m.keys = n.keys.filter (· ∉ m.keys) := by
    simp [List.removeAll]
  rw [union, keys_insertMany, ← keys, List.eraseDups_append, eraseDups_of_nodup hm, hremove,
    eraseDups_of_nodup hn]

theorem keys_union_eq_eraseDups (m n : OrderedMap κ ν) :
    (m.union n).keys = (m.keys ++ n.keys).eraseDups :=
  keys_insertMany m n.entries

theorem union_assoc (m n o : OrderedMap κ ν) : (m.union n).union o = m.union (n.union o) := by
  refine ext_of_find? ?_ fun k => ?_
  · simp only [keys_union_eq_eraseDups, eraseDups_eraseDups_append, eraseDups_append_eraseDups,
      List.append_assoc]
  · simp only [find?_union, Option.or_assoc]

theorem union_self (m : OrderedMap κ ν) : m.union m = m := by
  refine ext_of_find? ?_ fun k => ?_
  · have hm : m.keys.Nodup := m.nodup
    rw [keys_union_eq_eraseDups, eraseDups_append_of_subset (List.Subset.refl _),
      eraseDups_of_nodup hm]
  · rw [find?_union, Option.or_self]

/-! ## Gathered entries -/

/-- The map has what the entries `es` say : every key stands where it came first and has the value
that came last. -/
structure Gathers (m : OrderedMap κ ν) (es : List (κ × ν)) : Prop where
  order : m.keys = (es.map Prod.fst).eraseDups
  found : ∀ k, m.find? k = lookup k es.reverse

/-- Inserting the entries one by one gathers them, and there is no other map that does. -/
theorem gathers_iff {m : OrderedMap κ ν} {es : List (κ × ν)} : m.Gathers es ↔ m = ofList es := by
  constructor
  · rintro ⟨horder, hfound⟩
    exact ext_of_find? (horder.trans (keys_ofList es).symm) fun k =>
      (hfound k).trans (find?_ofList es k).symm
  · rintro rfl
    exact ⟨keys_ofList es, find?_ofList es⟩

section Values

variable {μ : Type*} (f : ν → μ)

theorem map_put (k : κ) (v : ν) (es : List (κ × ν)) :
    (put k v es).map (Prod.map id f) = put k (f v) (es.map (Prod.map id f)) := by
  induction es with
  | nil => rfl
  | cons e es ih =>
    rw [put, List.map_cons, put, Prod.map_fst, id]
    split_ifs
    · rfl
    · rw [List.map_cons, ih]

/-- What is done to every value can be done before the entries are gathered. -/
theorem map_entries_ofList (es : List (κ × ν)) :
    (ofList es).entries.map (Prod.map id f) = (ofList (es.map (Prod.map id f))).entries := by
  induction es using List.reverseRecOn with
  | nil => rfl
  | append_singleton es e ih =>
    rw [List.map_append, List.map_singleton, ofList, insertMany_append_singleton, ofList,
      insertMany_append_singleton]
    exact (map_put f e.1 e.2 _).trans (congrArg (put e.1 (f e.2)) ih)

end Values

/-! ## What inserting drops -/

theorem mem_put {k : κ} {v : ν} {es : List (κ × ν)} {e : κ × ν} (h : e ∈ put k v es) :
    e = (k, v) ∨ e ∈ es := by
  induction es with
  | nil => exact Or.inl (List.mem_singleton.1 h)
  | cons e' es ih =>
    rw [put] at h
    split_ifs at h
    · exact (List.mem_cons.1 h).imp_right (List.mem_cons_of_mem e')
    · rcases List.mem_cons.1 h with rfl | h
      · exact Or.inr (List.mem_cons_self ..)
      · exact (ih h).imp_right (List.mem_cons_of_mem e')

theorem mem_entries_insertMany {m : OrderedMap κ ν} {es : List (κ × ν)} {e : κ × ν}
    (h : e ∈ (m.insertMany es).entries) : e ∈ m.entries ∨ e ∈ es := by
  induction es generalizing m with
  | nil => exact Or.inl h
  | cons e' es ih =>
    rcases ih (m := m.insert e'.1 e'.2) h with h | h
    · rcases mem_put h with rfl | h
      · exact Or.inr (List.mem_cons_self ..)
      · exact Or.inl h
    · exact Or.inr (List.mem_cons_of_mem e' h)

theorem mem_of_mem_ofList {es : List (κ × ν)} {e : κ × ν} (h : e ∈ (ofList es).entries) :
    e ∈ es :=
  (mem_entries_insertMany h).resolve_left List.not_mem_nil

/-! ## What entries are written in -/

variable {β : Type*} {g : κ × ν → List β} (hg : ∀ e, 0 < (g e).length)

include hg

/-- A new key adds its entry. A key that is there drops an entry for it. -/
theorem length_flatMap_put (k : κ) (v : ν) (es : List (κ × ν)) :
    put k v es = es ++ [(k, v)] ∨
      ((put k v es).flatMap g).length < (es.flatMap g).length + (g (k, v)).length := by
  induction es with
  | nil => exact Or.inl rfl
  | cons e es ih =>
    rw [put]
    split_ifs
    · right
      have := hg e
      simp only [List.flatMap_cons, List.length_append]
      omega
    · rcases ih with h | h
      · exact Or.inl (by rw [h, List.cons_append])
      · right
        simp only [List.flatMap_cons, List.length_append]
        omega

/-- All entries stay in their order, or they are written in less, whatever they are written in. -/
theorem length_flatMap_insertMany (m : OrderedMap κ ν) (es : List (κ × ν)) :
    (m.insertMany es).entries = m.entries ++ es ∨
      ((m.insertMany es).entries.flatMap g).length <
        (m.entries.flatMap g).length + (es.flatMap g).length := by
  induction es generalizing m with
  | nil => exact Or.inl (List.append_nil _).symm
  | cons e es ih =>
    change ((m.insert e.1 e.2).insertMany es).entries = _ ∨
      (((m.insert e.1 e.2).insertMany es).entries.flatMap g).length < _
    have hput : (m.insert e.1 e.2).entries = m.entries ++ [e] ∨
        ((m.insert e.1 e.2).entries.flatMap g).length <
          (m.entries.flatMap g).length + (g e).length :=
      length_flatMap_put hg e.1 e.2 m.entries
    rcases hput with hput | hput <;> rcases ih (m.insert e.1 e.2) with h | h
    · left
      rw [h, hput, List.append_assoc, List.singleton_append]
    · right
      simp only [hput, List.flatMap_append, List.flatMap_cons, List.flatMap_nil,
        List.append_nil, List.length_append] at h ⊢
      omega
    · right
      simp only [h, List.flatMap_append, List.flatMap_cons, List.length_append]
      omega
    · right
      simp only [List.flatMap_cons, List.length_append]
      omega

theorem length_flatMap_ofList (es : List (κ × ν)) :
    (ofList es).entries = es ∨ ((ofList es).entries.flatMap g).length < (es.flatMap g).length := by
  have h := length_flatMap_insertMany hg .empty es
  rwa [entries_empty, List.nil_append, List.flatMap_nil, List.length_nil, Nat.zero_add] at h

omit hg in
theorem size_ofList_le (es : List (κ × ν)) : (ofList es).size ≤ es.length := by
  have hone (l : List (κ × ν)) : (l.flatMap fun _ => [()]).length = l.length := by
    induction l with
    | nil => rfl
    | cons e l ih => exact congrArg Nat.succ ih
  have hpos (e : κ × ν) : 0 < ((fun _ => [()]) e).length := Nat.one_pos
  rcases length_flatMap_ofList hpos es with h | h
  · exact Nat.le_of_eq (congrArg List.length h)
  · rw [hone, hone] at h
    exact Nat.le_of_lt h

end StorageHandler.OrderedMap
