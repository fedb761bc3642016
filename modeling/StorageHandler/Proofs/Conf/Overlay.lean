import StorageHandler.Proofs.Conf.Held
import StorageHandler.Proofs.Conf.Runs

/-!
# The algebra of overlays

With properties laid over it a configuration has the values that the properties give, and its own
where they give none. Its settings stay in their order and the new ones follow in theirs
(`Overlaid`), which says all about it (`Overlaid.unique`). The same properties laid over it again
change nothing, and properties one after the other are laid over it as the combination that a table
makes of its parameters and its serde parameters (`overlay_algebra`).

Properties are written into a copy of the configuration, so those that are held stay as they are
(`Held.prefix_overlay`).
-/

namespace StorageHandler

namespace JobConf

/-! ## What is found, and where -/

/-- `o` is `c` with the properties `p` laid over it. -/
structure Overlaid (c : JobConf) (p : OrderedMap String String) (o : JobConf) : Prop where
  found : ∀ k, o.find? k = (p.find? k).or (c.find? k)
  order : o.keys = c.keys ++ p.keys.filter (· ∉ c.keys)

variable {c o o' : JobConf} {p : OrderedMap String String}

theorem Overlaid.unique (h : Overlaid c p o) (h' : Overlaid c p o') : o = o' :=
  OrderedMap.ext_of_find? (h.order.trans h'.order.symm) fun k => (h.found k).trans (h'.found k).symm

theorem overlaid_union (c : JobConf) (p : OrderedMap String String) : Overlaid c p (c.union p) :=
  ⟨OrderedMap.find?_union c p, OrderedMap.keys_union c p⟩

theorem toEntries_union (c : JobConf) (p : OrderedMap String String) :
    toEntries (c.union p) = Table.putAll c.toEntries (toEntries p) :=
  toEntries_insertMany c p.entries

end JobConf

/-! ## Tables -/

namespace HiveTable

/-- A table whose parameters and serde parameters are texts. -/
def ofTexts (parameters : OrderedMap String String) (serde : Option (OrderedMap String String)) :
    HiveTable :=
  ⟨JobConf.toEntries parameters, serde.map JobConf.toEntries⟩

theorem properties_ofTexts (p : OrderedMap String String)
    (serde : Option (OrderedMap String String)) :
    (ofTexts p serde).properties = JobConf.toEntries (p.union (serde.getD .empty)) := by
  cases serde with
  | none => rfl
  | some q => exact (JobConf.toEntries_union p q).symm

end HiveTable

namespace JobConf

theorem overlay_properties (c : JobConf) (p : OrderedMap String String)
    (serde : Option (OrderedMap String String)) :
    c.overlay (some (HiveTable.ofTexts p serde).properties) =
      .ok (c.union (p.union (serde.getD .empty))) := by
  rw [HiveTable.properties_ofTexts, overlay_toEntries]

theorem overlay_map_toEntries (c : JobConf) (properties : Option (OrderedMap String String)) :
    c.overlay (properties.map toEntries) = .ok (c.union (properties.getD .empty)) := by
  cases properties with
  | none => rfl
  | some p => exact overlay_toEntries c p

theorem find?_union_getD (p : OrderedMap String String) (serde : Option (OrderedMap String String))
    (k : String) :
    (p.union (serde.getD .empty)).find? k = (serde.bind (·.find? k)).or (p.find? k) := by
  rw [OrderedMap.find?_union]
  cases serde <;> rfl

end JobConf

/-! ## Overlays of what is held -/

namespace Held

/-- Writes entries into configuration `j`, up to the first that is not of texts. -/
def writeAll (held : Held) (j : ℕ) : Table → Held × Option ConfError
  | [] => (held, none)
  | (.text k, .text v) :: es => writeAll (held.write j k v) j es
  | (key, value) :: _ => (held, some (.notText key value))

/-- A copy of configuration `i`, into which properties are written. -/
def overlay (held : Held) (i : ℕ) (properties : Option Table) : Held × Except ConfError ℕ :=
  match held.copy i with
  | (held, .error e) => (held, .error e)
  | (held, .ok j) =>
    match held.writeAll j (properties.getD []) with
    | (held, none) => (held, .ok j)
    | (held, some e) => (held, .error e)

theorem writeAll_refused (held : Held) (j : ℕ) {k v : Datum} (h : Refused k v) (more : Table) :
    held.writeAll j ((k, v) :: more) = (held, some (.notText k v)) := by
  cases k with
  | text name =>
    cases v with
    | text value => rcases h with h | h <;> cases h
    | _ => rfl
  | _ => rfl

/-- Writing into a configuration that is held comes to what taking the entries comes to. -/
theorem writeAll_append_length (held : Held) (c : JobConf) (es : Table) :
    writeAll (held ++ [c.toEntries]) held.length es =
      (held ++ [(c.assign es).1.toEntries], (c.assign es).2) := by
  induction es generalizing c with
  | nil => rfl
  | cons e es ih =>
    obtain ⟨k, v⟩ := e
    rcases text_or_refused k v with ⟨name, value, rfl, rfl⟩ | h
    · rw [writeAll, write_append_length, ih]
      rfl
    · rw [writeAll_refused _ _ h, JobConf.assign, JobConf.set_refused c h]

theorem overlay_of_taken {held : Held} {i : ℕ} {c : JobConf}
    (h : JobConf.ofEntries (held.conf i) = .ok c) (properties : Option Table) :
    held.overlay i properties =
      (held ++ [(c.assign (properties.getD [])).1.toEntries],
        (c.overlay properties).map fun _ => held.length) := by
  rw [overlay, copy_of_taken h]
  dsimp only
  rw [writeAll_append_length, JobConf.overlay, JobConf.assignAll]
  obtain ⟨c', _ | e⟩ := c.assign (properties.getD []) <;> rfl

/-- The configurations that were held stay as they are, whatever is laid over one of them. -/
theorem prefix_overlay (held : Held) (i : ℕ) (properties : Option Table) :
    held <+: (held.overlay i properties).1 := by
  cases h : JobConf.ofEntries (held.conf i) with
  | error e =>
    obtain ⟨t, ht⟩ := copy_of_refused h
    rw [overlay, ht]
    exact List.prefix_append held [t]
  | ok c =>
    rw [overlay_of_taken h]
    exact List.prefix_append held _

/-- What is laid over one of the configurations is a new one. -/
theorem overlay_of_texts (before after : Held) (c : JobConf) (p : OrderedMap String String) :
    overlay (before ++ c.toEntries :: after) before.length (some (JobConf.toEntries p)) =
      (before ++ c.toEntries :: after ++ [JobConf.toEntries (c.union p)],
        .ok (before ++ c.toEntries :: after).length) := by
  have hconf : conf (before ++ c.toEntries :: after) before.length = c.toEntries := by
    simp [conf]
  have htaken :
      JobConf.ofEntries (conf (before ++ c.toEntries :: after) before.length) = .ok c := by
    rw [hconf, c.ofEntries_toEntries]
  have hassign : c.assign (JobConf.toEntries p) = (c.union p, none) :=
    JobConf.assign_texts c p.entries
  rw [overlay_of_taken htaken, JobConf.overlay_toEntries]
  dsimp only [Option.getD_some]
  rw [hassign]
  rfl

end Held

/-! ## The algebra -/

/-- Properties laid over a configuration that is held make a new one, in which they are asked first
and their new settings come last. Laid over it again, they change nothing. Further properties laid
over it come to the combination of both that a table makes, so the properties of a table come to its
parameters and then its serde parameters, if it has any. -/
theorem overlay_algebra (c : JobConf) (p q : OrderedMap String String)
    (serde : Option (OrderedMap String String)) :
    (∃ o, c.overlay (some (JobConf.toEntries p)) = .ok o ∧ c.Overlaid p o ∧
      (∀ before after : Held,
        Held.overlay (before ++ c.toEntries :: after) before.length (some (JobConf.toEntries p)) =
          (before ++ c.toEntries :: after ++ [o.toEntries],
            .ok (before ++ c.toEntries :: after).length)) ∧
      o.overlay (some (JobConf.toEntries p)) = .ok o ∧
      o.overlay (some (JobConf.toEntries q)) =
        c.overlay (some (HiveTable.ofTexts p (some q)).properties)) ∧
    (c.overlay none = .ok c ∧ c.overlay (some []) = .ok c) ∧
    ∃ o, c.overlay (some (HiveTable.ofTexts p serde).properties) = .ok o ∧
      (c.overlay (some (JobConf.toEntries p))).bind (·.overlay (serde.map JobConf.toEntries)) =
        .ok o ∧
      ∀ k, o.find? k = ((serde.bind (·.find? k)).or (p.find? k)).or (c.find? k) := by
  refine ⟨⟨c.union p, c.overlay_toEntries p, c.overlaid_union p, fun before after =>
    Held.overlay_of_texts before after c p, ?_, ?_⟩, ⟨rfl, rfl⟩,
    c.union (p.union (serde.getD .empty)), c.overlay_properties p serde, ?_, fun k => ?_⟩
  · rw [JobConf.overlay_toEntries, OrderedMap.union_assoc, OrderedMap.union_self]
  · rw [JobConf.overlay_toEntries, JobConf.overlay_properties, OrderedMap.union_assoc]
    rfl
  · rw [JobConf.overlay_toEntries]
    exact (JobConf.overlay_map_toEntries _ serde).trans (by rw [OrderedMap.union_assoc])
  · rw [OrderedMap.find?_union, JobConf.find?_union_getD]

/-- A setting of the job keeps its place under the value of the serde parameters. -/
example :
    (JobConf.overlay (.ofList [("a", "job"), ("b", "job")])
      (some (HiveTable.ofTexts (.ofList [("n", "table"), ("a", "table")])
        (some (.ofList [("s", "serde"), ("a", "serde")]))).properties)).toOption.map
          OrderedMap.entries =
      some [("a", "serde"), ("b", "job"), ("n", "table"), ("s", "serde")] := by
  decide

end StorageHandler
