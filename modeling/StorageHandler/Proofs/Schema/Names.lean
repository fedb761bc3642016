import StorageHandler.Proofs.Schema.Columns
import StorageHandler.Proofs.Text.Capital

/-!
# Texts that stand for Kudu types

A text stands for the Kudu type whose name it spells in capitals (`named?_eq_some_iff`) : the name in
any case, or a lookalike of it, in which a letter outside ASCII takes the place of letters of the
name (`Lookalike`). Lookalikes have one of five such letters (`Lookalike.exists_letter`), because
the names have no letters for the others to stand for.

A text stands for types by its letters alone exactly if it is no lookalike
(`takenByName_or_lookalike`).
-/

namespace StorageHandler

open Text (SameLetters Spells foreignCapitals)

/-! ## Names -/

namespace KuduType

variable {s : String} {t : KuduType}

theorem toNat_lt_of_mem_name {d : Char} (h : d ∈ t.name.toList) : d.toNat < 128 := by
  have hall : ∀ t ∈ all, (t.name.toList.all fun d => d.toNat < 128) = true := by decide
  exact of_decide_eq_true (List.all_eq_true.1 (hall t t.mem_all) d h)

theorem map_toUpper_name (t : KuduType) : t.name.toList.map Char.toUpper = t.name.toList := by
  have hall : ∀ t ∈ all, t.name.toList.map Char.toUpper = t.name.toList := by decide
  exact hall t t.mem_all

theorem sameLetters_name_iff :
    SameLetters s t.name ↔ s.toList.map Char.toUpper = t.name.toList := by
  rw [SameLetters, map_toUpper_name]

theorem ofName?_eq_some_iff : ofName? s = some t ↔ s = t.name :=
  ⟨fun h => (name_of_ofName? h).symm, fun h => h ▸ ofName?_name t⟩

/-- A text stands for the type whose name it spells in capitals. -/
theorem named?_eq_some_iff : named? s = some t ↔ Spells s.toList t.name.toList := by
  rw [named?, ofName?_eq_some_iff, Text.capitals, ← String.toList_inj, String.toList_ofList]
  exact Text.flatMap_capital_eq_iff fun _ => toNat_lt_of_mem_name

theorem spells_of_sameLetters (h : SameLetters s t.name) : Spells s.toList t.name.toList := by
  have hname := sameLetters_name_iff.1 h
  rw [← hname]
  exact Text.spells_map_toUpper fun d hd => toNat_lt_of_mem_name (hname ▸ hd)

end KuduType

/-! ## Lookalikes -/

/-- A text has the name of a type as its capital form, but other letters. -/
def Lookalike (s : String) (t : KuduType) : Prop :=
  Spells s.toList t.name.toList ∧ ¬SameLetters s t.name

/-- The letters outside ASCII whose capital forms occur in names of types. -/
def lookalikeLetters : List Char := ['\u0131', '\u017f', '\ufb02', '\ufb05', '\ufb06']

theorem Lookalike.exists_letter {s : String} {t : KuduType} (h : Lookalike s t) :
    ∃ c ∈ s.toList, c ∈ lookalikeLetters := by
  have hall : ∀ t ∈ KuduType.all, ∀ p ∈ foreignCapitals, p.2 <:+: t.name.toList →
      p.1 ∈ lookalikeLetters := by decide
  rcases h.1.map_toUpper_or_foreign with hletters | ⟨c, hc, form, hform, hinfix⟩
  · exact absurd (KuduType.sameLetters_name_iff.2 hletters) h.2
  · exact ⟨c, hc, hall t t.mem_all _ hform hinfix⟩

/-! ## Tags -/

namespace TypeTag

variable {s : String} {t : KuduType}

theorem resolve_named_eq_ok_iff :
    (named s).resolve = .ok t ↔ SameLetters s t.name ∨ Lookalike s t := by
  have hspells : (named s).resolve = .ok t ↔ Spells s.toList t.name.toList := by
    rw [← KuduType.named?_eq_some_iff]
    cases hs : KuduType.named? s <;> simp [resolve, hs]
  rw [hspells]
  constructor
  · intro h
    by_cases hletters : SameLetters s t.name
    · exact .inl hletters
    · exact .inr ⟨h, hletters⟩
  · rintro (hletters | ⟨h, -⟩)
    · exact KuduType.spells_of_sameLetters hletters
    · exact h

theorem resolve_named_eq_error (h : ∀ t : KuduType, ¬SameLetters s t.name ∧ ¬Lookalike s t) :
    (named s).resolve = .error (.unknown s) := by
  cases hresolve : (named s).resolve with
  | ok t =>
    rcases resolve_named_eq_ok_iff.1 hresolve with hletters | hlookalike
    · exact absurd hletters (h t).1
    · exact absurd hlookalike (h t).2
  | error e =>
    obtain ⟨s', hs', -, rfl⟩ := resolve_eq_error_iff.1 hresolve
    rw [named.inj hs']

/-- With attributes that Hive can represent, a tag has the Hive type of its Kudu type. -/
theorem hiveType_eq_ok_iff_of_inRange {tag : TypeTag} {a : DecimalAttributes} (ha : a.InRange)
    {h : HiveType} :
    tag.hiveType (some a) = .ok h ↔ ∃ t, tag.resolve = .ok t ∧ h = t.described a := by
  cases hresolve : tag.resolve with
  | ok t =>
    rw [hiveType_of_resolve hresolve, KuduType.hiveType_of_inRange t ha]
    simp [eq_comm]
  | error e =>
    rw [hiveType_of_resolve_eq_error hresolve]
    simp

end TypeTag

/-- A text is taken for the types whose names have its letters, in any case, and is refused if there
are none. -/
structure TakenByName (s : String) : Prop where
  type : ∀ t, (TypeTag.named s).resolve = .ok t ↔ SameLetters s t.name
  hive : ∀ a : DecimalAttributes, a.InRange → ∀ h, (TypeTag.named s).hiveType (some a) = .ok h ↔
    ∃ t : KuduType, SameLetters s t.name ∧ h = t.described a
  refused : (∀ t : KuduType, ¬SameLetters s t.name) →
    ∃ e, (TypeTag.named s).resolve = .error e ∧
    (∀ attributes, (TypeTag.named s).hiveType attributes = .error e) ∧
    e.failure = ⟨.unsupportedType, "Unsupported column type: " ++ s⟩

theorem takenByName_of_not_lookalike {s : String} (h : ∀ t, ¬Lookalike s t) : TakenByName s := by
  have htype (t) : (TypeTag.named s).resolve = .ok t ↔ SameLetters s t.name := by
    rw [TypeTag.resolve_named_eq_ok_iff, or_iff_left (h t)]
  refine ⟨htype, fun a ha hive => ?_, fun hunnamed => ?_⟩
  · simp only [TypeTag.hiveType_eq_ok_iff_of_inRange ha, htype]
  · have herror := TypeTag.resolve_named_eq_error fun t => ⟨hunnamed t, h t⟩
    exact ⟨_, herror, TypeTag.hiveType_of_resolve_eq_error herror, rfl⟩

/-- A text is taken for types by its letters exactly if it is no lookalike. A lookalike is taken for
the type whose name it resembles, and has one of five letters outside ASCII. -/
theorem takenByName_or_lookalike (s : String) :
    (TakenByName s ↔ ∀ t, ¬Lookalike s t) ∧
    ∀ t, Lookalike s t → (TypeTag.named s).resolve = .ok t ∧
      (∀ a : DecimalAttributes, a.InRange →
        (TypeTag.named s).hiveType (some a) = .ok (t.described a)) ∧
      ∃ c ∈ s.toList, c ∈ lookalikeLetters := by
  have hresolve {t} (h : Lookalike s t) : (TypeTag.named s).resolve = .ok t :=
    TypeTag.resolve_named_eq_ok_iff.2 (.inr h)
  refine ⟨⟨fun htaken t h => ?_, takenByName_of_not_lookalike⟩, fun t h => ?_⟩
  · exact h.2 ((htaken.type t).1 (hresolve h))
  · exact ⟨hresolve h,
      fun a ha => (TypeTag.hiveType_eq_ok_iff_of_inRange ha).2 ⟨t, hresolve h, rfl⟩,
      h.exists_letter⟩

/-- A name in mixed case, and one with a ligature. -/
theorem takenByName_or_lookalike_ligature :
    (TakenByName "dEcImal" ∧ TakenByName "decima\u0142") ∧
    (TypeTag.named "\ufb02oat").resolve = .ok .float := by
  have hplain {s : String} (hs : (s.toList.all fun c => c ∉ lookalikeLetters) = true) :
      TakenByName s := by
    refine (takenByName_or_lookalike s).1.2 fun t h => ?_
    obtain ⟨-, -, c, hc, hletter⟩ := (takenByName_or_lookalike s).2 t h
    exact of_decide_eq_true (List.all_eq_true.1 hs c hc) hletter
  refine ⟨⟨hplain (by decide), hplain (by decide)⟩, ?_⟩
  refine ((takenByName_or_lookalike _).2 .float ⟨?_, by decide⟩).1
  exact .foreign (by decide : ('\ufb02', ['F', 'L']) ∈ foreignCapitals)
    (.ascii (by decide) (.ascii (by decide) (.ascii (by decide) .nil)))

/-- A dotless i makes a text with other letters than any name, but it stands for a type. -/
theorem not_takenByName_dotless :
    ¬TakenByName "b\u0131nary" ∧ (∀ t : KuduType, ¬SameLetters "b\u0131nary" t.name) ∧
    (TypeTag.named "b\u0131nary").resolve = .ok .binary ∧
    (TypeTag.named "b\u0131nary").hiveType none = .ok ⟨.binary, none, none⟩ := by
  have hletters : ∀ t ∈ KuduType.all, ¬SameLetters "b\u0131nary" t.name := by decide
  have hresolve : (TypeTag.named "b\u0131nary").resolve = .ok .binary := by decide
  refine ⟨fun h => ?_, fun t => hletters t t.mem_all, hresolve, by decide⟩
  exact hletters .binary (KuduType.mem_all _) ((h.type .binary).1 hresolve)

end StorageHandler
