import StorageHandler.Proofs.Results
import StorageHandler.Proofs.Text.Numeral
import StorageHandler.Schema.Mapping

/-!
# The Hive columns of a Kudu table

A column has the Hive type of its Kudu type, and if that is the decimal type the precision and the
scale of its attributes, which Hive must be able to represent (`KuduColumn.HasType`). Two columns
have the same Hive type exactly if they have the same Kudu type with the same attributes, which
count for decimals only (`HasType.eq_iff`).

The columns of a table are mapped one by one : if one of them has no Hive type, there are no Hive
columns at all, and the first such column says why (`KuduColumn.Lacks`). The table is refused for an
unsupported type, except where the precision or the scale to be named is too long to be written
(`KuduColumn.Overlong`) : then that is the failure (`columnwise_iff`).
-/

namespace StorageHandler

/-- Hive can represent decimals of this precision and scale. -/
structure DecimalAttributes.InRange (a : DecimalAttributes) : Prop where
  precision_pos : 1 ≤ a.precision
  precision_le : a.precision ≤ 38
  scale_nonneg : 0 ≤ a.scale
  scale_le : a.scale ≤ a.precision

theorem DecimalAttributes.inRange_iff {a : DecimalAttributes} :
    a.InRange ↔ (1 ≤ a.precision ∧ a.precision ≤ 38) ∧ 0 ≤ a.scale ∧ a.scale ≤ a.precision :=
  ⟨fun h => ⟨⟨h.1, h.2⟩, h.3, h.4⟩, fun h => ⟨h.1.1, h.1.2, h.2.1, h.2.2⟩⟩

instance (a : DecimalAttributes) : Decidable a.InRange :=
  decidable_of_iff _ DecimalAttributes.inRange_iff.symm

/-! ## One type -/

namespace KuduType

/-- The Hive type of a Kudu type with attributes, which count for decimals. -/
def described (t : KuduType) (a : DecimalAttributes) : HiveType :=
  if t = .decimal then ⟨.decimal, some a.precision, some a.scale⟩ else ⟨t.hiveCategory, none, none⟩

theorem hiveType_of_ne_decimal {t : KuduType} (h : t ≠ .decimal)
    (attributes : Option DecimalAttributes) :
    t.hiveType attributes = .ok ⟨t.hiveCategory, none, none⟩ := by
  cases t with
  | decimal => exact absurd rfl h
  | _ => rfl

theorem hiveType_decimal (a : DecimalAttributes) :
    decimal.hiveType (some a) =
      if ¬(1 ≤ a.precision ∧ a.precision ≤ 38) then .error (.precisionOutOfRange a.precision)
      else if ¬(0 ≤ a.scale ∧ a.scale ≤ a.precision) then
        .error (.scaleOutOfRange a.scale a.precision)
      else .ok (decimal.described a) :=
  rfl

theorem hiveType_of_inRange (t : KuduType) {a : DecimalAttributes} (h : a.InRange) :
    t.hiveType (some a) = .ok (t.described a) := by
  obtain ⟨hprecision, hscale⟩ := DecimalAttributes.inRange_iff.1 h
  by_cases ht : t = .decimal
  · rw [ht, hiveType_decimal, if_neg (not_not.2 hprecision), if_neg (not_not.2 hscale)]
  · rw [hiveType_of_ne_decimal ht, described, if_neg ht]

/-- Different Kudu types have different categories. -/
theorem hiveCategory_injective : Function.Injective hiveCategory := by
  have hall : ∀ t ∈ all, ∀ u ∈ all, t.hiveCategory = u.hiveCategory → t = u := by decide
  exact fun t u => hall t t.mem_all u u.mem_all

end KuduType

theorem TypeTag.hiveType_of_resolve {tag : TypeTag} {t : KuduType} (h : tag.resolve = .ok t)
    (attributes : Option DecimalAttributes) : tag.hiveType attributes = t.hiveType attributes := by
  rw [hiveType, h]
  rfl

theorem TypeTag.hiveType_of_resolve_eq_error {tag : TypeTag} {e : UnsupportedType}
    (h : tag.resolve = .error e) (attributes : Option DecimalAttributes) :
    tag.hiveType attributes = .error e := by
  rw [hiveType, h]
  rfl

theorem TypeTag.resolve_eq_error_iff {tag : TypeTag} {e : UnsupportedType} :
    tag.resolve = .error e ↔ ∃ s, tag = .named s ∧ KuduType.named? s = none ∧ e = .unknown s := by
  cases tag with
  | known t => simp [resolve]
  | named s =>
    cases hs : KuduType.named? s with
    | some t => simp [resolve, hs]
    | none => simp [resolve, hs, eq_comm]

namespace UnsupportedType

theorem message?_precision_eq_none_iff {precision : ℤ} :
    (precisionOutOfRange precision).message? = none ↔ Text.Numeral.Overlong precision := by
  rw [← Text.Numeral.text?_eq_none_iff, message?]
  cases Text.Numeral.text? precision <;> simp

theorem message?_scale_eq_none_iff {scale precision : ℤ} :
    (scaleOutOfRange scale precision).message? = none ↔
      Text.Numeral.Overlong scale ∨ Text.Numeral.Overlong precision := by
  rw [← Text.Numeral.text?_eq_none_iff, ← Text.Numeral.text?_eq_none_iff, message?]
  cases Text.Numeral.text? scale <;> cases Text.Numeral.text? precision <;> simp

end UnsupportedType

/-! ## One column -/

namespace KuduColumn

/-- The Hive type of a column. -/
inductive HasType (c : KuduColumn) : HiveType → Prop
  | decimal {a : DecimalAttributes} (htag : c.tag.resolve = .ok .decimal)
    (hattributes : c.attributes = some a) (hrange : a.InRange) :
    HasType c ⟨.decimal, some a.precision, some a.scale⟩
  | plain {t : KuduType} (htag : c.tag.resolve = .ok t) (hplain : t ≠ .decimal) :
    HasType c ⟨t.hiveCategory, none, none⟩

/-- Why a column has no Hive type. -/
inductive Lacks (c : KuduColumn) : UnsupportedType → Prop
  | type {s : String} (htag : c.tag = .named s) (hunknown : KuduType.named? s = none) :
    Lacks c (.unknown s)
  | attributes (htag : c.tag.resolve = .ok .decimal) (hnone : c.attributes = none) :
    Lacks c .missingAttributes
  | precision {a : DecimalAttributes} (htag : c.tag.resolve = .ok .decimal)
    (hattributes : c.attributes = some a) (hprecision : ¬(1 ≤ a.precision ∧ a.precision ≤ 38)) :
    Lacks c (.precisionOutOfRange a.precision)
  | scale {a : DecimalAttributes} (htag : c.tag.resolve = .ok .decimal)
    (hattributes : c.attributes = some a) (hprecision : 1 ≤ a.precision ∧ a.precision ≤ 38)
    (hscale : ¬(0 ≤ a.scale ∧ a.scale ≤ a.precision)) :
    Lacks c (.scaleOutOfRange a.scale a.precision)

/-- A decimal column is refused for a precision, or for a scale if the precision is in range, that
has more digits than are written. -/
inductive Overlong (c : KuduColumn) : Prop
  | precision {a : DecimalAttributes} (htag : c.tag.resolve = .ok .decimal)
    (hattributes : c.attributes = some a) (hlong : Text.Numeral.Overlong a.precision) : Overlong c
  | scale {a : DecimalAttributes} (htag : c.tag.resolve = .ok .decimal)
    (hattributes : c.attributes = some a) (hprecision : 1 ≤ a.precision ∧ a.precision ≤ 38)
    (hlong : Text.Numeral.Overlong a.scale) : Overlong c

/-- The type of a column is known, and a decimal has attributes that Hive can represent. -/
def Mappable (c : KuduColumn) : Prop :=
  ∃ t, c.tag.resolve = .ok t ∧ (t = .decimal → ∃ a, c.attributes = some a ∧ a.InRange)

/-- Columns of one Kudu type, with the same attributes if that is the decimal type. -/
def SameType (c d : KuduColumn) : Prop :=
  ∃ t, c.tag.resolve = .ok t ∧ d.tag.resolve = .ok t ∧ (t = .decimal → c.attributes = d.attributes)

variable {c d : KuduColumn} {s t : HiveType} {e : UnsupportedType}

theorem HasType.mappable (h : c.HasType t) : c.Mappable := by
  cases h with
  | decimal htag hattributes hrange => exact ⟨.decimal, htag, fun _ => ⟨_, hattributes, hrange⟩⟩
  | plain htag hplain => exact ⟨_, htag, fun hdecimal => absurd hdecimal hplain⟩

theorem Mappable.exists_hasType (h : c.Mappable) : ∃ t, c.HasType t := by
  obtain ⟨t, htag, hdecimal⟩ := h
  by_cases ht : t = .decimal
  · obtain ⟨a, hattributes, hrange⟩ := hdecimal ht
    exact ⟨_, .decimal (ht ▸ htag) hattributes hrange⟩
  · exact ⟨_, .plain htag ht⟩

theorem HasType.hiveType_eq (h : c.HasType t) : c.tag.hiveType c.attributes = .ok t := by
  cases h with
  | decimal htag hattributes hrange =>
    rw [TypeTag.hiveType_of_resolve htag, hattributes, KuduType.hiveType_of_inRange _ hrange]
    rfl
  | plain htag hplain =>
    rw [TypeTag.hiveType_of_resolve htag, KuduType.hiveType_of_ne_decimal hplain]

theorem Lacks.hiveType_eq (h : c.Lacks e) : c.tag.hiveType c.attributes = .error e := by
  cases h with
  | @type name htag hunknown =>
    have hresolve : c.tag.resolve = .error (.unknown name) :=
      TypeTag.resolve_eq_error_iff.2 ⟨name, htag, hunknown, rfl⟩
    exact TypeTag.hiveType_of_resolve_eq_error hresolve _
  | attributes htag hnone =>
    rw [TypeTag.hiveType_of_resolve htag, hnone]
    rfl
  | precision htag hattributes hprecision =>
    rw [TypeTag.hiveType_of_resolve htag, hattributes, KuduType.hiveType_decimal,
      if_pos hprecision]
  | scale htag hattributes hprecision hscale =>
    rw [TypeTag.hiveType_of_resolve htag, hattributes, KuduType.hiveType_decimal,
      if_neg (not_not.2 hprecision), if_pos hscale]

/-- A column has a Hive type, or something is the matter with it. -/
theorem hasType_or_lacks (c : KuduColumn) : (∃ t, c.HasType t) ∨ ∃ e, c.Lacks e := by
  cases htag : c.tag.resolve with
  | error e =>
    obtain ⟨s, hnamed, hunknown, -⟩ := TypeTag.resolve_eq_error_iff.1 htag
    exact .inr ⟨_, .type hnamed hunknown⟩
  | ok t =>
    by_cases ht : t = .decimal
    · subst ht
      cases hattributes : c.attributes with
      | none => exact .inr ⟨_, .attributes htag hattributes⟩
      | some a =>
        by_cases hprecision : 1 ≤ a.precision ∧ a.precision ≤ 38
        · by_cases hscale : 0 ≤ a.scale ∧ a.scale ≤ a.precision
          · exact .inl ⟨_, .decimal htag hattributes
              (DecimalAttributes.inRange_iff.2 ⟨hprecision, hscale⟩)⟩
          · exact .inr ⟨_, .scale htag hattributes hprecision hscale⟩
        · exact .inr ⟨_, .precision htag hattributes hprecision⟩
    · exact .inl ⟨_, .plain htag ht⟩

theorem Lacks.not_mappable (h : c.Lacks e) : ¬c.Mappable := by
  intro hmappable
  obtain ⟨t, ht⟩ := hmappable.exists_hasType
  cases h.hiveType_eq.symm.trans ht.hiveType_eq

theorem exists_lacks (h : ¬c.Mappable) : ∃ e, c.Lacks e :=
  c.hasType_or_lacks.resolve_left fun ⟨_, ht⟩ => h ht.mappable

theorem hiveType_eq_ok_iff : c.tag.hiveType c.attributes = .ok t ↔ c.HasType t := by
  refine ⟨fun h => ?_, HasType.hiveType_eq⟩
  rcases c.hasType_or_lacks with ⟨t', ht'⟩ | ⟨e, he⟩
  · obtain rfl := Except.ok.inj (h.symm.trans ht'.hiveType_eq)
    exact ht'
  · cases h.symm.trans he.hiveType_eq

theorem hiveType_eq_error_iff : c.tag.hiveType c.attributes = .error e ↔ c.Lacks e := by
  refine ⟨fun h => ?_, Lacks.hiveType_eq⟩
  rcases c.hasType_or_lacks with ⟨t, ht⟩ | ⟨e', he'⟩
  · cases h.symm.trans ht.hiveType_eq
  · obtain rfl := Except.error.inj (h.symm.trans he'.hiveType_eq)
    exact he'

theorem Overlong.exists_attributes (h : c.Overlong) :
    c.tag.resolve = .ok .decimal ∧ ∃ a, c.attributes = some a := by
  cases h with
  | precision htag hattributes | scale htag hattributes => exact ⟨htag, _, hattributes⟩

theorem overlong_iff {a : DecimalAttributes} (htag : c.tag.resolve = .ok .decimal)
    (hattributes : c.attributes = some a) : c.Overlong ↔ Text.Numeral.Overlong a.precision ∨
      (1 ≤ a.precision ∧ a.precision ≤ 38) ∧ Text.Numeral.Overlong a.scale := by
  constructor
  · intro h
    cases h with
    | precision _ hattributes' hlong =>
      obtain rfl := Option.some.inj (hattributes.symm.trans hattributes')
      exact .inl hlong
    | scale _ hattributes' hprecision hlong =>
      obtain rfl := Option.some.inj (hattributes.symm.trans hattributes')
      exact .inr ⟨hprecision, hlong⟩
  · rintro (hlong | ⟨hprecision, hlong⟩)
    · exact .precision htag hattributes hlong
    · exact .scale htag hattributes hprecision hlong

/-- What a column lacks can be said exactly if the integers to be named can be written. -/
theorem Lacks.message?_eq_none_iff (h : c.Lacks e) : e.message? = none ↔ c.Overlong := by
  cases h with
  | type htag hunknown =>
    have hresolve := TypeTag.resolve_eq_error_iff.2 ⟨_, htag, hunknown, rfl⟩
    refine iff_of_false nofun fun hlong => ?_
    cases hresolve.symm.trans hlong.exists_attributes.1
  | attributes htag hnone =>
    refine iff_of_false nofun fun hlong => ?_
    obtain ⟨-, a, ha⟩ := hlong.exists_attributes
    cases hnone.symm.trans ha
  | @precision a htag hattributes hprecision =>
    rw [UnsupportedType.message?_precision_eq_none_iff, overlong_iff htag hattributes]
    exact ⟨.inl, fun hlong => hlong.resolve_right fun hscale => hprecision hscale.1⟩
  | @scale a htag hattributes hprecision hscale =>
    have hshort : ¬Text.Numeral.Overlong a.precision := fun hlong => by
      have := hlong.lt_natAbs
      omega
    rw [UnsupportedType.message?_scale_eq_none_iff, overlong_iff htag hattributes]
    simp only [hshort, hprecision, and_true, or_false, false_or, true_and]

theorem Lacks.failure_eq_unwritable (h : c.Lacks e) (hlong : c.Overlong) :
    e.failure = .unwritable := by
  rw [UnsupportedType.failure, h.message?_eq_none_iff.2 hlong]
  rfl

theorem Lacks.kind_eq_iff (h : c.Lacks e) : e.failure.kind = .unsupportedType ↔ ¬c.Overlong := by
  rw [← h.message?_eq_none_iff, UnsupportedType.failure]
  cases e.message? with
  | none => exact iff_of_false nofun fun hsome => hsome rfl
  | some message => exact iff_of_true rfl nofun

/-- The Hive type of a column has a name. -/
theorem HasType.exists_typeName? (h : c.HasType t) : ∃ name, t.typeName? = some name := by
  have hwritten {i : ℤ} (hi : 0 ≤ i ∧ i ≤ 38) : ∃ text, Text.Numeral.text? i = some text :=
    Option.ne_none_iff_exists'.1 fun hnone => by
      have := (Text.Numeral.text?_eq_none_iff.1 hnone).lt_natAbs
      omega
  cases h with
  | @decimal a htag hattributes hrange =>
    obtain ⟨⟨hpos, hle⟩, hnonneg, hscale⟩ := DecimalAttributes.inRange_iff.1 hrange
    obtain ⟨precision, hprecision⟩ := hwritten ⟨by omega, hle⟩
    obtain ⟨scale, hscale⟩ := hwritten ⟨hnonneg, hscale.trans hle⟩
    refine ⟨"decimal(" ++ precision ++ "," ++ scale ++ ")", ?_⟩
    simp only [HiveType.typeName?, HiveType.parameterText?, hprecision, hscale]
    rfl
  | @plain t htag hplain =>
    cases t with
    | decimal => exact absurd rfl hplain
    | _ => exact ⟨_, rfl⟩

/-- Hive types tell Kudu types and the attributes of decimals apart, and nothing else. -/
theorem HasType.eq_iff (hc : c.HasType s) (hd : d.HasType t) : s = t ↔ c.SameType d := by
  cases hc with
  | @decimal a htag hattributes hrange =>
    cases hd with
    | @decimal b htag' hattributes' hrange' =>
      simp only [SameType, htag, htag', hattributes, hattributes', HiveType.mk.injEq,
        Option.some.injEq, Except.ok.injEq, true_and, exists_eq_left', forall_const]
      cases a
      cases b
      simp
    | @plain t htag' hplain =>
      refine iff_of_false (by simp) ?_
      rintro ⟨u, hu, hu', -⟩
      have hdecimal := Except.ok.inj (htag.symm.trans hu)
      exact hplain ((Except.ok.inj (htag'.symm.trans hu')).trans hdecimal.symm)
  | @plain t htag hplain =>
    cases hd with
    | @decimal b htag' hattributes' hrange' =>
      refine iff_of_false (by simp) ?_
      rintro ⟨u, hu, hu', -⟩
      have hdecimal := Except.ok.inj (htag'.symm.trans hu')
      exact hplain ((Except.ok.inj (htag.symm.trans hu)).trans hdecimal.symm)
    | @plain u htag' hplain' =>
      have hcategory : t.hiveCategory = u.hiveCategory ↔ t = u :=
        KuduType.hiveCategory_injective.eq_iff
      simp only [HiveType.mk.injEq, and_self, and_true, hcategory, SameType, htag, htag',
        Except.ok.injEq, exists_eq_left', hplain, false_implies, eq_comm]

end KuduColumn

/-- What a Kudu type is mapped to has a name. -/
theorem KuduType.exists_typeName? {t : KuduType} {attributes : Option DecimalAttributes}
    {type : HiveType} (h : t.hiveType attributes = .ok type) : ∃ name, type.typeName? = some name :=
  (KuduColumn.hiveType_eq_ok_iff (c := ⟨"", .known t, attributes⟩).1 h).exists_typeName?

/-! ## All columns -/

/-- Every column is mapped by itself, and keeps its name. -/
theorem hiveColumns_eq (columns : List KuduColumn) :
    hiveColumns columns =
      columns.mapM fun c => (c.tag.hiveType c.attributes).map fun t => (c.name, t) := by
  refine congrArg (columns.mapM ·) (funext fun c => ?_)
  cases c.tag.hiveType c.attributes <;> rfl

theorem named_eq_ok_iff {c : KuduColumn} {h : String × HiveType} :
    ((c.tag.hiveType c.attributes).map fun t => (c.name, t)) = .ok h ↔
      h.1 = c.name ∧ c.HasType h.2 := by
  rw [← KuduColumn.hiveType_eq_ok_iff]
  obtain ⟨name, t⟩ := h
  cases c.tag.hiveType c.attributes with
  | error e => simp [Except.map]
  | ok u => simp [Except.map, eq_comm]

theorem named_eq_error_iff {c : KuduColumn} {e : UnsupportedType} :
    ((c.tag.hiveType c.attributes).map fun t => (c.name, t)) = .error e ↔ c.Lacks e := by
  rw [← KuduColumn.hiveType_eq_error_iff]
  cases c.tag.hiveType c.attributes <;> simp [Except.map]

theorem exists_named_iff_mappable {c : KuduColumn} :
    (∃ h, ((c.tag.hiveType c.attributes).map fun t => (c.name, t)) = .ok h) ↔ c.Mappable := by
  simp only [named_eq_ok_iff]
  constructor
  · rintro ⟨h, -, htype⟩
    exact htype.mappable
  · intro h
    obtain ⟨t, ht⟩ := h.exists_hasType
    exact ⟨(c.name, t), rfl, ht⟩

theorem hiveColumns_eq_ok_iff {columns : List KuduColumn} {hive : List (String × HiveType)} :
    hiveColumns columns = .ok hive ↔
      List.Forall₂ (fun c h => h.1 = c.name ∧ c.HasType h.2) columns hive := by
  simp only [hiveColumns_eq, mapM_eq_ok_iff_forall₂, named_eq_ok_iff]

theorem hiveColumns_eq_error_iff {columns : List KuduColumn} {e : UnsupportedType} :
    hiveColumns columns = .error e ↔ ∃ pre c post, columns = pre ++ c :: post ∧
      (∀ c' ∈ pre, c'.Mappable) ∧ c.Lacks e := by
  simp only [hiveColumns_eq, mapM_eq_error_iff, named_eq_error_iff, exists_named_iff_mappable]

theorem exists_hiveColumns_iff {columns : List KuduColumn} :
    (∃ hive, hiveColumns columns = .ok hive) ↔ ∀ c ∈ columns, c.Mappable := by
  constructor
  · rintro ⟨hive, h⟩ c hc
    rw [hiveColumns_eq, mapM_eq_ok_iff_forall₂] at h
    obtain ⟨i, hi, rfl⟩ := List.getElem_of_mem hc
    exact exists_named_iff_mappable.1 ⟨_, h.get hi (h.length_eq ▸ hi)⟩
  · intro h
    rw [hiveColumns_eq]
    exact exists_mapM_eq_ok fun c hc => exists_named_iff_mappable.2 (h c hc)

/-- What is mapped has the names of the columns in their order, each with the Hive type of its
column. Hive types are the same exactly if the Kudu types are, with the same attributes for
decimals. -/
structure Mapped (columns : List KuduColumn) (hive : List (String × HiveType)) : Prop where
  length_eq : hive.length = columns.length
  names : hive.map Prod.fst = columns.map KuduColumn.name
  types : List.Forall₂ (fun c h => c.HasType h.2) columns hive
  eq_iff : ∀ c h d g, (c, h) ∈ columns.zip hive → (d, g) ∈ columns.zip hive →
    (h.2 = g.2 ↔ c.SameType d)

theorem mapped_of_hiveColumns {columns : List KuduColumn} {hive : List (String × HiveType)}
    (h : hiveColumns columns = .ok hive) : Mapped columns hive := by
  have hall := hiveColumns_eq_ok_iff.1 h
  have htypes : List.Forall₂ (fun c h => c.HasType h.2) columns hive := hall.imp fun _ _ h => h.2
  have hnames : List.Forall₂ (fun c h => c.name = h.1) columns hive :=
    hall.imp fun _ _ h => h.1.symm
  have htype {c h} (hmem : (c, h) ∈ columns.zip hive) : c.HasType h.2 :=
    List.forall₂_zip htypes hmem
  refine ⟨hall.length_eq.symm, ?_, htypes, fun c h d g hc hd => (htype hc).eq_iff (htype hd)⟩
  rw [eq_comm, ← List.forall₂_eq_eq_eq, List.forall₂_map_left_iff, List.forall₂_map_right_iff]
  exact hnames

/-- A column of a table cannot be mapped, and all those before it can. -/
structure FirstUnmappable (columns : List KuduColumn) (c : KuduColumn) : Prop where
  unmappable : ¬c.Mappable
  split : ∃ pre post, columns = pre ++ c :: post ∧ ∀ c' ∈ pre, c'.Mappable

theorem FirstUnmappable.hiveColumns_eq_error_iff {columns : List KuduColumn} {c : KuduColumn}
    {e : UnsupportedType} (h : FirstUnmappable columns c) :
    hiveColumns columns = .error e ↔ c.Lacks e := by
  obtain ⟨hc, pre, post, hsplit, hpre⟩ := h
  refine ⟨fun he => ?_, fun hlacks =>
    StorageHandler.hiveColumns_eq_error_iff.2 ⟨pre, c, post, hsplit, hpre, hlacks⟩⟩
  obtain ⟨e', hlacks⟩ := KuduColumn.exists_lacks hc
  have he' := StorageHandler.hiveColumns_eq_error_iff.2 ⟨pre, c, post, hsplit, hpre, hlacks⟩
  obtain rfl := Except.error.inj (he.symm.trans he')
  exact hlacks

/-- A table is mapped exactly if all its columns can be, column by column, and otherwise refused as
having an unsupported type, for the first of its columns that cannot be mapped. -/
structure Columnwise (columns : List KuduColumn) : Prop where
  mapped_iff : (∃ hive, hiveColumns columns = .ok hive) ↔ ∀ c ∈ columns, c.Mappable
  mapped : ∀ hive, hiveColumns columns = .ok hive → Mapped columns hive
  refused : ∀ c, FirstUnmappable columns c → ∃ e, hiveColumns columns = .error e ∧ c.Lacks e ∧
    e.failure.kind = .unsupportedType

/-- A table is mapped as its columns say, and if it is refused the first column that cannot be
mapped says why. The failure is that of an unsupported type exactly if the integers that it names
can be written, that is unless that column has a precision or a scale with too many digits; then it
is another one, and none of the library's own. -/
theorem columnwise_iff (columns : List KuduColumn) :
    (Columnwise columns ↔ ∀ c, FirstUnmappable columns c → ¬c.Overlong) ∧
    ((∃ hive, hiveColumns columns = .ok hive) ↔ ∀ c ∈ columns, c.Mappable) ∧
    (∀ hive, hiveColumns columns = .ok hive → Mapped columns hive) ∧
    (∀ e, hiveColumns columns = .error e ↔ ∃ c, FirstUnmappable columns c ∧ c.Lacks e) ∧
    ∀ c, FirstUnmappable columns c → c.Overlong →
      ∃ e, hiveColumns columns = .error e ∧ c.Lacks e ∧ e.failure = .unwritable ∧
        Failure.unwritable.kind.isOwn = false := by
  refine ⟨⟨fun h c hc hlong => ?_, fun h => ⟨exists_hiveColumns_iff, fun _ => mapped_of_hiveColumns,
    fun c hc => ?_⟩⟩, exists_hiveColumns_iff, fun _ => mapped_of_hiveColumns, fun e => ?_,
    fun c hc hlong => ?_⟩
  · obtain ⟨e, -, hlacks, hkind⟩ := h.refused c hc
    exact hlacks.kind_eq_iff.1 hkind hlong
  · obtain ⟨e, hlacks⟩ := KuduColumn.exists_lacks hc.unmappable
    exact ⟨e, hc.hiveColumns_eq_error_iff.2 hlacks, hlacks, hlacks.kind_eq_iff.2 (h c hc)⟩
  · constructor
    · intro he
      obtain ⟨pre, c, post, hsplit, hpre, hlacks⟩ := hiveColumns_eq_error_iff.1 he
      exact ⟨c, ⟨hlacks.not_mappable, pre, post, hsplit, hpre⟩, hlacks⟩
    · rintro ⟨c, hc, hlacks⟩
      exact hc.hiveColumns_eq_error_iff.2 hlacks
  · obtain ⟨e, hlacks⟩ := KuduColumn.exists_lacks hc.unmappable
    exact ⟨e, hc.hiveColumns_eq_error_iff.2 hlacks, hlacks, hlacks.failure_eq_unwritable hlong, rfl⟩

/-- Decimals at the bounds under one name, and attributes that do not count. -/
def awkwardColumns : List KuduColumn :=
  [⟨"a", .named "deCimal", some ⟨38, 38⟩⟩, ⟨"a", .known .decimal, some ⟨1, 0⟩⟩,
    ⟨"", .named "INT8", some ⟨99, -1⟩⟩]

theorem columnwise_awkwardColumns :
    (∃ hive, hiveColumns awkwardColumns = .ok hive ∧ hive.map Prod.fst = ["a", "a", ""] ∧
      List.Forall₂ (fun c h => KuduColumn.HasType c h.2) awkwardColumns hive) ∧
    hiveColumns (awkwardColumns ++
      [⟨"b", .named "decimal", some ⟨5, 6⟩⟩, ⟨"c", .named "?", none⟩]) =
        .error (.scaleOutOfRange 6 5) := by
  have hmappable : ∀ c ∈ awkwardColumns, c.Mappable := by
    intro c hc
    simp only [awkwardColumns, List.mem_cons, List.not_mem_nil, or_false] at hc
    rcases hc with rfl | rfl | rfl
    · exact ⟨.decimal, by decide, fun _ => ⟨_, rfl, by decide⟩⟩
    · exact ⟨.decimal, rfl, fun _ => ⟨_, rfl, by decide⟩⟩
    · exact ⟨.int8, by decide, by decide⟩
  constructor
  · obtain ⟨-, hexists, hmapped, -⟩ := columnwise_iff awkwardColumns
    obtain ⟨hive, hhive⟩ := hexists.2 hmappable
    exact ⟨hive, hhive, (hmapped hive hhive).names, (hmapped hive hhive).types⟩
  · have hlacks : KuduColumn.Lacks ⟨"b", .named "decimal", some ⟨5, 6⟩⟩ (.scaleOutOfRange 6 5) :=
      .scale (a := ⟨5, 6⟩) (by decide) rfl (by decide) (by decide)
    exact ((columnwise_iff _).2.2.2.1 _).2
      ⟨_, ⟨hlacks.not_mappable, awkwardColumns, [⟨"c", .named "?", none⟩], rfl, hmappable⟩, hlacks⟩

/-- A decimal with a precision that is too long to be written. -/
def hugeColumn : KuduColumn := ⟨"a", .named "decimal", some ⟨10 ^ 5000, 0⟩⟩

/-- The precision is out of range, but no unsupported type is what leaves. -/
theorem not_columnwise_hugeColumn :
    ¬Columnwise [hugeColumn] ∧
    hiveColumns [hugeColumn] = .error (.precisionOutOfRange (10 ^ 5000)) ∧
    (UnsupportedType.precisionOutOfRange (10 ^ 5000)).failure.kind = .value := by
  have htag : hugeColumn.tag.resolve = .ok .decimal := by decide
  have hlong : Text.Numeral.Overlong (10 ^ 5000) := Text.Numeral.overlong_pow (by decide)
  have hprecision : ¬((1 : ℤ) ≤ 10 ^ 5000 ∧ (10 ^ 5000 : ℤ) ≤ 38) := by
    have := hlong.lt_natAbs
    omega
  have hlacks : hugeColumn.Lacks (.precisionOutOfRange (10 ^ 5000)) :=
    .precision htag rfl hprecision
  have hoverlong : hugeColumn.Overlong := .precision htag rfl hlong
  have hfirst : FirstUnmappable [hugeColumn] hugeColumn :=
    ⟨hlacks.not_mappable, [], [], rfl, List.forall_mem_nil _⟩
  refine ⟨fun h => ?_, hfirst.hiveColumns_eq_error_iff.2 hlacks, ?_⟩
  · obtain ⟨e, -, he, hkind⟩ := h.refused _ hfirst
    exact he.kind_eq_iff.1 hkind hoverlong
  · rw [hlacks.failure_eq_unwritable hoverlong]
    rfl

end StorageHandler
