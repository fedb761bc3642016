import Mathlib.Data.List.Infix
import StorageHandler.Text.Capital

/-!
# Capital letters in ASCII

A text in ASCII is the capital form of the texts that spell it (`Spells`, `flatMap_capital_eq_iff`) :
each of its letters is written in either case, or together with its neighbours as one of the ten
letters outside ASCII whose capital form is in ASCII. A text without such letters has the capital
form that only differs in the case of the letters `a` to `z` (`Spells.map_toUpper_or_foreign`).
-/

namespace StorageHandler.Text

/-- Two texts are the same up to the case of the letters `a` to `z`. -/
def SameLetters (s t : String) : Prop := s.toList.map Char.toUpper = t.toList.map Char.toUpper

instance (s t : String) : Decidable (SameLetters s t) :=
  inferInstanceAs (Decidable (_ = _))

/-- The letters outside ASCII with capital forms in ASCII, and these forms. -/
def foreignCapitals : List (Char × List Char) :=
  [('\u00df', ['S', 'S']), ('\u0131', ['I']), ('\u017f', ['S']), ('\ufb00', ['F', 'F']),
    ('\ufb01', ['F', 'I']), ('\ufb02', ['F', 'L']), ('\ufb03', ['F', 'F', 'I']),
    ('\ufb04', ['F', 'F', 'L']), ('\ufb05', ['S', 'T']), ('\ufb06', ['S', 'T'])]

/-- The first characters have the second ones as their capital form. -/
inductive Spells : List Char → List Char → Prop
  | nil : Spells [] []
  | ascii {c : Char} {cs ds : List Char} (hc : c.toNat < 128) (h : Spells cs ds) :
    Spells (c :: cs) (c.toUpper :: ds)
  | foreign {c : Char} {form cs ds : List Char} (hc : (c, form) ∈ foreignCapitals)
    (h : Spells cs ds) : Spells (c :: cs) (form ++ ds)

/-! ## One character -/

section Character

variable {c : Char}

theorem capital_of_lt (h : c.toNat < 128) : capital c = [c.toUpper] := by
  have hall : ∀ n < 128, capital (Char.ofNat n) = [(Char.ofNat n).toUpper] := by decide
  simpa using hall c.toNat h

theorem capital_of_mem {form : List Char} (h : (c, form) ∈ foreignCapitals) : capital c = form := by
  have hall : ∀ p ∈ foreignCapitals, capital p.1 = p.2 := by decide
  exact hall _ h

theorem not_small_of_le (h : 128 ≤ c.toNat) : ¬('a' ≤ c ∧ c ≤ 'z') := by
  rintro ⟨-, hz⟩
  have hz' : c.toNat ≤ 'z'.toNat := hz
  exact absurd (h.trans hz') (by decide)

theorem capital_of_not_mem (hc : 128 ≤ c.toNat) (h : c ∉ foreignCapitals.map Prod.fst) :
    capital c = [c] := by
  unfold capital
  rw [if_neg (not_small_of_le hc)]
  split
  case h_11 => rfl
  all_goals exact absurd (by decide) h

theorem toUpper_of_le (h : 128 ≤ c.toNat) : c.toUpper = c :=
  dif_neg (not_small_of_le h)

/-- Only characters in ASCII have a capital letter of their own in ASCII. -/
theorem toNat_lt_of_toUpper (h : c.toUpper.toNat < 128) : c.toNat < 128 := by
  by_contra hc
  exact hc (toUpper_of_le (not_lt.1 hc) ▸ h)

end Character

/-! ## Texts -/

section Texts

variable {cs ds : List Char}

theorem Spells.flatMap_capital (h : Spells cs ds) : cs.flatMap capital = ds := by
  induction h with
  | nil => rfl
  | ascii hc _ ih => rw [List.flatMap_cons, capital_of_lt hc, ih, List.singleton_append]
  | foreign hc _ ih => rw [List.flatMap_cons, capital_of_mem hc, ih]

/-- Exactly the texts that spell it have a text in ASCII as their capital form. -/
theorem flatMap_capital_eq_iff (hds : ∀ d ∈ ds, d.toNat < 128) :
    cs.flatMap capital = ds ↔ Spells cs ds := by
  refine ⟨fun h => ?_, Spells.flatMap_capital⟩
  induction cs generalizing ds with
  | nil => exact h ▸ .nil
  | cons c cs ih =>
    subst h
    rw [List.flatMap_cons] at hds ⊢
    obtain ⟨hform, hrest⟩ := List.forall_mem_append.1 hds
    have hspells := ih hrest rfl
    by_cases hc : c.toNat < 128
    · rw [capital_of_lt hc]
      exact .ascii hc hspells
    · by_cases hforeign : c ∈ foreignCapitals.map Prod.fst
      · obtain ⟨⟨_, form⟩, hmem, rfl⟩ := List.mem_map.1 hforeign
        rw [capital_of_mem hmem]
        exact .foreign hmem hspells
      · rw [capital_of_not_mem (not_lt.1 hc) hforeign] at hform
        exact absurd (hform c (List.mem_singleton_self c)) hc

theorem spells_map_toUpper (h : ∀ d ∈ cs.map Char.toUpper, d.toNat < 128) :
    Spells cs (cs.map Char.toUpper) := by
  induction cs with
  | nil => exact .nil
  | cons c cs ih =>
    obtain ⟨hc, hcs⟩ := List.forall_mem_cons.1 h
    exact .ascii (toNat_lt_of_toUpper hc) (ih hcs)

/-- A text spells its own letters as capitals, or it has a letter outside ASCII that stands for
letters of its capital form. -/
theorem Spells.map_toUpper_or_foreign (h : Spells cs ds) :
    cs.map Char.toUpper = ds ∨
      ∃ c ∈ cs, ∃ form, (c, form) ∈ foreignCapitals ∧ form <:+: ds := by
  induction h with
  | nil => exact .inl rfl
  | @ascii c cs ds hc _ ih =>
    rcases ih with rfl | ⟨d, hd, form, hform, hinfix⟩
    · exact .inl rfl
    · exact .inr ⟨d, List.mem_cons_of_mem _ hd, form, hform,
        hinfix.trans (List.suffix_cons _ _).isInfix⟩
  | @foreign c form cs ds hc _ _ =>
    exact .inr ⟨c, List.mem_cons_self, form, hc, (List.prefix_append form ds).isInfix⟩

end Texts

end StorageHandler.Text
