import Mathlib.Data.Nat.Digits.Defs
import StorageHandler.Proofs.Text.Cut
import StorageHandler.Text.Numeral

/-!
# Decimal numerals

A decimal numeral is written with blanks around it, a sign or none, and digits of any script with
single underscores between them, at most `maxDigits` of them (`IsDecimal`). Exactly these texts are
read, as the number that the digits write (`read?_decimal_eq_some_iff`). The text of an integer is
such a numeral, unless it has too many digits (`isDecimal_text`), and then it is not written either
(`text?_eq_none_iff`).
-/

namespace StorageHandler.Text.Numeral

/-! ## The grammar -/

/-- Digits of any script with single underscores between them, and their values. -/
inductive Digits : List Char → List ℕ → Prop
  | last {c : Char} {d : ℕ} (hd : digitValue? c = some d) : Digits [c] [d]
  | digit {c : Char} {d : ℕ} {cs : List Char} {ds : List ℕ} (hd : digitValue? c = some d)
    (hds : Digits cs ds) : Digits (c :: cs) (d :: ds)
  | underscore {c : Char} {d : ℕ} {cs : List Char} {ds : List ℕ} (hd : digitValue? c = some d)
    (hds : Digits cs ds) : Digits (c :: '_' :: cs) (d :: ds)

/-- What stands for a sign, and whether it is a minus. -/
inductive Sign : List Char → Bool → Prop
  | none : Sign [] false
  | plus : Sign ['+'] false
  | minus : Sign ['-'] true

/-- The integer with a sign and a magnitude. -/
def ofSign (negative : Bool) (n : ℕ) : ℤ := if negative then -(n : ℤ) else n

/-- A text is a decimal numeral of an integer. The digits stand with the most significant first. -/
inductive IsDecimal : String → ℤ → Prop
  | intro {before sign cs after : List Char} {negative : Bool} {ds : List ℕ}
    (hbefore : ∀ c ∈ before, isNumeralBlank c = true) (hsign : Sign sign negative)
    (hdigits : Digits cs ds) (hmax : ds.length ≤ maxDigits)
    (hafter : ∀ c ∈ after, isNumeralBlank c = true) :
    IsDecimal (String.ofList (before ++ (sign ++ cs) ++ after))
      (ofSign negative (Nat.ofDigits 10 ds.reverse))

/-! ## Digits -/

section Digits

variable {c : Char} {d : ℕ} {cs : List Char} {ds : List ℕ}

/-- A digit is no blank. -/
theorem isBlank_of_digitValue? (h : digitValue? c = some d) : isBlank c = false := by
  have htable : ∀ z ∈ digitZeros, ∀ i < 10, isBlank (Char.ofNat (z + i)) = false := by decide
  obtain ⟨z, hz, -⟩ := Option.map_eq_some_iff.1 h
  have hbounds := List.find?_some hz
  simp only [Bool.and_eq_true, decide_eq_true_eq] at hbounds
  have hc := htable z (List.mem_of_find?_eq_some hz) (c.toNat - z) (by omega)
  rwa [Nat.add_sub_cancel' hbounds.1, Char.ofNat_toNat] at hc

theorem ne_of_digitValue? (h : digitValue? c = some d) (x : Char) (hx : digitValue? x = none) :
    c ≠ x := by
  rintro rfl
  rw [h] at hx
  cases hx

/-- In base ten only the decimal digits have a value. -/
theorem digit?_eq_some_iff : (digit? c = some d ∧ d < 10) ↔ digitValue? c = some d := by
  unfold digit?
  cases hc : digitValue? c with
  | some d' =>
    refine ⟨And.left, fun h => ⟨h, ?_⟩⟩
    obtain rfl := Option.some.inj h
    exact digitValue?_lt hc
  | none =>
    refine ⟨fun ⟨h, hlt⟩ => ?_, fun h => absurd h (by simp)⟩
    dsimp only at h
    split_ifs at h
    · have := Option.some.inj h
      omega
    · have := Option.some.inj h
      omega

theorem Digits.exists_head (h : Digits cs ds) :
    ∃ c rest d, cs = c :: rest ∧ digitValue? c = some d := by
  cases h with
  | last hd => exact ⟨_, _, _, rfl, hd⟩
  | digit hd => exact ⟨_, _, _, rfl, hd⟩
  | underscore hd => exact ⟨_, _, _, rfl, hd⟩

theorem Digits.exists_getLast (h : Digits cs ds) :
    ∃ c d, cs.getLast? = some c ∧ digitValue? c = some d := by
  induction h with
  | last hd => exact ⟨_, _, rfl, hd⟩
  | @digit c d cs ds _ hds ih =>
    obtain ⟨c', rest, -, rfl, -⟩ := hds.exists_head
    rwa [List.getLast?_cons_cons]
  | @underscore c d cs ds _ hds ih =>
    obtain ⟨c', rest, -, rfl, -⟩ := hds.exists_head
    rwa [List.getLast?_cons_cons, List.getLast?_cons_cons]

/-- The digits that are read are those of the grammar. -/
theorem digits?_eq_some_iff : digits? 10 cs = some ds ↔ Digits cs ds := by
  constructor
  · intro h
    fun_induction digits? 10 cs generalizing ds with
    | case1 => cases h
    | case2 => cases h
    | case3 => cases h
    | case4 c d hd hlt =>
      obtain rfl := Option.some.inj h
      exact .last (digit?_eq_some_iff.1 ⟨hd, not_le.1 hlt⟩)
    | case5 c d hd hlt rest ih =>
      obtain ⟨ds', hds', rfl⟩ := Option.map_eq_some_iff.1 h
      exact .underscore (digit?_eq_some_iff.1 ⟨hd, not_le.1 hlt⟩) (ih hds')
    | case6 c d hd hlt c' rest _ ih =>
      obtain ⟨ds', hds', rfl⟩ := Option.map_eq_some_iff.1 h
      exact .digit (digit?_eq_some_iff.1 ⟨hd, not_le.1 hlt⟩) (ih hds')
  · intro h
    induction h with
    | @last c d hd =>
      obtain ⟨hdigit, hlt⟩ := digit?_eq_some_iff.2 hd
      rw [digits?, hdigit]
      dsimp only
      rw [if_neg (not_le.2 hlt)]
    | @digit c d cs ds hd hds ih =>
      obtain ⟨hdigit, hlt⟩ := digit?_eq_some_iff.2 hd
      obtain ⟨c', rest, d', rfl, hd'⟩ := hds.exists_head
      have hunderscore : c' ≠ '_' := ne_of_digitValue? hd' '_' (by decide)
      rw [digits?, hdigit]
      dsimp only
      rw [if_neg (not_le.2 hlt)]
      split
      · next heq => cases heq
      · next heq => exact absurd (List.cons.inj heq).1 hunderscore
      · next heq =>
        rw [← heq, ih]
        rfl
    | @underscore c d cs ds hd hds ih =>
      obtain ⟨hdigit, hlt⟩ := digit?_eq_some_iff.2 hd
      rw [digits?, hdigit]
      dsimp only
      rw [if_neg (not_le.2 hlt)]
      change (digits? 10 cs).map (d :: ·) = _
      rw [ih]
      rfl

end Digits

/-! ## Blanks and signs -/

theorem isNumeralBlank_of_digitValue? {c : Char} {d : ℕ} (h : digitValue? c = some d) :
    isNumeralBlank c = false := by
  rw [isNumeralBlank, isBlank_of_digitValue? h, Bool.false_and]

section Signs

variable {sign cs : List Char} {negative : Bool} {ds : List ℕ}

theorem signed_eq (cs : List Char) :
    ∃ sign, Sign sign (signed cs).1 ∧ cs = sign ++ (signed cs).2 := by
  unfold signed
  split
  · exact ⟨['-'], .minus, rfl⟩
  · exact ⟨['+'], .plus, rfl⟩
  · exact ⟨[], .none, rfl⟩

theorem signed_append (hsign : Sign sign negative) (hdigits : Digits cs ds) :
    signed (sign ++ cs) = (negative, cs) := by
  cases hsign with
  | plus => rfl
  | minus => rfl
  | none =>
    -- the first character is a digit, so it is taken for no sign
    obtain ⟨c, rest, d, rfl, hd⟩ := hdigits.exists_head
    rw [List.nil_append]
    unfold signed
    split
    · next heq => exact absurd (List.cons.inj heq).1 (ne_of_digitValue? hd '-' (by decide))
    · next heq => exact absurd (List.cons.inj heq).1 (ne_of_digitValue? hd '+' (by decide))
    · rfl

/-- A sign and digits have no blanks at their ends. -/
theorem trimList_sign_append (hsign : Sign sign negative) (hdigits : Digits cs ds) :
    trimList isNumeralBlank (sign ++ cs) = sign ++ cs := by
  obtain ⟨c, rest, d, rfl, hd⟩ := hdigits.exists_head
  obtain ⟨l, d', hlast, hd'⟩ := hdigits.exists_getLast
  refine trimList_eq_self_iff.2 ⟨fun x hx => ?_, fun x hx => ?_⟩
  · cases hsign with
    | none =>
      obtain rfl := Option.some.inj hx
      exact isNumeralBlank_of_digitValue? hd
    | plus =>
      obtain rfl := Option.some.inj hx
      decide
    | minus =>
      obtain rfl := Option.some.inj hx
      decide
  · rw [List.getLast?_append_of_ne_nil _ (List.cons_ne_nil c rest), hlast] at hx
    obtain rfl := Option.some.inj hx
    exact isNumeralBlank_of_digitValue? hd'

end Signs

/-! ## Reading -/

theorem ofDigits_eq (ds : List ℕ) : ofDigits 10 ds = Nat.ofDigits 10 ds.reverse := by
  rw [Nat.ofDigits_eq_foldr, List.foldr_reverse, ofDigits]
  congr
  funext n d
  simp [Nat.mul_comm, Nat.add_comm]

theorem read?_decimal (s : String) :
    read? .decimal s =
      (digits? 10 (signed (trimList isNumeralBlank s.toList)).2).bind fun ds =>
        if maxDigits < ds.length then none
        else some (ofSign (signed (trimList isNumeralBlank s.toList)).1
          (Nat.ofDigits 10 ds.reverse)) := by
  have hunmarked : ∀ cs, unmarked .decimal cs = cs := fun cs => rfl
  unfold read?
  simp only [hunmarked, Base.radix, true_and]
  cases hds : digits? 10 (signed (trimList isNumeralBlank s.toList)).2 with
  | none => rfl
  | some ds => simp only [Option.bind_some, ofDigits_eq, ofSign]

/-- Exactly the decimal numerals are read. -/
theorem read?_decimal_eq_some_iff {s : String} {n : ℤ} :
    read? .decimal s = some n ↔ IsDecimal s n := by
  rw [read?_decimal, Option.bind_eq_some_iff]
  constructor
  · rintro ⟨ds, hds, hn⟩
    obtain ⟨before, after, hs, hbefore, hafter⟩ := exists_trimList_eq isNumeralBlank s.toList
    obtain ⟨sign, hsign, hbody⟩ := signed_eq (trimList isNumeralBlank s.toList)
    split_ifs at hn with hmax
    obtain rfl := Option.some.inj hn
    have hdigits := digits?_eq_some_iff.1 hds
    have hdecimal := IsDecimal.intro hbefore hsign hdigits (not_lt.1 hmax) hafter
    rwa [← hbody, ← hs, String.ofList_toList] at hdecimal
  · rintro ⟨hbefore, hsign, hdigits, hmax, hafter⟩
    have htrim := trimList_append_append hbefore hafter (trimList_sign_append hsign hdigits)
    rw [String.toList_ofList, htrim, signed_append hsign hdigits]
    exact ⟨_, digits?_eq_some_iff.2 hdigits, if_neg (not_lt.2 hmax)⟩

/-! ## Texts of integers -/

theorem digitValue?_of_isDigit {c : Char} (h : c.isDigit = true) :
    digitValue? c = some (c.toNat - '0'.toNat) := by
  have hbounds : 48 ≤ c.toNat ∧ c.toNat ≤ 57 := Char.isDigit_iff_toNat.1 h
  rw [digitValue?, digitZeros, List.find?_cons_of_pos]
  · rfl
  · simp only [Bool.and_eq_true, decide_eq_true_eq]
    omega

theorem digits_of_isDigit {cs : List Char} (hne : cs ≠ []) (h : ∀ c ∈ cs, c.isDigit = true) :
    Digits cs (cs.map fun c => c.toNat - '0'.toNat) := by
  induction cs with
  | nil => exact absurd rfl hne
  | cons c cs ih =>
    obtain ⟨hc, hcs⟩ := List.forall_mem_cons.1 h
    cases cs with
    | nil => exact .last (digitValue?_of_isDigit hc)
    | cons c' cs => exact .digit (digitValue?_of_isDigit hc) (ih (List.cons_ne_nil c' cs) hcs)

theorem digits_decimalDigits (n : ℕ) :
    Digits (decimalDigits n) ((decimalDigits n).map fun c => c.toNat - '0'.toNat) :=
  digits_of_isDigit Nat.toDigits_ne_nil fun _ =>
    Nat.isDigit_of_mem_toDigits (by decide) (by decide)

/-- The digits of a number write it. -/
theorem ofDigits_decimalDigits (n : ℕ) :
    Nat.ofDigits 10 ((decimalDigits n).map fun c => c.toNat - '0'.toNat).reverse = n := by
  have hn : Nat.ofDigitChars 10 (decimalDigits n) 0 = n := Nat.ofDigitChars_ten_toDigits
  rw [Nat.ofDigitChars_eq_foldl] at hn
  rw [← ofDigits_eq, ofDigits, List.foldl_map]
  simpa only [Nat.mul_comm] using hn

/-- The text of an integer is its sign and the digits of its magnitude. -/
theorem exists_text_eq (i : ℤ) : ∃ sign negative, Sign sign negative ∧
    text i = String.ofList (sign ++ decimalDigits i.natAbs) ∧ ofSign negative i.natAbs = i := by
  cases i with
  | ofNat n => exact ⟨[], false, .none, rfl, rfl⟩
  | negSucc n => exact ⟨['-'], true, .minus, rfl, rfl⟩

/-- An integer has more digits than are written. -/
def Overlong (i : ℤ) : Prop := maxDigits < (decimalDigits i.natAbs).length

theorem overlong_iff {i : ℤ} : Overlong i ↔ 10 ^ maxDigits ≤ i.natAbs := by
  rw [Overlong, decimalDigits, ← not_le, Nat.length_toDigits_le_iff (by decide) (by decide), not_lt]

theorem Overlong.lt_natAbs {i : ℤ} (h : Overlong i) : 99 < i.natAbs :=
  calc 99 < 10 ^ 2 := by decide
    _ ≤ 10 ^ maxDigits := Nat.pow_le_pow_right (by decide) (by decide)
    _ ≤ i.natAbs := overlong_iff.1 h

theorem overlong_pow {n : ℕ} (h : maxDigits ≤ n) : Overlong (10 ^ n) := by
  rw [overlong_iff, Int.natAbs_pow]
  exact Nat.pow_le_pow_right (by decide) h

/-- Exactly the integers that have too many digits are not written. -/
theorem text?_eq_none_iff {i : ℤ} : text? i = none ↔ Overlong i := by
  rw [text?]
  split_ifs with h
  · exact iff_of_true rfl h
  · exact iff_of_false nofun h

/-- Only digits and a minus sign stand in the text of an integer. -/
theorem isDigit_or_eq_of_mem_text {i : ℤ} {c : Char} (h : c ∈ (text i).toList) :
    c.isDigit = true ∨ c = '-' := by
  have hdigits : ∀ n, c ∈ decimalDigits n → c.isDigit = true := fun n =>
    Nat.isDigit_of_mem_toDigits (by decide) (by decide)
  cases i with
  | ofNat n =>
    rw [text, String.toList_ofList] at h
    exact .inl (hdigits n h)
  | negSucc n =>
    rw [text, String.toList_ofList, List.mem_cons] at h
    exact h.symm.imp_left (hdigits (n + 1))

theorem notMem_text {c : Char} (hdigit : c.isDigit = false) (hminus : c ≠ '-') (i : ℤ) :
    c ∉ (text i).toList := by
  intro h
  rcases isDigit_or_eq_of_mem_text h with hc | rfl
  · rw [hdigit] at hc
    cases hc
  · exact hminus rfl

/-- The text of an integer ends with a digit. -/
theorem exists_getLast?_text (i : ℤ) :
    ∃ c, (text i).toList.getLast? = some c ∧ isBlank c = false := by
  obtain ⟨sign, negative, -, htext, -⟩ := exists_text_eq i
  obtain ⟨c, d, hlast, hd⟩ := (digits_decimalDigits i.natAbs).exists_getLast
  refine ⟨c, ?_, isBlank_of_digitValue? hd⟩
  rw [htext, String.toList_ofList, List.getLast?_append, hlast, Option.some_or]

/-- A text with the text of an integer at its end is trimmed if it has no blank at its start. -/
theorem strip_append_text {s : String} {i : ℤ} (hne : s ≠ "")
    (hhead : ∀ c, s.toList.head? = some c → isBlank c = false) :
    strip (s ++ text i) = s ++ text i := by
  have hcs : s.toList ≠ [] := mt String.toList_eq_nil_iff.1 hne
  rw [← String.toList_inj, toList_strip, String.toList_append]
  refine trimList_eq_self_iff.2 ⟨fun c hc => ?_, fun c hc => ?_⟩
  · rw [List.head?_append_of_ne_nil _ hcs] at hc
    exact hhead c hc
  · obtain ⟨last, hlast, hblank⟩ := exists_getLast?_text i
    rw [List.getLast?_append, hlast, Option.some_or] at hc
    exact Option.some.inj hc ▸ hblank

/-- An integer is read back from its text, unless it has too many digits. -/
theorem isDecimal_text {i : ℤ} (h : (decimalDigits i.natAbs).length ≤ maxDigits) :
    IsDecimal (text i) i := by
  obtain ⟨sign, negative, hsign, htext, hvalue⟩ := exists_text_eq i
  have hdecimal := IsDecimal.intro (List.forall_mem_nil _) hsign (digits_decimalDigits i.natAbs)
    (by rwa [List.length_map]) (List.forall_mem_nil _)
  rwa [List.nil_append, List.append_nil, ofDigits_decimalDigits, hvalue, ← htext] at hdecimal

end StorageHandler.Text.Numeral
