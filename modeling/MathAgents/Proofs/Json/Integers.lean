import MathAgents.Json.Numeral
import MathAgents.Json.Printer
import MathAgents.Proofs.Outcome

namespace MathAgents.Json

/-!
# Numbers that are read as integers

A number is read as an integer if it is written without a fraction and an exponent, fits in 64 bits
and is no negative zero; any other number is read as a double.  An integer that fits is read as it
was written.

* `Whole`, `EndsWhole` — the digits of a whole number, and what stands behind them.
* `Kept`, `Fits` — the whole numbers that are kept, and the integers that fit.
* `readNumber_eq_int_iff` — the numbers that are read as integers.
* `whole_toDigits` — the digits of a number are written as they are read.
-/

variable {negative shrinks : Bool} {n : Nat} {i : Int} {e : Int} {j : Json}
  {cs ds rest : List Char}

/-! ### Numbers that are read as doubles -/

theorem float_of_double (h : double negative n e cs = .ok (j, rest)) : ∃ x, j = .float x := by
  unfold double at h
  split at h
  · cases h
  · exact ⟨_, (Prod.mk.inj (Except.ok.inj h)).1.symm⟩

theorem float_of_signedExponentTail
    (h : signedExponentTail negative n e shrinks cs = .ok (j, rest)) : ∃ x, j = .float x := by
  cases cs with
  | nil => cases h
  | cons d cs =>
    simp only [signedExponentTail] at h
    split at h
    · cases h
    · split at h
      · exact float_of_double h
      · split at h
        · cases h
        · exact ⟨_, (Prod.mk.inj (Except.ok.inj h)).1.symm⟩

theorem float_of_exponentTail (h : exponentTail negative n e cs = .ok (j, rest)) :
    ∃ x, j = .float x := by
  unfold exponentTail at h
  split at h <;> exact float_of_signedExponentTail h

theorem float_of_fractionTail (h : fractionTail negative n e cs = .ok (j, rest)) :
    ∃ x, j = .float x := by
  simp only [fractionTail] at h
  split at h
  · cases h
  · split at h
    · exact float_of_exponentTail h
    · exact float_of_exponentTail h
    · exact float_of_double h

/-! ### Digits -/

theorem le_ofDigitChars (ds : List Char) (n : Nat) : n ≤ Nat.ofDigitChars 10 ds n := by
  induction ds generalizing n with
  | nil => exact Nat.le_refl n
  | cons d ds ih =>
    rw [Nat.ofDigitChars_cons]
    have hrest := ih (10 * n + (d.toNat - '0'.toNat))
    omega

/-- All digits are read if the number that they denote fits. -/
theorem fitDigits_append (hds : ∀ d ∈ ds, d.isDigit) (hrest : ∀ c ∈ rest.head?, ¬ c.isDigit)
    (hfits : Nat.ofDigitChars 10 ds n ≤ maxCoefficient) :
    fitDigits n (ds ++ rest) = (Nat.ofDigitChars 10 ds n, rest) := by
  induction ds generalizing n with
  | nil =>
    cases rest with
    | nil => rfl
    | cons c rest =>
      rw [List.nil_append, fitDigits, if_neg fun hc => hrest c rfl hc.1]
      rfl
  | cons d ds ih =>
    obtain ⟨hd, hds⟩ := List.forall_mem_cons.mp hds
    rw [Nat.ofDigitChars_cons] at hfits ⊢
    -- a number does not get smaller with more digits, so none of the numbers on the way is too big
    have hfirst : 10 * n + Decimal.digitValue d ≤ maxCoefficient :=
      Nat.le_trans (le_ofDigitChars ds _) hfits
    rw [List.cons_append, fitDigits, if_pos ⟨hd, hfirst⟩]
    exact ih hds hfits

/-- The digits that are read stand in front of the text, and the number that they denote fits. -/
theorem fitDigits_spec (hn : n ≤ maxCoefficient) (cs : List Char) :
    ∃ ds, cs = ds ++ (fitDigits n cs).2 ∧ (∀ d ∈ ds, d.isDigit) ∧
      (fitDigits n cs).1 = Nat.ofDigitChars 10 ds n ∧ (fitDigits n cs).1 ≤ maxCoefficient := by
  fun_induction fitDigits n cs with
  | case1 n => exact ⟨[], rfl, List.forall_mem_nil _, rfl, hn⟩
  | case2 n c cs h ih =>
    obtain ⟨ds, hcs, hds, hvalue, hfits⟩ := ih h.2
    exact ⟨c :: ds, congrArg (c :: ·) hcs, List.forall_mem_cons.mpr ⟨h.1, hds⟩, hvalue, hfits⟩
  | case3 n c cs h => exact ⟨[], rfl, List.forall_mem_nil _, rfl, hn⟩

/-! ### Numbers that are read as integers -/

/-- Whether a text goes on with what cannot belong to a whole number or make it another one. -/
def EndsWhole (cs : List Char) : Prop :=
  ∀ c ∈ cs.head?, ¬ c.isDigit ∧ c ≠ '.' ∧ c ≠ 'e' ∧ c ≠ 'E'

/-- Whether a whole number, with a sign or without one, is kept as an integer: it fits in 64 bits
    and is no negative zero. -/
def Kept (negative : Bool) (n : Nat) (i : Int) : Prop :=
  if negative then 0 < n ∧ n ≤ 0x8000000000000000 ∧ i = -n else n < 0x10000000000000000 ∧ i = n

/-- Whether an integer fits in 64 bits, signed or unsigned. -/
def Fits (i : Int) : Prop := -0x8000000000000000 ≤ i ∧ i < 0x10000000000000000

theorem Kept.fits (h : Kept negative n i) : Fits i := by
  unfold Kept at h
  unfold Fits
  split at h <;> omega

theorem Fits.kept (h : Fits i) : Kept (i < 0) i.natAbs i := by
  obtain ⟨hleast, hgreatest⟩ := h
  by_cases hneg : i < 0
  · rw [Kept, if_pos (decide_eq_true hneg)]
    omega
  · rw [Kept, if_neg (by simpa using hneg)]
    omega

/-- A whole number that is kept fits in a coefficient. -/
theorem Kept.le (h : Kept negative n i) : n ≤ maxCoefficient := by
  -- as a numeral, which the arithmetic below can use
  have hmax : maxCoefficient = 0xFFFFFFFFFFFFFFFF := rfl
  unfold Kept at h
  split at h <;> omega

/-- A whole number that fits in a coefficient becomes an integer exactly if it is kept. -/
theorem eq_int_iff_kept (hn : n ≤ maxCoefficient) :
    (if !negative then .ok (.int n, cs)
      else if n = 0 ∨ 0x8000000000000000 < n then .ok (.float (-(Decimal.nearest n 1)), cs)
      else .ok (.int (-n), cs) : Except Fault (Json × List Char)) = .ok (.int i, rest) ↔
      cs = rest ∧ Kept negative n i := by
  have hmax : maxCoefficient = 0xFFFFFFFFFFFFFFFF := rfl
  have hok (j : Json) : (.ok (j, cs) : Except Fault (Json × List Char)) = .ok (.int i, rest) ↔
      cs = rest ∧ j = .int i := by
    rw [Except.ok.injEq, Prod.mk.injEq, and_comm]
  cases negative with
  | false =>
    have hkept : Kept false n i ↔ (n : Int) = i := by
      rw [Kept, if_neg (by decide)]
      omega
    rw [if_pos (by decide), hok, hkept, int.injEq]
  | true =>
    by_cases hfloat : n = 0 ∨ 0x8000000000000000 < n
    · have hnot : ¬ Kept true n i := by
        rw [Kept, if_pos rfl]
        omega
      rw [if_neg (by decide), if_pos hfloat, hok]
      exact iff_of_false (by simp) fun h => hnot h.2
    · have hkept : Kept true n i ↔ -(n : Int) = i := by
        rw [Kept, if_pos rfl]
        omega
      rw [if_neg (by decide), if_neg hfloat, hok, hkept, int.injEq]

/-- Without a point and an exponent, digits are followed by what ends a whole number. -/
theorem endsWhole_dropWhile (hpoint : ∀ r, cs.dropWhile Char.isDigit ≠ '.' :: r)
    (hmark : ∀ r, cs.dropWhile Char.isDigit ≠ 'e' :: r)
    (hMark : ∀ r, cs.dropWhile Char.isDigit ≠ 'E' :: r) :
    EndsWhole (cs.dropWhile Char.isDigit) := by
  intro c hc
  obtain ⟨r, hr⟩ := List.head?_eq_some_iff.mp hc
  refine ⟨?_, ?_, ?_, ?_⟩
  · have hfirst := List.head?_dropWhile_not Char.isDigit cs
    rw [hr] at hfirst
    simpa using hfirst
  · rintro rfl
    exact hpoint r hr
  · rintro rfl
    exact hmark r hr
  · rintro rfl
    exact hMark r hr

theorem EndsWhole.dropWhile (h : EndsWhole cs) : cs.dropWhile Char.isDigit = cs := by
  cases cs with
  | nil => rfl
  | cons c cs => exact List.dropWhile_cons_of_neg (h c rfl).1

/-- The rest of a number is read as that of an integer exactly if it consists of digits, which
    denote together with the ones before a number that is kept. -/
theorem wholeTail_eq_int_iff (hn : n ≤ maxCoefficient) :
    wholeTail negative n cs = .ok (.int i, rest) ↔ ∃ ds, cs = ds ++ rest ∧
      (∀ d ∈ ds, d.isDigit) ∧ EndsWhole rest ∧ Kept negative (Nat.ofDigitChars 10 ds n) i := by
  constructor
  · intro h
    obtain ⟨ds, hcs, hds, hvalue, hfits⟩ := fitDigits_spec hn cs
    simp only [wholeTail] at h
    split at h
    · obtain ⟨x, hx⟩ := float_of_fractionTail h
      cases hx
    · obtain ⟨x, hx⟩ := float_of_exponentTail h
      cases hx
    · obtain ⟨x, hx⟩ := float_of_exponentTail h
      cases hx
    · next hpoint hmark hMark =>
      have hends := endsWhole_dropWhile hpoint hmark hMark
      split at h
      · obtain ⟨x, hx⟩ := float_of_double h
        cases hx
      · next hcount =>
        -- no digit is left that did not fit
        have hlength := Text.length_dropWhile Char.isDigit (fitDigits n cs).2
        have hdrop : (fitDigits n cs).2.dropWhile Char.isDigit = (fitDigits n cs).2 :=
          (List.dropWhile_suffix _).eq_of_length (by omega)
        rw [hdrop] at h hends
        obtain ⟨rfl, hkept⟩ := (eq_int_iff_kept hfits).mp h
        exact ⟨ds, hcs, hds, hends, hvalue ▸ hkept⟩
  · rintro ⟨ds, rfl, hds, hrest, hkept⟩
    have hdigits : ∀ c ∈ rest.head?, ¬ c.isDigit := fun c hc => (hrest c hc).1
    simp only [wholeTail, fitDigits_append hds hdigits hkept.le, hrest.dropWhile, Nat.sub_self]
    split
    · exact absurd rfl (hrest '.' rfl).2.1
    · exact absurd rfl (hrest 'e' rfl).2.2.1
    · exact absurd rfl (hrest 'E' rfl).2.2.2
    · rw [if_neg (by simp)]
      exact (eq_int_iff_kept hkept.le).mpr ⟨rfl, hkept⟩

/-! ### Whole numbers -/

/-- Whether some characters are the digits of a whole number: there is at least one, and the first
    of several is not zero. -/
structure Whole (ds : List Char) : Prop where
  digits : ∀ d ∈ ds, d.isDigit
  ne_nil : ds ≠ []
  leading : ds.head? = some '0' → ds = ['0']

/-- A number starts with a digit, and with a zero only if no other digit follows. -/
theorem readNumber_eq_ok_iff {c : Char} {found : Json × List Char} :
    readNumber negative (c :: cs) = .ok found ↔ c.isDigit ∧
      (c = '0' → ∀ d ∈ cs.head?, ¬ d.isDigit) ∧
      wholeTail negative (Decimal.digitValue c) cs = .ok found := by
  by_cases hc : c = '0'
  · subst hc
    have hvalue : Decimal.digitValue '0' = 0 := by decide
    cases cs with
    | nil => simp [readNumber, hvalue]
    | cons d cs => by_cases hd : d.isDigit <;> simp [readNumber, hd, hvalue]
  · by_cases hdigit : c.isDigit <;> simp [readNumber, hc, hdigit]

/-- **Integers.** A number is read as an integer exactly if the digits of a whole number stand in
    front of the text, nothing behind them belongs to the number, and the number is kept. -/
theorem readNumber_eq_int_iff :
    readNumber negative cs = .ok (.int i, rest) ↔ ∃ ds, cs = ds ++ rest ∧ Whole ds ∧
      EndsWhole rest ∧ Kept negative (Nat.ofDigitChars 10 ds 0) i := by
  -- the first digit is read on its own, and the others by `wholeTail` from its value on
  have hfits {c : Char} (hc : c.isDigit) : Decimal.digitValue c ≤ maxCoefficient := by
    have hnine : c.toNat ≤ '9'.toNat := (Char.isDigit_iff_toNat.mp hc).2
    have hless : Decimal.digitValue c ≤ '9'.toNat := Nat.le_trans (Nat.sub_le _ _) hnine
    exact Nat.le_trans hless (by decide)
  have hvalue (c : Char) (ds : List Char) : Nat.ofDigitChars 10 (c :: ds) 0 =
      Nat.ofDigitChars 10 ds (Decimal.digitValue c) := by
    rw [Nat.ofDigitChars_cons, Nat.mul_zero, Nat.zero_add]
    rfl
  constructor
  · intro h
    cases cs with
    | nil => cases h
    | cons c cs =>
      obtain ⟨hc, hzero, htail⟩ := readNumber_eq_ok_iff.mp h
      obtain ⟨ds, rfl, hds, hrest, hkept⟩ := (wholeTail_eq_int_iff (hfits hc)).mp htail
      refine ⟨c :: ds, rfl, ⟨List.forall_mem_cons.mpr ⟨hc, hds⟩, List.cons_ne_nil c ds, ?_⟩, hrest,
        (hvalue c ds).symm ▸ hkept⟩
      intro hfirst
      obtain rfl : c = '0' := Option.some.inj hfirst
      cases ds with
      | nil => rfl
      | cons d ds => exact absurd (hds d List.mem_cons_self) (hzero rfl d rfl)
  · rintro ⟨ds, rfl, hwhole, hrest, hkept⟩
    cases ds with
    | nil => exact absurd rfl hwhole.ne_nil
    | cons c ds =>
      obtain ⟨hc, hds⟩ := List.forall_mem_cons.mp hwhole.digits
      rw [hvalue] at hkept
      refine readNumber_eq_ok_iff.mpr ⟨hc, ?_, ?_⟩
      · rintro rfl d hd
        obtain ⟨-, rfl⟩ := List.cons.inj (hwhole.leading rfl)
        exact (hrest d hd).1
      · exact (wholeTail_eq_int_iff (hfits hc)).mpr ⟨ds, rfl, hds, hrest, hkept⟩

theorem int_or_float_of_wholeTail (h : wholeTail negative n cs = .ok (j, rest)) :
    (∃ i, j = .int i) ∨ ∃ x, j = .float x := by
  simp only [wholeTail] at h
  split at h
  · exact .inr (float_of_fractionTail h)
  · exact .inr (float_of_exponentTail h)
  · exact .inr (float_of_exponentTail h)
  · split at h
    · exact .inr (float_of_double h)
    · split at h
      · exact .inl ⟨_, (Prod.mk.inj (Except.ok.inj h)).1.symm⟩
      · split at h
        · exact .inr ⟨_, (Prod.mk.inj (Except.ok.inj h)).1.symm⟩
        · exact .inl ⟨_, (Prod.mk.inj (Except.ok.inj h)).1.symm⟩

/-- A number is read as an integer that fits or as a double. -/
theorem fits_or_float_of_readNumber (h : readNumber negative cs = .ok (j, rest)) :
    (∃ i, Fits i ∧ j = .int i) ∨ ∃ x, j = .float x := by
  cases cs with
  | nil => cases h
  | cons c cs =>
    obtain ⟨-, -, htail⟩ := readNumber_eq_ok_iff.mp h
    rcases int_or_float_of_wholeTail htail with ⟨i, rfl⟩ | hfloat
    · obtain ⟨ds, -, -, -, hkept⟩ := readNumber_eq_int_iff.mp h
      exact .inl ⟨i, hkept.fits, rfl⟩
    · exact .inr hfloat

/-- The first digit of a number is not zero, unless the number is. -/
theorem head?_toDigits_ne (hn : 0 < n) : (Nat.toDigits 10 n).head? ≠ some '0' := by
  -- by induction on the number: all its digits but the last one are those of a tenth of it
  induction n using Nat.strongRecOn with
  | ind n ih =>
    rcases Nat.lt_or_ge n 10 with hlt | hge
    · have hdigit : ∀ m < 10, 0 < m → [Nat.digitChar m].head? ≠ some '0' := by decide
      rw [Nat.toDigits_of_lt_base hlt]
      exact hdigit n hlt hn
    · have htenth := ih (n / 10) (by omega) (by omega)
      obtain ⟨c, cs, hdigits⟩ := List.exists_cons_of_ne_nil (@Nat.toDigits_ne_nil (n / 10) 10)
      rw [hdigits] at htenth
      rw [Nat.toDigits_of_base_le (by decide) hge, hdigits]
      exact htenth

/-- A number is written with the digits of a whole number. -/
theorem whole_toDigits (n : Nat) : Whole (Nat.toDigits 10 n) := by
  refine ⟨fun d hd => Nat.isDigit_of_mem_toDigits (by decide) (by decide) hd,
    Nat.toDigits_ne_nil, fun hfirst => ?_⟩
  rcases Nat.eq_zero_or_pos n with rfl | hn
  · rfl
  · exact absurd hfirst (head?_toDigits_ne hn)

/-- An integer that fits is read as it was written, but for its sign. -/
theorem readNumber_toDigits (hi : Fits i) (hrest : EndsWhole rest) :
    readNumber (i < 0) (Nat.toDigits 10 i.natAbs ++ rest) = .ok (.int i, rest) := by
  refine readNumber_eq_int_iff.mpr ⟨_, rfl, whole_toDigits i.natAbs, hrest, ?_⟩
  rw [Nat.ofDigitChars_ten_toDigits]
  exact hi.kept

end MathAgents.Json
