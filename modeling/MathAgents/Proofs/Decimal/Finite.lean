namespace MathAgents.Decimal

/-!
# Finite doubles

A double is finite unless the exponent of its bit pattern has all its bits set.  Negation turns the
sign bit over and leaves the exponent alone, so it keeps finite doubles finite.

* `isFinite_unpack` — finiteness, by the exponent of a bit pattern.
* `isFinite_neg` — negation neither reaches nor leaves the finite doubles.
* `isFinite_of_le_of_le` — what lies between finite doubles is finite.
-/

open Float.Model Float.Model.UnpackedFloat

variable {format : Format} {b : BitVec format.numBits}

/-- The bit pattern with every bit set is the largest one of its width. -/
theorem eq_neg_one_iff {n : Nat} (v : BitVec n) : v = -1#n ↔ (-1#n).toNat ≤ v.toNat := by
  have hv := v.isLt
  rw [← BitVec.toNat_inj, BitVec.neg_one_eq_allOnes, BitVec.toNat_allOnes]
  omega

/-- A bit pattern stands for a finite number exactly if some bit of its exponent is clear. -/
theorem isFinite_unpack (b : BitVec format.numBits) :
    (UnpackedFloat.unpack format b).isFinite ↔ unpackExponent b ≠ -1#_ := by
  unfold UnpackedFloat.unpack
  dsimp only
  by_cases he : unpackExponent b = -1#_
  · rw [if_pos he]
    constructor
    · intro h
      by_cases hm : unpackMantissa b = 0#_
      · rw [if_pos hm] at h
        cases h
      · rw [if_neg hm] at h
        cases h
    · intro h
      exact absurd he h
  · rw [if_neg he]
    refine ⟨fun _ => he, fun _ => ?_⟩
    by_cases hz : unpackExponent b = 0#_
    · rw [if_pos hz]
      by_cases hm : unpackMantissa b = 0#_
      · rw [dif_pos hm]
        rfl
      · rw [dif_neg hm]
        rfl
    · rw [if_neg hz]
      rfl

variable {s : UnpackedFloat.Sign} {m : Nat} {e : Int} {hm : 0 < m}

/-- The exponent that a finite number is packed with, if it is a normal one. -/
def biasedExponent (format : Format) (e : Int) : Nat :=
  (e + format.exponentBias + format.mantissaBitsWithoutImplicit).toNat

/-- The exponent of a number from a bit pattern is packed with some bit clear. -/
theorem biasedExponent_lt (hwide : 1 < format.exponentBits)
    (h : UnpackedFloat.unpack format b = .finite s m e hm) :
    biasedExponent format e < (-1#(format.exponentBits)).toNat := by
  have hne : unpackExponent b ≠ -1#_ := by
    rw [← isFinite_unpack, h]
    rfl
  have hlt : (unpackExponent b).toNat < (-1#(format.exponentBits)).toNat :=
    Nat.lt_of_not_le fun he => hne ((eq_neg_one_iff _).mpr he)
  unfold UnpackedFloat.unpack at h
  dsimp only at h
  rw [if_neg hne] at h
  by_cases hz : unpackExponent b = 0#_
  · -- a subnormal number has the exponent of the least normal ones
    rw [if_pos hz] at h
    by_cases hm : unpackMantissa b = 0#_
    · rw [dif_pos hm] at h
      cases h
    · rw [dif_neg hm] at h
      obtain ⟨_, _, rfl⟩ := UnpackedFloat.finite.inj h
      have hfour : 2 ^ 2 ≤ 2 ^ format.exponentBits := Nat.pow_le_pow_right (by decide) hwide
      rw [BitVec.neg_one_eq_allOnes, BitVec.toNat_allOnes, biasedExponent, hz, BitVec.toNat_zero]
      omega
  · rw [if_neg hz] at h
    obtain ⟨_, _, rfl⟩ := UnpackedFloat.finite.inj h
    unfold biasedExponent
    omega

/-- A number whose exponent is packed with some bit clear is packed as a finite one. -/
theorem isFinite_unpack_pack (h : biasedExponent format e < (-1#(format.exponentBits)).toNat) :
    (UnpackedFloat.unpack format (UnpackedFloat.pack format (.finite s m e hm))).isFinite := by
  have hbits : (-1#(format.exponentBits)).toNat + 1 = 2 ^ format.exponentBits := by
    rw [BitVec.neg_one_eq_allOnes, BitVec.toNat_allOnes]
    exact Nat.sub_add_cancel (Nat.pow_pos (by decide))
  unfold biasedExponent at h
  rw [isFinite_unpack, ne_eq, eq_neg_one_iff, Nat.not_le]
  unfold UnpackedFloat.pack
  dsimp only
  rw [if_neg (by omega)]
  split
  · rw [unpackExponent_packComponents, BitVec.toNat_ofNat, Nat.mod_eq_of_lt (by omega)]
    exact h
  · rw [unpackExponent_packComponents, BitVec.toNat_zero]
    omega

/-- Negation neither reaches nor leaves the finite doubles. -/
theorem isFinite_neg (x : Float) : (-x).isFinite = x.isFinite := by
  let bits : BitVec Format.binary64.numBits := x.toModel.toBits.toBitVec
  show (UnpackedFloat.unpack .binary64
      (UnpackedFloat.pack .binary64 (UnpackedFloat.unpack .binary64 bits).neg)).isFinite =
    (UnpackedFloat.unpack .binary64 bits).isFinite
  -- what is packed again differs from what was unpacked in the sign alone
  cases h : UnpackedFloat.unpack .binary64 bits with
  | infinity s => cases s <;> decide
  | notANumber => decide
  | zero s => cases s <;> decide
  | finite s m e hm => exact isFinite_unpack_pack (biasedExponent_lt (by decide) h)

/-- A double between two finite ones is finite: no number is above the one infinity or below the
    other, and what is no number is not compared. -/
theorem isFinite_of_le_of_le {x y z : Float} (hx : x.isFinite) (hz : z.isFinite) (hxy : x ≤ y)
    (hyz : y ≤ z) : y.isFinite := by
  have hleast : UnpackedFloat.le x.toModel.unpack y.toModel.unpack = true := of_decide_eq_true hxy
  have hgreatest : UnpackedFloat.le y.toModel.unpack z.toModel.unpack = true :=
    of_decide_eq_true hyz
  replace hx : x.toModel.unpack.isFinite = true := hx
  replace hz : z.toModel.unpack.isFinite = true := hz
  show y.toModel.unpack.isFinite = true
  generalize x.toModel.unpack = least at hx hleast
  generalize y.toModel.unpack = number at hleast hgreatest ⊢
  generalize z.toModel.unpack = greatest at hz hgreatest
  cases number with
  | zero | finite => rfl
  | notANumber => cases least <;> cases hleast
  | infinity s =>
    cases s with
    | positive =>
      cases greatest with
      | infinity | notANumber => cases hz
      | zero | finite => cases hgreatest
    | negative =>
      cases least with
      | infinity | notANumber => cases hx
      | zero | finite => cases hleast

end MathAgents.Decimal
