import Mathlib

/-! The numbers that a binary format holds. A finite number has one form with a mantissa of full length, or of
any length at the least exponent; packing keeps that form, and rounding reaches it. -/

namespace Diorama.Binary

open Float.Model UnpackedFloat

variable {f : Format} {s : Sign} {m k : Nat} {e : Int}

structure Canonical (f : Format) (m : Nat) (e : Int) : Prop where
  short : m < 2 ^ f.mantissaBits
  least : f.minExponent ≤ e
  full : 2 ^ f.mantissaBitsWithoutImplicit ≤ m ∨ e = f.minExponent

def maxExponent (f : Format) : Int := f.exponentBias - f.mantissaBitsWithoutImplicit

lemma mantissaBits_eq (f : Format) : f.mantissaBits = f.mantissaBitsWithoutImplicit + 1 := Nat.add_comm _ _

lemma minExponent_eq (f : Format) :
    f.minExponent = 1 - (f.exponentBias : Int) - f.mantissaBitsWithoutImplicit := by
  have hp : 1 ≤ 2 ^ (f.exponentBits - 1) := Nat.one_le_two_pow
  unfold Format.minExponent Format.exponentBias Format.mantissaBits
  rw [Nat.cast_sub hp]
  push_cast
  ring

lemma two_pow_exponentBits (f : Format) : 2 ^ f.exponentBits = 2 * f.exponentBias + 2 := by
  have hp : 1 ≤ 2 ^ (f.exponentBits - 1) := Nat.one_le_two_pow
  have heq : f.exponentBits = (f.exponentBits - 1) + 1 := (Nat.sub_add_cancel f.he).symm
  conv_lhs => rw [heq, pow_succ]
  unfold Format.exponentBias
  omega

lemma log2_lt_mantissaBits (h : m < 2 ^ f.mantissaBits) : m.log2 < f.mantissaBits := by
  by_cases hz : m = 0
  · rw [hz, mantissaBits_eq]
    exact Nat.succ_pos _
  · exact (Nat.log2_lt hz).mpr h

lemma toNat_zero_ne_ones (f : Format) : (0#f.exponentBits) ≠ -1#f.exponentBits := by
  intro h
  have h' := congrArg BitVec.toNat h
  simp only [BitVec.toNat_zero, BitVec.neg_one_eq_allOnes, BitVec.toNat_allOnes] at h'
  have := two_pow_exponentBits f
  omega

lemma toNat_implicit {n : Nat} (v : BitVec n) : (1#1 ++ v).toNat = 2 ^ n + v.toNat := by
  rw [BitVec.toNat_append, ← Nat.shiftLeft_add_eq_or_of_lt v.isLt]
  simp [Nat.shiftLeft_eq]

lemma unpack_pack_infinity (f : Format) (s : Sign) :
    UnpackedFloat.unpack f (UnpackedFloat.pack f (.infinity s)) = .infinity s := by
  simp [UnpackedFloat.pack, packedInfinity, UnpackedFloat.unpack, unpackExponent_packComponents,
    unpackMantissa_packComponents, unpackSign_packComponents, Sign.ofBitVec_toBitVec]

lemma unpack_pack_zero (f : Format) (s : Sign) :
    UnpackedFloat.unpack f (UnpackedFloat.pack f (.zero s)) = .zero s :=
  unpack_packedZero

lemma pack_overflow (hm : 0 < m) (h : maxExponent f < e) :
    UnpackedFloat.pack f (.finite s m e hm) = UnpackedFloat.pack f (.infinity s) := by
  have hb : 2 ^ f.exponentBits ≤ (e + f.exponentBias + f.mantissaBitsWithoutImplicit).toNat + 1 := by
    rw [two_pow_exponentBits]
    unfold maxExponent at h
    omega
  simp only [UnpackedFloat.pack, hb, if_true]

lemma exists_packedExponent (hleast : f.minExponent ≤ e) (hmax : e ≤ maxExponent f) : ∃ b : Nat,
    (b : Int) = e + f.exponentBias + f.mantissaBitsWithoutImplicit ∧ b + 1 < 2 ^ f.exponentBits := by
  rw [minExponent_eq] at hleast
  unfold maxExponent at hmax
  have hcap := two_pow_exponentBits f
  have hb := Int.toNat_of_nonneg (a := e + f.exponentBias + f.mantissaBitsWithoutImplicit) (by omega)
  exact ⟨_, hb, by omega⟩

lemma unpack_pack_normal (hm : 0 < m) (hc : Canonical f m e) (hmax : e ≤ maxExponent f)
    (hn : 2 ^ f.mantissaBitsWithoutImplicit ≤ m) :
    UnpackedFloat.unpack f (UnpackedFloat.pack f (.finite s m e hm)) = .finite s m e hm := by
  obtain ⟨b, hb, hcap⟩ := exists_packedExponent hc.least hmax
  have hleast := hc.least
  rw [minExponent_eq] at hleast
  have hbe : (BitVec.ofNat f.exponentBits b).toNat = b := by
    rw [BitVec.toNat_ofNat, Nat.mod_eq_of_lt (by omega)]
  have hbz : BitVec.ofNat f.exponentBits b ≠ 0#_ := by
    intro h
    have h' := congrArg BitVec.toNat h
    rw [hbe, BitVec.toNat_zero] at h'
    omega
  have hbi : BitVec.ofNat f.exponentBits b ≠ -1#_ := by
    intro h
    have h' := congrArg BitVec.toNat h
    rw [hbe] at h'
    simp only [BitVec.neg_one_eq_allOnes, BitVec.toNat_allOnes] at h'
    omega
  -- The first bit of a mantissa of full length is not packed.
  have hmant : (1#1 ++ BitVec.ofNat f.mantissaBitsWithoutImplicit m).toNat = m := by
    have hshort := hc.short
    rw [mantissaBits_eq, pow_succ] at hshort
    rw [toNat_implicit, BitVec.toNat_ofNat, Nat.mod_eq_sub_mod hn, Nat.mod_eq_of_lt (by omega)]
    exact Nat.add_sub_cancel' hn
  have hpack : UnpackedFloat.pack f (.finite s m e hm) =
      packComponents f s (BitVec.ofNat _ b) (BitVec.ofNat _ m) := by
    have hfull : m.log2 + 1 = f.mantissaBits := by
      have hlog := log2_lt_mantissaBits hc.short
      have hlog' := (Nat.le_log2 hm.ne').mpr hn
      have hbits := mantissaBits_eq f
      omega
    simp only [UnpackedFloat.pack, ← hb, Int.toNat_natCast]
    rw [if_neg (by omega), if_pos hfull]
  rw [hpack]
  simp only [UnpackedFloat.unpack, unpackExponent_packComponents, unpackMantissa_packComponents,
    unpackSign_packComponents, Sign.ofBitVec_toBitVec, hbi, hbz, if_false, hmant, hbe]
  congr 1
  omega

lemma unpack_pack_subnormal (hm : 0 < m) (hmax : f.minExponent ≤ maxExponent f)
    (hn : m < 2 ^ f.mantissaBitsWithoutImplicit) :
    UnpackedFloat.unpack f (UnpackedFloat.pack f (.finite s m f.minExponent hm)) =
      .finite s m f.minExponent hm := by
  obtain ⟨b, hb, hcap⟩ := exists_packedExponent le_rfl hmax
  have hmant : (BitVec.ofNat f.mantissaBitsWithoutImplicit m).toNat = m := by
    rw [BitVec.toNat_ofNat, Nat.mod_eq_of_lt hn]
  have hmz : BitVec.ofNat f.mantissaBitsWithoutImplicit m ≠ 0#_ := by
    intro h
    have h' := congrArg BitVec.toNat h
    rw [hmant, BitVec.toNat_zero] at h'
    omega
  have hpack : UnpackedFloat.pack f (.finite s m f.minExponent hm) =
      packComponents f s 0#_ (BitVec.ofNat _ m) := by
    have hshort : ¬m.log2 + 1 = f.mantissaBits := by
      have hlog := (Nat.log2_lt hm.ne').mpr hn
      have hbits := mantissaBits_eq f
      omega
    simp only [UnpackedFloat.pack, ← hb, Int.toNat_natCast]
    rw [if_neg (by omega), if_neg hshort]
  rw [hpack]
  simp only [UnpackedFloat.unpack, unpackExponent_packComponents, unpackMantissa_packComponents,
    unpackSign_packComponents, Sign.ofBitVec_toBitVec, toNat_zero_ne_ones, if_false, if_true, hmz,
    dite_false, hmant, BitVec.toNat_zero]
  congr 1
  rw [minExponent_eq]
  omega

lemma unpack_pack_finite (hm : 0 < m) (hc : Canonical f m e) (hmax : e ≤ maxExponent f) :
    UnpackedFloat.unpack f (UnpackedFloat.pack f (.finite s m e hm)) = .finite s m e hm := by
  by_cases hn : 2 ^ f.mantissaBitsWithoutImplicit ≤ m
  · exact unpack_pack_normal hm hc hmax hn
  · obtain rfl : e = f.minExponent := hc.full.resolve_left hn
    exact unpack_pack_subnormal hm hmax (not_le.mp hn)

lemma canonical_of_unpack (hbias : 0 < f.exponentBias) {b : BitVec f.numBits} {hm : 0 < m}
    (h : UnpackedFloat.unpack f b = .finite s m e hm) : Canonical f m e ∧ e ≤ maxExponent f := by
  have hcap := two_pow_exponentBits f
  have hmin := minExponent_eq f
  have hbits := mantissaBits_eq f
  have hv := (unpackMantissa b).isLt
  have hx := (unpackExponent b).isLt
  simp only [UnpackedFloat.unpack] at h
  split at h
  · split at h <;> cases h
  · rename_i hones
    have hones' : (unpackExponent b).toNat ≠ 2 ^ f.exponentBits - 1 := fun he =>
      hones (BitVec.eq_of_toNat_eq (by simpa [BitVec.neg_one_eq_allOnes] using he))
    split at h
    · rename_i hzero
      split at h
      · cases h
      · cases h
        simp only [hzero, BitVec.toNat_zero] at *
        refine ⟨⟨?_, ?_, Or.inr ?_⟩, ?_⟩
        · exact hv.trans (Nat.pow_lt_pow_right (by omega) (by omega))
        · rw [hmin]
          omega
        · rw [hmin]
          omega
        · unfold maxExponent
          omega
    · rename_i hzero
      have hzero' : (unpackExponent b).toNat ≠ 0 := fun he => hzero (BitVec.eq_of_toNat_eq (by simpa using he))
      cases h
      rw [toNat_implicit]
      refine ⟨⟨?_, ?_, Or.inl (Nat.le_add_right _ _)⟩, ?_⟩
      · rw [hbits, pow_succ]
        omega
      · rw [hmin]
        omega
      · unfold maxExponent
        omega

end Diorama.Binary
