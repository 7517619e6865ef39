import Formwork.Number.Binary64
import Mathlib.Algebra.Group.Int.Defs
import Mathlib.Algebra.Group.Nat.Defs
import Mathlib.Data.Nat.Log

namespace Formwork.Binary64

variable {num num' den k n : Nat} {a b : Int}

theorem roundDiv_eq (num den : Nat) :
    roundDiv num den =
      if 2 * (num % den) < den ∨ 2 * (num % den) = den ∧ num / den % 2 = 0 then num / den
      else num / den + 1 := by
  simp only [roundDiv, Bool.or_eq_true, Bool.and_eq_true, decide_eq_true_eq, beq_iff_eq]

theorem le_roundDiv (hd : 0 < den) (h : k * den ≤ num) : k ≤ roundDiv num den := by
  have hk : k ≤ num / den := (Nat.le_div_iff_mul_le hd).2 h
  rw [roundDiv_eq]
  split <;> omega

theorem roundDiv_le (hd : 0 < den) (h : num ≤ k * den) : roundDiv num den ≤ k := by
  rw [roundDiv_eq]
  split
  · exact Nat.div_le_of_le_mul (Nat.mul_comm k den ▸ h)
  · next hr =>
    -- Something is left over, so that `num` is not the multiple below it.
    have hlt : num / den * den < num := by
      have := Nat.div_add_mod' num den
      omega
    exact Nat.lt_of_mul_lt_mul_right (Nat.lt_of_lt_of_le hlt h)

theorem roundDiv_mul (hd : 0 < den) (k : Nat) : roundDiv (k * den) den = k :=
  Nat.le_antisymm (roundDiv_le hd (Nat.le_refl _)) (le_roundDiv hd (Nat.le_refl _))

theorem roundDiv_mono (hd : 0 < den) (h : num ≤ num') : roundDiv num den ≤ roundDiv num' den := by
  rcases Nat.lt_or_eq_of_le (Nat.div_le_div_right (c := den) h) with hq | hq
  · have hlt : num < (num / den + 1) * den := (Nat.div_lt_iff_lt_mul hd).1 (Nat.lt_succ_self _)
    have hle : roundDiv num den ≤ num / den + 1 := roundDiv_le hd (Nat.le_of_lt hlt)
    have hge : num' / den ≤ roundDiv num' den := le_roundDiv hd (Nat.div_mul_le_self num' den)
    omega
  · have hr : num % den ≤ num' % den := by
      have := Nat.div_add_mod' num den
      have := Nat.div_add_mod' num' den
      rw [hq] at *
      omega
    rw [roundDiv_eq, roundDiv_eq, hq]
    split <;> split <;> omega

theorem roundDiv_error (hd : 0 < den) (num : Nat) :
    2 * num ≤ 2 * (roundDiv num den * den) + den ∧
    2 * (roundDiv num den * den) ≤ 2 * num + den := by
  have hsplit := Nat.div_add_mod' num den
  have hlt := Nat.mod_lt num hd
  rw [roundDiv_eq]
  split
  · omega
  · rw [Nat.add_one_mul (num / den)]
    omega

/-- How far apart the numbers of `precision` binary digits are around a magnitude. -/
def spacing (n : Nat) : Nat := 2 ^ (n.log2 + 1 - precision)

theorem spacing_pos (n : Nat) : 0 < spacing n := Nat.two_pow_pos _

theorem roundUnits_eq (num den : Nat) :
    roundUnits num den = roundDiv num (den * spacing (num / den)) * spacing (num / den) := rfl

theorem roundUnits_one (n : Nat) : roundUnits n 1 = roundDiv n (spacing n) * spacing n := by
  rw [roundUnits_eq, Nat.div_one, Nat.one_mul]

theorem lt_mul_spacing (n : Nat) : n < 2 ^ precision * spacing n := by
  have hlt : n < 2 ^ (n.log2 + 1) := Nat.lt_log2_self
  have hle : 2 ^ (n.log2 + 1) ≤ 2 ^ precision * spacing n := by
    rw [spacing, ← Nat.pow_add]
    exact Nat.pow_le_pow_right Nat.two_pos (by omega)
  omega

theorem mul_spacing_le (h : 2 ^ 52 ≤ n) : 2 ^ 52 * spacing n ≤ n := by
  have hn : n ≠ 0 := by omega
  have hlog : 52 ≤ n.log2 := (Nat.le_log2 hn).2 h
  calc
    2 ^ 52 * spacing n = 2 ^ n.log2 := by
      rw [spacing, ← Nat.pow_add]
      congr 1
      simp only [precision]
      omega
    _ ≤ n := Nat.log2_self_le hn

theorem spacing_lt (h : n ≤ k) (hs : spacing n ≠ spacing k) :
    2 * spacing n ≤ spacing k ∧ 2 ^ precision ≤ k := by
  have hlog : n.log2 ≤ k.log2 := by
    rw [Nat.log2_eq_log_two, Nat.log2_eq_log_two]
    exact Nat.log_mono_right h
  have hlt : n.log2 + 1 - precision < k.log2 + 1 - precision := by
    refine Nat.lt_of_le_of_ne (by omega) fun he ↦ hs ?_
    rw [spacing, he, spacing]
  constructor
  · rw [spacing, spacing, ← Nat.pow_succ']
    exact Nat.pow_le_pow_right Nat.two_pos hlt
  · have hk : k ≠ 0 := by
      rintro rfl
      rw [Nat.log2_zero] at hlt
      omega
    exact (Nat.le_log2 hk).1 (by omega)

theorem roundUnits_mono (h : n ≤ k) : roundUnits n 1 ≤ roundUnits k 1 := by
  rw [roundUnits_one, roundUnits_one]
  by_cases hs : spacing n = spacing k
  · rw [hs]
    exact Nat.mul_le_mul_right _ (roundDiv_mono (spacing_pos k) h)
  · obtain ⟨hdouble, hk⟩ := spacing_lt h hs
    have hlow : roundDiv n (spacing n) ≤ 2 ^ precision :=
      roundDiv_le (spacing_pos n) (Nat.le_of_lt (lt_mul_spacing n))
    have hhigh : 2 ^ 52 ≤ roundDiv k (spacing k) :=
      le_roundDiv (spacing_pos k) (mul_spacing_le
        (Nat.le_trans (Nat.pow_le_pow_right Nat.two_pos (by decide)) hk))
    calc
      roundDiv n (spacing n) * spacing n ≤ 2 ^ precision * spacing n := Nat.mul_le_mul_right _ hlow
      _ = 2 ^ 52 * (2 * spacing n) := by rw [← Nat.mul_assoc]; rfl
      _ ≤ roundDiv k (spacing k) * spacing k := Nat.mul_le_mul hhigh hdouble

theorem roundUnits_of_dvd (h : spacing n ∣ n) : roundUnits n 1 = n := by
  obtain ⟨c, hc⟩ := h
  rw [roundUnits_one]
  conv => lhs; arg 1; arg 1; rw [hc, Nat.mul_comm]
  rw [roundDiv_mul (spacing_pos n), Nat.mul_comm, ← hc]

theorem spacing_dvd (h : n ≤ 2 ^ precision) (e : Nat) : spacing (n * 2 ^ e) ∣ n * 2 ^ e := by
  rcases Nat.lt_or_eq_of_le h with hlt | rfl
  · rcases Nat.eq_zero_or_pos n with rfl | hn
    · rw [Nat.zero_mul]
      exact Nat.dvd_zero _
    have hlog : (n * 2 ^ e).log2 < precision + e := by
      refine (Nat.log2_lt (Nat.mul_ne_zero (by omega) (Nat.two_pow_pos e).ne')).2 ?_
      rw [Nat.pow_add]
      exact Nat.mul_lt_mul_of_pos_right hlt (Nat.two_pow_pos e)
    exact Nat.dvd_mul_left_of_dvd (Nat.pow_dvd_pow 2 (by omega)) n
  · rw [← Nat.pow_add, spacing, Nat.log2_two_pow]
    exact Nat.pow_dvd_pow 2 (by simp only [precision]; omega)

theorem exists_one_eq : ∃ e, 52 ≤ e ∧ one = 2 ^ e := by
  have h : ∃ e, 52 ≤ e ∧ one = Nat.pow 2 e := ⟨1074, by decide, by delta one; rfl⟩
  exact h

theorem one_pos : 0 < one := by
  obtain ⟨e, -, he⟩ := exists_one_eq
  exact he ▸ Nat.two_pow_pos e

theorem roundUnits_mul_one (h : n ≤ 2 ^ precision) : roundUnits (n * one) 1 = n * one := by
  obtain ⟨e, -, he⟩ := exists_one_eq
  rw [he]
  exact roundUnits_of_dvd (spacing_dvd h e)

theorem roundUnits_error (n : Nat) :
    2 ^ precision * ((roundUnits (n * one) 1 : Int) - (n * one : Nat)).natAbs ≤ n * one := by
  rcases Nat.eq_zero_or_pos n with rfl | hn
  · have hzero := roundUnits_mul_one (Nat.zero_le (2 ^ precision))
    rw [hzero, Int.sub_self]
    exact Nat.zero_le _
  have hone : 2 ^ 52 ≤ one := by
    obtain ⟨e, hle, he⟩ := exists_one_eq
    exact he ▸ Nat.pow_le_pow_right Nat.two_pos hle
  have hspacing := mul_spacing_le (Nat.le_trans hone (Nat.le_mul_of_pos_left one hn))
  have herror := roundDiv_error (spacing_pos (n * one)) (n * one)
  rw [← roundUnits_one] at herror
  rw [show 2 ^ precision = 2 * 2 ^ 52 from rfl]
  omega

theorem toInt_ofInt (a : Int) :
    (ofInt a).toInt =
      if a < 0 then -(roundUnits (a.natAbs * one) 1 : Int) else roundUnits (a.natAbs * one) 1 := by
  simp only [toInt, ofInt, decide_eq_true_eq]

theorem mul_one_eq (a : Int) :
    a * one = if a < 0 then -((a.natAbs * one : Nat) : Int) else (a.natAbs * one : Nat) := by
  rw [Int.natCast_mul]
  split
  · rw [show (a.natAbs : Int) = -a by omega, Int.neg_mul, Int.neg_neg]
  · rw [show (a.natAbs : Int) = a by omega]

theorem toInt_ofInt_mono (h : a ≤ b) : (ofInt a).toInt ≤ (ofInt b).toInt := by
  rw [toInt_ofInt, toInt_ofInt]
  split
  · split
    · have := roundUnits_mono (Nat.mul_le_mul_right one (show b.natAbs ≤ a.natAbs by omega))
      omega
    · omega
  · rw [if_neg (by omega)]
    have := roundUnits_mono (Nat.mul_le_mul_right one (show a.natAbs ≤ b.natAbs by omega))
    omega

theorem toInt_ofInt_of_le (h : a.natAbs ≤ 2 ^ precision) : (ofInt a).toInt = a * one := by
  rw [toInt_ofInt, roundUnits_mul_one h, mul_one_eq]

/-- Rounding moves a number by no more than one part in `2⁵³`. -/
theorem toInt_ofInt_error (a : Int) :
    2 ^ precision * ((ofInt a).toInt - a * one).natAbs ≤ a.natAbs * one := by
  have hunits := roundUnits_error a.natAbs
  rw [toInt_ofInt, mul_one_eq]
  split
  · have hneg : ∀ u v : Int, (-u - -v).natAbs = (u - v).natAbs := by omega
    rwa [hneg]
  · exact hunits

theorem natAbs_sub_le_of_toInt_ofInt_eq (h : (ofInt a).toInt = (ofInt b).toInt) :
    2 ^ precision * (a - b).natAbs ≤ a.natAbs + b.natAbs := by
  have ha := toInt_ofInt_error a
  have hb := toInt_ofInt_error b
  have hdistance : (a - b).natAbs * one ≤
      ((ofInt a).toInt - a * one).natAbs + ((ofInt b).toInt - b * one).natAbs := by
    have hmul : (a - b).natAbs * one = (a * one - b * one).natAbs := by
      rw [← Int.sub_mul, Int.natAbs_mul, Int.natAbs_natCast]
    rw [hmul, h]
    omega
  refine Nat.le_of_mul_le_mul_right ?_ one_pos
  calc
    2 ^ precision * (a - b).natAbs * one
      ≤ 2 ^ precision * (((ofInt a).toInt - a * one).natAbs +
        ((ofInt b).toInt - b * one).natAbs) := by
        rw [Nat.mul_assoc]
        exact Nat.mul_le_mul_left _ hdistance
    _ ≤ (a.natAbs + b.natAbs) * one := by
        rw [Nat.mul_add, Nat.add_mul]
        exact Nat.add_le_add ha hb

end Formwork.Binary64
