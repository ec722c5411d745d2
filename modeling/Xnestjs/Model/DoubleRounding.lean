import Xnestjs.Model.Value
import Mathlib.Algebra.Order.Ring.Nat
import Mathlib.Algebra.Order.Ring.Rat
import Mathlib.Data.Nat.Cast.Order.Ring

/-!
# Whole numbers as doubles

A double has room for 53 significant bits and, of whole numbers, for 1024 bits in all. Another
number becomes the nearest one that has this form, of two equally near ones the one whose last
significant bit is 0, or an infinity when that one is too large.
-/

set_option autoImplicit false

namespace Xnestjs.Model

/-- The number is that of a double. -/
def IsDouble (n : ℕ) : Prop := ∃ m e, m < 2 ^ 53 ∧ e ≤ 971 ∧ n = m * 2 ^ e

/-- How many bits of the number are not significant. -/
def droppedBits (n : ℕ) : ℕ := n.log2 - 52

/-- The nearest number with 53 significant bits. -/
def roundBits (n : ℕ) : ℕ :=
  let unit := 2 ^ droppedBits n
  let below := n / unit
  let rest := n % unit
  if 2 * rest < unit ∨ (2 * rest = unit ∧ below % 2 = 0) then below * unit else (below + 1) * unit

/-- The number of a sign and digits. -/
def toNumber (negative : Bool) (n : ℕ) : Value :=
  let m := roundBits n
  if m.log2 < 1024 then .num (if negative then -m else m) else .infinity negative

/-- What is left of the number has 53 bits. -/
theorem lt_two_pow_dropped (n : ℕ) : n < 2 ^ 53 * 2 ^ droppedBits n := by
  rw [← pow_add]
  refine lt_of_lt_of_le Nat.lt_log2_self (Nat.pow_le_pow_right two_pos ?_)
  unfold droppedBits
  omega

/-- The bits that are dropped are 0 afterwards. -/
theorem two_pow_dvd_roundBits (n : ℕ) : 2 ^ droppedBits n ∣ roundBits n := by
  simp only [roundBits]
  split_ifs
  · exact Nat.dvd_mul_left _ _
  · exact Nat.dvd_mul_left _ _

/-- A number with at most 53 significant bits stays as it is, and no other one does. -/
theorem roundBits_eq_self_iff (n : ℕ) : roundBits n = n ↔ 2 ^ droppedBits n ∣ n := by
  constructor
  · intro h
    have hdvd := two_pow_dvd_roundBits n
    rwa [h] at hdvd
  · intro h
    have hrest : n % 2 ^ droppedBits n = 0 := Nat.mod_eq_zero_of_dvd h
    have hunit : 0 < 2 ^ droppedBits n := Nat.two_pow_pos _
    simp only [roundBits, hrest, mul_zero, hunit, true_or, if_true]
    exact Nat.div_mul_cancel h

/-- The bits of a number of the form of a double. -/
theorem log2_lt_of_bits {m e : ℕ} (hm : m < 2 ^ 53) : (m * 2 ^ e).log2 < 53 + e := by
  by_cases hzero : m * 2 ^ e = 0
  · rw [hzero, Nat.log2_zero]
    omega
  · rw [Nat.log2_lt hzero, pow_add]
    exact Nat.mul_lt_mul_of_pos_right hm (Nat.two_pow_pos e)

/-- Those that are dropped of it are 0. -/
theorem two_pow_dropped_dvd {m e : ℕ} (hm : m < 2 ^ 53) :
    2 ^ droppedBits (m * 2 ^ e) ∣ m * 2 ^ e := by
  have hlog := log2_lt_of_bits (e := e) hm
  have hle : droppedBits (m * 2 ^ e) ≤ e := by
    unfold droppedBits
    omega
  exact Dvd.dvd.mul_left (pow_dvd_pow 2 hle) m

/-- **The number of a double** is kept, and no other one is. -/
theorem toNumber_eq_iff (n : ℕ) : toNumber false n = .num n ↔ IsDouble n := by
  have hcast : toNumber false n = .num n ↔ roundBits n = n ∧ n.log2 < 1024 := by
    simp only [toNumber, Bool.false_eq_true, if_false]
    split_ifs with hlog
    · rw [Value.num.injEq, Nat.cast_inj]
      exact ⟨fun h => ⟨h, h ▸ hlog⟩, fun h => h.1⟩
    · refine iff_of_false (fun h => by cases h) fun h => ?_
      rw [h.1] at hlog
      exact hlog h.2
  rw [hcast, roundBits_eq_self_iff]
  constructor
  · rintro ⟨hdvd, hlog⟩
    refine ⟨n / 2 ^ droppedBits n, droppedBits n, ?_, ?_, (Nat.div_mul_cancel hdvd).symm⟩
    · exact Nat.div_lt_of_lt_mul (by rw [mul_comm]; exact lt_two_pow_dropped n)
    · unfold droppedBits
      omega
  · rintro ⟨m, e, hm, he, rfl⟩
    have hlog := log2_lt_of_bits (e := e) hm
    exact ⟨two_pow_dropped_dvd hm, by omega⟩

/-- A positive number stays positive. -/
theorem positive_toNumber (n : ℕ) : (toNumber false n).positive = true ↔ 0 < n := by
  have hbits : roundBits n = 0 ↔ n = 0 := by
    constructor
    · intro h
      by_contra hne
      have hbelow : 0 < n / 2 ^ droppedBits n := by
        refine Nat.div_pos ((Nat.le_log2 hne).mp ?_) (Nat.two_pow_pos _)
        exact Nat.sub_le _ _
      have hpos : 0 < roundBits n := by
        simp only [roundBits]
        split_ifs
        · exact Nat.mul_pos hbelow (Nat.two_pow_pos _)
        · exact Nat.mul_pos (Nat.succ_pos _) (Nat.two_pow_pos _)
      omega
    · rintro rfl
      rfl
  simp only [toNumber, Bool.false_eq_true, if_false]
  split_ifs
  · rw [Value.positive, decide_eq_true_eq, Nat.cast_pos, Nat.pos_iff_ne_zero, Ne, hbits,
      Nat.pos_iff_ne_zero]
  · refine iff_of_true rfl (Nat.pos_of_ne_zero ?_)
    rintro rfl
    contradiction

/-- Every number of 53 bits is that of a double. -/
theorem isDouble_of_lt {n : ℕ} (h : n < 2 ^ 53) : IsDouble n := ⟨n, 0, h, by omega, by omega⟩

end Xnestjs.Model
