-- Which whole numbers have a number of double precision near them: those that do
-- not round up to 2^1024.
import GatedPipeline.Decimal.Binary64
import Mathlib.Tactic.DefEqTransformations
import Mathlib.Tactic.Ring
namespace GatedPipeline.Decimal.Binary64

/-- The least whole number that is too large: half a step below 2^1024, from where on rounding
goes up. -/
def wholeLimit : Nat := 2 ^ 1024 - 2 ^ 970

/-! ## Rounding -/

theorem le_divRound (num den : Nat) : num / den ≤ divRound num den := by
  unfold divRound
  dsimp only
  split
  · exact Nat.le_succ _
  · exact Nat.le_refl _

theorem divRound_le (num den : Nat) : divRound num den ≤ num / den + 1 := by
  unfold divRound
  dsimp only
  split
  · exact Nat.le_refl _
  · exact Nat.le_succ _

/-- A number below the end of the places is rounded up to the end from the middle of the last place
on: that place is odd, so the middle itself goes up too. -/
theorem divRound_lt_iff {x half n : Nat} (hhalf : 0 < half) (hx : x < 2 * n * (2 * half)) :
    divRound x (2 * half) < 2 * n ↔ x + half < 2 * n * (2 * half) := by
  have hq : x / (2 * half) < 2 * n := (Nat.div_lt_iff_lt_mul (by omega)).2 hx
  have hr : x % (2 * half) < 2 * half := Nat.mod_lt _ (by omega)
  have hsplit : 2 * half * (x / (2 * half)) + x % (2 * half) = x := Nat.div_add_mod x (2 * half)
  by_cases hlast : x / (2 * half) + 1 = 2 * n
  · have hend : 2 * n * (2 * half) = 2 * half * (x / (2 * half)) + 2 * half := by
      rw [← hlast]
      ring
    have hodd : x / (2 * half) % 2 = 1 := by omega
    have hup : divRound x (2 * half) =
        if half ≤ x % (2 * half) then x / (2 * half) + 1 else x / (2 * half) := by
      unfold divRound
      simp only [hodd, BEq.rfl, Bool.and_true, Bool.or_eq_true, decide_eq_true_eq, beq_iff_eq]
      congr 1
      apply propext
      omega
    rw [hup, hend]
    split <;> omega
  · have hplaces : (x / (2 * half) + 2) * (2 * half) ≤ 2 * n * (2 * half) :=
      Nat.mul_le_mul_right _ (by omega)
    have hend : (x / (2 * half) + 2) * (2 * half) =
        2 * half * (x / (2 * half)) + 2 * half + 2 * half := by ring
    have hle := divRound_le x (2 * half)
    constructor
    · intro
      omega
    · intro
      omega

/-! ## The numbers that are held -/

/-- Units rounded to what a number of double precision holds. -/
def rounded (units : Nat) : Nat :=
  divRound units (Nat.pow 2 (lastBit units)) * Nat.pow 2 (lastBit units)

theorem rounded_eq {x k : Nat} (h : lastBit x = k) :
    rounded x = divRound x (2 ^ k) * 2 ^ k := by
  subst h
  rfl

theorem rounded_le (x : Nat) : rounded x ≤ x + 2 ^ lastBit x := by
  rw [rounded_eq rfl]
  generalize 2 ^ lastBit x = step
  calc divRound x step * step ≤ (x / step + 1) * step := Nat.mul_le_mul_right _ (divRound_le _ _)
    _ = x / step * step + step := by ring
    _ ≤ x + step := Nat.add_le_add_right (Nat.div_mul_le_self _ _) _

/-- A power of two that has all the places is held as it is, so rounding does not pass below it. -/
theorem le_rounded {x k : Nat} (hk : precision ≤ k + 1) (h : 2 ^ k ≤ x) : 2 ^ k ≤ rounded x := by
  have hx : x ≠ 0 := by
    have := Nat.two_pow_pos k
    omega
  have hlog : k ≤ Nat.log2 x := (Nat.le_log2 hx).2 h
  have hplaces : 2 ^ Nat.log2 x = 2 ^ (precision - 1) * 2 ^ lastBit x := by
    rw [← Nat.pow_add]
    unfold lastBit
    congr 1
    unfold precision at *
    omega
  have hself : 2 ^ Nat.log2 x ≤ x := Nat.log2_self_le hx
  rw [rounded_eq rfl]
  calc 2 ^ k ≤ 2 ^ Nat.log2 x := Nat.pow_le_pow_right (by omega) hlog
    _ = 2 ^ (precision - 1) * 2 ^ lastBit x := hplaces
    _ ≤ x / 2 ^ lastBit x * 2 ^ lastBit x := by
      apply Nat.mul_le_mul_right
      rw [Nat.le_div_iff_mul_le (Nat.two_pow_pos _), ← hplaces]
      exact hself
    _ ≤ divRound x (2 ^ lastBit x) * 2 ^ lastBit x := Nat.mul_le_mul_right _ (le_divRound _ _)

/-- Rounding goes beyond `2^(k + 54)` from the middle of the last place before it on. -/
theorem rounded_lt_iff (x : Nat) {k limit : Nat} (hlimit : limit = k + 54) :
    rounded x < 2 ^ limit ↔ x + 2 ^ k < 2 ^ limit := by
  subst hlimit
  have hhalf : 2 ^ (k + 54) = 2 * 2 ^ (k + 53) := by
    rw [Nat.pow_succ, Nat.mul_comm]
  have hk : 2 ^ k ≤ 2 ^ (k + 53) := Nat.pow_le_pow_right (by omega) (by omega)
  by_cases hsmall : x < 2 ^ (k + 53)
  · -- a place has at most `2^k` units, so there is no way to the end
    have hplace : 2 ^ lastBit x ≤ 2 ^ k := by
      apply Nat.pow_le_pow_right (by omega)
      unfold lastBit precision
      by_cases hx : x = 0
      · simp [hx]
      · have := (Nat.log2_lt hx).2 hsmall
        omega
    have hle := rounded_le x
    constructor
    · intro
      omega
    · intro
      omega
  by_cases hbelow : x < 2 ^ (k + 54)
  · have hx : x ≠ 0 := by
      have := Nat.two_pow_pos (k + 53)
      omega
    have hlast : lastBit x = k + 1 := by
      have := (Nat.le_log2 hx).2 (Nat.le_of_not_lt hsmall)
      have := (Nat.log2_lt hx).2 hbelow
      unfold lastBit precision
      omega
    have hend : 2 ^ (k + 54) = 2 * 2 ^ 52 * (2 * 2 ^ k) := by ring
    have hplace : 2 ^ (k + 1) = 2 * 2 ^ k := by ring
    rw [hend] at hbelow
    rw [rounded_eq hlast, hplace, hend, ← divRound_lt_iff (Nat.two_pow_pos k) hbelow]
    apply Nat.mul_lt_mul_right
    have := Nat.two_pow_pos k
    omega
  · have hpos := Nat.two_pow_pos k
    have hle : 2 ^ (k + 54) ≤ rounded x := le_rounded (by unfold precision; omega) (by omega)
    constructor
    · intro
      omega
    · intro
      omega

/-! ## The limit -/

theorem ofRatio_one (negative : Bool) (n : Nat) : ofRatio negative n 1 =
    if rounded (n * one) < tooLarge then .finite negative (rounded (n * one))
    else .infinite negative := by
  unfold ofRatio rounded
  dsimp only
  rw [Nat.div_one, Nat.one_mul]

theorem isSome_ofInt? (n : Int) : (ofInt? n).isSome ↔ rounded (n.natAbs * one) < tooLarge := by
  have hratio := ofRatio_one (n < 0) n.natAbs
  -- opened as a function, so that nothing is computed with the units of `n`
  have hopen : ofInt? = ofInt? := rfl
  conv at hopen => rhs; delta ofInt?
  rw [hopen]
  beta_reduce
  generalize ofRatio (n < 0) n.natAbs 1 = x at hratio ⊢
  generalize rounded (n.natAbs * one) = units at hratio ⊢
  generalize tooLarge = limit at hratio ⊢
  subst hratio
  by_cases h : units < limit
  · simp [h]
  · simp [h]

/-- Rounding units of `2^-shift` goes beyond the limit from the middle of the last place on. -/
theorem rounded_units_lt_iff (n shift low : Nat) {high top : Nat} (hhigh : high = low + 54)
    (htop : top = high + shift) :
    rounded (n * Nat.pow 2 shift) < Nat.pow 2 top ↔ n + 2 ^ low < 2 ^ high := by
  subst htop
  rw [Nat.pow_eq, Nat.pow_eq, rounded_lt_iff _ (show high + shift = low + shift + 54 by omega),
    Nat.pow_add, Nat.pow_add, ← Nat.add_mul, Nat.mul_lt_mul_right (Nat.two_pow_pos shift)]

/-- A whole number has a number of double precision near it just if it is below the limit. -/
theorem ofInt?_isSome_iff (n : Int) : (ofInt? n).isSome ↔ n.natAbs < wholeLimit := by
  have hhigh : 1024 = 970 + 54 := rfl
  have htop : 2098 = 1024 + 1074 := rfl
  rw [isSome_ofInt?]
  unfold one tooLarge wholeLimit
  rw [rounded_units_lt_iff n.natAbs 1074 970 hhigh htop]
  exact Nat.lt_sub_iff_add_lt.symm

end GatedPipeline.Decimal.Binary64
