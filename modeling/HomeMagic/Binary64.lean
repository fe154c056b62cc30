import Mathlib

/-! Rational numbers rounded to binary64. A rounded number is counted in units of the least subnormal, and the count
that is just out of range stands for infinity, so that counts are ordered as the rounded numbers are. -/
namespace HomeMagic

variable {x units : ℚ} {n : ℕ}

def roundHalfEven (x : ℚ) : ℤ :=
  if x - ⌊x⌋ < 1 / 2 ∨ (x - ⌊x⌋ = 1 / 2 ∧ 2 ∣ ⌊x⌋) then ⌊x⌋ else ⌊x⌋ + 1

theorem floor_le_roundHalfEven (x : ℚ) : ⌊x⌋ ≤ roundHalfEven x := by
  unfold roundHalfEven
  split <;> omega

theorem roundHalfEven_le (x : ℚ) : roundHalfEven x ≤ ⌊x⌋ + 1 := by
  unfold roundHalfEven
  split <;> omega

theorem roundHalfEven_natCast (n : ℕ) : roundHalfEven n = n := by
  have hfloor : ⌊(n : ℚ)⌋ = n := Int.floor_natCast n
  unfold roundHalfEven
  rw [hfloor, if_pos]
  exact .inl (by norm_num)

theorem roundHalfEven_mono : Monotone roundHalfEven := by
  intro x y hxy
  have hfloor : ⌊x⌋ ≤ ⌊y⌋ := Int.floor_mono hxy
  rcases lt_or_eq_of_le hfloor with hlt | heq
  · have hx := roundHalfEven_le x
    have hy := floor_le_roundHalfEven y
    omega
  · -- with one floor, what rounds the greater number down rounds the smaller one down
    have hfract : x - ⌊x⌋ ≤ y - ⌊y⌋ := by
      rw [heq]
      linarith
    have hx := roundHalfEven_le x
    unfold roundHalfEven
    split
    · split <;> omega
    next hup =>
      rw [if_neg]
      · omega
      · intro hdown
        refine hup ?_
        rcases hdown with hdown | ⟨hhalf, heven⟩
        · exact .inl (lt_of_le_of_lt hfract hdown)
        · rcases lt_or_eq_of_le (hhalf ▸ hfract) with hlt | hsame
          · exact .inl hlt
          · exact .inr ⟨hsame, heq ▸ heven⟩

def binary64Shift (units : ℚ) : ℕ := Nat.log 2 ⌊units⌋₊ - 52

def binary64Magnitude (x : ℚ) : ℤ :=
  let units := x * 2 ^ 1074
  min (roundHalfEven (units / 2 ^ binary64Shift units) * 2 ^ binary64Shift units) (2 ^ 2098)

def binary64 (x : ℚ) : ℤ := if x < 0 then -binary64Magnitude (-x) else binary64Magnitude x

theorem lt_of_binary64Shift (h : 0 ≤ units) : units < 2 ^ (binary64Shift units + 53) := by
  have hlog : ⌊units⌋₊ < 2 ^ (binary64Shift units + 53) := by
    calc
      ⌊units⌋₊ < 2 ^ (Nat.log 2 ⌊units⌋₊ + 1) := Nat.lt_pow_succ_log_self (by decide) _
      _ ≤ 2 ^ (binary64Shift units + 53) := by
        apply Nat.pow_le_pow_right (by decide)
        unfold binary64Shift
        omega
  have hceil := (Nat.floor_lt h).mp hlog
  push_cast at hceil
  exact hceil

theorem le_of_binary64Shift (h : 0 < binary64Shift units) : 2 ^ (binary64Shift units + 52) ≤ units := by
  have hlog : binary64Shift units + 52 = Nat.log 2 ⌊units⌋₊ := by
    unfold binary64Shift at h ⊢
    omega
  have hfloor : ⌊units⌋₊ ≠ 0 := by
    intro hzero
    rw [hzero, Nat.log_zero_right] at hlog
    omega
  have hpow : 2 ^ (binary64Shift units + 52) ≤ ⌊units⌋₊ := by
    rw [hlog]
    exact Nat.pow_log_le_self 2 hfloor
  have hle := (Nat.le_floor_iff' (by positivity)).mp hpow
  push_cast at hle
  exact hle

theorem binary64Shift_mono : Monotone binary64Shift := by
  intro x y hxy
  have hlog := Nat.log_mono_right (b := 2) (Nat.floor_mono hxy)
  unfold binary64Shift
  omega

theorem roundHalfEven_le_pow (h : x ≤ 2 ^ n) : roundHalfEven x ≤ 2 ^ n := by
  have hround := roundHalfEven_mono h
  have hexact := roundHalfEven_natCast (2 ^ n)
  push_cast at hexact
  rw [hexact] at hround
  exact hround

theorem pow_le_roundHalfEven (h : 2 ^ n ≤ x) : 2 ^ n ≤ roundHalfEven x := by
  have hround := roundHalfEven_mono h
  have hexact := roundHalfEven_natCast (2 ^ n)
  push_cast at hexact
  rw [hexact] at hround
  exact hround

theorem rounded_mono {u w : ℚ} (hu : 0 ≤ u) (huw : u ≤ w) :
    roundHalfEven (u / 2 ^ binary64Shift u) * 2 ^ binary64Shift u ≤
      roundHalfEven (w / 2 ^ binary64Shift w) * 2 ^ binary64Shift w := by
  rcases lt_or_eq_of_le (binary64Shift_mono huw) with hlt | heq
  · -- a power of two lies between them
    have hbelow : roundHalfEven (u / 2 ^ binary64Shift u) ≤ 2 ^ 53 := by
      apply roundHalfEven_le_pow
      rw [div_le_iff₀ (by positivity), ← pow_add, Nat.add_comm]
      exact (lt_of_binary64Shift hu).le
    have habove : 2 ^ 52 ≤ roundHalfEven (w / 2 ^ binary64Shift w) := by
      apply pow_le_roundHalfEven
      rw [le_div_iff₀ (by positivity), ← pow_add, Nat.add_comm]
      exact le_of_binary64Shift (by omega)
    calc
      roundHalfEven (u / 2 ^ binary64Shift u) * 2 ^ binary64Shift u ≤ 2 ^ 53 * 2 ^ binary64Shift u :=
        Int.mul_le_mul_of_nonneg_right hbelow (by positivity)
      _ = 2 ^ (53 + binary64Shift u) := (pow_add _ _ _).symm
      _ ≤ 2 ^ (52 + binary64Shift w) := pow_le_pow_right₀ (by decide) (by omega)
      _ = 2 ^ 52 * 2 ^ binary64Shift w := pow_add _ _ _
      _ ≤ roundHalfEven (w / 2 ^ binary64Shift w) * 2 ^ binary64Shift w :=
        Int.mul_le_mul_of_nonneg_right habove (by positivity)
  · rw [heq]
    apply Int.mul_le_mul_of_nonneg_right _ (by positivity)
    apply roundHalfEven_mono
    exact div_le_div_of_nonneg_right huw (by positivity)

theorem binary64Magnitude_mono {y : ℚ} (hx : 0 ≤ x) (hxy : x ≤ y) : binary64Magnitude x ≤ binary64Magnitude y := by
  unfold binary64Magnitude
  apply min_le_min_right
  apply rounded_mono
  · positivity
  · exact mul_le_mul_of_nonneg_right hxy (by positivity)

theorem binary64Magnitude_nonneg (hx : 0 ≤ x) : 0 ≤ binary64Magnitude x := by
  have hfloor : (0 : ℤ) ≤ ⌊x * 2 ^ 1074 / 2 ^ binary64Shift (x * 2 ^ 1074)⌋ := Int.floor_nonneg.mpr (by positivity)
  have hround := floor_le_roundHalfEven (x * 2 ^ 1074 / 2 ^ binary64Shift (x * 2 ^ 1074))
  unfold binary64Magnitude
  apply le_min
  · exact Int.mul_nonneg (by omega) (by positivity)
  · positivity

theorem binary64_mono : Monotone binary64 := by
  intro x y hxy
  unfold binary64
  split
  next hx =>
    have hleft := binary64Magnitude_nonneg (x := -x) (by linarith)
    split
    · have hmono := binary64Magnitude_mono (x := -y) (y := -x) (by linarith) (by linarith)
      omega
    next hy =>
      have hright := binary64Magnitude_nonneg (x := y) (by linarith)
      omega
  next hx =>
    rw [if_neg (by linarith)]
    exact binary64Magnitude_mono (by linarith) hxy

end HomeMagic
