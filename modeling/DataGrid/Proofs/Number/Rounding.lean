import DataGrid.Number.Binary64
import Mathlib.Algebra.Order.Field.Rat
import Mathlib.Data.Nat.Log
import Mathlib.Tactic.Linarith
import Mathlib.Tactic.Positivity
import Mathlib.Tactic.Ring

/-!
# Rounding keeps the order

What the nearest number tells of an exact one. Rounding may make two values equal but never puts
them in the other order, and a value that the format holds exactly is its own nearest number.

* `roundHalfEven_mono`, `rankOf_mono`: a larger quotient has no smaller integer and no smaller rank
  next to it. Two quotients with different exponents are kept apart by the first rank of the larger
  exponent.
* `rankOf_units`: every magnitude of the format is nearest to itself.
* **`place`**: the place in the order of the number nearest to a rational one, which is monotone
  (`place_mono`).
* **`TellsApart`**: whether rounding leaves two values different if they are. It does so for values
  that the format holds exactly (`TellsApart.of_representable`), as it holds all integers up to `2 ^
  53` (`representable_intCast`).
-/

namespace DataGrid.Binary64

/-- There are ranks with each exponent. -/
theorem binade_pos : 0 < binade := Nat.two_pow_pos 52

/-- The unit is not zero. -/
theorem unitScale_pos : 0 < unitScale := by decide +kernel

/-! ## Rounding to an integer -/

/-- A quotient that is an integer is rounded to itself. -/
theorem roundHalfEven_mul_self (n : Nat) {d : Nat} (hd : 0 < d) : roundHalfEven (n * d) d = n := by
  have quotient : n * d / d = n := Nat.mul_div_cancel n hd
  have remainder : n * d % d = 0 := Nat.mul_mod_left n d
  simp [roundHalfEven, quotient, remainder, hd]

/-- A quotient is never rounded to less than its integer part. -/
theorem le_roundHalfEven (num den : Nat) : num / den ≤ roundHalfEven num den := by
  simp only [roundHalfEven]
  split
  · omega
  · split <;> omega

/-- A quotient is never rounded to more than one above its integer part. -/
theorem roundHalfEven_le (num den : Nat) : roundHalfEven num den ≤ num / den + 1 := by
  simp only [roundHalfEven]
  split
  · omega
  · split <;> omega

/-- With one quotient in front, the remainders decide. -/
theorem roundHalfEven_le_of_mod {a b c d : Nat} (hb : 0 < b) (hd : 0 < d)
    (quotients : a / b = c / d) (remainders : a % b * d ≤ c % d * b) :
    roundHalfEven a b ≤ roundHalfEven c d := by
  have twice : d * (2 * (a % b)) ≤ 2 * (c % d) * b := calc
    d * (2 * (a % b)) = 2 * (a % b * d) := by ring
    _ ≤ 2 * (c % d * b) := Nat.mul_le_mul_left 2 remainders
    _ = 2 * (c % d) * b := by ring
  have half (h : b ≤ 2 * (a % b)) : d ≤ 2 * (c % d) :=
    Nat.le_of_mul_le_mul_right ((Nat.mul_le_mul_left d h).trans twice) hb
  have above (h : b < 2 * (a % b)) : d < 2 * (c % d) :=
    Nat.lt_of_mul_lt_mul_right ((Nat.mul_lt_mul_of_pos_left h hd).trans_le twice)
  simp only [roundHalfEven, quotients]
  split_ifs <;> omega

/-- A larger quotient is not rounded to a smaller integer: the integer parts decide, or they are the
same and the remainders do. -/
theorem roundHalfEven_mono {a b c d : Nat} (hb : 0 < b) (hd : 0 < d) (h : a * d ≤ c * b) :
    roundHalfEven a b ≤ roundHalfEven c d := by
  have left := Nat.div_add_mod a b
  have right := Nat.div_add_mod c d
  have crossed : b * d * (a / b) + a % b * d ≤ b * d * (c / d) + c % d * b := calc
    b * d * (a / b) + a % b * d = (b * (a / b) + a % b) * d := by ring
    _ ≤ (d * (c / d) + c % d) * b := by rw [left, right]; exact h
    _ = b * d * (c / d) + c % d * b := by ring
  rcases Nat.lt_trichotomy (a / b) (c / d) with lt | eq | gt
  · exact (roundHalfEven_le a b).trans (Nat.le_trans lt (le_roundHalfEven c d))
  · refine roundHalfEven_le_of_mod hb hd eq ?_
    rw [eq] at crossed
    exact Nat.le_of_add_le_add_left crossed
  · -- A larger quotient in front would leave the right side behind by a whole.
    have whole : b * d * (c / d) + b * d ≤ b * d * (a / b) := by
      rw [← Nat.mul_succ]
      exact Nat.mul_le_mul_left _ gt
    have short : c % d * b < b * d := by
      rw [Nat.mul_comm b d]
      exact Nat.mul_lt_mul_of_pos_right (Nat.mod_lt c hd) hb
    omega

/-! ## Rounding to a rank -/

/-- How far a quotient is scaled down to 53 binary digits. -/
def shift (num den : Nat) : Nat := (num / den).log2 - 52

/-- A rank is the exponent that the quotient is scaled down by, in steps of a binade, and the digits
that are left, up to the rank of infinity. -/
theorem rankOf_eq (num den : Nat) :
    rankOf num den =
      min top (shift num den * binade + roundHalfEven num (den * 2 ^ shift num den)) := rfl

/-- Quotients that are compared crosswise have integer parts in the same order. -/
theorem div_le_div_of_cross {a b c d : Nat} (hb : 0 < b) (hd : 0 < d) (h : a * d ≤ c * b) :
    a / b ≤ c / d := by
  rw [Nat.le_div_iff_mul_le hd]
  refine Nat.le_of_mul_le_mul_right ?_ hb
  calc a / b * d * b = a / b * b * d := by ring
    _ ≤ a * d := Nat.mul_le_mul_right d (Nat.div_mul_le_self a b)
    _ ≤ c * b := h

/-- A larger number has no fewer binary digits. -/
theorem log2_mono {m n : Nat} (h : m ≤ n) : m.log2 ≤ n.log2 := by
  rcases Nat.eq_zero_or_pos m with rfl | pos
  · exact Nat.zero_le _
  · exact (Nat.le_log2 (by omega)).mpr ((Nat.log2_self_le (by omega)).trans h)

/-- A quotient that was scaled down has at most 53 digits left. -/
theorem roundHalfEven_shift_le {num den : Nat} (hden : 0 < den) :
    roundHalfEven num (den * 2 ^ shift num den) ≤ 2 * binade := by
  have digits : num / den < 2 ^ (53 + shift num den) :=
    Nat.lt_log2_self.trans_le (Nat.pow_le_pow_right (by decide) (by unfold shift; omega))
  have num_le : num ≤ 2 * binade * (den * 2 ^ shift num den) := calc
    num ≤ den * 2 ^ (53 + shift num den) := by
      rw [Nat.mul_comm]
      exact Nat.le_of_lt ((Nat.div_lt_iff_lt_mul hden).mp digits)
    _ = 2 * binade * (den * 2 ^ shift num den) := by
      rw [Nat.pow_add, show (2 : Nat) ^ 53 = 2 * binade from rfl]
      ring
  have scaled : 0 < den * 2 ^ shift num den := by positivity
  calc roundHalfEven num (den * 2 ^ shift num den)
      ≤ roundHalfEven (2 * binade * (den * 2 ^ shift num den)) (den * 2 ^ shift num den) :=
        roundHalfEven_mono scaled scaled (Nat.mul_le_mul_right _ num_le)
    _ = 2 * binade := roundHalfEven_mul_self _ scaled

/-- A quotient that was scaled down at all has 53 digits left. -/
theorem le_roundHalfEven_shift {num den : Nat} (hden : 0 < den) (scaled : 0 < shift num den) :
    binade ≤ roundHalfEven num (den * 2 ^ shift num den) := by
  refine Nat.le_trans ?_ (le_roundHalfEven _ _)
  have ne : num / den ≠ 0 := by
    intro zero
    simp [shift, zero] at scaled
  have digits : 2 ^ (52 + shift num den) ≤ num / den := by
    have : 52 + shift num den = (num / den).log2 := by
      unfold shift at scaled ⊢
      omega
    rw [this]
    exact Nat.log2_self_le ne
  rw [Nat.le_div_iff_mul_le (by positivity)]
  calc binade * (den * 2 ^ shift num den) = 2 ^ (52 + shift num den) * den := by
        rw [Nat.pow_add, show (2 : Nat) ^ 52 = binade from rfl]
        ring
    _ ≤ num / den * den := Nat.mul_le_mul_right den digits
    _ ≤ num := Nat.div_mul_le_self num den

/-- **A larger quotient has no smaller rank.** -/
theorem rankOf_mono {a b c d : Nat} (hb : 0 < b) (hd : 0 < d) (h : a * d ≤ c * b) :
    rankOf a b ≤ rankOf c d := by
  have shifts : shift a b ≤ shift c d :=
    Nat.sub_le_sub_right (log2_mono (div_le_div_of_cross hb hd h)) 52
  rw [rankOf_eq, rankOf_eq]
  refine min_le_min_left top ?_
  rcases Nat.eq_or_lt_of_le shifts with eq | lt
  · rw [eq]
    refine Nat.add_le_add_left (roundHalfEven_mono (by positivity) (by positivity) ?_) _
    calc a * (d * 2 ^ shift c d) = a * d * 2 ^ shift c d := by ring
      _ ≤ c * b * 2 ^ shift c d := Nat.mul_le_mul_right _ h
      _ = c * (b * 2 ^ shift c d) := by ring
  · -- The first rank of the larger exponent lies between the two.
    calc shift a b * binade + roundHalfEven a (b * 2 ^ shift a b)
        ≤ shift a b * binade + 2 * binade := Nat.add_le_add_left (roundHalfEven_shift_le hb) _
      _ = (shift a b + 1) * binade + binade := by ring
      _ ≤ shift c d * binade + binade :=
        Nat.add_le_add_right (Nat.mul_le_mul_right binade lt) binade
      _ ≤ shift c d * binade + roundHalfEven c (d * 2 ^ shift c d) :=
        Nat.add_le_add_left (le_roundHalfEven_shift hd (Nat.lt_of_le_of_lt (Nat.zero_le _) lt)) _

/-- Quotients are compared in any unit. -/
theorem rankOf_mul_mono {a b c d : Nat} (unit : Nat) (hb : 0 < b) (hd : 0 < d)
    (h : a * d ≤ c * b) : rankOf (a * unit) b ≤ rankOf (c * unit) d := by
  refine rankOf_mono hb hd ?_
  calc a * unit * d = a * d * unit := by ring
    _ ≤ c * b * unit := Nat.mul_le_mul_right unit h
    _ = c * unit * b := by ring

/-- Quotients that are equal have the same rank in any unit. -/
theorem rankOf_mul_congr {a b c d : Nat} (unit : Nat) (hb : 0 < b) (hd : 0 < d)
    (h : a * d = c * b) : rankOf (a * unit) b = rankOf (c * unit) d :=
  Nat.le_antisymm (rankOf_mul_mono unit hb hd h.le) (rankOf_mul_mono unit hd hb h.ge)

/-- A quotient below half a unit is rounded to zero. -/
theorem rankOf_eq_zero {num den : Nat} (h : 2 * num < den) : rankOf num den = 0 := by
  have quotient : num / den = 0 := Nat.div_eq_of_lt (by omega)
  have remainder : num % den = num := Nat.mod_eq_of_lt (by omega)
  have unscaled : shift num den = 0 := by rw [shift, quotient]; rfl
  rw [rankOf_eq, unscaled, Nat.pow_zero, Nat.mul_one, Nat.zero_mul, roundHalfEven]
  simp [quotient, remainder, h]

/-- A quotient of 53 binary digits and a power of two has just these digits after the exponent. -/
theorem rankOf_mul_two_pow {m e den : Nat} (hden : 0 < den) (lo : binade ≤ m) (hi : m < 2 * binade) :
    rankOf (m * 2 ^ e * den) den = min top (e * binade + m) := by
  have pos : 0 < m := binade_pos.trans_le lo
  have log : (m * 2 ^ e).log2 = 52 + e := by
    rw [Nat.log2_eq_iff (by positivity)]
    constructor
    · rw [Nat.pow_add]
      exact Nat.mul_le_mul_right _ lo
    · rw [show 52 + e + 1 = 53 + e by omega, Nat.pow_add]
      exact Nat.mul_lt_mul_of_pos_right hi (by positivity)
  have scaled : shift (m * 2 ^ e * den) den = e := by
    rw [shift, Nat.mul_div_cancel _ hden, log, Nat.add_sub_cancel_left]
  rw [rankOf_eq, scaled, show m * 2 ^ e * den = m * (den * 2 ^ e) by ring,
    roundHalfEven_mul_self m (by positivity)]

/-- A quotient of fewer digits is not scaled down. -/
theorem rankOf_of_lt_binade {m den : Nat} (hden : 0 < den) (h : m < binade) :
    rankOf (m * den) den = m := by
  have log : m.log2 ≤ 51 := by
    have : (binade - 1).log2 = 51 := by decide +kernel
    exact this ▸ log2_mono (by omega)
  have unscaled : shift (m * den) den = 0 := by
    rw [shift, Nat.mul_div_cancel _ hden]
    omega
  have le : binade ≤ top := Nat.le_mul_of_pos_left binade (by decide)
  rw [rankOf_eq, unscaled, Nat.pow_zero, Nat.mul_one, roundHalfEven_mul_self m hden]
  omega

/-- **A magnitude of the format is nearest to itself.** -/
theorem rankOf_units {rank den : Nat} (hden : 0 < den) (le : rank ≤ top) :
    rankOf (units rank * den) den = rank := by
  by_cases small : rank < binade
  · rw [units, if_pos small, rankOf_of_lt_binade hden small]
  · have digits := Nat.mod_lt rank binade_pos
    have split := Nat.div_add_mod rank binade
    have exponent : 1 ≤ rank / binade := (Nat.one_le_div_iff binade_pos).mpr (Nat.not_lt.mp small)
    rw [units, if_neg small]
    show rankOf ((binade + rank % binade) * 2 ^ (rank / binade - 1) * den) den = rank
    rw [rankOf_mul_two_pow hden (Nat.le_add_right _ _) (by omega), ← Nat.add_assoc,
      ← Nat.succ_mul, Nat.succ_eq_add_one, Nat.sub_add_cancel exponent, Nat.mul_comm, split]
    exact Nat.min_eq_right le

/-- A quotient as large as infinity is infinite. -/
theorem rankOf_eq_top {num : Nat} (h : units top ≤ num) : rankOf num 1 = top := by
  have infinite : rankOf (units top * 1) 1 = top := rankOf_units one_pos (Nat.le_refl top)
  refine Nat.le_antisymm (rankOf_le_top num 1) ?_
  calc top = rankOf (units top * 1) 1 := infinite.symm
    _ ≤ rankOf num 1 := rankOf_mono one_pos one_pos (by rwa [Nat.mul_one, Nat.mul_one, Nat.mul_one])

/-! ## Rounding of rational numbers -/

/-- The number nearest to a rational one. -/
def nearest (x : ℚ) : Binary64 := ofRatio (x < 0) x.num.natAbs x.den

/-- The rank of the number nearest to a rational one. -/
def nearestRank (x : ℚ) : Nat := rankOf (x.num.natAbs * unitScale) x.den

/-- The place in the order of the number nearest to a rational one. -/
def place (x : ℚ) : ℤ := if x < 0 then -(nearestRank x : ℤ) else nearestRank x

/-- The place of a number is its rank with its sign. -/
theorem place?_ranked (negative : Bool) (rank : Fin (top + 1)) :
    (ranked negative rank).place? = some (if negative then -(rank.val : ℤ) else rank.val) := by
  cases negative <;> rfl

/-- The number nearest to a rational one stands at the place that belongs to it. -/
theorem place?_nearest (x : ℚ) : (nearest x).place? = some (place x) := by
  rw [nearest, ofRatio, ofUnits, place?_ranked]
  simp [place, nearestRank]

/-- The nearest number is finite exactly if its rank is below that of infinity. -/
theorem isFinite_nearest (x : ℚ) : (nearest x).isFinite = decide (nearestRank x < top) := rfl

/-- The rank of the number nearest to an integer is that of its magnitude in units. -/
theorem nearestRank_intCast (n : ℤ) : nearestRank n = rankOf (n.natAbs * unitScale) 1 := by
  rw [nearestRank, Rat.num_intCast, Rat.den_intCast]

/-- The number nearest to an integer is the one nearest to the rational number that it is. -/
theorem ofInt_eq_nearest (n : ℤ) : ofInt n = nearest n := by
  simp [ofInt, nearest, Rat.num_intCast, Rat.den_intCast]

/-- Zero has rank zero. -/
theorem nearestRank_zero : nearestRank 0 = 0 := by
  rw [nearestRank, Rat.num_zero, Int.natAbs_zero, Nat.zero_mul]
  exact rankOf_eq_zero (by decide)

/-- The magnitude of a rational number is a quotient of two natural numbers. -/
theorem abs_eq_natAbs_div (x : ℚ) : |x| = (x.num.natAbs : ℚ) / x.den := by
  conv_lhs => rw [← Rat.num_div_den x]
  rw [abs_div, Nat.abs_cast, Nat.cast_natAbs, Int.cast_abs]

/-- The rank of a quotient is that of the number nearest to its value. -/
theorem rankOf_eq_nearestRank {num den : Nat} (hden : 0 < den) {x : ℚ}
    (h : |x| = (num : ℚ) / den) : rankOf (num * unitScale) den = nearestRank x := by
  have crossed : num * x.den = x.num.natAbs * den := by
    have pos : (0 : ℚ) < den := by exact_mod_cast hden
    have pos' : (0 : ℚ) < x.den := by exact_mod_cast x.den_pos
    rw [abs_eq_natAbs_div, div_eq_div_iff pos'.ne' pos.ne'] at h
    exact_mod_cast h.symm
  exact rankOf_mul_congr unitScale hden x.den_pos crossed

/-- A number of larger magnitude has no smaller rank. -/
theorem nearestRank_mono {x y : ℚ} (h : |x| ≤ |y|) : nearestRank x ≤ nearestRank y := by
  have crossed : x.num.natAbs * y.den ≤ y.num.natAbs * x.den := by
    have pos : (0 : ℚ) < x.den := by exact_mod_cast x.den_pos
    have pos' : (0 : ℚ) < y.den := by exact_mod_cast y.den_pos
    rw [abs_eq_natAbs_div, abs_eq_natAbs_div, div_le_div_iff₀ pos pos'] at h
    exact_mod_cast h
  exact rankOf_mul_mono unitScale x.den_pos y.den_pos crossed

/-- **Rounding keeps the order.** -/
theorem place_mono {x y : ℚ} (h : x ≤ y) : place x ≤ place y := by
  unfold place
  split_ifs with hx hy hy
  · have := nearestRank_mono (x := y) (y := x) (by rw [abs_of_neg hx, abs_of_neg hy]; linarith)
    omega
  · omega
  · exact absurd (h.trans_lt hy) hx
  · have := nearestRank_mono (x := x) (y := y)
      (by rw [abs_of_nonneg (not_lt.mp hx), abs_of_nonneg (not_lt.mp hy)]; exact h)
    omega

/-! ## Telling values apart -/

/-- Whether two values either are equal or have different nearest numbers. -/
def TellsApart (x y : ℚ) : Prop := (nearest x).equals (nearest y) = true → x = y

instance (x y : ℚ) : Decidable (TellsApart x y) :=
  inferInstanceAs (Decidable ((nearest x).equals (nearest y) = true → x = y))

/-- The nearest numbers are equal exactly if they have one place. -/
theorem equals_nearest_iff {x y : ℚ} :
    (nearest x).equals (nearest y) = true ↔ place x = place y := by
  rw [equals_iff, place?_nearest, place?_nearest]
  simp [eq_comm]

/-- Values that are told apart stand in the same order as their nearest numbers. -/
theorem TellsApart.compare_place {x y : ℚ} (h : TellsApart x y) :
    compare (place x) (place y) = compare x y := by
  rcases lt_trichotomy x y with lt | rfl | gt
  · have ne : place x ≠ place y := fun eq => lt.ne (h (equals_nearest_iff.mpr eq))
    rw [compare_lt_iff_lt.mpr lt, compare_lt_iff_lt.mpr (lt_of_le_of_ne (place_mono lt.le) ne)]
  · rw [compare_eq_iff_eq.mpr rfl, compare_eq_iff_eq.mpr rfl]
  · have ne : place y ≠ place x := fun eq => gt.ne (h (equals_nearest_iff.mpr eq.symm)).symm
    rw [compare_gt_iff_gt.mpr gt, compare_gt_iff_gt.mpr (lt_of_le_of_ne (place_mono gt.le) ne)]

/-- The nearest numbers of values that are not told apart compare as equal. -/
theorem compare_place_of_not_tellsApart {x y : ℚ} (h : ¬ TellsApart x y) :
    compare (place x) (place y) = .eq := by
  obtain ⟨same, -⟩ := Classical.not_imp.mp h
  exact compare_eq_iff_eq.mpr (equals_nearest_iff.mp same)

/-- Whether the format holds a value exactly. -/
def Representable (x : ℚ) : Prop := ∃ rank < top, |x| * unitScale = units rank

/-- A value that is a magnitude of the format has its rank. -/
theorem nearestRank_of_units {x : ℚ} {rank : Nat} (le : rank ≤ top)
    (h : |x| * unitScale = units rank) : nearestRank x = rank := by
  have value : x.num.natAbs * unitScale = units rank * x.den := by
    have pos : (0 : ℚ) < x.den := by exact_mod_cast x.den_pos
    rw [abs_eq_natAbs_div, div_mul_eq_mul_div, div_eq_iff pos.ne'] at h
    exact_mod_cast h
  rw [nearestRank, value, rankOf_units x.den_pos le]

/-- **Values that the format holds exactly are told apart.** -/
theorem TellsApart.of_representable {x y : ℚ} (hx : Representable x) (hy : Representable y) :
    TellsApart x y := by
  obtain ⟨r, hr, ex⟩ := hx
  obtain ⟨s, hs, ey⟩ := hy
  intro same
  have places := equals_nearest_iff.mp same
  unfold place at places
  rw [nearestRank_of_units hr.le ex, nearestRank_of_units hs.le ey] at places
  have ranks : r = s := by split_ifs at places <;> omega
  have unit : (unitScale : ℚ) ≠ 0 := by exact_mod_cast unitScale_pos.ne'
  have magnitudes : |x| = |y| := mul_right_cancel₀ unit (by rw [ex, ey, ranks])
  rcases abs_eq_abs.mp magnitudes with eq | neg
  · exact eq
  · -- Opposite values are at one place only if both are zero.
    have zero : r = 0 → x = 0 := by
      rintro rfl
      have : |x| * unitScale = 0 := by rw [ex]; rfl
      exact abs_eq_zero.mp ((mul_eq_zero.mp this).resolve_right unit)
    have : x = 0 := by
      split_ifs at places with negX negY negY
      · linarith
      · exact zero (by omega)
      · exact zero (by omega)
      · linarith
    linarith

/-- A rank in a binade is its digits, scaled up by the exponent of the binade. -/
theorem units_add {m : Nat} (e : Nat) (lo : binade ≤ m) (hi : m < 2 * binade) :
    units (e * binade + m) = m * Nat.pow 2 e := by
  obtain ⟨rest, rfl⟩ := Nat.exists_eq_add_of_le lo
  have lt : rest < binade := by omega
  have rank : e * binade + (binade + rest) = rest + binade * (e + 1) := by ring
  have quotient : (rest + binade * (e + 1)) / binade = e + 1 := by
    rw [Nat.add_mul_div_left _ _ binade_pos, Nat.div_eq_of_lt lt, Nat.zero_add]
  have remainder : (rest + binade * (e + 1)) % binade = rest := by
    rw [Nat.add_mul_mod_self_left, Nat.mod_eq_of_lt lt]
  have large : ¬ rest + binade * (e + 1) < binade := by
    have := Nat.le_mul_of_pos_right binade (Nat.succ_pos e)
    omega
  rw [rank, units, if_neg large, quotient, remainder, Nat.add_sub_cancel]

/-- Each product of 53 binary digits and a power of two is a magnitude of the format. -/
theorem exists_units_eq {m : Nat} (e : Nat) (h : m < 2 * binade) :
    ∃ rank < (e + 2) * binade, units rank = m * Nat.pow 2 e := by
  have normal (e : Nat) {m : Nat} (lo : binade ≤ m) (hi : m < 2 * binade) :
      ∃ rank < (e + 2) * binade, units rank = m * Nat.pow 2 e := by
    refine ⟨e * binade + m, ?_, units_add e lo hi⟩
    rw [Nat.add_mul]
    exact Nat.add_lt_add_left hi _
  induction e generalizing m with
  | zero =>
    refine ⟨m, by omega, ?_⟩
    by_cases small : m < binade
    · rw [units, if_pos small]
      exact (Nat.mul_one m).symm
    · have := units_add 0 (Nat.not_lt.mp small) h
      rwa [Nat.zero_mul, Nat.zero_add] at this
  | succ e ih =>
    by_cases small : m < binade
    · obtain ⟨rank, lt, eq⟩ := ih (m := 2 * m) (by omega)
      refine ⟨rank, lt.trans_le (Nat.mul_le_mul_right _ (by omega)), ?_⟩
      rw [eq]
      show 2 * m * 2 ^ e = m * 2 ^ (e + 1)
      ring
    · exact normal (e + 1) (Nat.not_lt.mp small) h

/-- The same for one more than 53 binary digits can say. -/
theorem exists_units_eq_of_le {m : Nat} (e : Nat) (h : m ≤ 2 * binade) :
    ∃ rank < (e + 3) * binade, units rank = m * Nat.pow 2 e := by
  rcases Nat.lt_or_eq_of_le h with lt | rfl
  · obtain ⟨rank, small, value⟩ := exists_units_eq e lt
    exact ⟨rank, small.trans_le (Nat.mul_le_mul_right binade (by omega)), value⟩
  · obtain ⟨rank, small, value⟩ := exists_units_eq (m := binade) (e + 1) (by decide)
    refine ⟨rank, small, ?_⟩
    rw [value]
    show binade * 2 ^ (e + 1) = 2 * binade * 2 ^ e
    ring

/-- **The format holds all integers up to `2 ^ 53`.** -/
theorem representable_intCast {n : ℤ} (h : n.natAbs ≤ 2 * binade) : Representable n := by
  have power : unitScale = Nat.pow 2 unitScale.log2 := by decide +kernel
  have exponents : unitScale.log2 + 3 ≤ 2047 := by decide +kernel
  obtain ⟨rank, lt, value⟩ := exists_units_eq_of_le unitScale.log2 h
  refine ⟨rank, lt.trans_le (Nat.mul_le_mul_right binade exponents), ?_⟩
  rw [value, ← power, Nat.cast_mul, Nat.cast_natAbs, Int.cast_abs]

end DataGrid.Binary64
