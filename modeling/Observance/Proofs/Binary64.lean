import Mathlib.Algebra.Order.Ring.Nat
import Mathlib.Data.Nat.Log
import Mathlib.Tactic.Ring
import Observance.Binary64

/-! # Seventeen digits are enough

A number of the format has a significand of at most 53 bits and an exponent that is not too small,
and whatever is read from a decimal is of that kind. So the unit of the seventeenth digit is less
than the distance to the next number, and one of the two decimals of seventeen digits around the
number reads back. The search for the shortest decimal therefore finds one, and it is not zero.
-/

namespace Observance.Binary64

/-- Whether a significand and an exponent are those of a number of the format. -/
def IsSize (significand : Nat) (exponent : Int) : Prop :=
  significand < 2 ^ 53 ∧ leastExponent ≤ exponent

/-- Whether a number is one of the format. -/
def IsStandard : Binary64 → Prop
  | .finite _ significand exponent => IsSize significand exponent
  | .nan | .infinite _ => True

section Rounding

/-- A quotient that is scaled down far enough is below a power of two. -/
theorem scaleDown_lt {numerator denominator bits : Nat} {exponent : Int}
    (positive : 0 < denominator)
    (enough : (numerator.log2 : Int) - denominator.log2 + 1 ≤ bits + exponent) :
    (scaleDown numerator denominator exponent).1 <
      2 ^ bits * (scaleDown numerator denominator exponent).2 := by
  have above : numerator < 2 ^ (numerator.log2 + 1) := Nat.lt_log2_self
  have below : 2 ^ denominator.log2 ≤ denominator := Nat.log2_self_le (by omega)
  cases exponent with
  | ofNat up =>
    rw [Int.ofNat_eq_natCast] at enough
    calc numerator < 2 ^ (numerator.log2 + 1) := above
      _ ≤ 2 ^ (bits + (denominator.log2 + up)) := Nat.pow_le_pow_right (by decide) (by omega)
      _ = 2 ^ bits * (2 ^ denominator.log2 * 2 ^ up) := by rw [Nat.pow_add, Nat.pow_add]
      _ ≤ 2 ^ bits * (denominator * 2 ^ up) := by gcongr
  | negSucc down =>
    have room : numerator.log2 + 1 + (down + 1) ≤ bits + denominator.log2 := by omega
    calc numerator * 2 ^ (down + 1) < 2 ^ (numerator.log2 + 1) * 2 ^ (down + 1) :=
          Nat.mul_lt_mul_of_pos_right above (Nat.pow_pos (by decide))
      _ = 2 ^ (numerator.log2 + 1 + (down + 1)) := (Nat.pow_add ..).symm
      _ ≤ 2 ^ (bits + denominator.log2) := Nat.pow_le_pow_right (by decide) room
      _ = 2 ^ bits * 2 ^ denominator.log2 := Nat.pow_add ..
      _ ≤ 2 ^ bits * denominator := by gcongr

theorem divideToEven_le (numerator denominator : Nat) :
    divideToEven numerator denominator ≤ numerator / denominator + 1 := by
  unfold divideToEven
  dsimp only
  split
  · exact Nat.le_refl _
  · exact Nat.le_succ _

/-- The number nearest to a quotient is one of the format. -/
theorem isStandard_ofRatio (negative : Bool) (numerator : Nat) {denominator : Nat}
    (positive : 0 < denominator) : (ofRatio negative numerator denominator).IsStandard := by
  unfold ofRatio
  split
  · exact ⟨by decide, Int.le_refl _⟩
  · simp only
    generalize fine : max ((numerator.log2 : Int) - denominator.log2 - 53) leastExponent = tooFine
    have least : leastExponent ≤ tooFine := fine ▸ Int.le_max_right ..
    have enough : (numerator.log2 : Int) - denominator.log2 + 1 ≤ 54 + tooFine := by omega
    generalize chosen : (if (scaleDown numerator denominator tooFine).1 /
      (scaleDown numerator denominator tooFine).2 ≥ Nat.pow 2 53 then tooFine + 1 else tooFine) =
        exponent
    -- The exponent is chosen so that the quotient has at most 53 bits.
    have quotient : (scaleDown numerator denominator exponent).1 /
        (scaleDown numerator denominator exponent).2 < 2 ^ 53 ∧ leastExponent ≤ exponent := by
      split at chosen
      next =>
        subst chosen
        have scaled : (scaleDown numerator denominator (tooFine + 1)).1 <
            2 ^ 53 * (scaleDown numerator denominator (tooFine + 1)).2 :=
          scaleDown_lt positive (by omega)
        exact ⟨Nat.div_lt_of_lt_mul (by rwa [Nat.mul_comm]), by omega⟩
      next few =>
        subst chosen
        exact ⟨Nat.lt_of_not_le few, least⟩
    have rounded := divideToEven_le (scaleDown numerator denominator exponent).1
      (scaleDown numerator denominator exponent).2
    split
    next carries =>
      dsimp only
      split
      · trivial
      · exact ⟨by decide, by omega⟩
    next stays =>
      dsimp only
      split
      · trivial
      · have : (2 : Nat) ^ 53 = Nat.pow 2 53 := rfl
        exact ⟨by omega, quotient.2⟩

/-- The number nearest to a decimal is one of the format. -/
theorem isStandard_ofDecimal (negative : Bool) (digits : Nat) (exponent : Int) :
    (ofDecimal negative digits exponent).IsStandard := by
  unfold ofDecimal
  dsimp only
  split
  · exact ⟨by decide, Int.le_refl _⟩
  · split
    · trivial
    · cases exponent with
      | ofNat up => exact isStandard_ofRatio negative _ Nat.one_pos
      | negSucc down => exact isStandard_ofRatio negative _ (Nat.pow_pos (by decide))

end Rounding

section Search

/-- A power of ten as numerator and denominator. -/
def powerOfTen (exponent : Int) : Nat × Nat :=
  match exponent with
  | .ofNat up => (Nat.pow 10 up, 1)
  | .negSucc down => (1, Nat.pow 10 (down + 1))

/-- Whether a multiple of a power of ten reads back as a size. -/
def readsBack (significand : Nat) (exponent unit : Int) (digits : Nat) : Bool :=
  let (low, _, high, denominator) := roundingInterval significand exponent
  let (up, down) := powerOfTen unit
  let value := digits * (denominator * up)
  if significand % 2 == 0 then low * down ≤ value && value ≤ high * down
  else low * down < value && value < high * down

/-- The greatest multiple of a power of ten that is at most a size. -/
def floorOf (significand : Nat) (exponent unit : Int) : Nat :=
  let (_, size, _, denominator) := roundingInterval significand exponent
  let (up, down) := powerOfTen unit
  size * down / (denominator * up)

variable {significand : Nat} {exponent point : Int}

/-- The search for a decimal of a given length looks at the multiples of its unit on both sides. -/
theorem decimalOfLength?_eq (significand : Nat) (exponent point : Int) (length : Nat) :
    ∃ isNearer : Bool, decimalOfLength? significand exponent point length =
      match readsBack significand exponent (point - length)
          (floorOf significand exponent (point - length)),
        readsBack significand exponent (point - length)
          (floorOf significand exponent (point - length) + 1) with
      | true, true => some (if isNearer then
          floorOf significand exponent (point - length) + 1
        else floorOf significand exponent (point - length))
      | true, false => some (floorOf significand exponent (point - length))
      | false, true => some (floorOf significand exponent (point - length) + 1)
      | false, false => none :=
  ⟨_, rfl⟩

theorem powerOfTen_pos (unit : Int) : 0 < (powerOfTen unit).1 ∧ 0 < (powerOfTen unit).2 := by
  cases unit with
  | ofNat up => exact ⟨Nat.pow_pos (by decide), Nat.one_pos⟩
  | negSucc down => exact ⟨Nat.one_pos, Nat.pow_pos (by decide)⟩

theorem ratio_eq (significand : Nat) (exponent : Int) :
    ratio significand exponent = (significand * (ratio 1 exponent).1, (ratio 1 exponent).2) := by
  cases exponent <;> simp [ratio]

theorem ratio_one_pos (exponent : Int) : 0 < (ratio 1 exponent).1 ∧ 0 < (ratio 1 exponent).2 := by
  cases exponent with
  | ofNat up => exact ⟨by rw [ratio, Nat.one_mul]; exact Nat.pow_pos (by decide), Nat.one_pos⟩
  | negSucc down => exact ⟨Nat.one_pos, Nat.pow_pos (by decide)⟩

/-- The denominator of a size has at most 332 digits. -/
theorem ratio_one_le {spare : Nat} (least : leastExponent ≤ exponent) (enough : 332 ≤ spare) :
    (ratio 1 exponent).2 ≤ 10 ^ spare := by
  cases exponent with
  | ofNat up => exact Nat.pow_pos (by decide)
  | negSucc down =>
    have few : down + 1 ≤ 13 * (spare / 4) := by
      rw [leastExponent] at least
      omega
    calc 2 ^ (down + 1) ≤ 2 ^ (13 * (spare / 4)) := Nat.pow_le_pow_right (by decide) few
      _ = (2 ^ 13) ^ (spare / 4) := Nat.pow_mul ..
      _ ≤ (10 ^ 4) ^ (spare / 4) := Nat.pow_le_pow_left (by decide) _
      _ = 10 ^ (4 * (spare / 4)) := (Nat.pow_mul ..).symm
      _ ≤ 10 ^ spare := Nat.pow_le_pow_right (by decide) (Nat.mul_div_le spare 4)

theorem pow_length_toDigits_le {n : Nat} (positive : 0 < n) :
    10 ^ ((Nat.toDigits 10 n).length - 1) ≤ n := by
  by_cases one : (Nat.toDigits 10 n).length - 1 = 0
  · rw [one]
    exact positive
  · have length := Nat.length_toDigits_le_iff (n := n) (b := 10) (by decide)
      (Nat.pos_of_ne_zero one)
    omega

/-- The unit of the seventeenth digit of a quotient is at most a part in `10 ^ 16` of it. The digits
are counted after the quotient is scaled up, so that it has some before the point. -/
theorem powerOfTen_le {numerator denominator spare : Nat} {unit : Int} (positive : 0 < numerator)
    (denominatorPos : 0 < denominator) (enough : denominator ≤ 10 ^ spare)
    (seventeenth : unit =
      (Nat.toDigits 10 (numerator * 10 ^ spare / denominator)).length - spare - 17) :
    (powerOfTen unit).1 * 10 ^ 16 * denominator ≤ numerator * (powerOfTen unit).2 := by
  have scaledPos : 0 < numerator * 10 ^ spare / denominator :=
    Nat.div_pos (Nat.le_trans enough (Nat.le_mul_of_pos_left _ positive)) denominatorPos
  have lengthPos : 0 < (Nat.toDigits 10 (numerator * 10 ^ spare / denominator)).length :=
    List.length_pos_iff.mpr Nat.toDigits_ne_nil
  have counted := (Nat.le_div_iff_mul_le denominatorPos).mp (pow_length_toDigits_le scaledPos)
  generalize (Nat.toDigits 10 (numerator * 10 ^ spare / denominator)).length = length at *
  apply Nat.le_of_mul_le_mul_right _ (Nat.pow_pos (n := spare) (show 0 < 10 by decide))
  cases unit with
  | ofNat up =>
    have split : length - 1 = up + 16 + spare := by
      rw [Int.ofNat_eq_natCast] at seventeenth
      omega
    rw [split, Nat.pow_add, Nat.pow_add] at counted
    calc 10 ^ up * 10 ^ 16 * denominator * 10 ^ spare
        = 10 ^ up * 10 ^ 16 * 10 ^ spare * denominator := Nat.mul_right_comm ..
      _ ≤ numerator * 10 ^ spare := counted
      _ = numerator * 1 * 10 ^ spare := by rw [Nat.mul_one]
  | negSucc down =>
    have split : 16 + spare = length - 1 + (down + 1) := by omega
    calc 1 * 10 ^ 16 * denominator * 10 ^ spare
        = 10 ^ (length - 1 + (down + 1)) * denominator := by
          rw [Nat.one_mul, Nat.mul_right_comm, ← Nat.pow_add, split]
      _ = 10 ^ (length - 1) * denominator * 10 ^ (down + 1) := by
          rw [Nat.pow_add, Nat.mul_right_comm]
      _ ≤ numerator * 10 ^ spare * 10 ^ (down + 1) := Nat.mul_le_mul_right _ counted
      _ = numerator * 10 ^ (down + 1) * 10 ^ spare := Nat.mul_right_comm ..

theorem pointOf_eq (significand : Nat) (exponent : Int) : ∃ spare : Nat, 332 ≤ spare ∧
    pointOf significand exponent =
      (Nat.toDigits 10 (significand * (ratio 1 exponent).1 * Nat.pow 10 spare /
        (ratio 1 exponent).2)).length - spare := by
  rw [pointOf, ratio_eq]
  generalize same : (340 : Nat) = spare
  exact ⟨spare, by omega, by rw [← same, Nat.cast_ofNat]⟩

theorem powerOfTen_pointOf_le (size : IsSize significand exponent) (positive : 0 < significand) :
    (powerOfTen (pointOf significand exponent - 17)).1 * 10 ^ 16 * (ratio 1 exponent).2 ≤
      significand * (ratio 1 exponent).1 * (powerOfTen (pointOf significand exponent - 17)).2 := by
  obtain ⟨numeratorPos, denominatorPos⟩ := ratio_one_pos exponent
  obtain ⟨spare, enough, point⟩ := pointOf_eq significand exponent
  exact powerOfTen_le (Nat.mul_pos positive numeratorPos) denominatorPos
    (ratio_one_le size.2 enough) (by rw [point, Nat.pow_eq])

/-- Of the two multiples of a step around a number, one lies between bounds that are further away
than half a step. -/
theorem floor_or_above (low number high : Nat) {step : Nat} (positive : 0 < step)
    (below : 2 * low + step < 2 * number) (above : 2 * number + step < 2 * high) :
    (low < number / step * step ∧ number / step * step < high) ∨
      (low < (number / step + 1) * step ∧ (number / step + 1) * step < high) := by
  have whole := Nat.div_add_mod number step
  have less := Nat.mod_lt number positive
  rw [Nat.succ_mul, Nat.mul_comm (number / step)]
  omega

/-- A positive size reads back from no zero. -/
theorem pos_of_readsBack {unit : Int} {digits : Nat} (positive : 0 < significand)
    (back : readsBack significand exponent unit digits = true) : 0 < digits := by
  have low : 0 < (roundingInterval significand exponent).1 * (powerOfTen unit).2 := by
    refine Nat.mul_pos ?_ (powerOfTen_pos unit).2
    simp only [roundingInterval]
    refine Nat.mul_pos ?_ (ratio_one_pos exponent).1
    split <;> omega
  apply Nat.pos_of_ne_zero
  rintro rfl
  simp only [readsBack, Nat.zero_mul] at back
  split at back <;> simp only [Bool.and_eq_true, decide_eq_true_eq] at back <;> omega

theorem pos_of_decimalOfLength? {length digits : Nat} (positive : 0 < significand)
    (found : decimalOfLength? significand exponent point length = some digits) : 0 < digits := by
  obtain ⟨isNearer, search⟩ := decimalOfLength?_eq significand exponent point length
  rw [found] at search
  split at search
  next floor above =>
    cases search
    split
    · exact Nat.succ_pos _
    · exact pos_of_readsBack positive floor
  next floor _ =>
    cases search
    exact pos_of_readsBack positive floor
  next =>
    cases search
    exact Nat.succ_pos _
  next => cases search

/-- How far the interval goes down, in quarters of the distance to the next size. -/
def reachBelow (significand : Nat) (exponent : Int) : Nat :=
  if significand = Nat.pow 2 52 && exponent > leastExponent then 1 else 2

theorem reachBelow_le (significand : Nat) (exponent : Int) :
    reachBelow significand exponent ≤ 2 := by
  unfold reachBelow
  split <;> decide

theorem roundingInterval_eq (significand : Nat) (exponent : Int) :
    roundingInterval significand exponent =
      ((4 * significand - reachBelow significand exponent) * (ratio 1 exponent).1,
        4 * significand * (ratio 1 exponent).1, (4 * significand + 2) * (ratio 1 exponent).1,
        4 * (ratio 1 exponent).2) := rfl

section Unit

variable {unit : Int}

theorem floorOf_eq (significand : Nat) (exponent unit : Int) :
    floorOf significand exponent unit =
      4 * significand * ((ratio 1 exponent).1 * (powerOfTen unit).2) /
        (4 * ((ratio 1 exponent).2 * (powerOfTen unit).1)) := by
  rw [← Nat.mul_assoc, ← Nat.mul_assoc]
  rfl

/-- What lies strictly within the interval reads back. -/
theorem readsBack_of_between {digits : Nat}
    (low : (4 * significand - reachBelow significand exponent) *
      ((ratio 1 exponent).1 * (powerOfTen unit).2) <
        digits * (4 * ((ratio 1 exponent).2 * (powerOfTen unit).1)))
    (high : digits * (4 * ((ratio 1 exponent).2 * (powerOfTen unit).1)) <
      (4 * significand + 2) * ((ratio 1 exponent).1 * (powerOfTen unit).2)) :
    readsBack significand exponent unit digits = true := by
  rw [← Nat.mul_assoc 4, ← Nat.mul_assoc (4 * significand - _)] at low
  rw [← Nat.mul_assoc 4, ← Nat.mul_assoc (4 * significand + 2)] at high
  simp only [readsBack, roundingInterval_eq]
  split <;> rw [Bool.and_eq_true]
  · exact ⟨decide_eq_true (Nat.le_of_lt low), decide_eq_true (Nat.le_of_lt high)⟩
  · exact ⟨decide_eq_true low, decide_eq_true high⟩

/-- The interval reaches further than half a step on both sides. -/
theorem step_within {reach step distance : Nat} (positive : 0 < significand) (most : reach ≤ 2)
    (wide : 2 * step < reach * distance) :
    2 * ((4 * significand - reach) * distance) + 4 * step < 2 * (4 * significand * distance) ∧
      2 * (4 * significand * distance) + 4 * step < 2 * ((4 * significand + 2) * distance) := by
  have inside : reach * distance ≤ 4 * significand * distance :=
    Nat.mul_le_mul_right distance (by omega)
  have above : reach * distance ≤ 2 * distance := Nat.mul_le_mul_right distance most
  rw [Nat.sub_mul, Nat.add_mul]
  omega

/-- Of the two multiples of a unit around a size, one reads back if the unit is small enough. -/
theorem readsBack_floorOf (positive : 0 < significand)
    (wide : 2 * ((ratio 1 exponent).2 * (powerOfTen unit).1) <
      reachBelow significand exponent * ((ratio 1 exponent).1 * (powerOfTen unit).2)) :
    readsBack significand exponent unit (floorOf significand exponent unit) = true ∨
      readsBack significand exponent unit (floorOf significand exponent unit + 1) = true := by
  have stepPos : 0 < 4 * ((ratio 1 exponent).2 * (powerOfTen unit).1) :=
    Nat.mul_pos (by decide) (Nat.mul_pos (ratio_one_pos exponent).2 (powerOfTen_pos unit).1)
  obtain ⟨below, above⟩ := step_within positive (reachBelow_le significand exponent) wide
  rw [floorOf_eq]
  exact (floor_or_above _ _ _ stepPos below above).imp
    (fun between => readsBack_of_between between.1 between.2)
    (fun between => readsBack_of_between between.1 between.2)

end Unit

/-- The interval is wider than the unit of the seventeenth digit. -/
theorem unit_lt_reachBelow {unit distance : Nat} (size : IsSize significand exponent)
    (positive : 0 < unit) (small : unit * 10 ^ 16 ≤ significand * distance) :
    2 * unit < reachBelow significand exponent * distance := by
  have narrow : significand * 2 ≤ reachBelow significand exponent * 2 ^ 53 := by
    have bound := size.1
    unfold reachBelow
    split
    next least =>
      simp only [Bool.and_eq_true, decide_eq_true_eq] at least
      rw [least.1]
      decide
    next => omega
  have wide := Nat.mul_le_mul_right distance narrow
  rw [Nat.mul_right_comm significand, Nat.mul_right_comm (reachBelow _ _)] at wide
  omega

/-- A search that looks at a decimal that reads back finds one. -/
theorem exists_decimalOfLength?_of_readsBack {length : Nat}
    (back : readsBack significand exponent (point - length)
        (floorOf significand exponent (point - length)) = true ∨
      readsBack significand exponent (point - length)
        (floorOf significand exponent (point - length) + 1) = true) :
    ∃ digits, decimalOfLength? significand exponent point length = some digits := by
  obtain ⟨isNearer, search⟩ := decimalOfLength?_eq significand exponent point length
  rw [search]
  split
  · exact ⟨_, rfl⟩
  · exact ⟨_, rfl⟩
  · exact ⟨_, rfl⟩
  next notFloor notAbove =>
    rw [notFloor, notAbove] at back
    simp at back

/-- A decimal of seventeen digits reads back. -/
theorem exists_decimalOfLength? (size : IsSize significand exponent) (positive : 0 < significand) :
    ∃ digits,
      decimalOfLength? significand exponent (pointOf significand exponent) 17 = some digits := by
  refine exists_decimalOfLength?_of_readsBack (readsBack_floorOf positive ?_)
  refine unit_lt_reachBelow size
    (Nat.mul_pos (ratio_one_pos exponent).2 (powerOfTen_pos _).1) ?_
  rw [Nat.mul_comm (ratio 1 exponent).2, Nat.mul_right_comm, ← Nat.mul_assoc significand]
  exact powerOfTen_pointOf_le size positive

/-- The shortest decimal that reads back is that of a positive number, without the zeros at its
end. -/
theorem exists_shortest (size : IsSize significand exponent) (positive : 0 < significand) :
    ∃ digits, 0 < digits ∧ (shortest significand exponent).1 =
      ((Text.numeral 10 digits).reverse.dropWhile (· == .char '0')).reverse := by
  obtain ⟨last, longest⟩ := exists_decimalOfLength? size positive
  cases search : (List.range 17).findSome? fun n =>
      decimalOfLength? significand exponent (pointOf significand exponent) (n + 1) with
  | none =>
    have missed := List.findSome?_eq_none_iff.mp search 16 (by decide)
    cases longest.symm.trans missed
  | some digits =>
    obtain ⟨n, _, found⟩ := List.exists_of_findSome?_eq_some search
    refine ⟨digits, pos_of_decimalOfLength? positive found, ?_⟩
    rw [shortest, search]
    rfl

end Search

end Observance.Binary64
