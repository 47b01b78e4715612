import Gamebook.Number.Binary
import Mathlib.Algebra.Order.Field.Power
import Mathlib.Order.WithBot
import Mathlib.Tactic.Linarith
import Mathlib.Tactic.NormNum
import Mathlib.Tactic.Ring

/-! What floats are exactly, and how they are ordered.

A float is nothing, infinite, or a rational number. Comparing two of them compares what they are: a
finite one keeps as few digits as its exponent allows, so the greater exponent is the greater number.
-/

set_option autoImplicit false

namespace Gamebook

open Float.Model (UnpackedFloat)

namespace Binary

/-- A number as the parts of a double give it: 53 digits at most, and fewer only at the least exponent. -/
structure Canonical (b : Binary) : Prop where
  short : b.mantissa < 2 ^ 53
  least : -1074 ≤ b.exponent
  normal : -1074 < b.exponent → 2 ^ 52 ≤ b.mantissa

def ofParts (negative : Bool) (biased fraction : Nat) : Binary :=
  if biased = 0 then ⟨negative, fraction, -1074⟩
  else ⟨negative, fraction + 2 ^ 52, (biased : Int) - 1075⟩

theorem canonical_ofParts (negative : Bool) (biased : Nat) {fraction : Nat}
    (short : fraction < 2 ^ 52) : (ofParts negative biased fraction).Canonical := by
  unfold ofParts
  split <;> constructor <;> dsimp <;> omega

theorem ofFloat?_eq (x : Float) :
    ofFloat? x =
      if x.toBits.toNat / 2 ^ 52 % 2 ^ 11 = 2047 then none
      else some (ofParts (decide (2 ^ 63 ≤ x.toBits.toNat)) (x.toBits.toNat / 2 ^ 52 % 2 ^ 11)
        (x.toBits.toNat % 2 ^ 52)) := by
  change (if x.toBits.toNat / 2 ^ 52 % 2 ^ 11 = 2047 then none
    else if x.toBits.toNat / 2 ^ 52 % 2 ^ 11 = 0 then _ else _) = _
  unfold ofParts
  split
  · rfl
  · split <;> rfl

theorem canonical_of_ofFloat? {x : Float} {b : Binary} (finite : ofFloat? x = some b) :
    b.Canonical := by
  rw [ofFloat?_eq] at finite
  split at finite
  · cases finite
  · cases finite
    exact canonical_ofParts _ _ (Nat.mod_lt _ (by decide))

/-! ### The value -/

def size (b : Binary) : ℚ := b.mantissa * 2 ^ b.exponent

theorem toRat_eq (b : Binary) : b.toRat = if b.negative then -b.size else b.size := by
  have same : (if 0 ≤ b.exponent then ((b.mantissa * Nat.pow 2 b.exponent.toNat : Nat) : ℚ)
      else mkRat b.mantissa (Nat.pow 2 (-b.exponent).toNat)) = b.size := by
    unfold size
    by_cases whole : 0 ≤ b.exponent
    · obtain ⟨n, exponent⟩ := Int.eq_ofNat_of_zero_le whole
      rw [if_pos whole, exponent]
      simp
    · obtain ⟨n, exponent⟩ : ∃ n : Nat, b.exponent = -n := ⟨(-b.exponent).toNat, by omega⟩
      rw [if_neg whole, Rat.mkRat_eq_div, exponent]
      simp [div_eq_mul_inv]
  unfold toRat
  dsimp only
  rw [same]

theorem size_nonneg (b : Binary) : 0 ≤ b.size := by
  unfold size
  positivity

theorem toRat_of_isWhole {b : Binary} (whole : b.isWhole = true) : b.toRat = b.truncate := by
  have digits : b.size = ((if 0 ≤ b.exponent then b.mantissa * Nat.pow 2 b.exponent.toNat
      else b.mantissa / Nat.pow 2 (-b.exponent).toNat : Nat) : ℚ) := by
    unfold size
    by_cases high : 0 ≤ b.exponent
    · obtain ⟨n, exponent⟩ := Int.eq_ofNat_of_zero_le high
      rw [if_pos high, exponent]
      simp
    · obtain ⟨n, exponent⟩ : ∃ n : Nat, b.exponent = -n := ⟨(-b.exponent).toNat, by omega⟩
      obtain ⟨t, scaled⟩ : 2 ^ n ∣ b.mantissa := by
        rw [isWhole, decide_eq_false high, Bool.false_or, beq_iff_eq, exponent] at whole
        exact Nat.dvd_of_mod_eq_zero (by simpa using whole)
      rw [if_neg high, exponent, scaled]
      simp [mul_comm]
  rw [toRat_eq, digits, truncate]
  split
  · rw [Int.cast_neg, Int.cast_natCast]
  · rw [Int.cast_natCast]

theorem isWhole_of_size_eq {b : Binary} {t : Nat} (whole : b.size = t) : b.isWhole = true := by
  unfold isWhole
  by_cases high : 0 ≤ b.exponent
  · rw [decide_eq_true high, Bool.true_or]
  · obtain ⟨n, exponent⟩ : ∃ n : Nat, b.exponent = -n := ⟨(-b.exponent).toNat, by omega⟩
    have scaled : b.mantissa = t * 2 ^ n := by
      rw [size, exponent, zpow_neg, zpow_natCast, ← div_eq_mul_inv,
        div_eq_iff (by positivity)] at whole
      exact_mod_cast whole
    rw [Bool.or_eq_true, beq_iff_eq, exponent, scaled]
    right
    simp

/-- A number is an integer just where dropping its digits after the point does not change it. -/
theorem toInt?_eq_some_iff {b : Binary} {n : Int} : b.toInt? = some n ↔ b.toRat = n := by
  unfold toInt?
  constructor
  · intro whole
    split at whole
    · rename_i even
      cases whole
      exact toRat_of_isWhole even
    · cases whole
  · intro whole
    have even : b.isWhole = true := by
      apply @isWhole_of_size_eq b n.natAbs
      rw [Nat.cast_natAbs, Int.cast_abs, ← whole, toRat_eq]
      split <;> simp [abs_of_nonneg b.size_nonneg]
    rw [toRat_of_isWhole even] at whole
    rw [if_pos even, Int.cast_inj.1 whole]

theorem size_of_zero {b : Binary} (zero : b.mantissa = 0) : b.size = 0 := by
  rw [size, zero, Nat.cast_zero, zero_mul]

theorem size_pos {b : Binary} (given : b.mantissa ≠ 0) : 0 < b.size := by
  have positive : 0 < b.mantissa := Nat.pos_of_ne_zero given
  unfold size
  positivity

variable {b c : Binary}

theorem size_lt_of_exponent_lt (short : b.Canonical) (long : c.Canonical)
    (lower : b.exponent < c.exponent) : b.size < c.size := by
  have above : (b.mantissa : ℚ) < 2 ^ 53 := by exact_mod_cast short.short
  have below : (2 ^ 52 : ℚ) ≤ c.mantissa := by
    exact_mod_cast long.normal (lt_of_le_of_lt short.least lower)
  calc b.size
      < 2 ^ 53 * 2 ^ b.exponent := by
        unfold size
        gcongr
    _ = 2 ^ 52 * 2 ^ (b.exponent + 1) := by
        rw [zpow_add_one₀ (by norm_num)]
        ring
    _ ≤ 2 ^ 52 * 2 ^ c.exponent := by
        gcongr
        · norm_num
        · omega
    _ ≤ c.size := by
        unfold size
        gcongr

/-- Exponents decide, and digits where the exponents are alike. -/
theorem compare_size (left : b.Canonical) (right : c.Canonical) :
    (compare b.exponent c.exponent).then (compare b.mantissa c.mantissa) =
      compare b.size c.size := by
  rcases lt_trichotomy b.exponent c.exponent with lower | level | higher
  · rw [compare_lt_iff_lt.2 lower, compare_lt_iff_lt.2 (size_lt_of_exponent_lt left right lower)]
    rfl
  · have unit : (0 : ℚ) < 2 ^ c.exponent := by positivity
    unfold size
    rw [level, compare_eq_iff_eq.2 rfl]
    rcases lt_trichotomy b.mantissa c.mantissa with fewer | same | more
    · rw [compare_lt_iff_lt.2 fewer, compare_lt_iff_lt.2 (by gcongr)]
      rfl
    · rw [same, compare_eq_iff_eq.2 rfl, compare_eq_iff_eq.2 rfl]
      rfl
    · rw [compare_gt_iff_gt.2 more, compare_gt_iff_gt.2 (by gcongr)]
      rfl
  · rw [compare_gt_iff_gt.2 higher, compare_gt_iff_gt.2 (size_lt_of_exponent_lt right left higher)]
    rfl

theorem compare_neg_neg (p q : ℚ) : compare (-p) (-q) = (compare p q).swap := by
  rcases lt_trichotomy p q with less | rfl | more
  · rw [compare_lt_iff_lt.2 less, compare_gt_iff_gt.2 (neg_lt_neg less)]
    rfl
  · rw [compare_eq_iff_eq.2 rfl, compare_eq_iff_eq.2 rfl]
    rfl
  · rw [compare_gt_iff_gt.2 more, compare_lt_iff_lt.2 (neg_lt_neg more)]
    rfl

/-! ### The unpacked form -/

def sign (b : Binary) : UnpackedFloat.Sign := if b.negative then .negative else .positive

def unpacked (b : Binary) : UnpackedFloat :=
  if zero : b.mantissa = 0 then .zero b.sign
  else .finite b.sign b.mantissa b.exponent (Nat.pos_of_ne_zero zero)

theorem compare_unpacked (left : b.Canonical) (right : c.Canonical) :
    b.unpacked.compare c.unpacked = some (compare b.toRat c.toRat) := by
  rw [toRat_eq, toRat_eq]
  unfold unpacked sign
  by_cases none : b.mantissa = 0 <;> by_cases nothing : c.mantissa = 0
  · rw [dif_pos none, dif_pos nothing, size_of_zero none, size_of_zero nothing, neg_zero, ite_self,
      ite_self, compare_eq_iff_eq.2 rfl]
    rfl
  · have some := size_pos nothing
    rw [dif_pos none, dif_neg nothing, size_of_zero none, neg_zero, ite_self]
    cases c.negative with
    | true => exact congrArg _ (compare_gt_iff_gt.2 (neg_neg_of_pos some)).symm
    | false => exact congrArg _ (compare_lt_iff_lt.2 some).symm
  · have some := size_pos none
    rw [dif_neg none, dif_pos nothing, size_of_zero nothing, neg_zero, ite_self]
    cases b.negative with
    | true => exact congrArg _ (compare_lt_iff_lt.2 (neg_neg_of_pos some)).symm
    | false => exact congrArg _ (compare_gt_iff_gt.2 some).symm
  · have some := size_pos none
    have more := size_pos nothing
    rw [dif_neg none, dif_neg nothing]
    cases b.negative with
    | false =>
      cases c.negative with
      | false => exact congrArg _ (compare_size left right)
      | true => exact congrArg _ (compare_gt_iff_gt.2 ((neg_neg_of_pos more).trans some)).symm
    | true =>
      cases c.negative with
      | false => exact congrArg _ (compare_lt_iff_lt.2 ((neg_neg_of_pos some).trans more)).symm
      | true =>
        change Option.some (Ordering.swap _) = Option.some (compare (-b.size) (-c.size))
        rw [compare_neg_neg, compare_size left right]

theorem unpacked_cases (b : Binary) :
    b.unpacked = .zero b.sign ∨ ∃ pos, b.unpacked = .finite b.sign b.mantissa b.exponent pos := by
  by_cases zero : b.mantissa = 0
  · exact .inl (dif_pos zero)
  · exact .inr ⟨_, dif_neg zero⟩

theorem isFinite_unpacked (b : Binary) : b.unpacked.isFinite = true := by
  rcases b.unpacked_cases with zero | ⟨_, finite⟩
  · rw [zero]
    rfl
  · rw [finite]
    rfl

theorem infinity_compare_unpacked (sign : UnpackedFloat.Sign) (b : Binary) :
    (UnpackedFloat.infinity sign).compare b.unpacked =
      some (if sign == .positive then .gt else .lt) := by
  rcases b.unpacked_cases with zero | ⟨_, finite⟩
  · rw [zero]
    cases sign <;> rfl
  · rw [finite]
    cases sign <;> rfl

theorem unpacked_compare_infinity (b : Binary) (sign : UnpackedFloat.Sign) :
    b.unpacked.compare (.infinity sign) = some (if sign == .positive then .lt else .gt) := by
  rcases b.unpacked_cases with zero | ⟨_, finite⟩
  · rw [zero]
    cases sign <;> rfl
  · rw [finite]
    cases sign <;> cases b.sign <;> rfl

theorem unpacked_compare_notANumber (b : Binary) : b.unpacked.compare .notANumber = none := by
  rcases b.unpacked_cases with zero | ⟨_, finite⟩
  · rw [zero]
    rfl
  · rw [finite]
    rfl

theorem toNat_unpackMantissa (x : Float) :
    (@UnpackedFloat.unpackMantissa .binary64 x.toModel.toBits.toBitVec).toNat =
      x.toBits.toNat % 2 ^ 52 := by
  change (x.toModel.toBits.toBitVec.extractLsb' 0 52).toNat =
    x.toModel.toBits.toBitVec.toNat % 2 ^ 52
  rw [BitVec.extractLsb'_toNat, Nat.shiftRight_zero]

theorem toNat_unpackExponent (x : Float) :
    (@UnpackedFloat.unpackExponent .binary64 x.toModel.toBits.toBitVec).toNat =
      x.toBits.toNat / 2 ^ 52 % 2 ^ 11 := by
  change (x.toModel.toBits.toBitVec.extractLsb' 52 11).toNat =
    x.toModel.toBits.toBitVec.toNat / 2 ^ 52 % 2 ^ 11
  rw [BitVec.extractLsb'_toNat, Nat.shiftRight_eq_div_pow]

theorem ofBitVec_unpackSign (x : Float) :
    UnpackedFloat.Sign.ofBitVec (@UnpackedFloat.unpackSign .binary64 x.toModel.toBits.toBitVec) =
      if decide (2 ^ 63 ≤ x.toBits.toNat) then .negative else .positive := by
  have bounded : x.toBits.toNat < 2 ^ 64 := x.toBits.toNat_lt
  have top : (@UnpackedFloat.unpackSign .binary64 x.toModel.toBits.toBitVec).toNat =
      x.toBits.toNat / 2 ^ 63 % 2 := by
    change (x.toModel.toBits.toBitVec.extractLsb' 63 1).toNat =
      x.toModel.toBits.toBitVec.toNat / 2 ^ 63 % 2 ^ 1
    rw [BitVec.extractLsb'_toNat, Nat.shiftRight_eq_div_pow]
  unfold UnpackedFloat.Sign.ofBitVec
  by_cases negative : 2 ^ 63 ≤ x.toBits.toNat
  · rw [decide_eq_true negative, if_pos rfl, if_neg]
    intro zero
    rw [zero] at top
    change 0 = _ at top
    omega
  · rw [decide_eq_false negative, if_neg Bool.false_ne_true, if_pos]
    apply BitVec.eq_of_toNat_eq
    rw [top]
    change _ = 0
    omega

theorem unpack_of_ofFloat? {x : Float} {b : Binary} (finite : ofFloat? x = some b) :
    x.toModel.unpack = b.unpacked := by
  have fraction := toNat_unpackMantissa x
  have biased := toNat_unpackExponent x
  have short := (@UnpackedFloat.unpackMantissa .binary64 x.toModel.toBits.toBitVec).isLt
  rw [ofFloat?_eq, ← fraction, ← biased] at finite
  split at finite
  · cases finite
  · rename_i inside
    cases finite
    unfold Float.Model.unpack UnpackedFloat.unpack ofParts
    dsimp only
    rw [if_neg fun ones => inside (congrArg BitVec.toNat ones), ofBitVec_unpackSign]
    -- a double without an exponent has no digit in front of its fraction
    by_cases small : (@UnpackedFloat.unpackExponent .binary64 x.toModel.toBits.toBitVec).toNat = 0
    · rw [if_pos (BitVec.eq_of_toNat_eq small), if_pos small]
      unfold unpacked sign
      dsimp only
      by_cases zero : (@UnpackedFloat.unpackMantissa .binary64 x.toModel.toBits.toBitVec).toNat = 0
      · rw [dif_pos (BitVec.eq_of_toNat_eq zero), dif_pos zero]
      · rw [dif_neg fun none => zero (congrArg BitVec.toNat none), dif_neg zero, UnpackedFloat.finite.injEq, small]
        exact ⟨rfl, rfl, rfl⟩
    · rw [if_neg fun zero => small (congrArg BitVec.toNat zero), if_neg small]
      unfold unpacked sign
      dsimp only
      rw [dif_neg (by omega), UnpackedFloat.finite.injEq]
      have front := Nat.shiftLeft_add_eq_or_of_lt short 1
      change 1 <<< 52 + _ = 1 <<< 52 ||| _ at front
      refine ⟨rfl, ?_, rfl⟩
      rw [BitVec.toNat_append]
      change 1 <<< 52 ||| _ = _
      rw [← front]
      omega

theorem unpack_of_ofFloat?_eq_none {x : Float} (none : ofFloat? x = none) :
    x.toModel.unpack = .notANumber ∨ ∃ sign, x.toModel.unpack = .infinity sign := by
  have biased := toNat_unpackExponent x
  rw [ofFloat?_eq] at none
  split at none
  · rename_i outside
    have ones : @UnpackedFloat.unpackExponent .binary64 x.toModel.toBits.toBitVec = -1#11 :=
      BitVec.eq_of_toNat_eq (biased.trans outside)
    unfold Float.Model.unpack UnpackedFloat.unpack
    dsimp only
    rw [if_pos ones]
    split
    · exact .inr ⟨_, rfl⟩
    · exact .inl rfl
  · cases none

end Binary

/-! ### Floats -/

/-- What a float is: nothing, infinite, or a rational number. -/
def extended? (x : Float) : Option (WithBot (WithTop ℚ)) :=
  match Binary.ofFloat? x with
  | some b => some ((b.toRat : WithTop ℚ) : WithBot (WithTop ℚ))
  | none =>
    match x.toModel.unpack with
    | .infinity .positive => some ⊤
    | .infinity .negative => some ⊥
    | _ => none

/-- What an unpacked float is. -/
inductive Extends : UnpackedFloat → Option (WithBot (WithTop ℚ)) → Prop where
  | nothing : Extends .notANumber none
  | above : Extends (.infinity .positive) (some ⊤)
  | below : Extends (.infinity .negative) (some ⊥)
  | exactly {b : Binary} (canonical : b.Canonical) :
    Extends b.unpacked (some ((b.toRat : WithTop ℚ) : WithBot (WithTop ℚ)))

theorem extends_extended? (x : Float) : Extends x.toModel.unpack (extended? x) := by
  unfold extended?
  cases finite : Binary.ofFloat? x with
  | some b =>
    rw [Binary.unpack_of_ofFloat? finite]
    exact .exactly (Binary.canonical_of_ofFloat? finite)
  | none =>
    rcases Binary.unpack_of_ofFloat?_eq_none finite with nothing | ⟨sign, infinite⟩
    · rw [nothing]
      exact .nothing
    · rw [infinite]
      cases sign with
      | positive => exact .above
      | negative => exact .below

open Binary in
theorem Extends.compare_eq {a b : UnpackedFloat} {p? q? : Option (WithBot (WithTop ℚ))}
    (left : Extends a p?) (right : Extends b q?) :
    a.compare b = p?.bind fun p => q?.map (compare p) := by
  have low (q : ℚ) : (⊥ : WithBot (WithTop ℚ)) < ((q : WithTop ℚ) : WithBot (WithTop ℚ)) :=
    WithBot.bot_lt_coe _
  have high (q : ℚ) : ((q : WithTop ℚ) : WithBot (WithTop ℚ)) < ⊤ :=
    WithBot.coe_lt_coe.2 (WithTop.coe_lt_top q)
  cases left with
  | nothing => rfl
  | above =>
    cases right with
    | nothing => rfl
    | above => exact congrArg some (compare_eq_iff_eq.2 rfl).symm
    | below => exact congrArg some (compare_gt_iff_gt.2 bot_lt_top).symm
    | exactly _ =>
      rw [infinity_compare_unpacked]
      exact congrArg some (compare_gt_iff_gt.2 (high _)).symm
  | below =>
    cases right with
    | nothing => rfl
    | above => exact congrArg some (compare_lt_iff_lt.2 bot_lt_top).symm
    | below => exact congrArg some (compare_eq_iff_eq.2 rfl).symm
    | exactly _ =>
      rw [infinity_compare_unpacked]
      exact congrArg some (compare_lt_iff_lt.2 (low _)).symm
  | @exactly b canonical =>
    cases right with
    | nothing => exact unpacked_compare_notANumber _
    | above =>
      rw [unpacked_compare_infinity]
      exact congrArg some (compare_lt_iff_lt.2 (high _)).symm
    | below =>
      rw [unpacked_compare_infinity]
      exact congrArg some (compare_gt_iff_gt.2 (low _)).symm
    | @exactly c canonical' =>
      rw [compare_unpacked canonical canonical']
      rcases lt_trichotomy b.toRat c.toRat with less | same | more
      · rw [compare_lt_iff_lt.2 less]
        exact congrArg some (compare_lt_iff_lt.2 (by exact_mod_cast less)).symm
      · rw [same, compare_eq_iff_eq.2 rfl]
        exact congrArg some (compare_eq_iff_eq.2 rfl).symm
      · rw [compare_gt_iff_gt.2 more]
        exact congrArg some (compare_gt_iff_gt.2 (by exact_mod_cast more)).symm

variable {x y z : Float} {p q : ℚ}

theorem float_lt_iff :
    x < y ↔ ∃ p q, extended? x = some p ∧ extended? y = some q ∧ p < q := by
  have compared := (extends_extended? x).compare_eq (extends_extended? y)
  have less : x < y ↔ x.toModel.unpack.lt y.toModel.unpack = true := decide_eq_true_iff
  rw [less, UnpackedFloat.lt, compared]
  cases extended? x <;> cases extended? y <;> simp [compare_lt_iff_lt]

theorem float_le_iff :
    x ≤ y ↔ ∃ p q, extended? x = some p ∧ extended? y = some q ∧ p ≤ q := by
  have compared := (extends_extended? x).compare_eq (extends_extended? y)
  have most : x ≤ y ↔ x.toModel.unpack.le y.toModel.unpack = true := decide_eq_true_iff
  rw [most, UnpackedFloat.le, compared]
  cases extended? x <;> cases extended? y <;> simp [← Ordering.ne_gt_iff_isLE, compare_le_iff_le]

theorem float_lt_of_le_of_lt (most : x ≤ y) (less : y < z) : x < z := by
  obtain ⟨p, q, first, second, most⟩ := float_le_iff.1 most
  obtain ⟨q', r, again, third, less⟩ := float_lt_iff.1 less
  rw [second] at again
  cases again
  exact float_lt_iff.2 ⟨p, r, first, third, lt_of_le_of_lt most less⟩

theorem float_lt_of_lt_of_le (less : x < y) (most : y ≤ z) : x < z := by
  obtain ⟨p, q, first, second, less⟩ := float_lt_iff.1 less
  obtain ⟨q', r, again, third, most⟩ := float_le_iff.1 most
  rw [second] at again
  cases again
  exact float_lt_iff.2 ⟨p, r, first, third, lt_of_lt_of_le less most⟩

/-- The float is this rational number, without any rounding. -/
def IsExactly (x : Float) (q : ℚ) : Prop := (Binary.ofFloat? x).map Binary.toRat = some q

instance : Decidable (IsExactly x q) := inferInstanceAs (Decidable (_ = _))

theorem isExactly_zero : IsExactly 0 0 := by decide +kernel

theorem IsExactly.extended?_eq (exact : IsExactly x q) :
    extended? x = some ((q : WithTop ℚ) : WithBot (WithTop ℚ)) := by
  obtain ⟨b, finite, rfl⟩ := Option.map_eq_some_iff.1 exact
  unfold extended?
  rw [finite]

theorem IsExactly.lt_iff (left : IsExactly x p) (right : IsExactly y q) : x < y ↔ p < q := by
  rw [float_lt_iff, left.extended?_eq, right.extended?_eq]
  simp

theorem IsExactly.le_iff (left : IsExactly x p) (right : IsExactly y q) : x ≤ y ↔ p ≤ q := by
  rw [float_le_iff, left.extended?_eq, right.extended?_eq]
  simp

theorem exists_isExactly_iff : (∃ q, IsExactly x q) ↔ x.isFinite = true := by
  unfold IsExactly
  change _ ↔ x.toModel.unpack.isFinite = true
  cases finite : Binary.ofFloat? x with
  | some b =>
    rw [Binary.unpack_of_ofFloat? finite, Binary.isFinite_unpacked]
    exact ⟨fun _ => rfl, fun _ => ⟨b.toRat, rfl⟩⟩
  | none =>
    have bounded : x.toModel.unpack.isFinite = false := by
      rcases Binary.unpack_of_ofFloat?_eq_none finite with nothing | ⟨sign, infinite⟩
      · rw [nothing]
        rfl
      · rw [infinite]
        rfl
    rw [bounded]
    exact iff_of_false (fun ⟨_, exact⟩ => nomatch exact) Bool.false_ne_true

theorem isFinite_unpack_pack {a : UnpackedFloat}
    (finite : (Float.Model.pack a).unpack.isFinite = true) : a.isFinite = true := by
  cases a with
  | notANumber => exact absurd finite (by decide)
  | infinity sign => cases sign <;> exact absurd finite (by decide)
  | zero sign => rfl
  | finite sign mantissa exponent pos => rfl

theorem isFinite_of_isFinite_add {a b : UnpackedFloat}
    (finite : (UnpackedFloat.add .binary64 a b).isFinite = true) :
    a.isFinite = true ∧ b.isFinite = true := by
  cases a with
  | notANumber => cases b <;> exact absurd finite Bool.false_ne_true
  | infinity sign =>
    cases b with
    | infinity sign' => cases sign <;> cases sign' <;> exact absurd finite Bool.false_ne_true
    | _ => exact absurd finite Bool.false_ne_true
  | zero _ | finite _ _ _ _ =>
    cases b with
    | notANumber | infinity _ => exact absurd finite Bool.false_ne_true
    | zero _ | finite _ _ _ _ => exact ⟨rfl, rfl⟩

/-- What a finite float is. -/
def exactly (x : Float) : ℚ := ((Binary.ofFloat? x).map Binary.toRat).getD 0

theorem isExactly_exactly (finite : x.isFinite = true) : IsExactly x (exactly x) := by
  obtain ⟨q, exact⟩ := exists_isExactly_iff.2 finite
  have same : exactly x = q := congrArg (Option.getD · 0) exact
  rwa [same]

/-- What is added up to a finite sum is finite. -/
theorem isFinite_of_add (finite : (x + y).isFinite = true) : x.isFinite = true ∧ y.isFinite = true :=
  isFinite_of_isFinite_add (isFinite_unpack_pack finite)

end Gamebook
