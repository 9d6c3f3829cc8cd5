import Mediation.Proofs.Number.Rounding

/-!
# The order of doubles under arithmetic

`AtMost` orders the doubles that are no smaller than zero, infinity included. Products and inverses
respect it (`AtMost.mul`, `AtMost.inverse`), and so do the powers of a base of at least one: a
larger exponent does not give a smaller power, positive or negative (`pow_mono`).

The exponent is the delicate part. Repeated squaring multiplies and rounds in an order that depends
on the binary digits of the exponent, so the powers of neighbouring exponents share hardly a
product. `powLoop_le_succ` compares them digit by digit: where the exponents end in `0` and `1` the
results differ by one factor and the squares are the same; where they end in `1` and `0` the loop
goes on with the smaller result `r · b` against the larger base `b · b`.
-/

set_option autoImplicit false

namespace Mediation.Binary64

/-! ## The order of doubles that are not negative -/

/-- At most as large, and neither of the two negative. -/
inductive AtMost : Binary64 → Binary64 → Prop
  | finite {a b : Nat} (le : a ≤ b) : AtMost (.finite false a) (.finite false b)
  | beyond (a : Nat) : AtMost (.finite false a) (.infinite false)
  | infinite : AtMost (.infinite false) (.infinite false)

namespace AtMost

theorem left_refl {x y : Binary64} (le : x.AtMost y) : x.AtMost x := by
  cases le with
  | finite => exact finite (Nat.le_refl _)
  | beyond => exact finite (Nat.le_refl _)
  | infinite => exact infinite

theorem right_refl {x y : Binary64} (le : x.AtMost y) : y.AtMost y := by
  cases le with
  | finite => exact finite (Nat.le_refl _)
  | beyond => exact infinite
  | infinite => exact infinite

theorem trans {x y z : Binary64} (first : x.AtMost y) (second : y.AtMost z) : x.AtMost z := by
  cases first with
  | finite le =>
    cases second with
    | finite le' => exact finite (le.trans le')
    | beyond => exact beyond _
  | beyond => cases second; exact beyond _
  | infinite => exact second

theorem eq_finite {x : Binary64} {b : Nat} (le : x.AtMost (.finite false b)) :
    ∃ a ≤ b, x = .finite false a := by
  cases le with
  | finite le => exact ⟨_, le, rfl⟩

theorem lt_of_lt {x y z : Binary64} (le : x.AtMost y) (lt : y.lt z = true) : x.lt z = true := by
  cases le with
  | finite le =>
    cases z with
    | finite negative c =>
      simp only [Binary64.lt, signedUnits, Bool.false_eq_true, if_false, decide_eq_true_eq] at lt ⊢
      omega
    | infinite => exact lt
    | nan => exact lt
  | beyond => cases z <;> simp_all [Binary64.lt]
  | infinite => exact lt

theorem lt_of_lt_of_atMost {x y z : Binary64} (lt : x.lt y = true) (le : y.AtMost z) :
    x.lt z = true := by
  cases le with
  | finite le =>
    cases x with
    | finite negative c =>
      simp only [Binary64.lt, signedUnits, Bool.false_eq_true, if_false, decide_eq_true_eq] at lt ⊢
      omega
    | infinite => exact lt
    | nan => exact lt
  | beyond => cases x <;> simp_all [Binary64.lt]
  | infinite => exact lt

theorem isFinite_of_isFinite {x y : Binary64} (le : x.AtMost y) (isFinite : y.isFinite = true) :
    x.isFinite = true := by
  cases le with
  | finite => rfl
  | beyond => rfl
  | infinite => exact isFinite

theorem truncate_le {x y : Binary64} (le : x.AtMost y) (limit : Nat) :
    x.truncate limit ≤ y.truncate limit := by
  cases le with
  | finite le =>
    simp only [truncate, Bool.false_eq_true, if_false]
    exact min_le_min_right limit (Nat.div_le_div_right le)
  | beyond => simp [truncate]
  | infinite => exact Nat.le_refl _

theorem ofUnits {a b : Nat} (le : a ≤ b) :
    (Binary64.ofUnits false a).AtMost (Binary64.ofUnits false b) := by
  unfold Binary64.ofUnits
  split <;> split
  · exact finite le
  · exact beyond a
  · omega
  · exact infinite

theorem zero_ofUnits (a : Nat) : (Binary64.finite false 0).AtMost (Binary64.ofUnits false a) := by
  unfold Binary64.ofUnits
  split
  · exact finite (Nat.zero_le a)
  · exact beyond 0

theorem ofUnits_infinite (a : Nat) : (Binary64.ofUnits false a).AtMost (.infinite false) := by
  unfold Binary64.ofUnits
  split
  · exact beyond a
  · exact infinite

end AtMost

theorem lt_irrefl (x : Binary64) : x.lt x = false := by
  cases x with
  | finite => simp only [lt, Int.lt_irrefl, decide_false]
  | infinite negative => cases negative <;> rfl
  | nan => rfl

/-! ## One -/

theorem unitsPerOne_pos : 0 < unitsPerOne := by decide +kernel

theorem unitsPerOne_eq : unitsPerOne = 2 ^ 1074 := by decide +kernel

theorem held_unitsPerOne : Held unitsPerOne := by
  have := held_mul_two_pow (show 1 ≤ 2 ^ 53 by decide) 1074
  rwa [Nat.one_mul, ← unitsPerOne_eq] at this

theorem unitsPerOne_lt_unitsBeyond : unitsPerOne < unitsBeyond := by decide +kernel

theorem unitsBeyond_eq : unitsBeyond = 2 ^ 1024 * unitsPerOne := by decide +kernel

theorem large_cases {x : Binary64} (large : one.AtMost x) :
    (∃ u, unitsPerOne ≤ u ∧ x = finite false u) ∨ x = infinite false := by
  unfold one at large
  generalize unitsPerOne = least at *
  cases large with
  | finite le => exact .inl ⟨_, le, rfl⟩
  | beyond => exact .inr rfl

theorem atMost_of_one_le {x : Binary64} (le : one.le x = true) : one.AtMost x := by
  have pos := unitsPerOne_pos
  cases x with
  | finite negative u =>
    cases negative
    · simp only [one, Binary64.le, lt, same, signedUnits, Bool.false_eq_true, if_false,
        Bool.or_eq_true, decide_eq_true_eq] at le
      exact .finite (by omega)
    · simp only [one, Binary64.le, lt, same, signedUnits, Bool.false_eq_true, if_false, if_true,
        Bool.or_eq_true, decide_eq_true_eq] at le
      omega
  | infinite negative =>
    cases negative
    · exact .beyond _
    · simp [one, Binary64.le, lt, same] at le
  | nan => simp [one, Binary64.le, lt, same] at le

/-! ## Doubles that rounding leaves alone -/

/-- A double of the format: the units of a finite one are held, and short of infinity. -/
inductive Proper : Binary64 → Prop
  | finite (negative : Bool) {u : Nat} (held : Held u) (fits : u < unitsBeyond) :
    Proper (.finite negative u)
  | infinite (negative : Bool) : Proper (.infinite negative)
  | nan : Proper .nan

theorem ofUnits_of_lt {u : Nat} (fits : u < unitsBeyond) (negative : Bool) :
    ofUnits negative u = finite negative u := if_pos fits

theorem ofUnits_of_le {u : Nat} (beyond : unitsBeyond ≤ u) (negative : Bool) :
    ofUnits negative u = infinite negative := if_neg (Nat.not_lt.mpr beyond)

theorem proper_ofUnits {u : Nat} (held : Held u) (negative : Bool) :
    (ofUnits negative u).Proper := by
  rcases Nat.lt_or_ge u unitsBeyond with fits | beyond
  · rw [ofUnits_of_lt fits]
    exact .finite negative held fits
  · rw [ofUnits_of_le beyond]
    exact .infinite negative

theorem proper_one : one.Proper := .finite false held_unitsPerOne unitsPerOne_lt_unitsBeyond

theorem proper_mul (x y : Binary64) : (x.mul y).Proper := by
  cases x with
  | finite =>
    cases y with
    | finite => exact proper_ofUnits (held_roundUnits unitsPerOne_pos) _
    | infinite => simp only [mul]; split <;> constructor
    | nan => exact .nan
  | infinite =>
    cases y with
    | finite => simp only [mul]; split <;> constructor
    | infinite => exact .infinite _
    | nan => exact .nan
  | nan => exact .nan

theorem proper_ofNat (n : Nat) : (ofNat n).Proper :=
  proper_ofUnits (held_roundUnits Nat.one_pos) false

/-! ## Whole numbers -/

theorem ofNat_mono {n m : Nat} (le : n ≤ m) : (ofNat n).AtMost (ofNat m) :=
  .ofUnits (roundUnits_mono Nat.one_pos Nat.one_pos
    (Nat.mul_le_mul_right 1 (Nat.mul_le_mul_right unitsPerOne le)))

theorem two_pow_lt : 2 ^ 53 < 2 ^ 1024 := by decide +kernel

/-- A whole number of at most 53 leading digits is a double. -/
theorem ofNat_of_held {n : Nat} (held : Held n) (small : n < 2 ^ 1024) :
    ofNat n = finite false (n * unitsPerOne) := by
  have units : roundUnits (n * unitsPerOne) 1 = n * unitsPerOne := by
    have := roundUnits_mul_right (held.mul_two_pow 1074) Nat.one_pos
    rwa [Nat.mul_one, ← unitsPerOne_eq] at this
  have fits : n * unitsPerOne < unitsBeyond := by
    calc n * unitsPerOne < 2 ^ 1024 * unitsPerOne :=
          (Nat.mul_lt_mul_right unitsPerOne_pos).mpr small
      _ = unitsBeyond := unitsBeyond_eq.symm
  rw [ofNat, units, ofUnits_of_lt fits]

theorem ofNat_lt_ofNat {n m : Nat} (small : n < 2 ^ 53) (lt : n < m) :
    (ofNat n).lt (ofNat m) = true := by
  have next : (ofNat n).lt (ofNat (n + 1)) = true := by
    rw [ofNat_of_held (held_of_le (Nat.le_of_lt small)) (small.trans two_pow_lt),
      ofNat_of_held (held_of_le small) (Nat.lt_of_le_of_lt small two_pow_lt)]
    have := (Nat.mul_lt_mul_right unitsPerOne_pos).mpr (Nat.lt_succ_self n)
    simp only [Binary64.lt, signedUnits, Bool.false_eq_true, if_false, decide_eq_true_eq]
    omega
  exact AtMost.lt_of_lt_of_atMost next (ofNat_mono lt)

theorem truncate_ofNat {n limit : Nat} (held : Held n) (small : n < 2 ^ 1024) :
    (ofNat n).truncate limit = min n limit := by
  rw [ofNat_of_held held small]
  simp only [truncate, Bool.false_eq_true, if_false, Nat.mul_div_cancel n unitsPerOne_pos]

/-- A double below the double of a whole number has no larger whole part than that number. -/
theorem truncate_le_of_lt {x : Binary64} {n : Nat} (proper : x.Proper) (isFinite : x.isFinite = true)
    (lt : x.lt (ofNat n) = true) (limit : Nat) : x.truncate limit ≤ n := by
  cases proper with
  | infinite => simp [Binary64.isFinite] at isFinite
  | nan => simp [Binary64.isFinite] at isFinite
  | @finite negative u held fits =>
    cases negative
    · simp only [truncate, Bool.false_eq_true, if_false]
      refine (Nat.min_le_left _ _).trans ?_
      by_contra above
      -- Otherwise `x` is no smaller than `n` before rounding, and so after it.
      have whole : n * unitsPerOne ≤ u :=
        (Nat.mul_le_mul_right _ (by omega)).trans (Nat.div_mul_le_self u unitsPerOne)
      have rounded : roundUnits (n * unitsPerOne) 1 ≤ u :=
        (roundUnits_mono Nat.one_pos Nat.one_pos (Nat.mul_le_mul_right 1 whole)).trans_eq
          (by simpa using roundUnits_mul_right held Nat.one_pos)
      rw [ofNat, ofUnits_of_lt (Nat.lt_of_le_of_lt rounded fits)] at lt
      simp only [Binary64.lt, signedUnits, Bool.false_eq_true, if_false, decide_eq_true_eq] at lt
      omega
    · simp [truncate]

/-! ## Products and inverses -/

theorem mul_infinite {a : Nat} (pos : a ≠ 0) :
    (finite false a).mul (infinite false) = infinite false := if_neg pos

theorem infinite_mul {b : Nat} (pos : b ≠ 0) :
    (infinite false).mul (finite false b) = infinite false := if_neg pos

theorem ne_zero_of_mul_infinite {a : Nat} (number : (finite false a).mul (infinite false) ≠ nan) :
    a ≠ 0 := fun zero => number (if_pos zero)

theorem ne_zero_of_infinite_mul {b : Nat} (number : (infinite false).mul (finite false b) ≠ nan) :
    b ≠ 0 := fun zero => number (if_pos zero)

/-- Products of larger factors are no smaller, if they are numbers. -/
theorem AtMost.mul {x x' y y' : Binary64} (left : x.AtMost x') (right : y.AtMost y')
    (number : x.mul y ≠ nan) (number' : x'.mul y' ≠ nan) :
    (x.mul y).AtMost (x'.mul y') := by
  cases left with
  | finite le =>
    cases right with
    | finite le' =>
      exact .ofUnits (roundUnits_mono unitsPerOne_pos unitsPerOne_pos
        (Nat.mul_le_mul_right _ (Nat.mul_le_mul le le')))
    | beyond =>
      rw [mul_infinite (ne_zero_of_mul_infinite number')]
      exact .ofUnits_infinite _
    | infinite =>
      rw [mul_infinite (ne_zero_of_mul_infinite number),
        mul_infinite (ne_zero_of_mul_infinite number')]
      exact .infinite
  | beyond =>
    cases right with
    | finite le' =>
      rw [infinite_mul (ne_zero_of_infinite_mul number')]
      exact .ofUnits_infinite _
    | beyond => exact .ofUnits_infinite _
    | infinite =>
      rw [mul_infinite (ne_zero_of_mul_infinite number)]
      exact .infinite
  | infinite =>
    cases right with
    | finite le' =>
      rw [infinite_mul (ne_zero_of_infinite_mul number),
        infinite_mul (ne_zero_of_infinite_mul number')]
      exact .infinite
    | beyond =>
      rw [infinite_mul (ne_zero_of_infinite_mul number)]
      exact .infinite
    | infinite => exact .infinite

theorem ofUnits_ne_nan (negative : Bool) (u : Nat) : ofUnits negative u ≠ nan := by
  unfold ofUnits
  split <;> exact fun same => nomatch same

theorem mul_ne_nan {x y : Binary64} (left : one.AtMost x) (right : one.AtMost y) :
    x.mul y ≠ nan := by
  have pos := unitsPerOne_pos
  obtain ⟨a, le, rfl⟩ | rfl := large_cases left
  · obtain ⟨b, le', rfl⟩ | rfl := large_cases right
    · exact ofUnits_ne_nan _ _
    · rw [mul_infinite (by omega)]
      exact fun same => nomatch same
  · obtain ⟨b, le', rfl⟩ | rfl := large_cases right
    · rw [infinite_mul (by omega)]
      exact fun same => nomatch same
    · exact fun same => nomatch same

protected theorem mul_comm (x y : Binary64) : x.mul y = y.mul x := by
  cases x <;> cases y <;> simp only [Binary64.mul, Nat.mul_comm, bne_comm]

protected theorem mul_one {x : Binary64} (proper : x.Proper) (nonneg : x.AtMost x) :
    x.mul one = x := by
  cases nonneg with
  | finite =>
    cases proper with | finite _ held fits =>
    rw [one, Binary64.mul, roundUnits_mul_right held unitsPerOne_pos, ofUnits_of_lt fits,
      bne_self_eq_false]
  | infinite => exact infinite_mul unitsPerOne_pos.ne'

protected theorem one_mul {x : Binary64} (proper : x.Proper) (nonneg : x.AtMost x) :
    one.mul x = x := by
  rw [Binary64.mul_comm, Binary64.mul_one proper nonneg]

/-- The product of factors of at least one is no smaller than each of them was before rounding. -/
theorem AtMost.mul_large {x x' y y' : Binary64} (large : one.AtMost x) (left : x.AtMost x')
    (large' : one.AtMost y) (right : y.AtMost y') : (x.mul y).AtMost (x'.mul y') :=
  left.mul right (mul_ne_nan large large') (mul_ne_nan (large.trans left) (large'.trans right))

theorem one_atMost_mul {x y : Binary64} (left : one.AtMost x) (right : one.AtMost y) :
    one.AtMost (x.mul y) := by
  have := AtMost.mul_large left.left_refl left left.left_refl right
  rwa [Binary64.one_mul proper_one left.left_refl] at this

/-- The inverse of a larger number is no larger. -/
theorem AtMost.inverse {x y : Binary64} (large : one.AtMost x) (le : x.AtMost y) :
    (one.div y).AtMost (one.div x) := by
  have pos := unitsPerOne_pos
  obtain ⟨u, least, rfl⟩ | rfl := large_cases large
  · cases le with
    | @finite _ v le =>
      rw [one, div, div, if_neg (by omega), if_neg (by omega)]
      exact .ofUnits (roundUnits_mono (by omega) (by omega) (Nat.mul_le_mul_left _ le))
    | beyond =>
      rw [one, div, div, if_neg (by omega)]
      exact .zero_ofUnits _
  · cases le
    exact .finite (Nat.le_refl 0)

/-! ## Powers -/

/-- What the last binary digit of the exponent multiplies into the result. -/
def digit (base result : Binary64) (exponent : Nat) : Binary64 :=
  if exponent % 2 = 1 then result.mul base else result

theorem powLoop_zero (base result : Binary64) : powLoop base result 0 = result := by
  rw [powLoop]
  rfl

theorem powLoop_eq (base result : Binary64) (exponent : Nat) :
    powLoop base result exponent =
      powLoop (base.mul base) (digit base result exponent) (exponent / 2) := by
  rw [powLoop]
  simp only [digit]
  split
  · rename_i last
    rw [last, powLoop_zero]
  · rfl

theorem one_atMost_digit {base result : Binary64} (large : one.AtMost base)
    (large' : one.AtMost result) (exponent : Nat) : one.AtMost (digit base result exponent) := by
  unfold digit
  split
  · exact one_atMost_mul large' large
  · exact large'

theorem powLoop_mono {base base' result result' : Binary64} (large : one.AtMost base)
    (bases : base.AtMost base') (large' : one.AtMost result) (results : result.AtMost result')
    (exponent : Nat) :
    (powLoop base result exponent).AtMost (powLoop base' result' exponent) := by
  induction exponent using Nat.strongRecOn generalizing base base' result result' with
  | ind exponent ih =>
    rcases Nat.eq_zero_or_pos exponent with rfl | pos
    · rwa [powLoop_zero, powLoop_zero]
    · rw [powLoop_eq, powLoop_eq base']
      refine ih _ (Nat.div_lt_self pos (by decide)) (one_atMost_mul large large)
        (.mul_large large bases large bases) (one_atMost_digit large large' _) ?_
      unfold digit
      split
      · exact .mul_large large' results large bases
      · exact results

/-- **One more in the exponent makes up for a result of at most the base.** -/
theorem powLoop_le_succ {base result : Binary64} (large : one.AtMost result)
    (proper : result.Proper) (le : result.AtMost base) (exponent : Nat) :
    (powLoop base result exponent).AtMost (powLoop base one (exponent + 1)) := by
  induction exponent using Nat.strongRecOn generalizing base result with
  | ind exponent ih =>
    have large' := large.trans le
    rw [powLoop_eq, powLoop_eq base one]
    rcases Nat.mod_two_eq_zero_or_one exponent with even | odd
    -- `…0` against `…1`: the squares are the same, and the result is at most one factor more.
    · rw [digit, if_neg (by omega), digit, if_pos (by omega),
        show (exponent + 1) / 2 = exponent / 2 from by omega]
      refine powLoop_mono (one_atMost_mul large' large')
        (.mul_large large' le.right_refl large' le.right_refl) large ?_ _
      have := AtMost.mul_large large.left_refl large.left_refl large le
      rwa [Binary64.one_mul proper large.right_refl] at this
    -- `…1` against `…0`: the larger squares make up for the factor that is still missing.
    · rw [digit, if_pos odd, digit, if_neg (by omega),
        show (exponent + 1) / 2 = exponent / 2 + 1 from by omega]
      exact ih _ (by omega) (one_atMost_mul large large') (proper_mul _ _)
        (.mul_large large le large' le.right_refl)

theorem powLoop_one_mono {base : Binary64} (large : one.AtMost base) {e e' : Nat} (le : e ≤ e') :
    (powLoop base one e).AtMost (powLoop base one e') := by
  induction le with
  | refl =>
    exact powLoop_mono large large.right_refl large.left_refl large.left_refl e
  | step _ ih => exact ih.trans (powLoop_le_succ large.left_refl proper_one large _)

theorem one_atMost_powLoop {base : Binary64} (large : one.AtMost base) (e : Nat) :
    one.AtMost (powLoop base one e) := by
  have := powLoop_one_mono large (Nat.zero_le e)
  rwa [powLoop_zero] at this

theorem one_div_one : one.div one = one := by
  rw [one, div, if_neg unitsPerOne_pos.ne', roundUnits_mul_right held_unitsPerOne unitsPerOne_pos,
    ofUnits_of_lt unitsPerOne_lt_unitsBeyond, bne_self_eq_false]

theorem powLoop_one_one (e : Nat) : powLoop one one e = one := by
  have square := Binary64.mul_one proper_one (.finite (Nat.le_refl _))
  induction e using Nat.strongRecOn with
  | ind e ih =>
    rcases Nat.eq_zero_or_pos e with rfl | pos
    · exact powLoop_zero one one
    · rw [powLoop_eq, digit, square, ite_self]
      exact ih _ (Nat.div_lt_self pos (by decide))

theorem one_pow (e : Int) : one.pow e = one := by
  rw [pow, powLoop_one_one, one_div_one, ite_self]

/-- **A larger exponent does not give a smaller power** of a base of at least one. -/
theorem pow_mono {base : Binary64} (large : one.AtMost base) {e e' : Int} (le : e ≤ e') :
    (base.pow e).AtMost (base.pow e') := by
  simp only [pow]
  split
  · have inverse : (one.div (powLoop base one e.natAbs)).AtMost one := by
      have := AtMost.inverse large.left_refl (one_atMost_powLoop large e.natAbs)
      rwa [one_div_one] at this
    split
    · exact .inverse (one_atMost_powLoop large _) (powLoop_one_mono large (by omega))
    · exact inverse.trans (one_atMost_powLoop large _)
  · rw [if_neg (by omega)]
    exact powLoop_one_mono large (by omega)

theorem one_atMost_pow {base : Binary64} (large : one.AtMost base) {e : Int} (nonneg : 0 ≤ e) :
    one.AtMost (base.pow e) := by
  rw [pow, if_neg (by omega)]
  exact one_atMost_powLoop large _

end Mediation.Binary64
