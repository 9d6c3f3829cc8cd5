import Mediation.Number.Binary64
import Mathlib.Tactic.Ring

/-!
# Rounding keeps the order

A ratio is rounded to the nearest number of units with 53 leading binary digits. Of two ratios the
smaller one is not rounded to more (`roundUnits_mono`), what comes out of rounding has 53 leading
digits (`held_roundUnits`), and such a number is rounded to itself (`roundUnits_mul_right`). Between
two spacings the order is kept by the power of two that separates them: it is a whole number of
either spacing, so neither ratio is rounded across it.
-/

set_option autoImplicit false

namespace Mediation.Binary64

/-! ## The nearest whole number -/

theorem nearestEven_cases (num den : Nat) :
    2 * (num % den) < den ∧ nearestEven num den = num / den ∨
      den < 2 * (num % den) ∧ nearestEven num den = num / den + 1 ∨
      2 * (num % den) = den ∧ nearestEven num den = num / den + num / den % 2 := by
  simp only [nearestEven]
  split
  · exact .inl ⟨by assumption, rfl⟩
  · split
    · exact .inr (.inl ⟨by assumption, rfl⟩)
    · exact .inr (.inr ⟨by omega, rfl⟩)

theorem le_nearestEven (num den : Nat) : num / den ≤ nearestEven num den := by
  obtain ⟨_, same⟩ | ⟨_, same⟩ | ⟨_, same⟩ := nearestEven_cases num den <;> omega

theorem nearestEven_le (num den : Nat) : nearestEven num den ≤ num / den + 1 := by
  obtain ⟨_, same⟩ | ⟨_, same⟩ | ⟨_, same⟩ := nearestEven_cases num den <;> omega

theorem whole_mono {num den num' den' : Nat} (pos : 0 < den) (pos' : 0 < den')
    (le : num * den' ≤ num' * den) : num / den ≤ num' / den' := by
  rw [Nat.le_div_iff_mul_le pos']
  refine Nat.le_of_mul_le_mul_right ?_ pos
  calc num / den * den' * den = num / den * den * den' := Nat.mul_right_comm _ _ _
    _ ≤ num * den' := Nat.mul_le_mul_right _ (Nat.div_mul_le_self num den)
    _ ≤ num' * den := le

/-- **Of two ratios the smaller one is not rounded to more.** -/
theorem nearestEven_mono {num den num' den' : Nat} (pos : 0 < den) (pos' : 0 < den')
    (le : num * den' ≤ num' * den) : nearestEven num den ≤ nearestEven num' den' := by
  rcases Nat.lt_or_eq_of_le (whole_mono pos pos' le) with less | same
  · exact (nearestEven_le num den).trans (Nat.le_trans less (le_nearestEven num' den'))
  -- With one whole part it is the rests that compare.
  have rests : num % den * den' ≤ num' % den' * den := by
    have left : num * den' = num / den * (den * den') + num % den * den' := by
      conv_lhs => rw [← Nat.div_add_mod num den]
      ring
    have right : num' * den = num / den * (den * den') + num' % den' * den := by
      conv_lhs => rw [← Nat.div_add_mod num' den', ← same]
      ring
    omega
  have halves : 2 * (num % den) * den' ≤ 2 * (num' % den') * den := by
    simpa only [Nat.mul_assoc] using Nat.mul_le_mul_left 2 rests
  have up : den ≤ 2 * (num % den) → den' ≤ 2 * (num' % den') := fun half =>
    Nat.le_of_mul_le_mul_left ((Nat.mul_le_mul_right den' half).trans
      (halves.trans_eq (Nat.mul_comm _ _))) pos
  have upper : den < 2 * (num % den) → den' < 2 * (num' % den') := fun half =>
    Nat.lt_of_mul_lt_mul_left (((Nat.mul_lt_mul_right pos').mpr half).trans_le
      (halves.trans_eq (Nat.mul_comm _ _)))
  obtain ⟨below, first⟩ | ⟨above, first⟩ | ⟨tie, first⟩ := nearestEven_cases num den <;>
    obtain ⟨_, second⟩ | ⟨_, second⟩ | ⟨_, second⟩ := nearestEven_cases num' den' <;> omega

/-- A whole number is its own nearest. -/
theorem nearestEven_mul_right (n : Nat) {den : Nat} (pos : 0 < den) :
    nearestEven (n * den) den = n := by
  obtain ⟨_, same⟩ | ⟨rest, _⟩ | ⟨rest, _⟩ := nearestEven_cases (n * den) den
  · rw [same, Nat.mul_div_cancel n pos]
  · simp at rest
  · simp only [Nat.mul_mod_left, Nat.mul_zero] at rest
    omega

theorem le_nearestEven_of_mul_le {n num den : Nat} (pos : 0 < den) (le : n * den ≤ num) :
    n ≤ nearestEven num den :=
  ((Nat.le_div_iff_mul_le pos).mpr le).trans (le_nearestEven num den)

theorem nearestEven_le_of_le_mul {n num den : Nat} (pos : 0 < den) (le : num ≤ n * den) :
    nearestEven num den ≤ n :=
  (nearestEven_mono pos pos (Nat.mul_le_mul_right den le)).trans_eq (nearestEven_mul_right n pos)

/-! ## Numbers of units that doubles hold -/

/-- A number of units with at most 53 leading binary digits before zeros. -/
def Held (units : Nat) : Prop := 2 ^ spacing units ∣ units

theorem spacing_mono {u v : Nat} (le : u ≤ v) : spacing u ≤ spacing v := by
  rcases Nat.eq_zero_or_pos u with rfl | pos
  · simp [spacing]
  · have : u.log2 ≤ v.log2 := (Nat.le_log2 (by omega)).mpr ((Nat.log2_self_le (by omega)).trans le)
    simp only [spacing]
    omega

theorem lt_two_pow_spacing (u : Nat) : u < 2 ^ (53 + spacing u) :=
  Nat.lt_log2_self.trans_le (Nat.pow_le_pow_right (by decide) (by simp only [spacing]; omega))

theorem spacing_le {u s : Nat} (lt : u < 2 ^ (53 + s)) : spacing u ≤ s := by
  rcases Nat.eq_zero_or_pos u with rfl | pos
  · simp [spacing]
  · have := (Nat.log2_lt (by omega)).mpr lt
    simp only [spacing]
    omega

theorem two_pow_le {u s : Nat} (lt : s < spacing u) : 2 ^ (52 + spacing u) ≤ u := by
  have nonzero : u ≠ 0 := by rintro rfl; simp [spacing] at lt
  have split : 52 + spacing u = u.log2 := by simp only [spacing] at *; omega
  rw [split]
  exact Nat.log2_self_le nonzero

/-- A multiple of a power of two with a factor of at most 53 digits is held. -/
theorem held_mul_two_pow {m : Nat} (le : m ≤ 2 ^ 53) (s : Nat) : Held (m * 2 ^ s) := by
  rcases Nat.lt_or_eq_of_le le with less | rfl
  · have : m * 2 ^ s < 2 ^ (53 + s) := by
      rw [Nat.pow_add]
      exact (Nat.mul_lt_mul_right (Nat.two_pow_pos s)).mpr less
    exact (Nat.pow_dvd_pow 2 (spacing_le this)).trans (Nat.dvd_mul_left _ _)
  · rw [← Nat.pow_add]
    refine Nat.pow_dvd_pow 2 ?_
    simp only [spacing, Nat.log2_two_pow]
    omega

theorem held_of_le {u : Nat} (le : u ≤ 2 ^ 53) : Held u := by
  simpa using held_mul_two_pow le 0

/-- Zeros at the end change nothing. -/
theorem Held.mul_two_pow {u : Nat} (held : Held u) (k : Nat) : Held (u * 2 ^ k) := by
  have lt : u * 2 ^ k < 2 ^ (53 + (spacing u + k)) := by
    rw [← Nat.add_assoc, Nat.pow_add]
    exact (Nat.mul_lt_mul_right (Nat.two_pow_pos k)).mpr (lt_two_pow_spacing u)
  refine (Nat.pow_dvd_pow 2 (spacing_le lt)).trans ?_
  rw [Nat.pow_add]
  exact Nat.mul_dvd_mul_right held _

/-! ## Rounding to units -/

theorem roundUnits_eq (num den : Nat) :
    roundUnits num den =
      nearestEven num (den * 2 ^ spacing (num / den)) * 2 ^ spacing (num / den) := rfl

theorem lt_den_mul {num den : Nat} (pos : 0 < den) :
    num < 2 ^ 53 * (den * 2 ^ spacing (num / den)) := by
  have := lt_two_pow_spacing (num / den)
  rw [Nat.div_lt_iff_lt_mul pos, Nat.pow_add] at this
  exact this.trans_eq (by ring)

/-- **What comes out of rounding is held.** -/
theorem held_roundUnits {num den : Nat} (pos : 0 < den) : Held (roundUnits num den) :=
  held_mul_two_pow (nearestEven_le_of_le_mul (Nat.mul_pos pos (Nat.two_pow_pos _))
    (Nat.le_of_lt (lt_den_mul pos))) _

/-- **Of two ratios the smaller one is not rounded to more units.** -/
theorem roundUnits_mono {num den num' den' : Nat} (pos : 0 < den) (pos' : 0 < den')
    (le : num * den' ≤ num' * den) : roundUnits num den ≤ roundUnits num' den' := by
  rw [roundUnits_eq, roundUnits_eq]
  rcases Nat.lt_or_eq_of_le (spacing_mono (whole_mono pos pos' le)) with less | same
  · -- The power of two at which the wider spacing begins lies between the two.
    have below : nearestEven num (den * 2 ^ spacing (num / den)) ≤ 2 ^ 53 :=
      nearestEven_le_of_le_mul (Nat.mul_pos pos (Nat.two_pow_pos _)) (Nat.le_of_lt (lt_den_mul pos))
    have above : 2 ^ 52 ≤ nearestEven num' (den' * 2 ^ spacing (num' / den')) := by
      refine le_nearestEven_of_mul_le (Nat.mul_pos pos' (Nat.two_pow_pos _)) ?_
      have := two_pow_le less
      rw [Nat.le_div_iff_mul_le pos', Nat.pow_add] at this
      exact (Nat.le_of_eq (by ring)).trans this
    calc nearestEven num (den * 2 ^ spacing (num / den)) * 2 ^ spacing (num / den)
        ≤ 2 ^ 53 * 2 ^ spacing (num / den) := Nat.mul_le_mul_right _ below
      _ = 2 ^ 52 * 2 ^ (spacing (num / den) + 1) := by ring
      _ ≤ 2 ^ 52 * 2 ^ spacing (num' / den') :=
        Nat.mul_le_mul_left _ (Nat.pow_le_pow_right (by decide) less)
      _ ≤ _ := Nat.mul_le_mul_right _ above
  · rw [same]
    refine Nat.mul_le_mul_right _ (nearestEven_mono (Nat.mul_pos pos (Nat.two_pow_pos _))
      (Nat.mul_pos pos' (Nat.two_pow_pos _)) ?_)
    calc num * (den' * 2 ^ spacing (num' / den'))
        = num * den' * 2 ^ spacing (num' / den') := (Nat.mul_assoc _ _ _).symm
      _ ≤ num' * den * 2 ^ spacing (num' / den') := Nat.mul_le_mul_right _ le
      _ = _ := Nat.mul_assoc _ _ _

/-- **What is held is rounded to itself.** -/
theorem roundUnits_mul_right {u den : Nat} (held : Held u) (pos : 0 < den) :
    roundUnits (u * den) den = u := by
  rw [roundUnits_eq, Nat.mul_div_cancel u pos]
  obtain ⟨c, factors⟩ := held
  have split : u * den = c * (den * 2 ^ spacing u) := by
    conv_lhs => rw [factors]
    ring
  rw [split, nearestEven_mul_right c (Nat.mul_pos pos (Nat.two_pow_pos _)), Nat.mul_comm]
  exact factors.symm

end Mediation.Binary64
