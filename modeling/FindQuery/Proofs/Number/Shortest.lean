import FindQuery.Number.Shortest

namespace FindQuery.Shortest

theorem tenTo_pos (exponent : Nat) : 0 < tenTo exponent := Nat.pow_pos (by decide)

theorem twoTo_pos (exponent : Nat) : 0 < twoTo exponent := Nat.pow_pos (by decide)

theorem tenTo_le {a b : Nat} (le : a ≤ b) : tenTo a ≤ tenTo b := Nat.pow_le_pow_right (by decide) le

def Target.Reaches (t : Target) (exponent : Int) : Prop :=
  t.den * tenTo exponent.toNat ≤ t.value * tenTo (-exponent).toNat

theorem Target.Reaches.lower {t : Target} {high low : Int} (reaches : t.Reaches high) (le : low ≤ high) :
    t.Reaches low :=
  calc t.den * tenTo low.toNat
      ≤ t.den * tenTo high.toNat := Nat.mul_le_mul_left _ (tenTo_le (by omega))
    _ ≤ t.value * tenTo (-high).toNat := reaches
    _ ≤ t.value * tenTo (-low).toNat := Nat.mul_le_mul_left _ (tenTo_le (by omega))

theorem tenTo_length_pred_le {n : Nat} (positive : 0 < n) : tenTo ((Nat.toDigits 10 n).length - 1) ≤ n := by
  by_cases single : (Nat.toDigits 10 n).length - 1 = 0
  · rw [single]
    exact positive
  · apply Nat.le_of_not_lt
    intro small
    have short := (Nat.length_toDigits_le_iff (by decide) (Nat.pos_of_ne_zero single)).mpr small
    omega

theorem lt_tenTo_length (n : Nat) : n < tenTo (Nat.toDigits 10 n).length :=
  (Nat.length_toDigits_le_iff (by decide) Nat.length_toDigits_pos).mp (Nat.le_refl _)

theorem Target.reaches_magnitude {t : Target} (value : 0 < t.value) (den : 0 < t.den) :
    t.Reaches t.magnitude := by
  unfold magnitude Reaches
  split
  · next whole =>
    have digits := tenTo_length_pred_le (Nat.div_pos whole den)
    have length : 0 < (Nat.toDigits 10 (t.value / t.den)).length := Nat.length_toDigits_pos
    have up : (((Nat.toDigits 10 (t.value / t.den)).length : Int) - 1).toNat =
        (Nat.toDigits 10 (t.value / t.den)).length - 1 := by omega
    have down : (-(((Nat.toDigits 10 (t.value / t.den)).length : Int) - 1)).toNat = 0 := by omega
    rw [up, down, Nat.mul_comm]
    calc tenTo ((Nat.toDigits 10 (t.value / t.den)).length - 1) * t.den
        ≤ t.value / t.den * t.den := Nat.mul_le_mul_right _ digits
      _ ≤ t.value := Nat.div_mul_le_self _ _
      _ = t.value * tenTo 0 := (Nat.mul_one _).symm
  · have length : 0 < (Nat.toDigits 10 (t.den / t.value)).length := Nat.length_toDigits_pos
    have above := lt_tenTo_length (t.den / t.value)
    generalize (Nat.toDigits 10 (t.den / t.value)).length = width at length above ⊢
    dsimp only
    split
    · next fits =>
      have up : (1 - (width : Int)).toNat = 0 := by omega
      have down : (-(1 - (width : Int))).toNat = width - 1 := by omega
      rw [up, down]
      exact Nat.le_trans (Nat.le_of_eq (Nat.mul_one _)) fits
    · have up : (-(width : Int)).toNat = 0 := by omega
      have down : (-(-(width : Int))).toNat = width := by omega
      rw [up, down]
      have bound := (Nat.div_lt_iff_lt_mul value).mp above
      rw [Nat.mul_comm t.value]
      exact Nat.le_trans (Nat.le_of_eq (Nat.mul_one _)) (Nat.le_of_lt bound)

theorem Target.ne_zero_of_holds {t : Target} (lower : 0 < t.lower) {digits : Nat} {exponent : Int}
    (holds : t.holds digits exponent = true) : digits ≠ 0 := by
  rintro rfl
  have scaled := Nat.mul_pos lower (tenTo_pos (-exponent).toNat)
  simp only [Target.holds, Nat.zero_mul] at holds
  split at holds <;> simp only [Bool.and_eq_true, decide_eq_true_eq] at holds
  · exact Nat.not_le_of_lt scaled holds.1
  · exact Nat.not_lt_zero _ holds.1

theorem holds_of_either (holds : Nat → Bool) {nearer other found : Nat}
    (either : (if holds nearer then some nearer else if holds other then some other else none) = some found) :
    holds found = true := by
  split at either
  · next hit => exact Option.some.inj either ▸ hit
  · split at either
    · next hit => exact Option.some.inj either ▸ hit
    · cases either

theorem Target.holds_of_onGrid? {t : Target} {exponent : Int} {digits : Nat}
    (found : t.onGrid? exponent = some digits) : t.holds digits exponent = true :=
  holds_of_either (t.holds · exponent) found

theorem Target.search_digits_ne_zero {t : Target} {magnitude : Int} (lower : 0 < t.lower) (den : 0 < t.den)
    (reaches : t.Reaches magnitude) (digits tries : Nat) : (t.search magnitude digits tries).digits ≠ 0 := by
  induction tries generalizing digits with
  | zero =>
    have grid : t.Reaches (magnitude - digits) := reaches.lower (by omega)
    exact Nat.ne_of_gt (Nat.div_pos grid (Nat.mul_pos den (tenTo_pos _)))
  | succ tries ih =>
    unfold search
    split
    · next found => exact ne_zero_of_holds lower (holds_of_onGrid? found)
    · exact ih (digits + 1)

theorem Decimal.strip_digits_ne_zero (fuel : Nat) {d : Decimal} (nonzero : d.digits ≠ 0) :
    (d.strip fuel).digits ≠ 0 := by
  induction fuel generalizing d with
  | zero => exact nonzero
  | succ fuel ih =>
    unfold strip
    split
    · apply ih
      dsimp only
      omega
    · exact nonzero

theorem ofBinary64_digits_ne_zero {x : Binary64} (nonzero : x.isZero = false) :
    (ofBinary64 x).digits ≠ 0 := by
  have mantissa : x.mantissa ≠ 0 := by simpa [Binary64.isZero] using nonzero
  have scale := twoTo_pos x.exponent.toNat
  have value : 0 < (target x).value := Nat.mul_pos (by omega) scale
  have den : 0 < (target x).den := Nat.mul_pos (by decide) (twoTo_pos _)
  have lower : 0 < (target x).lower := by
    refine Nat.mul_pos ?_ scale
    split <;> omega
  exact Decimal.strip_digits_ne_zero _
    (Target.search_digits_ne_zero lower den (Target.reaches_magnitude value den) 0 mostDigits)

end FindQuery.Shortest
