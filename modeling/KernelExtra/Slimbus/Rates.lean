/-
Termination of the rate loops, `slim_calc_prrate` and `slim_nextdefine_ch`.

Both write a number as a coefficient and a power of two by the same loop: an even number is halved,
an odd one above three goes up by one. The loop does not end for zero, nor for the largest `u32`,
which goes up to zero, and no caller keeps these out.
-/
import KernelExtra.Slimbus.Reconfig

namespace KernelExtra.Slimbus

lemma to_coeff_exp_ends {k fuel n e : ℕ} {x : Bool} (hpos : 0 < n) (hle : n ≤ 2 ^ k) (hk : k ≤ 32)
    (hmax : n ≠ 2 ^ 32 - 1) (hfuel : 2 * k < fuel) : (to_coeff_exp fuel n e x).isSome := by
  induction k generalizing fuel n e x with
  | zero =>
    obtain rfl : n = 1 := by omega
    obtain ⟨fuel, rfl⟩ := Nat.exists_eq_succ_of_ne_zero hfuel.ne'
    rfl
  | succ k ih =>
    have hpow : 2 ^ k ≤ 2 ^ 31 := Nat.pow_le_pow_right (by decide) (by omega)
    obtain ⟨fuel, rfl⟩ := Nat.exists_eq_add_of_le' (show 2 ≤ fuel by omega)
    rw [pow_succ'] at hle
    rw [to_coeff_exp]
    split_ifs with heven hbig
    · exact ih (by omega) (by omega) (by omega) (by omega) (by omega)
    · -- two rounds: the number goes up by one and is halved
      rw [u32, Nat.mod_eq_of_lt (by omega), to_coeff_exp, if_pos (by omega)]
      exact ih (by omega) (by omega) (by omega) (by omega) (by omega)
    · rfl

lemma to_coeff_exp_zero (fuel e : ℕ) (x : Bool) : to_coeff_exp fuel 0 e x = none := by
  induction fuel generalizing e with
  | zero => rfl
  | succ fuel ih => exact ih (e + 1)

/-- The largest `u32` goes up to zero. -/
lemma to_coeff_exp_max (fuel e : ℕ) (x : Bool) : to_coeff_exp fuel (2 ^ 32 - 1) e x = none := by
  cases fuel with
  | zero => rfl
  | succ fuel => exact to_coeff_exp_zero fuel e false

lemma ends {n : ℕ} {x : Bool} (hn : n ≠ 0 ∧ n < 2 ^ 32 - 1) :
    ∃ c e x', to_coeff_exp coeff_exp_fuel n 0 x = some (c, e, x') := by
  obtain ⟨⟨c, e, x'⟩, hrun⟩ := Option.isSome_iff_exists.1
    (@to_coeff_exp_ends 32 coeff_exp_fuel n 0 x
    (by omega) (by omega) le_rfl (by omega) (by decide))
  exact ⟨c, e, x', hrun⟩

/-- When the loops end: the multiplier is not zero, it is not the largest `u32` unless it is a rate
in Hertz or there is no presence rate, and 4000 times it does not vanish where that product is
used. -/
def RateLoopsEnd (ctrl : Ctrl) (prop : Ch) : Prop :=
  prop.ratem ≠ 0 ∧
    (ChProto.ASYNC_SMPLX.toNat ≤ prop.prot.toNat ∨ prop.baser = .RATE_1HZ ∨
      prop.ratem ≠ 2 ^ 32 - 1) ∧
    (prop.baser = .RATE_4000HZ → ctrl.superfreq ≠ 4000 → prop.ratem % 2 ^ 27 ≠ 0)

lemma slim_calc_prrate_ends {ctrl : Ctrl} {prop : Ch} (h : prop.ratem < 2 ^ 32)
    (hends : RateLoopsEnd ctrl prop) : ∃ prrate, slim_calc_prrate prop = some prrate := by
  obtain ⟨hzero, hmax, -⟩ := hends
  unfold slim_calc_prrate
  split_ifs with hprot
  · exact ⟨0, rfl⟩
  extract_lets rate4k rate11k
  split
  next rate x hseed =>
  have hrate : rate ≠ 0 ∧ rate < 2 ^ 32 - 1 := by
    split at hseed
    · have hle : rate11k ≤ prop.ratem / 11025 := by
        simp only [rate11k]
        split_ifs <;> omega
      split_ifs at hseed <;> cases hseed <;> simp only [u32, rate4k] at * <;> omega
    · cases hseed
      have := (hmax.resolve_left hprot).resolve_left (by assumption)
      omega
  obtain ⟨c, e, x', hrun⟩ := @ends rate x hrate
  rw [hrun]
  exact ⟨_, rfl⟩

lemma u32_mul_ne_zero {a r : ℕ} (ha : Nat.Coprime (2 ^ 32) a) (h : r < 2 ^ 32) (hr : r ≠ 0) :
    u32 (a * r) ≠ 0 := by
  rw [u32, Ne, ← Nat.dvd_iff_mod_eq_zero, ha.dvd_mul_left]
  exact fun hd => hr (Nat.eq_zero_of_dvd_of_lt hd h)

lemma slim_nextdefine_ch_ends {ctrl : Ctrl} {chan : ℕ} (h : (ctrl.chans chan).prop.ratem < 2 ^ 32)
    (hends : RateLoopsEnd ctrl (ctrl.chans chan).prop) : (slim_nextdefine_ch ctrl chan).isSome := by
  unfold slim_nextdefine_ch
  extract_lets slc prop chrate tempr coeff
  change prop.ratem < 2 ^ 32 at h
  change RateLoopsEnd ctrl prop at hends
  obtain ⟨prrate, hpr⟩ := slim_calc_prrate_ends h hends
  obtain ⟨hzero, -, hvanish⟩ := hends
  split
  · next hnone => cases hpr.symm.trans hnone
  split
  · rfl
  next hlim =>
  split
  next n x hcoeff =>
  have hn : n ≠ 0 ∧ n < 2 ^ 32 - 1 := by
    have htempr : chrate ≤ 3600000 → tempr = chrate * 768 := fun hle =>
      Nat.mod_eq_of_lt (by simp only [SLIM_CL_PER_SUPERFRAME_DIV8]; omega)
    have hdiv : coeff ≤ tempr := Nat.div_le_self ..
    clear_value coeff tempr
    split_ifs at hcoeff with h4 h11 hexact <;> cases hcoeff
    · simp only [chrate, h4, u32] at hlim
      omega
    · refine ⟨u32_mul_ne_zero (by decide) h hzero, ?_⟩
      simp only [chrate, h11, u32] at hlim ⊢
      omega
    · omega
    · refine ⟨fun h0 => ?_, by omega⟩
      have hchrate : chrate ≠ 0 := by
        unfold chrate
        cases hb : prop.baser with
        | RATE_1HZ => exact hzero
        | RATE_11025HZ => exact u32_mul_ne_zero (by decide) h hzero
        | RATE_4000HZ =>
          have := hvanish hb fun hs => h4 ⟨hb, hs⟩
          simp only [u32]
          omega
      rw [not_not, h0, Nat.zero_mul] at hexact
      change 0 = tempr at hexact
      omega
  obtain ⟨c, e, x', hrun⟩ := @ends n x hn
  rw [hrun]
  dsimp only
  split <;> rfl

/-- Where the presence rate is computed, its loop starts from the multiplier, or from a part of it
that is zero with it. -/
lemma ratem_of_slim_calc_prrate {prop : Ch} {prrate : ℕ} (hpr : slim_calc_prrate prop = some prrate)
    (hprot : ¬ ChProto.ASYNC_SMPLX.toNat ≤ prop.prot.toNat) :
    prop.ratem ≠ 0 ∧ (prop.baser = .RATE_1HZ ∨ prop.ratem ≠ 2 ^ 32 - 1) := by
  rw [slim_calc_prrate, if_neg hprot] at hpr
  refine ⟨fun hzero => ?_, or_iff_not_imp_left.2 fun hbase hmax => ?_⟩
  · cases hb : prop.baser <;> simp [hb, hzero, u32, to_coeff_exp_zero] at hpr
  · have hnone := to_coeff_exp_max coeff_exp_fuel 0 true
    cases hb : prop.baser <;> simp_all

/-- With a channel rate of zero the second loop starts from zero. -/
lemma rateLoopsEnd_of_isSome {ctrl : Ctrl} {chan : ℕ} (h : (slim_nextdefine_ch ctrl chan).isSome) :
    RateLoopsEnd ctrl (ctrl.chans chan).prop := by
  unfold slim_nextdefine_ch at h
  extract_lets slc prop chrate tempr coeff at h
  change RateLoopsEnd ctrl prop
  split at h
  · cases h
  next prrate hpr =>
  refine ⟨fun hzero => ?_, or_iff_not_imp_left.2 fun hprot =>
    (ratem_of_slim_calc_prrate hpr hprot).2,
    fun hb hs hvanish => ?_⟩
  · have hrate : chrate = 0 := by
      cases hb : prop.baser <;> simp [chrate, hb, hzero, u32]
    simp [coeff, tempr, hrate, hzero, u32, to_coeff_exp_zero] at h
  · have hrate : chrate = 0 := by
      simp only [chrate, hb, u32]
      omega
    simp [coeff, tempr, hrate, hb, hs, u32, to_coeff_exp_zero] at h

/-- **The rate loops end** for just the channels that meet the condition. -/
theorem rate_loops_end_iff (ctrl : Ctrl) (chan : ℕ) (h : (ctrl.chans chan).prop.ratem < 2 ^ 32) :
    (slim_nextdefine_ch ctrl chan).isSome ↔ RateLoopsEnd ctrl (ctrl.chans chan).prop :=
  ⟨rateLoopsEnd_of_isSome, slim_nextdefine_ch_ends h⟩

/-- One channel at this multiple of 4000 Hertz, not defined yet. -/
def at_4000 (ratem : ℕ) : Ctrl :=
  { Ctrl.registered with
    chans _ := { Ich.free with
      state := .ALLOCATED, prop := ⟨.AUTO_ISO, .RATE_4000HZ, 0, 0, ratem, 16⟩ } }

theorem rate_loops_end_at_48k : (slim_nextdefine_ch (at_4000 12) 0).isSome :=
  (rate_loops_end_iff (at_4000 12) 0 (by decide)).2 (by unfold RateLoopsEnd; decide)

/-- A channel defined with the multiplier zero: no number of rounds is enough. -/
theorem zero_rate_never_ends :
    slim_define_ch (at_4000 1) ⟨.AUTO_ISO, .RATE_4000HZ, 0, 0, 0, 16⟩ [0] false = none ∧
      ∀ fuel e x, to_coeff_exp fuel 0 e x = none :=
  ⟨by decide, to_coeff_exp_zero⟩

end KernelExtra.Slimbus
