/-
What the counters of the SLIMbus scheduler mean.

It has two counters for the interval it works on. This module says which slots they leave open
(`Open2`), and how each step changes that set: going to the next level keeps a slot open when both
slots it comes from are open; packing a channel takes its slots out, except in one case of
`Placing`, `beyond`, where it reaches into slots that are taken and a counter goes below zero. At
the end the control space lies within what is open.
-/
import KernelExtra.Slimbus.Schedule

namespace KernelExtra.Slimbus

open Function Nat

/-! ## Two halves -/

/-- The slots that two counters leave open: modulo the interval, the bottom of the first half
and the bottom of the second. -/
def Open2 (curintr curmaxsl : ℕ) (open0 open1 : ℤ) (x : ℕ) : Prop :=
  ((x % curintr : ℕ) : ℤ) < open0 ∨
    ((curmaxsl : ℤ) ≤ (x % curintr : ℕ) ∧ ((x % curintr : ℕ) : ℤ) < curmaxsl + open1)

/-- The counters of the halves are in range. -/
structure Room2 (curintr curmaxsl : ℕ) (open0 open1 : ℤ) : Prop where
  lo0 : 0 ≤ open0
  hi0 : open0 ≤ curmaxsl
  lo1 : 0 ≤ open1
  hi1 : curmaxsl + open1 ≤ curintr

section Two

variable {curintr curmaxsl : ℕ} {open0 open1 : ℤ}

lemma open2_congr {x y : ℕ} (h : x % curintr = y % curintr) :
    Open2 curintr curmaxsl open0 open1 x ↔ Open2 curintr curmaxsl open0 open1 y := by
  unfold Open2
  rw [h]

lemma mod_two_mul_cases (x k : ℕ) : x % (2 * k) = x % k ∨ x % (2 * k) = x % k + k := by
  rw [mul_comm, mod_mul]
  rcases mod_two_eq_zero_or_one (x / k) with h | h <;> simp [h]

lemma halve_eq (k : ℕ) (open0 open1 : ℤ) :
    halve k open0 open1 =
      if min open0 open1 < k then (min open0 open1, 0) else (↑k, min open0 open1 - k) := by
  have hmin : (if open1 < open0 then open1 - (k : ℤ) else open0 - k) = min open0 open1 - k := by
    split_ifs <;> omega
  unfold halve
  simp only [hmin]
  rcases lt_or_ge (min open0 open1) (k : ℤ) with h | h
  · rw [if_pos (by omega), if_pos h, add_sub_cancel]
  · rw [if_neg (by omega), if_neg (by omega)]

lemma halve_fst_le (k : ℕ) (open0 open1 : ℤ) : (halve k open0 open1).1 ≤ k := by
  rw [halve_eq]
  split_ifs <;> simp only <;> omega

lemma halve_bottom (k : ℕ) (open0 open1 : ℤ) :
    (halve k open0 open1).1 = k ∨ (halve k open0 open1).2 = 0 := by
  rw [halve_eq]
  split_ifs <;> simp

lemma halve_of_neg {k : ℕ} {open0 open1 : ℤ} (h1 : open1 < 0) (h0 : 0 ≤ open0) :
    (halve k open0 open1).1 < 0 := by
  rw [halve_eq, if_pos (by omega)]
  omega

lemma open2_halve_iff (k l : ℕ) (open0 open1 : ℤ) (x : ℕ) :
    Open2 l k (halve k open0 open1).1 (halve k open0 open1).2 x ↔
      ((x % l : ℕ) : ℤ) < min open0 open1 := by
  rw [halve_eq]
  unfold Open2
  split_ifs with h
  · simp
  · omega

lemma open2_halve (k : ℕ) {x : ℕ}
    (h : Open2 curmaxsl k (halve k open0 open1).1 (halve k open0 open1).2 x) :
    Open2 (2 * curmaxsl) curmaxsl open0 open1 x := by
  rw [open2_halve_iff] at h
  unfold Open2
  rcases mod_two_mul_cases x curmaxsl with hx | hx <;> rw [hx] <;> omega

lemma Room2.halve (hroom : Room2 (2 * curmaxsl) curmaxsl open0 open1)
    (hpos : 0 < (halve (curmaxsl / 2) open0 open1).1) :
    Room2 curmaxsl (curmaxsl / 2) (halve (curmaxsl / 2) open0 open1).1
      (halve (curmaxsl / 2) open0 open1).2 := by
  obtain ⟨-, -, -, hhi1⟩ := hroom
  rw [halve_eq] at hpos ⊢
  split_ifs at hpos ⊢ <;> constructor <;> simp only at hpos ⊢ <;> omega

end Two

/-! ## One channel in two halves -/

/-- Where a channel of `len` slots can go: to the top of what is open in the second half,
across the border into the first, to the top of what is open in the first, or `over` the
border into a half that is not completely open. -/
inductive Placing (curmaxsl len : ℕ) (open0 open1 : ℤ) (last : Bool) : Placed → Prop
  | upper {off : ℕ} (hoff : (off : ℤ) = curmaxsl + open1 - len) (hlen : len ≤ open1)
      (hchoice : open0 ≤ open1 ∨ (last = true ∧ open0 = curmaxsl)) :
      Placing curmaxsl len open0 open1 last ⟨off, open0, open1 - len, false⟩
  | across {off : ℕ} (hoff : (off : ℤ) = curmaxsl + open1 - len) (h0 : open0 = curmaxsl)
      (h1 : open1 < len) (hlen : len ≤ open0 + open1) :
      Placing curmaxsl len open0 open1 last ⟨off, open0 + (open1 - len), 0, false⟩
  | lower {off : ℕ} (hoff : (off : ℤ) = open0 - len) (hlen : len ≤ open0) (h10 : open1 < open0)
      (hlast : ¬ (last = true ∧ open0 = curmaxsl)) :
      Placing curmaxsl len open0 open1 last ⟨off, open0 - len, open1, false⟩
  | beyond (h01 : open0 ≤ open1) (h1 : open1 < len) (h0 : open0 ≠ curmaxsl) :
      Placing curmaxsl len open0 open1 last
        ⟨u32_of_int (curmaxsl + (open1 - len)), open0, open1 - len, false⟩

lemma u32_of_int_eq {n : ℤ} (h0 : 0 ≤ n) (h : n < 2 ^ 32) : (u32_of_int n : ℤ) = n := by
  unfold u32_of_int
  rw [Int.toNat_of_nonneg (Int.emod_nonneg _ (by norm_num)), Int.emod_eq_of_lt h0 h]

variable {curmaxsl : ℕ}

section

variable {curintr curmaxsl : ℕ} {open0 open1 : ℤ}

/-- **What a round of the 4k family can do.** -/
theorem place_4k_spec (slc : Ich) (last : Bool) (hroom : Room2 curintr curmaxsl open0 open1)
    (hintr : curintr < 2 ^ 32) (hfull : (place_4k slc last curmaxsl open0 open1).full = false) :
    Placing curmaxsl slc.seglen open0 open1 last (place_4k slc last curmaxsl open0 open1) := by
  obtain ⟨-, hhi0, hlo1, hhi1⟩ := hroom
  unfold place_4k at hfull ⊢
  simp only at hfull ⊢
  split_ifs at hfull ⊢ with hchoice hover hlen
  · have hle : 0 ≤ open0 + (open1 - slc.seglen) := by simpa using hfull
    rw [show decide (open0 + (open1 - (slc.seglen : ℤ)) < 0) = false from hfull]
    refine .across ?_ hover.2 (by omega) (by omega)
    rw [u32_of_int_eq (by omega) (by omega)]
    omega
  · rcases lt_or_ge open1 (slc.seglen : ℤ) with h1 | h1
    · exact .beyond (by omega) h1 (by omega)
    · refine .upper ?_ h1 hchoice
      rw [u32_of_int_eq (by omega) (by omega)]
      omega
  · refine .lower ?_ (by omega) (by omega) (fun h => hchoice (.inr h))
    exact u32_of_int_eq (by omega) (by omega)

/-- What it means that a channel at `off` has taken its slots out of the open ones. -/
structure Fill (curintr curmaxsl len : ℕ) (open0 open1 : ℤ) (r : Placed) : Prop where
  room : Room2 curintr curmaxsl r.open0 r.open1
  le : r.newoff + len ≤ curintr
  split : ∀ x, Open2 curintr curmaxsl r.open0 r.open1 x ∨
      (r.newoff ≤ x % curintr ∧ x % curintr < r.newoff + len) →
    Open2 curintr curmaxsl open0 open1 x
  apart : ∀ x, Open2 curintr curmaxsl r.open0 r.open1 x →
    ¬ (r.newoff ≤ x % curintr ∧ x % curintr < r.newoff + len)

variable {last : Bool}

/-- **A channel takes open slots**, if it does not go over the border. -/
theorem Placing.fill {len : ℕ} {r : Placed}
    (h : Placing curmaxsl len open0 open1 last r) (hroom : Room2 curintr curmaxsl open0 open1)
    (hover : ¬ (open0 ≤ open1 ∧ open1 < len ∧ open0 ≠ curmaxsl)) :
    Fill curintr curmaxsl len open0 open1 r := by
  obtain ⟨hlo0, hhi0, hlo1, hhi1⟩ := hroom
  induction h with
  | upper hoff hlen hchoice =>
    refine ⟨⟨?_, ?_, ?_, ?_⟩, ?_, fun x => ?_, fun x => ?_⟩ <;> try unfold Open2
    all_goals simp only; omega
  | across hoff h0 h1 hlen =>
    refine ⟨⟨?_, ?_, ?_, ?_⟩, ?_, fun x => ?_, fun x => ?_⟩ <;> try unfold Open2
    all_goals simp only; omega
  | lower hoff hlen h10 hlast =>
    refine ⟨⟨?_, ?_, ?_, ?_⟩, ?_, fun x => ?_, fun x => ?_⟩ <;> try unfold Open2
    all_goals simp only; omega
  | beyond h01 h1 h0 =>
    exact absurd ⟨h01, h1, h0⟩ hover

lemma Placing.of_over {len : ℕ} {r : Placed} (h : Placing curmaxsl len open0 open1 last r)
    (hover : open0 ≤ open1 ∧ open1 < len ∧ open0 ≠ curmaxsl) :
    r = ⟨u32_of_int (curmaxsl + (open1 - len)), open0, open1 - len, false⟩ := by
  induction h with
  | upper hoff hlen hchoice => omega
  | across hoff h0 h1 hlen => exact absurd h0 hover.2.2
  | lower hoff hlen h10 hlast => omega
  | beyond h01 h1 h0 => rfl

lemma Placing.bottom {len : ℕ} {r : Placed}
    (h : Placing curmaxsl len open0 open1 last r) (hroom : Room2 curintr curmaxsl open0 open1)
    (hlast : last = true ∨ curmaxsl = 1) (hbottom : open0 = curmaxsl ∨ open1 ≤ 0) :
    r.open0 = curmaxsl ∨ r.open1 ≤ 0 := by
  obtain ⟨-, -, -, -⟩ := hroom
  induction h with
  | upper hoff hlen hchoice => exact hbottom.imp_right fun _ => by simp only; omega
  | across hoff h0 h1 hlen => exact .inr (le_refl 0)
  | lower hoff hlen h10 hnot =>
    refine .inr ?_
    rcases hlast with hlast | hone
    · exact hbottom.resolve_left fun h0 => hnot ⟨hlast, h0⟩
    · simp only
      omega
  | beyond h01 h1 h0 => exact .inr (by simp only; omega)

lemma place_4k_of_neg (slc : Ich) (last : Bool) (h1 : open1 < 0) (h0 : 0 ≤ open0)
    (hlt : open0 < curmaxsl) (hfull : (place_4k slc last curmaxsl open0 open1).full = false) :
    slc.seglen ≤ open0 ∧ (place_4k slc last curmaxsl open0 open1).open0 = open0 - slc.seglen ∧
      (place_4k slc last curmaxsl open0 open1).open1 = open1 := by
  unfold place_4k at hfull ⊢
  rw [if_neg (by omega)] at hfull ⊢
  split_ifs at hfull ⊢
  exact ⟨by omega, rfl, rfl⟩

end

/-! ## The control space -/

variable {x : ℕ}

/-- With channels of coefficient 3 alone, the six counters are copies of the two. -/
def copies (open0 open1 : ℤ) (j : ℕ) : ℤ := if j % 2 = 0 then open0 else open1

end KernelExtra.Slimbus
