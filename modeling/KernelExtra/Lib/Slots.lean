/-
Segments that repeat, and a frame that is packed with them.

A segment of `len` slots at `off` repeats every `per` slots: `Covers` looks at a slot modulo the
period. `Packed` is the invariant of a packer: the segments placed so far fit, no two of them share
a slot, and none of them covers a slot that is still `opn`.
-/
import Mathlib

namespace KernelExtra.Slots

open Function Nat

/-! ## One segment -/

/-- `len` slots at `off`, every `per` slots. -/
structure Seg where
  off : ℕ
  per : ℕ
  len : ℕ
  deriving DecidableEq

def Seg.Covers (s : Seg) (x : ℕ) : Prop := s.off ≤ x % s.per ∧ x % s.per < s.off + s.len

/-- The segment stays inside its period, which divides the frame. -/
structure Seg.Fits (n : ℕ) (s : Seg) : Prop where
  pos : 0 < s.per
  dvd : s.per ∣ n
  le : s.off + s.len ≤ s.per

namespace Seg

variable {n : ℕ} {s : Seg}

lemma covers_add_frame (hdvd : s.per ∣ n) (x : ℕ) : s.Covers (x + n) ↔ s.Covers x := by
  obtain ⟨-, rfl⟩ := hdvd
  unfold Covers
  rw [add_mul_mod_self_left]

def turn (k : ℕ) (s : Seg) : Seg :=
  { s with off := if s.per ≤ s.off + k then s.off + k - s.per else s.off + k }

/-- It would be cut in two if it covered the slot that comes to lie at the beginning of a period. -/
lemma Fits.turn (h : s.Fits n) {k : ℕ} (hk : k ≤ s.per) (hk0 : 0 < k)
    (hcut : ¬ s.Covers (s.per - k)) :
    (s.turn k).Fits n ∧ ∀ x, (s.turn k).Covers (x + k) ↔ s.Covers x := by
  have hle := h.le
  have hcut' : s.off + k < s.per → s.off + s.len + k ≤ s.per := by
    unfold Covers at hcut
    rw [mod_eq_of_lt (by omega)] at hcut
    omega
  refine ⟨⟨h.pos, h.dvd, ?_⟩, fun x => ?_⟩
  · dsimp only [Seg.turn]
    split_ifs <;> omega
  · have hlt := mod_lt x h.pos
    have hadd : (x + k) % s.per = if s.per ≤ x % s.per + k then x % s.per + k - s.per
        else x % s.per + k := by
      rw [add_mod]
      rcases eq_or_lt_of_le hk with rfl | hlt'
      · rw [mod_self, add_zero, mod_mod, if_pos (by omega)]
        omega
      · rw [mod_eq_of_lt hlt']
        split_ifs with hge
        · rw [mod_eq_sub_mod hge, mod_eq_of_lt (by omega)]
        · exact mod_eq_of_lt (by omega)
    unfold Covers
    rw [show (s.turn k).per = s.per from rfl, show (s.turn k).len = s.len from rfl, hadd]
    dsimp only [Seg.turn]
    split_ifs <;> omega

end Seg

/-! ## A frame that is being packed -/

section

variable {ι : Type*} {n : ℕ} {seg : ι → Seg} {done : List ι} {opn opn' : ℕ → Prop}

/-- The segments of `done` have their places, and the slots of `opn` are still open. -/
structure Packed (n : ℕ) (seg : ι → Seg) (done : List ι) (opn : ℕ → Prop) : Prop where
  fits : ∀ c ∈ done, (seg c).Fits n
  apart : ∀ c ∈ done, ∀ d ∈ done, c ≠ d → ∀ x, (seg c).Covers x → ¬ (seg d).Covers x
  free : ∀ c ∈ done, ∀ x, (seg c).Covers x → ¬ opn x

lemma Packed.nil (n : ℕ) (seg : ι → Seg) (opn : ℕ → Prop) : Packed n seg [] opn where
  fits := by simp
  apart := by simp
  free := by simp

variable (h : Packed n seg done opn)
include h

lemma Packed.mono (hopn : ∀ x, opn' x → opn x) : Packed n seg done opn' where
  fits := h.fits
  apart := h.apart
  free c hc x hx hx' := h.free c hc x hx (hopn x hx')

lemma Packed.congr {seg' : ι → Seg} {done' : List ι}
    (hdone : ∀ c, c ∈ done' → c ∈ done) (hseg : ∀ c ∈ done', seg' c = seg c) :
    Packed n seg' done' opn where
  fits c hc := hseg c hc ▸ h.fits c (hdone c hc)
  apart c hc d hd hcd := by
    rw [hseg c hc, hseg d hd]
    exact h.apart c (hdone c hc) d (hdone d hd) hcd
  free c hc := hseg c hc ▸ h.free c (hdone c hc)

/-- **One more segment**, on slots that were open and are not open any more. -/
theorem Packed.place [DecidableEq ι] {c : ι} (hc : c ∉ done) {s : Seg}
    (hs : s.Fits n) (hopn : ∀ x, s.Covers x → opn x) (hopn' : ∀ x, opn' x → opn x ∧ ¬ s.Covers x) :
    Packed n (update seg c s) (c :: done) opn' := by
  have hne : ∀ d ∈ done, update seg c s d = seg d := fun d hd =>
    update_of_ne (ne_of_mem_of_not_mem hd hc) ..
  have hself : update seg c s c = s := update_self ..
  refine ⟨fun d hd => ?_, fun d hd d' hd' hdd' x => ?_, fun d hd x => ?_⟩
  · rcases List.mem_cons.1 hd with hdc | hd
    · rw [hdc, hself]
      exact hs
    · rw [hne d hd]
      exact h.fits d hd
  · -- the new segment is on open slots, and the old ones are not
    rcases List.mem_cons.1 hd with hdc | hd <;> rcases List.mem_cons.1 hd' with hdc' | hd'
    · exact absurd (hdc.trans hdc'.symm) hdd'
    · rw [hdc, hself, hne d' hd']
      exact fun hx hx' => h.free d' hd' x hx' (hopn x hx)
    · rw [hdc', hself, hne d hd]
      exact fun hx hx' => h.free d hd x hx (hopn x hx')
    · rw [hne d hd, hne d' hd']
      exact h.apart d hd d' hd' hdd' x
  · rcases List.mem_cons.1 hd with hdc | hd
    · rw [hdc, hself]
      exact fun hx hx' => (hopn' x hx').2 hx
    · rw [hne d hd]
      exact fun hx hx' => h.free d hd x hx (hopn' x hx').1

/-- **Turning the frame** by `k` slots, when no segment is cut in two by that. -/
theorem Packed.turn {k : ℕ} (hk0 : 0 < k) (hkn : k ≤ n)
    (hk : ∀ c ∈ done, k ≤ (seg c).per) (hcut : ∀ c ∈ done, ¬ (seg c).Covers ((seg c).per - k))
    (hopn : ∀ x, opn' (x + k) → opn x) (hper : ∀ x, opn' x → opn' (x + n)) :
    Packed n (fun c => (seg c).turn k) done opn' := by
  -- every slot is the image of one, if need be of one in the next frame
  have hback : ∀ c ∈ done, ∀ x, ((seg c).turn k).Covers x → (seg c).Covers (x + n - k) := by
    intro c hc x hx
    have hturn := (h.fits c hc).turn (hk c hc) hk0 (hcut c hc)
    rw [← hturn.2, Nat.sub_add_cancel (by omega)]
    exact (Seg.covers_add_frame hturn.1.dvd x).2 hx
  refine ⟨fun c hc => ((h.fits c hc).turn (hk c hc) hk0 (hcut c hc)).1, ?_, ?_⟩
  · intro c hc d hd hcd x hx hx'
    exact h.apart c hc d hd hcd _ (hback c hc x hx) (hback d hd x hx')
  · intro c hc x hx hx'
    refine h.free c hc _ (hback c hc x hx) (hopn _ ?_)
    rw [Nat.sub_add_cancel (by omega)]
    exact hper x hx'

end

end KernelExtra.Slots
