/-
Does `usedslots` say what the channels on the arrays take up?

Within a call, the slots of the pending removals are missing from it, and `Owes` carries that debt
from the loop that subtracts them to the loop that gives them back or takes the channels off. The
debt is settled only when a removed channel without users is on its array as often as it is on the
list, which the source does not see to. `Settles` is the condition on a call.
-/
import KernelExtra.Slimbus.Commit
import KernelExtra.Lib.Run

namespace KernelExtra.Slimbus

open Tally (reading_update_of_eq)
open Run (exec Ok)
open KernelExtra List

/-! ## Sums over the arrays -/

def slots (chans : ℕ → Ich) (l : List ℕ) : ℕ := (l.map fun c => (chans c).sl.toNat).sum

@[simp] lemma slots_nil (chans : ℕ → Ich) : slots chans [] = 0 := rfl

@[simp] lemma slots_cons (chans : ℕ → Ich) (c : ℕ) (l : List ℕ) :
    slots chans (c :: l) = (chans c).sl.toNat + slots chans l := rfl

lemma slots_congr {chans chans' : ℕ → Ich} {l : List ℕ}
    (h : ∀ c ∈ l, (chans' c).sl = (chans c).sl) : slots chans' l = slots chans l :=
  congrArg sum (map_congr_left fun c hc => congrArg UInt32.toNat (h c hc))

lemma slots_insert_ch (chans : ℕ → Ich) (c : ℕ) (l : List ℕ) :
    slots chans (insert_ch chans c l) = slots chans l + (chans c).sl.toNat := by
  have hperm : (insert_ch chans c l).Perm (c :: l) := by
    rw [insert_ch_eq_orderedInsert]
    exact perm_orderedInsert _ c l
  exact ((hperm.map _).sum_eq).trans (add_comm ..)

lemma slots_erase {chans : ℕ → Ich} {c : ℕ} {l : List ℕ} (hc : c ∈ l) :
    slots chans (l.erase c) + (chans c).sl.toNat = slots chans l :=
  (add_comm ..).trans ((perm_cons_erase hc).map fun c => (chans c).sl.toNat).sum_eq.symm

def Ctrl.total (ctrl : Ctrl) : ℕ := slots ctrl.chans ctrl.chc1 + slots ctrl.chans ctrl.chc3

lemma Ctrl.total_eq (ctrl : Ctrl) (k : Coeff) :
    ctrl.total = slots ctrl.chans (ctrl.arr k) + slots ctrl.chans (ctrl.arr k.other) := by
  cases k
  · rfl
  · exact add_comm ..

lemma Ctrl.total_congr {ctrl ctrl' : Ctrl} (harr : ∀ k, ctrl'.arr k = ctrl.arr k)
    (hsl : ∀ k, ∀ c ∈ ctrl.arr k, (ctrl'.chans c).sl = (ctrl.chans c).sl) :
    ctrl'.total = ctrl.total := by
  rw [ctrl'.total_eq .COEFF_1, ctrl.total_eq, harr, harr, slots_congr (hsl _), slots_congr (hsl _)]

/-! ## The debt of pending removals -/

/-- `usedslots` and the debt `n` make up the total, and every channel is on an array of its
coefficient only. -/
structure Owes (ctrl : Ctrl) (n : ℕ) : Prop where
  allocbw : ctrl.allocbw = false
  wrapped : ctrl.wrapped = false
  coeff : ∀ k, ∀ c ∈ ctrl.arr k, (ctrl.chans c).coeff = k
  fits : ctrl.total < 2 ^ 32
  owes : ctrl.usedslots.toNat + n = ctrl.total

section Steps

variable {ctrl ctrl' : Ctrl} {n : ℕ} {c : ℕ} {l : List ℕ}

lemma Owes.congr (h : Owes ctrl n) (hb : ctrl'.allocbw = ctrl.allocbw)
    (harr : ∀ k, ctrl'.arr k = ctrl.arr k) (hused : ctrl'.usedslots = ctrl.usedslots)
    (hwrapped : ctrl'.wrapped = ctrl.wrapped)
    (hsl : ∀ k, ∀ c ∈ ctrl.arr k, (ctrl'.chans c).sl = (ctrl.chans c).sl)
    (hcoeff : ∀ k, ∀ c ∈ ctrl.arr k, (ctrl'.chans c).coeff = (ctrl.chans c).coeff) :
    Owes ctrl' n := by
  have htotal := Ctrl.total_congr harr hsl
  refine ⟨hb.trans h.allocbw, hwrapped.trans h.wrapped, fun k c hc => ?_,
    htotal ▸ h.fits, by rw [hused, htotal, h.owes]⟩
  rw [harr] at hc
  rw [hcoeff k c hc, h.coeff k c hc]

lemma Owes.set_chan (h : Owes ctrl n) {slc : Ich} (hsl : slc.sl = (ctrl.chans c).sl)
    (hcoeff : slc.coeff = (ctrl.chans c).coeff) : Owes (ctrl.set_chan c slc) n := by
  refine h.congr rfl (fun k => arr_set_chan ..) rfl rfl ?_ ?_
  · exact fun _ x _ => reading_update_of_eq hsl x
  · exact fun _ x _ => reading_update_of_eq hcoeff x

lemma Owes.set_state (h : Owes ctrl n) (state : ChState) : Owes (ctrl.set_state c state) n :=
  h.set_chan (by rfl) (by rfl)

lemma toNat_sub_slots {a b : UInt32} (h : b.toNat ≤ a.toNat) :
    (a - b).toNat = a.toNat - b.toNat := UInt32.toNat_sub_of_le _ _ h

lemma toNat_add_slots {a b : UInt32} (h : a.toNat + b.toNat < 2 ^ 32) :
    (a + b).toNat = a.toNat + b.toNat := by
  rw [UInt32.toNat_add, Nat.mod_eq_of_lt h]

lemma Owes.sub_slots (h : Owes ctrl n) {sl : UInt32} (hle : sl.toNat ≤ ctrl.usedslots.toNat) :
    Owes (ctrl.sub_slots sl) (n + sl.toNat) := by
  have htotal : (ctrl.sub_slots sl).total = ctrl.total :=
    Ctrl.total_congr (fun k => arr_sub_slots ..) (fun _ x _ => by rw [chans_sub_slots])
  refine ⟨(sameFrame_sub_slots ..).allocbw.trans h.allocbw, ?_, ?_, htotal ▸ h.fits, ?_⟩
  · rw [wrapped_sub_slots, h.allocbw, h.wrapped]
    simpa [UInt32.lt_iff_toNat_lt] using hle
  · simpa using h.coeff
  · have howes := h.owes
    rw [usedslots_sub_slots, htotal, h.allocbw, charge, if_neg Bool.false_ne_true,
      toNat_sub_slots hle]
    omega

lemma Owes.add_slots {sl : UInt32} (h : Owes ctrl (n + sl.toNat)) : Owes (ctrl.add_slots sl) n := by
  have htotal : (ctrl.add_slots sl).total = ctrl.total :=
    Ctrl.total_congr (fun k => arr_add_slots ..) (fun _ x _ => by rw [chans_add_slots])
  have howes := h.owes
  have hfits := h.fits
  refine ⟨(sameFrame_add_slots ..).allocbw.trans h.allocbw, ?_, ?_, htotal ▸ h.fits, ?_⟩
  · rw [wrapped_add_slots, h.wrapped]
  · simpa using h.coeff
  · rw [usedslots_add_slots, htotal, h.allocbw, charge, if_neg Bool.false_ne_true,
      toNat_add_slots (by omega)]
    omega

lemma Owes.slim_remove_ch (h : Owes ctrl (n + (ctrl.chans c).sl.toNat))
    (hc : c ∈ ctrl.arr (ctrl.chans c).coeff) : Owes (slim_remove_ch ctrl c).1 n := by
  have hsl : ∀ x, ((Slimbus.slim_remove_ch ctrl c).1.chans x).sl = (ctrl.chans x).sl := by
    rw [chans_slim_remove_ch, if_pos hc]
    exact reading_update_of_eq (φ := Ich.sl) (by rfl)
  have hcoeff : ∀ x, ((Slimbus.slim_remove_ch ctrl c).1.chans x).coeff = (ctrl.chans x).coeff := by
    rw [chans_slim_remove_ch, if_pos hc]
    exact reading_update_of_eq (φ := Ich.coeff) (by rfl)
  have htotal : (Slimbus.slim_remove_ch ctrl c).1.total + (ctrl.chans c).sl.toNat = ctrl.total := by
    rw [Ctrl.total_eq, ctrl.total_eq,
      arr_slim_remove_ch, arr_slim_remove_ch, if_pos rfl, if_neg (Coeff.other_ne _),
      slots_congr (fun x _ => hsl x), slots_congr (fun x _ => hsl x), ← slots_erase hc]
    omega
  have howes := h.owes
  have hfits := h.fits
  refine ⟨(sameFrame_slim_remove_ch ..).allocbw.trans h.allocbw, ?_, fun k x hx => ?_, by omega, ?_⟩
  · rw [wrapped_slim_remove_ch, h.wrapped]
  · rw [hcoeff]
    rw [arr_slim_remove_ch] at hx
    split_ifs at hx
    · exact h.coeff k x (mem_of_mem_erase hx)
    · exact h.coeff k x hx
  · rw [usedslots_slim_remove_ch]
    omega

lemma Owes.slim_add_ch (h : Owes ctrl n)
    (hfits : (ctrl.chans c).joins → ctrl.total + (ctrl.chans c).sl.toNat < 2 ^ 32) :
    Owes (slim_add_ch ctrl c) n := by
  unfold Slimbus.slim_add_ch
  dsimp only
  split_ifs with hst
  · exact h
  · have hjoins : (ctrl.chans c).joins := by simpa [Ich.joins, ← ChState.not_lt] using hst
    have htotal : (ctrl.set_arr (ctrl.chans c).coeff
        (insert_ch ctrl.chans c (ctrl.arr (ctrl.chans c).coeff))).total =
        ctrl.total + (ctrl.chans c).sl.toNat := by
      rw [Ctrl.total_eq, ctrl.total_eq (ctrl.chans c).coeff, arr_set_arr,
        arr_set_arr, if_pos rfl, if_neg (Coeff.other_ne _).symm, chans_set_arr, slots_insert_ch]
      omega
    refine Owes.add_slots ⟨(sameFrame_set_arr ..).allocbw.trans h.allocbw,
      ?_, fun k x hx => ?_, ?_, ?_⟩
    · rw [wrapped_set_arr, h.wrapped]
    · rw [chans_set_arr]
      rw [arr_set_arr] at hx
      split_ifs at hx with hk
      · rcases mem_insert_ch.1 hx with rfl | hx
        · exact hk.symm
        · exact hk ▸ h.coeff _ x hx
      · exact h.coeff k x hx
    · rw [htotal]
      exact hfits hjoins
    · rw [htotal, usedslots_set_arr, ← h.owes]
      omega

end Steps

/-! ## Loops -/

section Loops

variable {ctrl : Ctrl} {n : ℕ} {l : List ℕ}

lemma Owes.pend_define {c : ℕ} (h : Owes ctrl n)
    (hfits : (ctrl.chans c).joins → ctrl.total + (ctrl.chans c).sl.toNat < 2 ^ 32) :
    Owes (pend_define ctrl c) n := by
  unfold Slimbus.pend_define
  dsimp only
  split_ifs
  · exact (h.slim_add_ch hfits).set_state _
  · exact h.slim_add_ch hfits

def joining_slots (chans : ℕ → Ich) (l : List ℕ) : ℕ :=
  slots chans (l.filter fun c => (chans c).joins)

lemma joining_slots_cons (chans : ℕ → Ich) (c : ℕ) (l : List ℕ) : joining_slots chans (c :: l) =
    (if (chans c).joins then (chans c).sl.toNat else 0) + joining_slots chans l := by
  unfold joining_slots
  by_cases h : (chans c).joins <;> simp [h]

lemma joining_slots_pend_define (c : ℕ) (l : List ℕ) :
    joining_slots (Slimbus.pend_define ctrl c).chans l = joining_slots ctrl.chans l := by
  unfold joining_slots
  simp only [reading_pend_define (φ := Ich.joins) _ _ _ pending_joins]
  exact slots_congr fun x _ => reading_pend_define (φ := Ich.sl) _ _ _ pending_sl

lemma total_pend_define (h : Owes ctrl n) {c : ℕ}
    (hfits : (ctrl.chans c).joins → ctrl.total + (ctrl.chans c).sl.toNat < 2 ^ 32) :
    (Slimbus.pend_define ctrl c).total =
      ctrl.total + if (ctrl.chans c).joins then (ctrl.chans c).sl.toNat else 0 := by
  have howes := (h.pend_define hfits).owes
  have hold := h.owes
  rw [← howes, usedslots_pend_define, usedslots_slim_add_ch, h.allocbw]
  by_cases hj : (ctrl.chans c).joins
  · have := hfits hj
    simp only [hj, if_true, charge, if_neg Bool.false_ne_true]
    rw [toNat_add_slots (by omega)]
    omega
  · simp [hj]
    omega

lemma Owes.foldl_pend_define (h : Owes ctrl n)
    (hfits : ctrl.total + joining_slots ctrl.chans l < 2 ^ 32) :
    Owes (l.foldl Slimbus.pend_define ctrl) n ∧
      (l.foldl Slimbus.pend_define ctrl).total = ctrl.total + joining_slots ctrl.chans l := by
  induction l generalizing ctrl with
  | nil => exact ⟨h, rfl⟩
  | cons c l ih =>
    rw [joining_slots_cons] at hfits ⊢
    have hone : (ctrl.chans c).joins → ctrl.total + (ctrl.chans c).sl.toNat < 2 ^ 32 := by
      intro hj
      rw [if_pos hj] at hfits
      omega
    have htotal := total_pend_define h hone
    obtain ⟨h', htotal'⟩ := ih (h.pend_define hone) (by
      rw [joining_slots_pend_define, htotal]
      omega)
    refine ⟨h', htotal'.trans ?_⟩
    rw [joining_slots_pend_define, htotal]
    omega

lemma Owes.foldl_pend_removal (h : Owes ctrl n) (hle : slots ctrl.chans l ≤ ctrl.usedslots.toNat) :
    Owes (l.foldl pend_removal ctrl) (n + slots ctrl.chans l) := by
  induction l generalizing ctrl n with
  | nil => exact h
  | cons c l ih =>
    rw [slots_cons] at hle ⊢
    have hsl : ∀ x, ((pend_removal ctrl c).chans x).sl = (ctrl.chans x).sl := by
      intro x
      simp only [pend_removal, chans_set_state, chans_sub_slots]
      exact reading_update_of_eq (φ := Ich.sl) (by rfl) x
    have hstep : Owes (pend_removal ctrl c) (n + (ctrl.chans c).sl.toNat) :=
      (h.sub_slots (by omega)).set_state _
    have hused : (pend_removal ctrl c).usedslots.toNat =
        ctrl.usedslots.toNat - (ctrl.chans c).sl.toNat := by
      simp only [pend_removal, usedslots_set_state, usedslots_sub_slots, h.allocbw, charge,
        if_neg Bool.false_ne_true]
      exact toNat_sub_slots (by omega)
    have hrest : slots (pend_removal ctrl c).chans l = slots ctrl.chans l :=
      slots_congr fun x _ => hsl x
    have := ih hstep (by omega)
    rwa [hrest, add_assoc] at this

lemma Owes.foldl {f : Ctrl → ℕ → Ctrl} (hf : ∀ {ctrl : Ctrl} {c}, Owes ctrl n → Owes (f ctrl c) n)
    (h : Owes ctrl n) (l : List ℕ) : Owes (l.foldl f ctrl) n :=
  foldlRecOn (motive := (Owes · n)) l f h fun _ h _ _ => hf h

lemma Owes.foldl_revert_removal (h : Owes ctrl (n + slots ctrl.chans l)) :
    Owes (l.foldl (changes_removal true) ctrl) n := by
  induction l generalizing ctrl with
  | nil => exact h
  | cons c l ih =>
    have hsl : ∀ x, ((changes_removal true ctrl c).chans x).sl = (ctrl.chans x).sl := by
      rw [chans_revert_removal]
      exact reading_update_of_eq (φ := Ich.sl) (by rfl)
    rw [slots_cons, add_comm (ctrl.chans c).sl.toNat, ← add_assoc] at h
    refine ih ?_
    rw [slots_congr fun x _ => hsl x]
    exact h.add_slots.set_chan (by rw [chans_add_slots]; rfl) (by rw [chans_add_slots])

lemma slots_le_of_sublist {chans : ℕ → Ich} {l l' : List ℕ} (h : l.Sublist l') :
    slots chans l ≤ slots chans l' :=
  (h.map fun c => (chans c).sl.toNat).sum_le_sum fun _ _ => zero_le

lemma slots_pending_of_revert_define (ctrl : Ctrl) (c : ℕ) (l : List ℕ) :
    slots (changes_define true ctrl c).chans (pending_of (changes_define true ctrl c).chans l) ≤
      slots ctrl.chans (pending_of ctrl.chans l) := by
  have hfilter : pending_of (changes_define true ctrl c).chans l =
      (pending_of ctrl.chans l).filter fun x => decide (x ≠ c) := by
    simp only [pending_of, is_pending_revert_define, filter_filter, Bool.and_comm (decide _)]
  rw [slots_congr fun x _ =>
    reading_revert_define (φ := Ich.sl) ctrl c x (fun _ => rfl) (fun _ _ => rfl), hfilter]
  exact slots_le_of_sublist filter_sublist

lemma Owes.foldl_revert_define (h : Owes ctrl n)
    (hmem : ∀ c ∈ l, (ctrl.chans c).is_pending → c ∈ ctrl.arr (ctrl.chans c).coeff)
    (hle : slots ctrl.chans (pending_of ctrl.chans l) ≤ ctrl.usedslots.toNat) :
    Owes (l.foldl (changes_define true) ctrl) n := by
  induction l generalizing ctrl with
  | nil => exact h
  | cons c l ih =>
    by_cases hc : (ctrl.chans c).is_pending
    · have hcons : pending_of ctrl.chans (c :: l) = c :: pending_of ctrl.chans l :=
        filter_cons_of_pos hc
      rw [hcons, slots_cons] at hle
      have hstep : changes_define true ctrl c =
          (Slimbus.slim_remove_ch (ctrl.sub_slots (ctrl.chans c).sl) c).1.set_state c .DEFINED := by
        exact if_pos (by simpa [Ich.is_pending] using hc)
      have howes : Owes (changes_define true ctrl c) n := by
        rw [hstep]
        refine (Owes.slim_remove_ch ?_ ?_).set_state _
        · rw [chans_sub_slots]
          exact h.sub_slots (by omega)
        · rw [chans_sub_slots, arr_sub_slots]
          exact hmem c mem_cons_self hc
      refine ih howes (mem_arr_revert_define hmem) ?_
      have hused : (changes_define true ctrl c).usedslots.toNat =
          ctrl.usedslots.toNat - (ctrl.chans c).sl.toNat := by
        rw [usedslots_revert_define, if_pos hc, h.allocbw, charge, if_neg Bool.false_ne_true]
        exact toNat_sub_slots (by omega)
      have hrest := slots_pending_of_revert_define ctrl c l
      omega
    · have hcons : pending_of ctrl.chans (c :: l) = pending_of ctrl.chans l :=
        filter_cons_of_neg hc
      rw [foldl_cons, revert_define_of_not_pending ctrl c hc]
      exact ih h (fun x hx => hmem x (mem_cons_of_mem c hx)) (hcons ▸ hle)

lemma Owes.foldl_commit_removal (h : Owes ctrl (n + slots ctrl.chans l))
    (hcount : ∀ c, (ctrl.chans c).def_ = 0 → l.count c ≤ (ctrl.arr (ctrl.chans c).coeff).count c) :
    Owes (l.foldl (changes_removal false) ctrl) n := by
  induction l generalizing ctrl with
  | nil => exact h
  | cons c l ih =>
    have hsl : ∀ x, ((changes_removal false ctrl c).chans x).sl = (ctrl.chans x).sl := fun x =>
      reading_commit_removal (φ := Ich.sl) _ _ _ (fun _ _ => rfl) (fun _ _ => rfl)
    have hdef : ∀ x, ((changes_removal false ctrl c).chans x).def_ = (ctrl.chans x).def_ := fun x =>
      reading_commit_removal (φ := Ich.def_) _ _ _ (fun _ h => h.symm) (fun _ _ => rfl)
    have hcoeff : ∀ x, ((changes_removal false ctrl c).chans x).coeff = (ctrl.chans x).coeff :=
      fun x => reading_commit_removal (φ := Ich.coeff) _ _ _ (fun _ _ => rfl) (fun _ _ => rfl)
    rw [slots_cons, add_comm (ctrl.chans c).sl.toNat, ← add_assoc] at h
    refine ih ?_ ?_
    · rw [slots_congr fun x _ => hsl x]
      rw [commit_removal_eq]
      split_ifs with hused
      · have := hcount c hused
        rw [count_cons_self] at this
        exact h.slim_remove_ch (count_pos_iff.1 (by omega))
      · exact h.add_slots.set_chan (by rw [chans_add_slots]; rfl) (by rw [chans_add_slots])
    · intro x hx
      rw [hdef] at hx
      have := hcount x hx
      rw [hcoeff, arr_commit_removal]
      rcases eq_or_ne x c with rfl | hne
      · rw [count_cons_self] at this
        rw [if_pos ⟨hx, rfl⟩, count_erase_self]
        omega
      · rw [count_cons_of_ne hne.symm] at this
        split_ifs
        · rwa [count_erase_of_ne hne]
        · exact this

end Loops

/-! ## One reconfiguration -/

/-- **When a sequence settles its debt**: the sum stays a `u32`, no more is subtracted than
is there, and a channel without users is on its array as often as it is to be removed. -/
structure SequenceSettles (ctrl : Ctrl) (sb : Client) : Prop where
  fits : ctrl.usedslots.toNat + joining_slots ctrl.chans sb.mark_define < 2 ^ 32
  covered : slots ctrl.chans sb.mark_removal ≤ ctrl.usedslots.toNat
  listed : ∀ c ∈ sb.mark_removal, (ctrl.chans c).def_ = 0 → c ∉ sb.mark_define →
    sb.mark_removal.count c ≤ (ctrl.arr (ctrl.chans c).coeff).count c

section Sequence

variable {ctrl : Ctrl} {sb : Client} {n : ℕ}

lemma Owes.pend (h : Owes ctrl 0) (hs : SequenceSettles ctrl sb) :
    Owes (pend ctrl sb) (slots ctrl.chans sb.mark_removal) ∧
      (Slimbus.pend ctrl sb).total = ctrl.total + joining_slots ctrl.chans sb.mark_define := by
  have howes := h.owes
  have hfits := hs.fits
  have hcovered := hs.covered
  set ctrl0 := { ctrl with
    pending_msgsl := ctrl.pending_msgsl + (sb.pending_msgsl - sb.cur_msgsl) } with hctrl0
  have h0 : Owes ctrl0 0 :=
    h.congr rfl (fun k => by cases k <;> rfl) rfl rfl (fun _ _ _ => rfl) (fun _ _ _ => rfl)
  have ht0 : ctrl0.total = ctrl.total := rfl
  obtain ⟨hd, htotal⟩ := h0.foldl_pend_define (by
    show ctrl0.total + joining_slots ctrl.chans sb.mark_define < 2 ^ 32
    omega)
  set ctrl1 := sb.mark_define.foldl Slimbus.pend_define ctrl0 with hctrl1
  have hsl : ∀ c, (ctrl1.chans c).sl = (ctrl.chans c).sl := by
    intro c
    rw [hctrl1, chans_foldl_pend_define]
    split_ifs <;> simp [hctrl0]
  have hslots : slots ctrl1.chans sb.mark_removal = slots ctrl.chans sb.mark_removal :=
    slots_congr fun c _ => hsl c
  have hused := hd.owes
  have hr := hd.foldl_pend_removal (l := sb.mark_removal) (by omega)
  rw [hslots, zero_add] at hr
  have hend : Owes (Slimbus.pend ctrl sb) (slots ctrl.chans sb.mark_removal) :=
    hr.foldl (fun h => h.set_state _) sb.mark_suspend
  refine ⟨hend, ?_⟩
  have htotal' : (Slimbus.pend ctrl sb).total = ctrl1.total := by
    refine Ctrl.total_congr (fun k => ?_) fun k c hc => ?_
    · unfold Slimbus.pend
      rw [arr_foldl_pend_suspend, arr_foldl_pend_removal]
    · rw [hsl, chans_pend]
      rfl
  rw [htotal', htotal]
  rfl

lemma Owes.allocate (h : Owes ctrl n) (env : Env) : Owes (allocate env ctrl).1 n :=
  h.congr (sameFrame_allocate env ctrl).allocbw (fun k => arr_allocate env ctrl k)
    (usedslots_allocate env ctrl) (wrapped_allocate env ctrl)
    (fun _ c _ => congrArg (·.sl) ((sameCore_allocate env ctrl).core c))
    (fun _ c _ => (sameCore_allocate env ctrl).coeff c)

lemma Owes.reverted (h : Owes ctrl 0) (hs : SequenceSettles ctrl sb) (env : Env) :
    Owes (reverted env ctrl sb) 0 := by
  obtain ⟨hpend, htotal⟩ := h.pend hs
  have halloc := hpend.allocate env
  have hsl : ∀ c, ((Slimbus.allocate env (Slimbus.pend ctrl sb)).1.chans c).sl =
      (ctrl.chans c).sl := fun c => congrArg (·.sl) (core_allocated env ctrl sb c)
  have hle : slots (Slimbus.allocate env (Slimbus.pend ctrl sb)).1.chans
      (pending_of (Slimbus.allocate env (Slimbus.pend ctrl sb)).1.chans sb.mark_define) ≤
      joining_slots ctrl.chans sb.mark_define := by
    rw [slots_congr fun c _ => hsl c]
    refine slots_le_of_sublist ?_
    have hfilter : pending_of (Slimbus.allocate env (Slimbus.pend ctrl sb)).1.chans sb.mark_define =
        pending_of (Slimbus.allocate env (Slimbus.pend ctrl sb)).1.chans
          (sb.mark_define.filter fun c => (ctrl.chans c).joins) := by
      rw [pending_of, pending_of, filter_filter]
      refine filter_congr fun c hc => ?_
      by_cases hp : ((Slimbus.allocate env (Slimbus.pend ctrl sb)).1.chans c).is_pending
      · have := ((is_pending_allocated env ctrl sb c hc).1 hp).2.2.2
        simp [hp, Ich.joins, this]
      · simp [hp]
    rw [hfilter]
    exact filter_sublist
  have hcovered := hs.covered
  have howes := h.owes
  have hused := hpend.owes
  have hdef := halloc.foldl_revert_define (fun c hc => mem_allocated env ctrl sb c hc) (by
      rw [usedslots_allocate]
      omega)
  have hslots : slots (sb.mark_define.foldl (changes_define true)
      (Slimbus.allocate env (Slimbus.pend ctrl sb)).1).chans sb.mark_removal =
      slots ctrl.chans sb.mark_removal := by
    refine slots_congr fun c _ => ?_
    rw [chans_foldl_revert_define _ _ _ fun c hc => mem_allocated env ctrl sb c hc, ← hsl]
    split_ifs
    · unfold Ich.unpend
      split_ifs <;> rfl
    · rfl
  refine Owes.foldl (fun h => ?_) (Owes.foldl_revert_removal ?_) sb.mark_suspend
  · exact h.set_state _
  · rwa [hslots, zero_add]

lemma Owes.settle (h : Owes ctrl n) (k : Coeff) : Owes (slim_change_existing_chans ctrl k) n := by
  refine h.foldl (fun {ctrl c} h => h.set_chan ?_ ?_) _
  all_goals
    unfold Ich.settle
    split_ifs <;> rfl

lemma Owes.committed (h : Owes ctrl 0) (hs : SequenceSettles ctrl sb) (env : Env) :
    Owes (committed env ctrl sb) 0 := by
  obtain ⟨a, hchans, harr, hused, hwrapped, hb, heq⟩ := committed_eq env ctrl sb
  obtain ⟨hpend, -⟩ := h.pend hs
  have hcore := core_allocated env ctrl sb
  rw [← hchans] at hcore
  have hslc := fun c => Ich.eq_of_core (hcore c)
  have hpchans := chans_pend ctrl sb
  have ha : Owes a (slots ctrl.chans sb.mark_removal) := by
    refine hpend.congr (hb.trans (frame_pend ctrl sb).1.symm) harr hused hwrapped ?_ ?_
    · intro _ c _
      rw [hslc, hpchans]
      rfl
    · intro _ c _
      rw [hslc, hpchans]
  rw [heq]
  unfold slim_chan_changes
  rw [if_neg Bool.false_ne_true, foldl_commit_suspend]
  have hd : Owes (sb.mark_define.foldl (changes_define false) a)
      (slots ctrl.chans sb.mark_removal) := by
    refine ha.foldl (fun {ctrl c} h => ?_) sb.mark_define
    exact h.set_chan (by rfl) (by rfl)
  refine ((Owes.foldl_commit_removal ?_ ?_).settle _).settle _
  · have hslots : slots (sb.mark_define.foldl (changes_define false) a).chans sb.mark_removal =
        slots ctrl.chans sb.mark_removal := by
      refine slots_congr fun c _ => ?_
      rw [chans_foldl_commit_define, hslc]
      split_ifs <;> rfl
    rwa [hslots, zero_add]
  · intro c hdef
    have hread : ((sb.mark_define.foldl (changes_define false) a).chans c).def_ =
        (ctrl.chans c).def_ + sb.mark_define.count c ∧
        ((sb.mark_define.foldl (changes_define false) a).chans c).coeff = (ctrl.chans c).coeff := by
      rw [chans_foldl_commit_define, hslc]
      split_ifs with hc
      · exact ⟨rfl, rfl⟩
      · exact ⟨by rw [count_eq_zero_of_not_mem hc]; rfl, rfl⟩
    rw [hread.2, arr_foldl_commit_define, harr, arr_pend, count_foldl_insert_ch]
    by_cases hc : c ∈ sb.mark_removal
    · have := hs.listed c hc (by omega) (count_eq_zero.1 (by omega))
      omega
    · rw [count_eq_zero_of_not_mem hc]
      omega

lemma Owes.reconfigure (h : Owes ctrl 0) (hs : SequenceSettles ctrl sb) (env : Env) :
    Owes (reconfigure env ctrl sb).ctrl 0 := by
  by_cases hret : (Slimbus.reconfigure env ctrl sb).ret = 0
  · rw [reconfigure_success hret]
    exact h.committed hs env
  · rw [reconfigure_fail hret]
    exact h.reverted hs env

/-- **When a reconfiguration settles its debt.** -/
def Settles (ctrl : Ctrl) (sb : Client) : Prop :=
  if sb.removal_only then
    ∀ c ∈ sb.mark_removal, sb.mark_removal.count c - ((ctrl.chans c).def_ - 1) ≤
      (ctrl.arr (ctrl.chans c).coeff).count c
  else SequenceSettles ctrl sb

lemma Owes.released (h : Owes ctrl 0) : Owes (ctrl.released sb) 0 := by
  have hslc : ∀ c, (ctrl.released sb).chans c = _ := chans_release sb.laddr sb.mark_removal ctrl
  refine h.congr (sameFrame_release ..).allocbw (fun k => arr_release ..) (usedslots_release ..)
    (wrapped_release ..) (fun _ c _ => ?_) (fun _ c _ => ?_)
  · rw [hslc]
    rfl
  · rw [hslc]

lemma slots_le_total (hcount : ∀ c ∈ sb.mark_removal,
    sb.mark_removal.count c ≤ (ctrl.arr (ctrl.chans c).coeff).count c) :
    slots ctrl.chans sb.mark_removal ≤ ctrl.total := by
  have hsub : List.Subperm sb.mark_removal (ctrl.chc1 ++ ctrl.chc3) := by
    rw [subperm_ext_iff]
    intro c hc
    have := hcount c hc
    rw [count_append]
    cases hk : (ctrl.chans c).coeff <;> simp only [hk, Ctrl.arr] at this <;> omega
  obtain ⟨l, hperm, hl⟩ := hsub
  have hle : slots ctrl.chans l ≤ slots ctrl.chans (ctrl.chc1 ++ ctrl.chc3) :=
    slots_le_of_sublist hl
  have hsum : slots ctrl.chans l = slots ctrl.chans sb.mark_removal := (hperm.map _).sum_eq
  have happ : slots ctrl.chans (ctrl.chc1 ++ ctrl.chc3) = ctrl.total := by
    simp [slots, Ctrl.total]
  omega

lemma settles_released (h : Owes ctrl 0) (hquick : sb.removal_only) (hs : Settles ctrl sb) :
    SequenceSettles (ctrl.released sb) (sb.released ctrl) := by
  obtain ⟨-, hd, -⟩ := Client.removal_only_iff.1 hquick
  have hslc : ∀ c, (ctrl.released sb).chans c = _ := chans_release sb.laddr sb.mark_removal ctrl
  rw [Settles, if_pos hquick] at hs
  have hlisted : ∀ c ∈ (sb.released ctrl).mark_removal, (sb.released ctrl).mark_removal.count c ≤
      ((ctrl.released sb).arr ((ctrl.released sb).chans c).coeff).count c := by
    intro c hc
    have hkept := count_released ctrl sb c
    rw [if_neg (by simp [h.allocbw])] at hkept
    have hpos := count_pos_iff.2 hc
    have hmem : c ∈ sb.mark_removal := count_pos_iff.1 (by omega)
    rw [hkept, hslc]
    exact (hs c hmem).trans_eq (congrArg (count c) (arr_release ..).symm)
  have hrel : Owes (ctrl.released sb) 0 := h.released
  refine ⟨?_, ?_, fun c hc _ _ => hlisted c hc⟩
  · have hd' : (sb.released ctrl).mark_define = [] := hd
    have := hrel.fits
    have := hrel.owes
    rw [hd']
    simp only [joining_slots, filter_nil, slots_nil]
    omega
  · have := slots_le_total hlisted
    have := hrel.owes
    omega

/-- **One call keeps the books**, whether or not it succeeds. -/
theorem Owes.slim_reconfigure_now (h : Owes ctrl 0) (hs : Settles ctrl sb) (env : Env) :
    Owes (slim_reconfigure_now env ctrl sb).ctrl 0 := by
  unfold Slimbus.slim_reconfigure_now
  dsimp only
  split_ifs with hquick hnil
  · exact h.released
  · exact h.released.reconfigure (settles_released h hquick hs) env
  · rw [Settles, if_neg hquick] at hs
    exact h.reconfigure hs env

end Sequence

/-! ## Definitions -/

/-- What a definition may do: write channels that are on no array, and leave the state and
the users of every channel alone. -/
structure Defines (ctrl ctrl' : Ctrl) : Prop where
  frame : SameFrame ctrl ctrl'
  arr : ∀ k, ctrl'.arr k = ctrl.arr k
  usedslots : ctrl'.usedslots = ctrl.usedslots
  wrapped : ctrl'.wrapped = ctrl.wrapped
  sl : ∀ k, ∀ c ∈ ctrl.arr k, (ctrl'.chans c).sl = (ctrl.chans c).sl
  coeff : ∀ k, ∀ c ∈ ctrl.arr k, (ctrl'.chans c).coeff = (ctrl.chans c).coeff
  redefined : ∀ c, (ctrl'.chans c).redefined = (ctrl.chans c).redefined

section Define

variable {ctrl ctrl' ctrl'' : Ctrl} {n : ℕ}

lemma Defines.refl (ctrl : Ctrl) : Defines ctrl ctrl :=
  ⟨.refl ctrl, fun _ => rfl, rfl, rfl, fun _ _ _ => rfl, fun _ _ _ => rfl, fun _ => rfl⟩

lemma Defines.trans (h : Defines ctrl ctrl') (h' : Defines ctrl' ctrl'') : Defines ctrl ctrl'' where
  frame := h.frame.trans h'.frame
  arr k := (h'.arr k).trans (h.arr k)
  usedslots := h'.usedslots.trans h.usedslots
  wrapped := h'.wrapped.trans h.wrapped
  sl k c hc := (h'.sl k c (h.arr k ▸ hc)).trans (h.sl k c hc)
  coeff k c hc := (h'.coeff k c (h.arr k ▸ hc)).trans (h.coeff k c hc)
  redefined c := (h'.redefined c).trans (h.redefined c)

lemma defines_set_chan {c : ℕ} {slc : Ich} (hred : slc.redefined = (ctrl.chans c).redefined)
    (hwrite : (∀ k, c ∉ ctrl.arr k) ∨
      slc.sl = (ctrl.chans c).sl ∧ slc.coeff = (ctrl.chans c).coeff) :
    Defines ctrl (ctrl.set_chan c slc) where
  frame := sameFrame_set_chan ..
  arr k := arr_set_chan ..
  usedslots := rfl
  wrapped := rfl
  sl k x hx := by
    rcases hwrite with hc | ⟨hsl, -⟩
    · rw [chans_set_chan, Function.update_of_ne (fun heq : x = c => hc k (heq ▸ hx))]
    · exact reading_update_of_eq hsl x
  coeff k x hx := by
    rcases hwrite with hc | ⟨-, hcoeff⟩
    · rw [chans_set_chan, Function.update_of_ne (fun heq : x = c => hc k (heq ▸ hx))]
    · exact reading_update_of_eq hcoeff x
  redefined x := reading_update_of_eq hred x

variable {ret : ℤ}

lemma slim_nextdefine_ch_writes {c : ℕ} (h : slim_nextdefine_ch ctrl c = some (ctrl', ret)) :
    ∃ slc : Ich, ctrl' = ctrl.set_chan c slc ∧ slc.redefined = (ctrl.chans c).redefined := by
  unfold slim_nextdefine_ch at h
  extract_lets slc prop at h
  split at h
  · cases h
  · -- the rate and the coefficient are only read: kept folded, they need no case split
    extract_lets slc1 at h
    split at h
    · cases h
      exact ⟨_, rfl, rfl⟩
    · split at h
      split at h
      · cases h
      · split at h <;> cases h <;> exact ⟨_, rfl, rfl⟩

lemma set_chan_set_chan (c : ℕ) (slc slc' : Ich) :
    (ctrl.set_chan c slc).set_chan c slc' = ctrl.set_chan c slc' := by
  simp [Ctrl.set_chan]

lemma define_params_defines {prop : Ch} {c : ℕ}
    (hfree : (ctrl.chans c).redefined → ∀ k, c ∉ ctrl.arr k)
    (h : define_params ctrl prop c = some (ctrl', ret)) : Defines ctrl ctrl' := by
  unfold define_params at h
  dsimp only at h
  split_ifs at h with h1 h2 h3 h4
  · cases h
    exact .refl ctrl
  · cases h
    exact .refl ctrl
  · cases h
    exact .refl ctrl
  · cases h
    exact .refl ctrl
  · obtain ⟨slc, rfl, hred⟩ := slim_nextdefine_ch_writes h
    have hr : (ctrl.chans c).redefined := by
      simp only [Ich.redefined, Bool.and_eq_true, Bool.not_eq_true', Bool.and_eq_false_iff,
        decide_eq_true_eq, decide_eq_false_iff_not]
      exact ⟨⟨ChState.not_lt.1 h1, not_and_or.1 h2⟩, h4⟩
    rw [set_chan_set_chan]
    refine defines_set_chan (hred.trans ?_) (.inl (hfree hr))
    simp [Ich.redefined]

lemma define_group_defines (c : ℕ) (next : Option ℕ) (first : Bool) :
    Defines ctrl (define_group ctrl c next first) :=
  defines_set_chan rfl (.inr ⟨rfl, rfl⟩)

lemma define_chans_defines {prop : Ch} {chanh : List ℕ} {first : Bool}
    (hfree : ∀ h ∈ chanh, (ctrl.chans (SLIM_HDL_TO_CHIDX h)).redefined →
      ∀ k, SLIM_HDL_TO_CHIDX h ∉ ctrl.arr k)
    (h : define_chans prop chanh first ctrl = some (ctrl', ret)) : Defines ctrl ctrl' := by
  induction chanh generalizing ctrl first with
  | nil =>
    cases h
    exact .refl _
  | cons hdl chanh ih =>
    unfold define_chans at h
    dsimp only at h
    split at h
    · cases h
    · rename_i ctrl1 ret1 hparams
      have h1 := define_params_defines (hfree hdl mem_cons_self) hparams
      split_ifs at h
      · cases h
        exact h1
      · have h2 := h1.trans (define_group_defines (SLIM_HDL_TO_CHIDX hdl) chanh.head? first)
        refine h2.trans (ih (fun d hd hred k => ?_) h)
        rw [h2.arr]
        rw [h2.redefined] at hred
        exact hfree d (mem_cons_of_mem hdl hd) hred k

def DefinesFree (ctrl : Ctrl) (chanh : List ℕ) : Prop :=
  ∀ h ∈ chanh, (ctrl.chans (SLIM_HDL_TO_CHIDX h)).redefined →
    SLIM_HDL_TO_CHIDX h ∉ ctrl.chc1 ∧ SLIM_HDL_TO_CHIDX h ∉ ctrl.chc3

lemma Owes.slim_define_ch (h : Owes ctrl n) {prop : Ch} {chanh : List ℕ} {grp : Bool}
    {grph : Option ℕ} (hfree : DefinesFree ctrl chanh)
    (hdef : slim_define_ch ctrl prop chanh grp = some (ctrl', ret, grph)) : Owes ctrl' n := by
  have hfree' : ∀ h ∈ chanh, (ctrl.chans (SLIM_HDL_TO_CHIDX h)).redefined →
      ∀ k, SLIM_HDL_TO_CHIDX h ∉ ctrl.arr k := by
    intro hdl hh hred k
    obtain ⟨h1, h3⟩ := hfree hdl hh hred
    cases k
    · exact h1
    · exact h3
  unfold Slimbus.slim_define_ch at hdef
  split at hdef
  · cases hdef
    exact h
  · split at hdef
    · cases hdef
    · rename_i hchans
      have hd := define_chans_defines hfree' hchans
      have h1 := h.congr hd.frame.allocbw hd.arr hd.usedslots hd.wrapped hd.sl hd.coeff
      split_ifs at hdef
      · cases hdef
        exact h1
      all_goals
        cases hdef
        refine h1.foldl (fun {ctrl c} h => ?_) _
        unfold define_done
        dsimp only
        split_ifs
        · exact h.set_state _
        · exact h

end Define

/-! ## Runs -/

/-- A controller with its clients. -/
structure Bus where
  ctrl : Ctrl
  client : ℕ → Client

/-- The calls of clients. -/
inductive Call
  | define (prop : Ch) (chanh : List ℕ) (grp : Bool)
  | control (env : Env) (i : ℕ) (chanh : ℕ) (chctrl : ChControl) (commit : Bool)
  | reserve (env : Env) (i : ℕ) (bw_bps : ℕ) (commit : Bool)
  | reconfigure (env : Env) (i : ℕ)

def Bus.outcome (s : Bus) (i : ℕ) (out : Outcome) : Bus :=
  ⟨out.ctrl, Function.update s.client i out.sb⟩

def Bus.step (s : Bus) : Call → Bus
  | .define prop chanh grp =>
    match slim_define_ch s.ctrl prop chanh grp with
    | none => s
    | some (ctrl, _, _) => { s with ctrl := ctrl }
  | .control env i chanh chctrl commit =>
    s.outcome i (slim_control_ch env s.ctrl (s.client i) chanh chctrl commit)
  | .reserve env i bw_bps commit =>
    s.outcome i (slim_reservemsg_bw env s.ctrl (s.client i) bw_bps commit)
  | .reconfigure env i => s.outcome i (slim_reconfigure_now env s.ctrl (s.client i))

/-- **When a call keeps the books**: a definition writes no channel that is on an array, and a
reconfiguration settles its debt with the lists as they are then. -/
def Bus.Keeps (s : Bus) : Call → Prop
  | .define _ chanh _ => DefinesFree s.ctrl chanh
  | .control env i chanh chctrl commit =>
    (control_marks env s.ctrl (s.client i) chanh chctrl).2 = 0 → commit →
      Settles s.ctrl (control_marks env s.ctrl (s.client i) chanh chctrl).1
  | .reserve _ i bw_bps commit =>
    commit → Settles s.ctrl
      { s.client i with pending_msgsl := .ofNat (msg_slots s.ctrl bw_bps) }
  | .reconfigure _ i => Settles s.ctrl (s.client i)

lemma Owes.step {s : Bus} {a : Call} (h : Owes s.ctrl 0) (hk : s.Keeps a) :
    Owes (s.step a).ctrl 0 := by
  cases a with
  | define prop chanh grp =>
    unfold Bus.step
    dsimp only
    split
    · exact h
    · exact h.slim_define_ch hk (by assumption)
  | control env i chanh chctrl commit =>
    unfold Bus.step Bus.outcome slim_control_ch
    dsimp only
    split_ifs with hc
    · exact h.slim_reconfigure_now (hk hc.1 hc.2) env
    · exact h
  | reserve env i bw_bps commit =>
    unfold Bus.step Bus.outcome slim_reservemsg_bw
    dsimp only
    split_ifs with hc
    · exact h.slim_reconfigure_now (hk hc) env
    · exact h
  | reconfigure env i => exact h.slim_reconfigure_now hk env

def Ctrl.array_slots (ctrl : Ctrl) : ℕ :=
  (ctrl.chc1.map fun c => u32 ((ctrl.chans c).seglen * 2 ^ (ctrl.chans c).rootexp)).sum +
    (ctrl.chc3.map fun c => u32 ((ctrl.chans c).seglen * 2 ^ (ctrl.chans c).rootexp * 3)).sum

lemma Owes.total_eq_array_slots {ctrl : Ctrl} {n : ℕ} (h : Owes ctrl n) :
    ctrl.total = ctrl.array_slots := by
  unfold Ctrl.total Ctrl.array_slots slots
  congr 2
  · refine map_congr_left fun c hc => ?_
    rw [Ich.sl, h.coeff .COEFF_1 c hc]
    exact UInt32.toNat_ofNat'
  · refine map_congr_left fun c hc => ?_
    rw [Ich.sl, h.coeff .COEFF_3 c hc]
    exact UInt32.toNat_ofNat'

/-- A controller before its first call. -/
structure Fresh (ctrl : Ctrl) : Prop where
  allocbw : ctrl.allocbw = false
  wrapped : ctrl.wrapped = false
  chc1 : ctrl.chc1 = []
  chc3 : ctrl.chc3 = []
  usedslots : ctrl.usedslots = 0

lemma Fresh.owes {ctrl : Ctrl} (h : Fresh ctrl) : Owes ctrl 0 := by
  have htotal : ctrl.total = 0 := by simp [Ctrl.total, h.chc1, h.chc3]
  refine ⟨h.allocbw, h.wrapped, fun k c hc => ?_, by omega, ?_⟩
  · cases k <;> simp [Ctrl.arr, h.chc1, h.chc3] at hc
  · rw [htotal, h.usedslots]
    rfl

/-- **`usedslots` is the sum over the arrays, over every run** in which definitions write no
listed channel and reconfigurations settle their debt, and no subtraction from it wraps. -/
theorem usedslots_of_run (s : Bus) (hfresh : Fresh s.ctrl) (l : List Call)
    (hl : Ok Bus.step Bus.Keeps s l) :
    (exec Bus.step s l).ctrl.usedslots.toNat = (exec Bus.step s l).ctrl.array_slots ∧
      (exec Bus.step s l).ctrl.wrapped = false := by
  have h := Ok.inv (I := fun s : Bus => Owes s.ctrl 0) (fun s a h hk => h.step hk) hfresh.owes hl
  exact ⟨by rw [← h.total_eq_array_slots, ← h.owes, add_zero], h.wrapped⟩

/-! ### Two runs -/

instance (ctrl : Ctrl) (sb : Client) : Decidable (SequenceSettles ctrl sb) :=
  decidable_of_iff (ctrl.usedslots.toNat + joining_slots ctrl.chans sb.mark_define < 2 ^ 32 ∧
      slots ctrl.chans sb.mark_removal ≤ ctrl.usedslots.toNat ∧
      ∀ c ∈ sb.mark_removal, (ctrl.chans c).def_ = 0 → c ∉ sb.mark_define →
        sb.mark_removal.count c ≤ (ctrl.arr (ctrl.chans c).coeff).count c)
    ⟨fun h => ⟨h.1, h.2.1, h.2.2⟩, fun h => ⟨h.fits, h.covered, h.listed⟩⟩

instance (ctrl : Ctrl) (sb : Client) : Decidable (Settles ctrl sb) :=
  inferInstanceAs (Decidable (if sb.removal_only then
    ∀ c ∈ sb.mark_removal, sb.mark_removal.count c - ((ctrl.chans c).def_ - 1) ≤
      (ctrl.arr (ctrl.chans c).coeff).count c
    else SequenceSettles ctrl sb))

instance (ctrl : Ctrl) (chanh : List ℕ) : Decidable (DefinesFree ctrl chanh) :=
  inferInstanceAs (Decidable (∀ _ ∈ _, _))

instance (s : Bus) : (a : Call) → Decidable (s.Keeps a)
  | .define _ chanh _ => inferInstanceAs (Decidable (DefinesFree s.ctrl chanh))
  | .control .. => inferInstanceAs (Decidable (_ → _ → Settles _ _))
  | .reserve .. => inferInstanceAs (Decidable (_ → Settles _ _))
  | .reconfigure .. => inferInstanceAs (Decidable (Settles _ _))

def Bus.one_allocated : Bus :=
  ⟨Ctrl.registered.set_chan 0 { Ich.free with state := .ALLOCATED, ref := 1 },
    fun _ => ⟨1, 0, 0, [], [], []⟩⟩

def Ch.audio : Ch := ⟨.HARD_ISO, .RATE_4000HZ, 0, 0, 12, 16⟩

theorem usedslots_of_activation :
    (Fresh Bus.one_allocated.ctrl ∧ Ok Bus.step Bus.Keeps .one_allocated
        [.define .audio [0] false, .control .quiet 0 0 .ACTIVATE true,
          .control .quiet 0 0 .REMOVE true]) ∧
      (exec Bus.step .one_allocated
        [.define .audio [0] false, .control .quiet 0 0 .ACTIVATE true,
          .control .quiet 0 0 .REMOVE true]).ctrl.usedslots.toNat =
      (exec Bus.step .one_allocated
        [.define .audio [0] false, .control .quiet 0 0 .ACTIVATE true,
          .control .quiet 0 0 .REMOVE true]).ctrl.array_slots :=
  ⟨⟨⟨rfl, rfl, rfl, rfl, rfl⟩, by decide +kernel⟩,
    (usedslots_of_run .one_allocated ⟨rfl, rfl, rfl, rfl, rfl⟩ _ (by decide +kernel)).1⟩

/-- The channel is suspended without ever having been active, and removed: `usedslots` wraps. -/
theorem usedslots_wraps_after_suspension :
    Fresh Bus.one_allocated.ctrl ∧
      (exec Bus.step .one_allocated
        [.define .audio [0] false, .control .quiet 0 0 .SUSPEND true,
          .control .quiet 0 0 .REMOVE true]).ctrl.wrapped = true ∧
      (exec Bus.step .one_allocated
        [.define .audio [0] false, .control .quiet 0 0 .SUSPEND true,
          .control .quiet 0 0 .REMOVE true]).ctrl.array_slots = 0 ∧
      (exec Bus.step .one_allocated
        [.define .audio [0] false, .control .quiet 0 0 .SUSPEND true,
          .control .quiet 0 0 .REMOVE true]).ctrl.usedslots.toNat = 2 ^ 32 - 48 :=
  ⟨⟨rfl, rfl, rfl, rfl, rfl⟩, by decide +kernel⟩

end KernelExtra.Slimbus
