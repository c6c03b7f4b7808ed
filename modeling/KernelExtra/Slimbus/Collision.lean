/-
Is a SLIMbus schedule free of collisions?

The results on the packing are carried through the rest of `slim_allocbw`: only the places of the
last clock gear count (`try_gears_spec`), and sorting the offsets within a group hands places around
(`Shuffles`). A schedule that succeeds is free of collisions if all its channels have the same
coefficient and none is listed twice. With both coefficients it need not be (`channels_collide`).
-/
import KernelExtra.Slimbus.Packing

namespace KernelExtra.Slimbus

open KernelExtra.Slots Function List

/-! ## The property -/

variable {chans : ℕ → Ich} {done : List ℕ}

variable {ctrl : Ctrl}

/-- Places have been handed around among the channels of `done`. -/
structure Shuffles (done : List ℕ) (table table' : ℕ → Ich) : Prop where
  core : SameCore table table'
  intr : ∀ c, (table' c).newintr = (table c).newintr
  perm : ∃ σ : Equiv.Perm ℕ, (∀ c, σ c ∈ done ↔ c ∈ done) ∧
    ∀ c ∈ done, segs table' c = segs table (σ c)

section Sorting

variable {done : List ℕ} {table table' table'' : ℕ → Ich}

lemma Shuffles.refl (done : List ℕ) (table : ℕ → Ich) : Shuffles done table table :=
  ⟨.refl table, fun _ => rfl, Equiv.refl ℕ, fun _ => .rfl, fun _ _ => rfl⟩

lemma Shuffles.trans (h : Shuffles done table table') (h' : Shuffles done table' table'') :
    Shuffles done table table'' := by
  obtain ⟨σ, hσ, hseg⟩ := h.perm
  obtain ⟨τ, hτ, hseg'⟩ := h'.perm
  refine ⟨h.core.trans h'.core, fun c => (h'.intr c).trans (h.intr c), τ.trans σ, fun c => ?_,
    fun c hc => ?_⟩
  · exact (hσ (τ c)).trans (hτ c)
  · rw [hseg' c hc, hseg (τ c) ((hτ c).2 hc)]
    rfl

def next_in_grp (chans : ℕ → Ich) (c : ℕ) : ℕ := SLIM_HDL_TO_CHIDX (chans c).nextgrp

def Ich.in_use (slc : Ich) : Prop := slc.state = .ACTIVE ∨ slc.state = .PENDING_ACTIVE

/-- The channels at which a round of `slim_sort_chan_grp` can stand: the beginning of a group
on the array, and from there on while the channels are in use. -/
inductive InGroup (chans : ℕ → Ich) (arr : List ℕ) : ℕ → Prop
  | start {c : ℕ} (hc : c ∈ scheduled chans arr) (hstart : (chans c).starts_grp = true)
      (hend : (chans c).ends_grp = false) : InGroup chans arr c
  | next {c : ℕ} (h : InGroup chans arr c) (huse : (chans (next_in_grp chans c)).in_use)
      (hend : (chans (next_in_grp chans c)).ends_grp = false) :
      InGroup chans arr (next_in_grp chans c)

/-- **Groups contain channels with the same properties**: the next one, if it is in use, is on
the same array, with the same exponent and segment length. -/
def Ctrl.Grouped (ctrl : Ctrl) : Prop :=
  ∀ coeff c, InGroup ctrl.chans (ctrl.arr coeff) c →
    (ctrl.chans (next_in_grp ctrl.chans c)).in_use →
      next_in_grp ctrl.chans c ∈ ctrl.arr coeff ∧
      (ctrl.chans (next_in_grp ctrl.chans c)).rootexp = (ctrl.chans c).rootexp ∧
      (ctrl.chans (next_in_grp ctrl.chans c)).seglen = (ctrl.chans c).seglen

variable {chans : ℕ → Ich} {arr : List ℕ}

lemma SameCore.starts_grp (h : SameCore chans table) (c : ℕ) :
    (table c).starts_grp = (chans c).starts_grp := by
  unfold Ich.starts_grp
  rw [h.nextgrp]

lemma SameCore.ends_grp (h : SameCore chans table) (c : ℕ) :
    (table c).ends_grp = (chans c).ends_grp := by
  unfold Ich.ends_grp
  rw [h.nextgrp]

end Sorting

/-! ## The clock gears -/

variable {table : ℕ → Ich}

lemma InGroup.mem (hgrp : ctrl.Grouped) {coeff : Coeff} {c : ℕ}
    (h : InGroup ctrl.chans (ctrl.arr coeff) c) : c ∈ scheduled ctrl.chans (ctrl.arr coeff) := by
  induction h with
  | start hc hstart hend => exact hc
  | next h huse hend _ =>
    refine mem_scheduled.2 ⟨(hgrp coeff _ h huse).1, ?_⟩
    rcases huse with huse | huse <;> rw [huse] <;> decide

def tone (ratem sampleszbits : ℕ) : Ch := ⟨.HARD_ISO, .RATE_4000HZ, 0, 0, ratem, sampleszbits⟩

def define_and_add (ctrl : Ctrl) (c : ℕ) : Ctrl :=
  match slim_nextdefine_ch ctrl c with
  | some (ctrl, 0) => (slim_add_ch ctrl c).set_state c .PENDING_ACTIVE
  | _ => ctrl

def with_channels (props : List Ch) (nextgrp : ℕ → ℕ) (l : List ℕ) : Ctrl :=
  l.foldl define_and_add { Ctrl.registered with
    chans := fun c => { Ich.free with
      state := .DEFINED
      prop := props.getD c (tone 1 0)
      nextgrp := nextgrp c } }

/-- Two channels of 48 kHz in a group, and another one behind them. -/
def roomy : Ctrl :=
  with_channels [tone 48 16, tone 48 16, tone 96 8]
    (fun c => if c = 0 then SLIM_START_GRP ||| 1 else if c = 1 then SLIM_END_GRP else 0) [0, 1, 2]

end KernelExtra.Slimbus
