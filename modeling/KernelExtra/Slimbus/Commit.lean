/-
Does a reconfiguration that succeeds do what it was asked for?

The count of users is lowered in the loop over a list of removals alone: once a definition, a
suspension or a change of message bandwidth is committed in the same call, the removed channel still
counts its user, and stays. `CommitsClean` is the exact condition.
-/
import KernelExtra.Slimbus.Atomic

namespace KernelExtra.Slimbus

open KernelExtra.Loop List

/-! ## What a sequence that succeeds leaves behind -/

def committed (env : Env) (ctrl : Ctrl) (sb : Client) : Ctrl :=
  let (ctrl, subframe, clkgear, _) := allocate env (pend ctrl sb)
  slim_chan_changes
    { ctrl with subfrmcode := subframe, clkgear := clkgear, msgsl := ctrl.pending_msgsl } sb false

lemma reconfigure_success {env : Env} {ctrl : Ctrl} {sb : Client}
    (h : (reconfigure env ctrl sb).ret = 0) :
    (reconfigure env ctrl sb).ctrl = committed env ctrl sb := by
  unfold reconfigure at h ⊢
  dsimp only at h ⊢
  split_ifs at h ⊢ <;> first | rfl | simp_all

section

variable (env : Env) (ctrl : Ctrl) (sb : Client) (x : ℕ) (k : Coeff)

lemma committed_eq : ∃ a : Ctrl, a.chans = (allocate env (pend ctrl sb)).1.chans ∧
    (∀ k, a.arr k = (pend ctrl sb).arr k) ∧ a.usedslots = (pend ctrl sb).usedslots ∧
    a.wrapped = (pend ctrl sb).wrapped ∧ a.allocbw = ctrl.allocbw ∧
    committed env ctrl sb = slim_chan_changes a sb false := by
  refine ⟨{ (allocate env (pend ctrl sb)).1 with
    subfrmcode := (allocate env _).2.1
    clkgear := (allocate env _).2.2.1
    msgsl := (allocate env _).1.pending_msgsl }, rfl, fun k => ?_, ?_, ?_, ?_, rfl⟩
  · rw [← arr_allocate env (pend ctrl sb) k]
    cases k <;> rfl
  · exact usedslots_allocate env _
  · exact wrapped_allocate env _
  · exact (sameFrame_allocate env _).allocbw.trans (frame_pend ctrl sb).1

/-- **The state of a channel afterwards.** -/
theorem state_committed : ((committed env ctrl sb).chans x).state = if x ∈ sb.mark_removal then
      if (ctrl.chans x).def_ + sb.mark_define.count x = 0 then
        if x ∈ (pend ctrl sb).arr (ctrl.chans x).coeff then .ALLOCATED
        else pend_state sb x (ctrl.chans x).state
      else .ACTIVE
    else if x ∈ sb.mark_define then .ACTIVE else pend_state sb x (ctrl.chans x).state := by
  obtain ⟨a, hchans, harr, -, -, -, heq⟩ := committed_eq env ctrl sb
  have hslc := Ich.eq_of_core (core_allocated env ctrl sb x)
  rw [← hchans] at hslc
  rw [heq]
  unfold slim_chan_changes
  rw [if_neg Bool.false_ne_true, foldl_commit_suspend,
    reading_settle (φ := Ich.state) _ _ _ (fun _ _ _ => rfl),
    reading_settle (φ := Ich.state) _ _ _ (fun _ _ _ => rfl), chans_foldl_commit_removal,
    Ctrl.removed, arr_foldl_commit_define, chans_foldl_commit_define, harr, hslc]
  have hcount : x ∉ sb.mark_define → sb.mark_define.count x = 0 := count_eq_zero_of_not_mem
  by_cases hr : x ∈ sb.mark_removal
  · by_cases hd : x ∈ sb.mark_define
    · have hne := (count_pos_iff.2 hd).ne'
      simp [hr, hd, Ich.activate, hne]
    · simp only [hr, hd, if_true, if_false, hcount hd, add_zero]
      split_ifs <;> rfl
  · by_cases hd : x ∈ sb.mark_define <;> simp [hr, hd, Ich.activate]

/-- **How often a channel is on an array afterwards.** -/
theorem count_committed : ((committed env ctrl sb).arr k).count x =
    (ctrl.arr k).count x + (sb.joining k ctrl.chans).count x -
      if (ctrl.chans x).def_ + sb.mark_define.count x = 0 ∧ (ctrl.chans x).coeff = k then
        sb.mark_removal.count x
      else 0 := by
  obtain ⟨a, hchans, harr, -, -, -, heq⟩ := committed_eq env ctrl sb
  have hslc := Ich.eq_of_core (core_allocated env ctrl sb x)
  rw [← hchans] at hslc
  rw [heq]
  unfold slim_chan_changes
  rw [if_neg Bool.false_ne_true, foldl_commit_suspend, arr_settle, arr_settle,
    count_foldl_commit_removal, arr_foldl_commit_define, harr, arr_pend, count_foldl_insert_ch,
    chans_foldl_commit_define, hslc]
  have hcount : x ∉ sb.mark_define → sb.mark_define.count x = 0 := count_eq_zero_of_not_mem
  by_cases hd : x ∈ sb.mark_define
  · simp [hd, Ich.activate]
  · simp [hd, hcount hd]

end

/-! ## Taking effect -/

def Coeff.other : Coeff → Coeff
  | .COEFF_1 => .COEFF_3
  | .COEFF_3 => .COEFF_1

lemma Coeff.other_ne (k : Coeff) : k ≠ k.other := by cases k <;> simp [Coeff.other]

/-- What was asked for is done. -/
structure TakesEffect (ctrl : Ctrl) (sb : Client) (ctrl' : Ctrl) : Prop where
  removed : ∀ c ∈ sb.mark_removal, (ctrl.chans c).def_ = 1 →
    c ∉ ctrl'.chc1 ∧ c ∉ ctrl'.chc3 ∧ (ctrl'.chans c).state = .ALLOCATED
  defined : ∀ c ∈ sb.mark_define,
    (ctrl'.chans c).state = .ACTIVE ∧ Xor (c ∈ ctrl'.chc1) (c ∈ ctrl'.chc3)

/-- **When a reconfiguration that succeeds takes effect.** -/
structure CommitsClean (ctrl : Ctrl) (sb : Client) : Prop where
  removed : ∀ c ∈ sb.mark_removal, (ctrl.chans c).def_ = 1 →
    sb.removal_only ∧ 1 ≤ (ctrl.arr (ctrl.chans c).coeff).count c ∧
      (ctrl.arr (ctrl.chans c).coeff).count c ≤ sb.mark_removal.count c ∧
      c ∉ ctrl.arr (ctrl.chans c).coeff.other
  defined : ∀ c ∈ sb.mark_define,
    if (ctrl.chans c).state < .ACTIVE then c ∉ ctrl.arr (ctrl.chans c).coeff.other
    else Xor (c ∈ ctrl.chc1) (c ∈ ctrl.chc3)

section

variable {env : Env} {ctrl : Ctrl} {sb : Client} {c : ℕ}

lemma not_mem_arrays_iff {k : Coeff} :
    c ∉ ctrl.chc1 ∧ c ∉ ctrl.chc3 ↔ (ctrl.arr k).count c = 0 ∧ (ctrl.arr k.other).count c = 0 := by
  cases k <;> simp [Ctrl.arr, Coeff.other, count_eq_zero, and_comm]

lemma mem_one_array_iff {k : Coeff} :
    Xor (c ∈ ctrl.chc1) (c ∈ ctrl.chc3) ↔ Xor (c ∈ ctrl.arr k) (c ∈ ctrl.arr k.other) := by
  cases k
  · rfl
  · exact iff_of_eq (xor_comm _ _)

lemma mem_committed (hc : c ∈ sb.mark_define) (k : Coeff) : c ∈ (committed env ctrl sb).arr k ↔
    c ∈ ctrl.arr k ∨ (ctrl.chans c).state < .ACTIVE ∧ (ctrl.chans c).coeff = k := by
  have hpos := count_pos_iff.2 hc
  have hjoin : c ∈ sb.joining k ctrl.chans ↔
      (ctrl.chans c).state < .ACTIVE ∧ (ctrl.chans c).coeff = k := by
    simp [Client.joining, hc, Ich.joins]
  rw [← count_pos_iff, count_committed, if_neg (by omega), Nat.sub_zero, ← hjoin,
    ← count_pos_iff, ← count_pos_iff]
  omega

lemma defined_committed_iff (hc : c ∈ sb.mark_define) :
    ((committed env ctrl sb).chans c).state = .ACTIVE ∧
        Xor (c ∈ (committed env ctrl sb).chc1) (c ∈ (committed env ctrl sb).chc3) ↔
      if (ctrl.chans c).state < .ACTIVE then c ∉ ctrl.arr (ctrl.chans c).coeff.other
      else Xor (c ∈ ctrl.chc1) (c ∈ ctrl.chc3) := by
  have hpos := count_pos_iff.2 hc
  have hstate : ((committed env ctrl sb).chans c).state = .ACTIVE := by
    rw [state_committed, if_pos hc]
    split_ifs <;> first | rfl | omega
  rw [and_iff_right hstate, mem_one_array_iff (k := (ctrl.chans c).coeff),
    @mem_one_array_iff ctrl c (ctrl.chans c).coeff, mem_committed hc, mem_committed hc]
  split_ifs with hst <;> simp [hst, Coeff.other_ne, Xor]

lemma removed_committed_released (hb : ctrl.allocbw = false) (hd : sb.mark_define = [])
    (hc : c ∈ sb.mark_removal) (hdef : (ctrl.chans c).def_ = 1) :
    (c ∉ (committed env (ctrl.released sb) (sb.released ctrl)).chc1 ∧
        c ∉ (committed env (ctrl.released sb) (sb.released ctrl)).chc3 ∧
        ((committed env (ctrl.released sb) (sb.released ctrl)).chans c).state = .ALLOCATED) ↔
      1 ≤ (ctrl.arr (ctrl.chans c).coeff).count c ∧
        (ctrl.arr (ctrl.chans c).coeff).count c ≤ sb.mark_removal.count c ∧
        c ∉ ctrl.arr (ctrl.chans c).coeff.other := by
  have hpos := count_pos_iff.2 hc
  have hd' : (sb.released ctrl).mark_define = [] := hd
  have hslc : (ctrl.released sb).chans c = _ := chans_release sb.laddr sb.mark_removal ctrl c
  have hdef0 : ((ctrl.released sb).chans c).def_ = 0 := by
    rw [hslc]
    dsimp only
    omega
  have hcoeff : ((ctrl.released sb).chans c).coeff = (ctrl.chans c).coeff := by rw [hslc]
  have hkept : (sb.released ctrl).mark_removal.count c = sb.mark_removal.count c := by
    rw [count_released, hb, hdef]
    simp
  have hmem : c ∈ (sb.released ctrl).mark_removal := by
    rw [← count_pos_iff, hkept]
    exact hpos
  have harr : ∀ k, (pend (ctrl.released sb) (sb.released ctrl)).arr k = ctrl.arr k := by
    intro k
    rw [arr_pend, Client.joining, hd']
    exact arr_release ..
  have hcount : ∀ k, ((committed env (ctrl.released sb) (sb.released ctrl)).arr k).count c =
      (ctrl.arr k).count c - if (ctrl.chans c).coeff = k then sb.mark_removal.count c else 0 := by
    intro k
    rw [count_committed, hdef0, hd', hcoeff, hkept, Client.joining, hd']
    simp [Ctrl.released, arr_release]
  have hstate : ((committed env (ctrl.released sb) (sb.released ctrl)).chans c).state = .ALLOCATED ↔
      c ∈ ctrl.arr (ctrl.chans c).coeff := by
    rw [state_committed, if_pos hmem, hdef0, hd', count_nil, if_pos rfl, hcoeff, harr]
    split_ifs with hin
    · simp [hin]
    · have hs : pend_state (sb.released ctrl) c
          ((ctrl.released sb).chans c).state ≠ .ALLOCATED := by
        unfold pend_state
        split_ifs <;> decide
      simp [hin, hs]
  rw [← and_assoc, not_mem_arrays_iff, hcount, hcount, hstate,
    if_pos rfl, if_neg (Coeff.other_ne _), ← count_pos_iff, ← count_eq_zero]
  omega

end

def Outcome.through (out : Outcome) : Prop := out.ret = 0 ∧ ∃ m ∈ out.sent, m.mc = .RECONFIGURE_NOW

instance (out : Outcome) : Decidable out.through := inferInstanceAs (Decidable (_ ∧ _))

lemma slim_reconfigure_now_through {env : Env} {ctrl : Ctrl} {sb : Client}
    (h : (slim_reconfigure_now env ctrl sb).through) :
    (slim_reconfigure_now env ctrl sb).ctrl =
      if sb.removal_only then committed env (ctrl.released sb) (sb.released ctrl)
      else committed env ctrl sb := by
  obtain ⟨hret, m, hm, -⟩ := h
  unfold slim_reconfigure_now at hret hm ⊢
  dsimp only at hret hm ⊢
  split_ifs at hret hm ⊢
  · exact absurd hm not_mem_nil
  · exact reconfigure_success hret
  · exact reconfigure_success hret

/-- **A reconfiguration that succeeds takes effect exactly when** its removals come alone,
and the channels are on the arrays that they belong to. -/
theorem reconfigure_takes_effect_iff (env : Env) (ctrl : Ctrl) (sb : Client)
    (hb : ctrl.allocbw = false) (hthrough : (slim_reconfigure_now env ctrl sb).through) :
    TakesEffect ctrl sb (slim_reconfigure_now env ctrl sb).ctrl ↔ CommitsClean ctrl sb := by
  rw [slim_reconfigure_now_through hthrough]
  by_cases hquick : sb.removal_only
  · obtain ⟨-, hd, -⟩ := Client.removal_only_iff.1 hquick
    rw [if_pos hquick]
    have hnone : ∀ {p : ℕ → Prop}, ∀ c ∈ sb.mark_define, p c := by simp [hd]
    constructor
    · intro h
      exact ⟨fun c hc hdef => ⟨hquick, (removed_committed_released hb hd hc hdef).1
        (h.removed c hc hdef)⟩, hnone⟩
    · intro h
      exact ⟨fun c hc hdef => (removed_committed_released hb hd hc hdef).2
        (h.removed c hc hdef).2, hnone⟩
  · rw [if_neg hquick]
    constructor
    · intro h
      refine ⟨fun c hc hdef => ?_, fun c hc => (defined_committed_iff hc).1 (h.defined c hc)⟩
      have := (h.removed c hc hdef).2.2
      rw [state_committed, if_pos hc, if_neg (by omega)] at this
      exact absurd this (by decide)
    · intro h
      exact ⟨fun c hc hdef => absurd (h.removed c hc hdef).1 hquick,
        fun c hc => (defined_committed_iff hc).2 (h.defined c hc)⟩

def Env.quiet : Env := ⟨fun _ => 0, (0, 0, 0), fun _ => true⟩

def Ctrl.one_active : Ctrl :=
  { (Ctrl.registered.set_chan 0
      { Ich.free with state := .ACTIVE, seglen := 2, rootexp := 3, ref := 1, def_ := 1 }) with
    chc1 := [0]
    usedslots := 16 }

def Client.removes : Client := ⟨0, 0, 0, [], [0], []⟩

theorem removal_alone_takes_effect_iff :
    (Ctrl.one_active.allocbw = false ∧
        (slim_reconfigure_now .quiet .one_active .removes).through) ∧
      (TakesEffect .one_active .removes (slim_reconfigure_now .quiet .one_active .removes).ctrl ↔
        CommitsClean .one_active .removes) :=
  ⟨⟨rfl, by decide +kernel⟩,
    reconfigure_takes_effect_iff .quiet .one_active .removes rfl (by decide +kernel)⟩

theorem removal_with_bandwidth_has_no_effect :
    (slim_reconfigure_now .quiet .one_active { Client.removes with pending_msgsl := 5 }).through ∧
      ¬ TakesEffect .one_active { Client.removes with pending_msgsl := 5 }
        (slim_reconfigure_now .quiet .one_active
          { Client.removes with pending_msgsl := 5 }).ctrl := by
  refine ⟨by decide +kernel, fun h => ?_⟩
  have hstays : 0 ∈ (slim_reconfigure_now .quiet .one_active
      { Client.removes with pending_msgsl := 5 }).ctrl.chc1 := by decide +kernel
  exact (h.removed 0 (by decide) (by decide)).1 hstays

end KernelExtra.Slimbus
