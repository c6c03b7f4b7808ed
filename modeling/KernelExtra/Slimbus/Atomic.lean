/-
Is a failed reconfiguration without effect?

When the schedule does not fit or a message fails, `slim_chan_changes` is called to revert. The
change of the message bandwidth is not taken back, the count of users is raised for every removal
although it was only lowered when nothing but removals was pending, a source port that was cleared
stays cleared, and every channel that was to be suspended comes out active. `Reverts` is the exact
condition.
-/
import KernelExtra.Slimbus.Books

namespace KernelExtra.Slimbus

open KernelExtra.Insertion KernelExtra.Loop List

/-! ## Removals alone -/

section

variable (laddr : ℕ) (l : List ℕ) (ctrl : Ctrl) (x : ℕ) (k : Coeff)

lemma chans_release_chans : (release_chans laddr l ctrl).1.chans x =
    (fun slc : Ich => slc.release laddr)^[l.count x] (ctrl.chans x) := by
  have hfold : (release_chans laddr l ctrl).1 =
      l.foldl (fun ctrl c => ctrl.set_chan c ((ctrl.chans c).release laddr)) ctrl := by
    induction l generalizing ctrl with
    | nil => rfl
    | cons c l ih => exact ih _
  rw [hfold]
  exact foldl_update (g := fun slc : Ich => slc.release laddr)
    (fun ctrl c => chans_set_chan ctrl c _) l ctrl x

lemma iterate_release (n : ℕ) (slc : Ich) : (fun slc : Ich => slc.release laddr)^[n] slc =
    { slc with
      def_ := slc.def_ - n
      srch := if SLIM_HDL_TO_LA slc.srch = laddr ∧ n ≠ 0 then 0 else slc.srch } := by
  induction n with
  | zero => simp
  | succ n ih =>
    rw [Function.iterate_succ_apply', ih, Ich.release]
    by_cases h : SLIM_HDL_TO_LA slc.srch = laddr <;> by_cases hn : n = 0 <;> simp [h, hn] <;> omega

lemma chans_release : (release_chans laddr l ctrl).1.chans x = { ctrl.chans x with
      def_ := (ctrl.chans x).def_ - l.count x
      srch := if SLIM_HDL_TO_LA (ctrl.chans x).srch = laddr ∧ x ∈ l then 0
        else (ctrl.chans x).srch } := by
  rw [chans_release_chans, iterate_release]
  simp only [ne_eq, count_eq_zero, not_not]

@[simp] lemma arr_release : (release_chans laddr l ctrl).1.arr k = ctrl.arr k := by
  induction l generalizing ctrl with
  | nil => rfl
  | cons c l ih => exact (ih _).trans (arr_set_chan ..)

@[simp] lemma usedslots_release : (release_chans laddr l ctrl).1.usedslots = ctrl.usedslots := by
  induction l generalizing ctrl with
  | nil => rfl
  | cons c l ih => exact ih _

@[simp] lemma wrapped_release : (release_chans laddr l ctrl).1.wrapped = ctrl.wrapped := by
  induction l generalizing ctrl with
  | nil => rfl
  | cons c l ih => exact ih _

lemma sameFrame_release : SameFrame ctrl (release_chans laddr l ctrl).1 := by
  induction l generalizing ctrl with
  | nil => exact .refl ctrl
  | cons c l ih => exact (sameFrame_set_chan ..).trans (ih _)

/-- **What stays on the list**: the last user's removal, and what comes after it. -/
theorem count_release : (release_chans laddr l ctrl).2.count x =
    if ctrl.allocbw then l.count x else l.count x - ((ctrl.chans x).def_ - 1) := by
  induction l generalizing ctrl with
  | nil => simp [release_chans]
  | cons c l ih =>
    have hrest := ih (ctrl.set_chan c ((ctrl.chans c).release laddr))
    rw [(sameFrame_set_chan ..).allocbw] at hrest
    simp only [release_chans]
    generalize (release_chans laddr l _).2 = l' at hrest ⊢
    rcases eq_or_ne x c with rfl | hx
    · have hdef : (((ctrl.set_chan x ((ctrl.chans x).release laddr)).chans x).def_) =
          (ctrl.chans x).def_ - 1 := by simp [Ich.release]
      simp only [Ich.release, count_cons_self]
      by_cases hb : ctrl.allocbw
      · simp [hb] at hrest ⊢
        exact hrest
      · simp only [hb, if_false, Bool.false_eq_true] at hrest ⊢
        split_ifs with hone
        · omega
        · simp at hone
          rw [count_cons_self]
          omega
    · have hdef : (((ctrl.set_chan c ((ctrl.chans c).release laddr)).chans x).def_) =
          (ctrl.chans x).def_ := by simp [hx]
      rw [hdef] at hrest
      rw [count_cons_of_ne hx.symm, ← hrest]
      split_ifs <;> simp [count_cons_of_ne hx.symm]

end

/-! ## What a failed sequence leaves behind -/

def reverted (env : Env) (ctrl : Ctrl) (sb : Client) : Ctrl :=
  slim_chan_changes (allocate env (pend ctrl sb)).1 sb true

lemma reconfigure_fail {env : Env} {ctrl : Ctrl} {sb : Client}
    (h : (reconfigure env ctrl sb).ret ≠ 0) :
    (reconfigure env ctrl sb).ctrl = reverted env ctrl sb := by
  unfold reconfigure at h ⊢
  dsimp only at h ⊢
  split_ifs at h ⊢ <;> first | rfl | exact absurd rfl h

section

variable (env : Env) (ctrl : Ctrl) (sb : Client) (x : ℕ) (k : Coeff)

def Undone (state : ChState) : Prop :=
  x ∈ sb.mark_define ∧ x ∉ sb.mark_removal ∧ x ∉ sb.mark_suspend ∧ state < .ACTIVE

instance (state : ChState) : Decidable (Undone sb x state) := inferInstanceAs (Decidable (_ ∧ _))

lemma core_allocated : ((allocate env (pend ctrl sb)).1.chans x).core =
    Ich.core { ctrl.chans x with state := pend_state sb x (ctrl.chans x).state } := by
  rw [(sameCore_allocate env _).core, chans_pend]

lemma is_pending_allocated (hx : x ∈ sb.mark_define) :
    ((allocate env (pend ctrl sb)).1.chans x).is_pending ↔ Undone sb x (ctrl.chans x).state := by
  have hstate : ((allocate env (pend ctrl sb)).1.chans x).state =
      pend_state sb x (ctrl.chans x).state := congrArg (·.state) (core_allocated env ctrl sb x)
  simp only [Ich.is_pending, hstate, decide_eq_true_eq, pend_state, Undone]
  by_cases hs : x ∈ sb.mark_suspend
  · simp [hs]
  · by_cases hr : x ∈ sb.mark_removal
    · simp [hs, hr]
    · cases (ctrl.chans x).state <;> simp [hs, hr, hx] <;> decide

lemma mem_allocated (hx : x ∈ sb.mark_define)
    (hpend : ((allocate env (pend ctrl sb)).1.chans x).is_pending) :
    x ∈ (allocate env (pend ctrl sb)).1.arr ((allocate env (pend ctrl sb)).1.chans x).coeff := by
  have hcoeff : ((allocate env (pend ctrl sb)).1.chans x).coeff = (ctrl.chans x).coeff :=
    congrArg (·.coeff) (core_allocated env ctrl sb x)
  have hjoin : x ∈ sb.joining (ctrl.chans x).coeff ctrl.chans := by
    have := ((is_pending_allocated env ctrl sb x hx).1 hpend).2.2.2
    simp [Client.joining, hx, Ich.joins, this]
  rw [hcoeff, arr_allocate, arr_pend, ← count_pos_iff, count_foldl_insert_ch]
  have := count_pos_iff.2 hjoin
  omega

lemma core_reverted : ((reverted env ctrl sb).chans x).core = Ich.core { ctrl.chans x with
      state := if x ∈ sb.mark_suspend ∨ x ∈ sb.mark_removal then .ACTIVE
        else if Undone sb x (ctrl.chans x).state then .DEFINED else (ctrl.chans x).state
      def_ := if Undone sb x (ctrl.chans x).state then 0
        else (ctrl.chans x).def_ + sb.mark_removal.count x
      srch := if Undone sb x (ctrl.chans x).state then 0 else (ctrl.chans x).srch
      sinkh := if Undone sb x (ctrl.chans x).state then [] else (ctrl.chans x).sinkh } := by
  have hcore := core_allocated env ctrl sb x
  have hpend := fun hx => is_pending_allocated env ctrl sb x hx
  have hdef := chans_foldl_revert_define (allocate env (pend ctrl sb)).1 x sb.mark_define
    fun c hc => mem_allocated env ctrl sb c hc
  unfold reverted slim_chan_changes
  rw [if_pos rfl, chans_foldl_revert_suspend, chans_foldl_activate chans_revert_removal, hdef]
  generalize (allocate env (pend ctrl sb)).1.chans x = slc at hcore hpend
  have hslc := Ich.eq_of_core hcore
  have hcount : x ∉ sb.mark_removal → sb.mark_removal.count x = 0 := count_eq_zero_of_not_mem
  by_cases hu : Undone sb x (ctrl.chans x).state
  · obtain ⟨hd, hr, hs, hst⟩ := hu
    have hp : slc.is_pending := (hpend hd).2 ⟨hd, hr, hs, hst⟩
    rw [hslc] at hp ⊢
    simp [hd, hr, hs, hst, Undone, Ich.unpend, hp, Ich.reset, Ich.core]
  · have hz : (if x ∈ sb.mark_define then slc.unpend else slc) = slc := by
      split_ifs with hd
      · rw [Ich.unpend, if_neg (fun hp => hu ((hpend hd).1 hp))]
      · rfl
    rw [hz, hslc]
    by_cases hs : x ∈ sb.mark_suspend <;> by_cases hr : x ∈ sb.mark_removal <;>
      simp [hs, hr, hu, Ich.activate, Ich.core, hcount, pend_state]
    exact fun hd hst => absurd ⟨hd, hr, hs, hst⟩ hu

lemma count_reverted : ((reverted env ctrl sb).arr k).count x =
    (ctrl.arr k).count x + (sb.joining k ctrl.chans).count x -
      if Undone sb x (ctrl.chans x).state ∧ (ctrl.chans x).coeff = k then 1 else 0 := by
  have hcoeff : ((allocate env (pend ctrl sb)).1.chans x).coeff = (ctrl.chans x).coeff :=
    congrArg (·.coeff) (core_allocated env ctrl sb x)
  unfold reverted slim_chan_changes
  rw [if_pos rfl, arr_foldl_revert_suspend, arr_foldl_revert_removal, count_foldl_revert_define,
    arr_allocate, arr_pend, count_foldl_insert_ch, hcoeff]
  congr 1
  by_cases hx : x ∈ sb.mark_define
  · simp [hx, is_pending_allocated env ctrl sb x hx]
  · simp [hx, Undone]

lemma sameFrame_reverted : SameFrame (pend ctrl sb) (reverted env ctrl sb) := by
  exact (((sameFrame_allocate env _).trans
    (SameFrame.foldl (sameFrame_changes_define · · true) _ _)).trans
    (SameFrame.foldl (sameFrame_changes_removal · · true) _ _)).trans
    (SameFrame.foldl (sameFrame_changes_suspend · · true) _ _)

end

/-! ## Atomicity -/

/-- The controller is as it was. -/
structure Restored (ctrl ctrl' : Ctrl) : Prop where
  usedslots : ctrl'.usedslots = ctrl.usedslots
  pending_msgsl : ctrl'.pending_msgsl = ctrl.pending_msgsl
  arr : ∀ k, ctrl'.arr k = ctrl.arr k
  state : ∀ c, (ctrl'.chans c).state = (ctrl.chans c).state
  def_ : ∀ c, (ctrl'.chans c).def_ = (ctrl.chans c).def_
  srch : ∀ c, (ctrl'.chans c).srch = (ctrl.chans c).srch
  sinkh : ∀ c, (ctrl'.chans c).sinkh = (ctrl.chans c).sinkh

/-- The definitions of a client are taken back as they were found: defined, without users or
ports, and listed once. -/
def DefinesClean (ctrl : Ctrl) (sb : Client) : Prop :=
  ∀ c ∈ sb.mark_define, (ctrl.chans c).state < .ACTIVE →
    (ctrl.chans c).state = .DEFINED ∧ (ctrl.chans c).def_ = 0 ∧ (ctrl.chans c).srch = 0 ∧
      (ctrl.chans c).sinkh = [] ∧ sb.mark_define.count c = 1

def SuspendsActive (ctrl : Ctrl) (sb : Client) : Prop :=
  ∀ c ∈ sb.mark_suspend, (ctrl.chans c).state = .ACTIVE

/-- The removals of a client, when nothing else is pending: the channels are active, the
counts come out even, and no source port is cleared. -/
def RemovesEven (ctrl : Ctrl) (sb : Client) : Prop :=
  ∀ c ∈ sb.mark_removal, (ctrl.chans c).state = .ACTIVE ∧
    (if ctrl.allocbw then sb.mark_removal.count c ≤ (ctrl.chans c).def_
      else sb.mark_removal.count c + 1 = 2 * (ctrl.chans c).def_) ∧
    (SLIM_HDL_TO_LA (ctrl.chans c).srch = sb.laddr → (ctrl.chans c).srch = 0)

/-- **When a failed reconfiguration is without effect.** -/
def Reverts (ctrl : Ctrl) (sb : Client) : Prop :=
  sb.pending_msgsl = sb.cur_msgsl ∧
    (sb.mark_removal = [] ∨ sb.mark_define = [] ∧ sb.mark_suspend = []) ∧
    RemovesEven ctrl sb ∧ DefinesClean ctrl sb ∧ SuspendsActive ctrl sb

section Sequence

variable {env : Env} {ctrl : Ctrl} {sb : Client}

lemma Restored.clean (h : Restored ctrl (reverted env ctrl sb)) :
    sb.pending_msgsl = sb.cur_msgsl ∧ sb.mark_removal = [] ∧ DefinesClean ctrl sb ∧
      SuspendsActive ctrl sb := by
  have hcore := core_reverted env ctrl sb
  have hstate : ∀ c, _ = (ctrl.chans c).state := fun c =>
    (congrArg (·.state) (hcore c)).symm.trans (h.state c)
  have hdef : ∀ c, _ = (ctrl.chans c).def_ := fun c =>
    (congrArg (·.def_) (hcore c)).symm.trans (h.def_ c)
  dsimp only [Ich.core] at hstate hdef
  have hsuspend : SuspendsActive ctrl sb := by
    intro c hc
    rw [← hstate c, if_pos (.inl hc)]
  have hremoval : sb.mark_removal = [] := by
    refine eq_nil_iff_forall_not_mem.2 fun c hc => ?_
    have hnot : ¬ Undone sb c (ctrl.chans c).state := fun hu => hu.2.1 hc
    have hsame := hdef c
    rw [if_neg hnot] at hsame
    have := count_pos_iff.2 hc
    omega
  refine ⟨?_, hremoval, ?_, hsuspend⟩
  · have := (sameFrame_reverted env ctrl sb).pending_msgsl.symm.trans h.pending_msgsl
    rw [(frame_pend ..).2, add_eq_left] at this
    exact sub_eq_zero.1 this
  · intro c hc hst
    have hs : c ∉ sb.mark_suspend := by
      intro hs
      rw [hsuspend c hs] at hst
      exact absurd hst (by decide)
    have hr : c ∉ sb.mark_removal := by rw [hremoval]; exact not_mem_nil
    have hu : Undone sb c (ctrl.chans c).state := ⟨hc, hr, hs, hst⟩
    have hsrch := (congrArg (·.srch) (hcore c)).symm.trans (h.srch c)
    have hsinkh := (congrArg (·.sinkh) (hcore c)).symm.trans (h.sinkh c)
    dsimp only [Ich.core] at hsrch hsinkh
    have hst' := hstate c
    have hdef' := hdef c
    rw [if_pos hu] at hsrch hsinkh hdef'
    rw [if_neg (by simp [hs, hr]), if_pos hu] at hst'
    refine ⟨hst'.symm, hdef'.symm, hsrch.symm, hsinkh.symm, ?_⟩
    have hcount := count_reverted env ctrl sb c (ctrl.chans c).coeff
    rw [h.arr, Client.joining, count_filter (by simpa [Ich.joins] using hst),
      if_pos ⟨hu, rfl⟩] at hcount
    have := count_pos_iff.2 hc
    omega

lemma pending_of_allocated (env : Env) (hr : sb.mark_removal = []) (hs : SuspendsActive ctrl sb) :
    pending_of (allocate env (pend ctrl sb)).1.chans sb.mark_define =
      sb.mark_define.filter fun c => (ctrl.chans c).joins := by
  refine filter_congr fun c hc => Bool.eq_iff_iff.2 ?_
  rw [is_pending_allocated env ctrl sb c hc]
  constructor
  · intro hu
    simpa [Ich.joins] using hu.2.2.2
  · intro hj
    have hst : (ctrl.chans c).state < .ACTIVE := by simpa [Ich.joins] using hj
    refine ⟨hc, by simp [hr], fun hmem => ?_, hst⟩
    rw [hs c hmem] at hst
    exact absurd hst (by decide)

lemma foldl_insert_ch_eq (chans : ℕ → Ich) (l arr : List ℕ) :
    l.foldl (fun arr c => insert_ch chans c arr) arr = insertAll (ChLe chans) l arr := by
  simp [insertAll, insert_ch_eq_orderedInsert]

lemma restored_of_clean (hmsg : sb.pending_msgsl = sb.cur_msgsl) (hr : sb.mark_removal = [])
    (hd : DefinesClean ctrl sb) (hs : SuspendsActive ctrl sb) :
    Restored ctrl (reverted env ctrl sb) := by
  have hcore := core_reverted env ctrl sb
  have hpend := pending_of_allocated env hr hs
  have hnodup : (sb.mark_define.filter fun c => (ctrl.chans c).joins).Nodup := by
    rw [nodup_iff_count_eq_one]
    intro c hc
    obtain ⟨hmem, hj⟩ := mem_filter.1 hc
    rw [count_filter (p := fun c => (ctrl.chans c).joins) hj]
    exact (hd c hmem (by simpa [Ich.joins] using hj)).2.2.2.2
  have hclean : ∀ c, Undone sb c (ctrl.chans c).state → (ctrl.chans c).state = .DEFINED ∧
      (ctrl.chans c).def_ = 0 ∧ (ctrl.chans c).srch = 0 ∧ (ctrl.chans c).sinkh = [] := by
    rintro c ⟨hmem, -, -, hst⟩
    obtain ⟨h1, h2, h3, h4, -⟩ := hd c hmem hst
    exact ⟨h1, h2, h3, h4⟩
  have hsl : ∀ c, ((allocate env (pend ctrl sb)).1.chans c).sl = (ctrl.chans c).sl := fun c =>
    congrArg (·.sl) (core_allocated env ctrl sb c)
  have hcoeff : ∀ c, ((allocate env (pend ctrl sb)).1.chans c).coeff = (ctrl.chans c).coeff :=
    fun c => congrArg (·.coeff) (core_allocated env ctrl sb c)
  constructor
  case usedslots =>
    unfold reverted slim_chan_changes
    rw [if_pos rfl, usedslots_foldl_revert_suspend, usedslots_foldl_revert_removal,
      (foldl_revert_define _ _ (hpend ▸ hnodup)).2, hpend, usedslots_allocate, usedslots_pend,
      (sameFrame_allocate env _).allocbw, (frame_pend ..).1, hr]
    simp [hsl]
  case pending_msgsl =>
    rw [(sameFrame_reverted env ctrl sb).pending_msgsl, (frame_pend ..).2, hmsg, sub_self, add_zero]
  case arr =>
    intro k
    unfold reverted slim_chan_changes
    rw [if_pos rfl, arr_foldl_revert_suspend, arr_foldl_revert_removal,
      (foldl_revert_define _ _ (hpend ▸ hnodup)).1, hpend, arr_allocate, arr_pend,
      foldl_insert_ch_eq]
    simp only [hcoeff, filter_filter, Bool.and_comm (decide _)]
    refine foldl_erase_insertAll ?_ _
    simpa only [Client.joining, filter_filter, Bool.and_comm (decide _)] using
      hnodup.filter fun c => decide _
  case state =>
    intro c
    refine (congrArg (·.state) (hcore c)).trans ?_
    dsimp only [Ich.core]
    split_ifs with hor hu
    · exact (hs c (hor.resolve_right (by simp [hr]))).symm
    · exact (hclean c hu).1.symm
    · rfl
  case def_ =>
    intro c
    refine (congrArg (·.def_) (hcore c)).trans ?_
    dsimp only [Ich.core]
    split_ifs with hu
    · exact (hclean c hu).2.1.symm
    · simp [hr]
  case srch =>
    intro c
    refine (congrArg (·.srch) (hcore c)).trans ?_
    dsimp only [Ich.core]
    split_ifs with hu
    · exact (hclean c hu).2.2.1.symm
    · rfl
  case sinkh =>
    intro c
    refine (congrArg (·.sinkh) (hcore c)).trans ?_
    dsimp only [Ich.core]
    split_ifs with hu
    · exact (hclean c hu).2.2.2.symm
    · rfl

end Sequence

/-! ### Nothing but removals -/

section RemovalOnly

variable {env : Env} {ctrl : Ctrl} {sb : Client}

lemma Client.removal_only_iff : sb.removal_only ↔
    sb.pending_msgsl = sb.cur_msgsl ∧ sb.mark_define = [] ∧ sb.mark_suspend = [] := by
  simp [Client.removal_only, and_assoc]

def Client.released (sb : Client) (ctrl : Ctrl) : Client :=
  { sb with mark_removal := (release_chans sb.laddr sb.mark_removal ctrl).2 }

def Ctrl.released (ctrl : Ctrl) (sb : Client) : Ctrl :=
  (release_chans sb.laddr sb.mark_removal ctrl).1

lemma core_reverted_released (env : Env) (ctrl : Ctrl) (hd : sb.mark_define = [])
    (hs : sb.mark_suspend = []) (x : ℕ) :
    ((reverted env (ctrl.released sb) (sb.released ctrl)).chans x).core = Ich.core
      { ctrl.chans x with
        state := if x ∈ (sb.released ctrl).mark_removal then .ACTIVE else (ctrl.chans x).state
        def_ := (ctrl.chans x).def_ - sb.mark_removal.count x +
          (sb.released ctrl).mark_removal.count x
        srch := if SLIM_HDL_TO_LA (ctrl.chans x).srch = sb.laddr ∧ x ∈ sb.mark_removal then 0
          else (ctrl.chans x).srch } := by
  have hu : ∀ state, ¬ Undone (sb.released ctrl) x state := by
    intro state h
    exact not_mem_nil (hd ▸ h.1)
  have hsr : x ∉ (sb.released ctrl).mark_suspend := by
    rw [show (sb.released ctrl).mark_suspend = [] from hs]
    exact not_mem_nil
  rw [core_reverted]
  simp [hu, hsr, Ctrl.released, chans_release]

lemma count_released (ctrl : Ctrl) (sb : Client) (x : ℕ) : (sb.released ctrl).mark_removal.count x =
    if ctrl.allocbw then sb.mark_removal.count x
    else sb.mark_removal.count x - ((ctrl.chans x).def_ - 1) :=
  count_release ..

lemma restored_released_iff (hmsg : sb.pending_msgsl = sb.cur_msgsl) (hd : sb.mark_define = [])
    (hs : sb.mark_suspend = []) :
    Restored ctrl (reverted env (ctrl.released sb) (sb.released ctrl)) ↔ RemovesEven ctrl sb := by
  have hcore := core_reverted_released env ctrl hd hs
  have hcount := count_released ctrl sb
  constructor
  · intro h c hc
    have hstate := (congrArg (·.state) (hcore c)).symm.trans (h.state c)
    have hdef := (congrArg (·.def_) (hcore c)).symm.trans (h.def_ c)
    have hsrch := (congrArg (·.srch) (hcore c)).symm.trans (h.srch c)
    dsimp only [Ich.core] at hstate hdef hsrch
    have hpos := count_pos_iff.2 hc
    have heven : if ctrl.allocbw then sb.mark_removal.count c ≤ (ctrl.chans c).def_
        else sb.mark_removal.count c + 1 = 2 * (ctrl.chans c).def_ := by
      rw [hcount] at hdef
      split_ifs at hdef ⊢ <;> omega
    have hkept : c ∈ (sb.released ctrl).mark_removal := by
      rw [← count_pos_iff, hcount]
      split_ifs at heven ⊢ <;> omega
    refine ⟨?_, heven, fun hla => ?_⟩
    · rw [← hstate, if_pos hkept]
    · rw [← hsrch, if_pos ⟨hla, hc⟩]
  · intro heven
    -- a channel that is not on the list is not touched, one on the list comes out even
    have hsame : ∀ c, (ctrl.chans c).def_ - sb.mark_removal.count c +
        (sb.released ctrl).mark_removal.count c = (ctrl.chans c).def_ := by
      intro c
      rw [hcount]
      by_cases hc : c ∈ sb.mark_removal
      · have := (heven c hc).2.1
        split_ifs at * <;> omega
      · rw [count_eq_zero_of_not_mem hc]
        split_ifs <;> omega
    have hmem : ∀ c ∈ (sb.released ctrl).mark_removal, c ∈ sb.mark_removal := by
      intro c hc
      have := count_pos_iff.2 hc
      rw [hcount] at this
      refine count_pos_iff.1 ?_
      split_ifs at this <;> omega
    constructor
    case usedslots =>
      have hsl : ∀ c, ((allocate env (pend (ctrl.released sb) (sb.released ctrl))).1.chans c).sl =
          ((ctrl.released sb).chans c).sl := fun c => congrArg (·.sl) (core_allocated env _ _ c)
      have hd' : (sb.released ctrl).mark_define = [] := hd
      unfold reverted slim_chan_changes
      rw [if_pos rfl, hd', foldl_nil, usedslots_foldl_revert_suspend,
        usedslots_foldl_revert_removal, usedslots_allocate, usedslots_pend,
        (sameFrame_allocate env _).allocbw, (frame_pend ..).1, hd']
      simp only [hsl]
      simp [Ctrl.released]
    case pending_msgsl =>
      have hmsg' : (sb.released ctrl).pending_msgsl = (sb.released ctrl).cur_msgsl := hmsg
      rw [(sameFrame_reverted env _ _).pending_msgsl, (frame_pend ..).2, hmsg', sub_self, add_zero]
      exact (sameFrame_release ..).pending_msgsl
    case arr =>
      intro k
      have hd' : (sb.released ctrl).mark_define = [] := hd
      unfold reverted slim_chan_changes
      rw [if_pos rfl, hd', foldl_nil, arr_foldl_revert_suspend, arr_foldl_revert_removal,
        arr_allocate, arr_pend, Client.joining, hd']
      exact arr_release ..
    case state =>
      intro c
      refine (congrArg (·.state) (hcore c)).trans ?_
      dsimp only [Ich.core]
      split_ifs with hc
      · exact (heven c (hmem c hc)).1.symm
      · rfl
    case def_ => exact fun c => (congrArg (·.def_) (hcore c)).trans (hsame c)
    case srch =>
      intro c
      refine (congrArg (·.srch) (hcore c)).trans ?_
      dsimp only [Ich.core]
      split_ifs with hc
      · exact ((heven c hc.2).2.2 hc.1).symm
      · rfl
    case sinkh => exact fun c => congrArg (·.sinkh) (hcore c)

end RemovalOnly

/-! ### The call -/

theorem slim_reconfigure_now_fail {env : Env} {ctrl : Ctrl} {sb : Client}
    (h : (slim_reconfigure_now env ctrl sb).ret ≠ 0) :
    (slim_reconfigure_now env ctrl sb).ctrl =
      if sb.removal_only then reverted env (ctrl.released sb) (sb.released ctrl)
      else reverted env ctrl sb := by
  unfold slim_reconfigure_now at h ⊢
  dsimp only at h ⊢
  split_ifs at h ⊢
  · exact absurd rfl h
  · exact reconfigure_fail h
  · exact reconfigure_fail h

/-- **A failed reconfiguration is without effect exactly when** the client's requests are of
the kind that the revert undoes. -/
theorem failed_reconfigure_restores_iff (env : Env) (ctrl : Ctrl) (sb : Client)
    (hfail : (slim_reconfigure_now env ctrl sb).ret ≠ 0) :
    Restored ctrl (slim_reconfigure_now env ctrl sb).ctrl ↔ Reverts ctrl sb := by
  rw [slim_reconfigure_now_fail hfail]
  by_cases hquick : sb.removal_only
  · obtain ⟨hmsg, hd, hs⟩ := Client.removal_only_iff.1 hquick
    rw [if_pos hquick, restored_released_iff hmsg hd hs]
    simp [Reverts, hmsg, hd, hs, DefinesClean, SuspendsActive]
  · rw [if_neg hquick]
    constructor
    · intro h
      obtain ⟨hmsg, hr, hd, hs⟩ := h.clean
      exact ⟨hmsg, .inl hr, by simp [RemovesEven, hr], hd, hs⟩
    · rintro ⟨hmsg, hlists, -, hd, hs⟩
      have hr : sb.mark_removal = [] :=
        hlists.resolve_right fun h => hquick (Client.removal_only_iff.2 ⟨hmsg, h.1, h.2⟩)
      exact restored_of_clean hmsg hr hd hs

def Env.mute : Env := ⟨fun _ => - EIO, (0, 0, 0), fun _ => true⟩

def Client.asks_bandwidth : Client := ⟨0, 0, 5, [], [], []⟩

theorem failed_bandwidth_request :
    (slim_reconfigure_now .mute .registered .asks_bandwidth).ret ≠ 0 ∧
      (Restored .registered (slim_reconfigure_now .mute .registered .asks_bandwidth).ctrl ↔
        Reverts .registered .asks_bandwidth) :=
  ⟨by decide +kernel, failed_reconfigure_restores_iff .mute .registered .asks_bandwidth
    (by decide +kernel)⟩

theorem failed_bandwidth_request_stays_booked :
    (slim_reconfigure_now .mute .registered .asks_bandwidth).ret = - EIO ∧
      ¬ Restored .registered (slim_reconfigure_now .mute .registered .asks_bandwidth).ctrl := by
  refine ⟨by decide +kernel, fun h => ?_⟩
  have hmsg : (slim_reconfigure_now .mute .registered .asks_bandwidth).ctrl.pending_msgsl = 5 := by
    decide +kernel
  exact absurd (hmsg.symm.trans h.pending_msgsl) (by decide)

end KernelExtra.Slimbus
