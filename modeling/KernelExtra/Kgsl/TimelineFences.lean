/-
When timeline fences are signalled.

A live fence that is not signalled is on `timeline->fences` or on the private list of a walker that
is about to signal it. Only `destroy` is not covered: it takes the list once, and a `fence_get` that
looked the timeline up before can link its fence after that.
-/
import KernelExtra.Kgsl.Timeline

namespace KernelExtra.Kgsl.Timelines

open Run (exec Ok)
open Timeline List

/-! ## The value -/

lemma value_le_step (s : Timeline) (a : Act) : s.value ≤ (step s a).value := by
  have hs := step_spec s a
  generalize step s a = s' at hs
  cases hs with
  | signal_walk t seqno ht hlock hvalue =>
    rw [signal_walk_eq]
    exact hvalue
  | destroy_splice t ht =>
    rw [destroy_splice_eq]
    exact le_rfl
  | fence_install t f installed ht => cases installed <;> exact le_rfl
  | _ => exact le_rfl

lemma value_le_exec (s : Timeline) (l : List Act) : s.value ≤ (exec step s l).value :=
  Run.exec_inv (I := fun s' => s.value ≤ s'.value) (fun s' a h => h.trans (value_le_step s' a))
    le_rfl l

/-! ## The fences that wait -/

/-- A fence that is not signalled is on a list, where somebody will find it. -/
structure Waiting (s : Timeline) : Prop where
  listed : ∀ f ∈ s.fences, f < s.count ∧ s.value < (s.fence f).seqno
  moved : ∀ f ∈ s.moved, f < s.count ∧ (s.fence f).seqno ≤ s.value
  spliced : ∀ f ∈ s.spliced, f < s.count
  waits : ∀ f < s.count, (s.fence f).life = .live → (s.fence f).signaled = false →
    f ∈ s.fences ∨ f ∈ s.moved ∨ f ∈ s.spliced
  signaled : ∀ f < s.count, (s.fence f).signaled = true →
    (s.fence f).seqno ≤ s.value ∨ s.destroyed = true ∨ ∃ t, s.phase t = .destroying
  emptied : s.emptied = true → s.fences = []

variable {s : Timeline} {t f : ℕ}

lemma Waiting.of_eq {s' : Timeline} (h : Waiting s) (hvalue : s'.value = s.value)
    (hcount : s'.count = s.count) (hfences : s'.fences = s.fences) (hmoved : s'.moved = s.moved)
    (hspliced : s'.spliced = s.spliced) (hemptied : s'.emptied = s.emptied)
    (hseqno : ∀ f, (s'.fence f).seqno = (s.fence f).seqno)
    (hsignaled : ∀ f, (s'.fence f).signaled = (s.fence f).signaled)
    (hlive : ∀ f, (s'.fence f).life = .live → (s.fence f).life = .live)
    (hend : (s.destroyed = true ∨ ∃ t, s.phase t = .destroying) →
      s'.destroyed = true ∨ ∃ t, s'.phase t = .destroying) : Waiting s' where
  listed := by simpa only [hvalue, hcount, hfences, hseqno] using h.listed
  moved := by simpa only [hvalue, hcount, hmoved, hseqno] using h.moved
  spliced := by simpa only [hcount, hspliced] using h.spliced
  waits := by
    simp only [hcount, hfences, hmoved, hspliced, hsignaled]
    intro f hf hl
    exact h.waits f hf (hlive f hl)
  signaled := by
    simp only [hcount, hvalue, hseqno, hsignaled]
    intro f hf hsig
    exact (h.signaled f hf hsig).imp_right hend
  emptied := by simpa only [hemptied, hfences] using h.emptied

lemma exists_destroying_update (p : Phase) (ht : s.phase t ≠ .destroying)
    (h : s.destroyed = true ∨ ∃ t, s.phase t = .destroying) :
    s.destroyed = true ∨ ∃ t', Function.update s.phase t p t' = .destroying := by
  refine h.imp_right ?_
  rintro ⟨t', ht'⟩
  refine ⟨t', ?_⟩
  rw [Function.update_of_ne]
  · exact ht'
  · rintro rfl
    exact ht ht'

lemma life_put {g : ℕ} (h : ((s.dma_fence_put f).fence g).life = .live) :
    (s.fence g).life = .live := by
  rw [put_fence] at h
  dsimp only at h
  split at h
  · cases h
  · exact h

/-- No `fence_get` links a fence after `destroy` has taken the list. -/
def in_time (s : Timeline) : Act → Prop
  | .fence_alloc t true =>
    match s.phase t with
    | .get_found seqno => s.emptied = true → seqno ≤ s.value
    | _ => True
  | _ => True

instance : ∀ (s : Timeline) (a : Act), Decidable (in_time s a)
  | s, .fence_alloc t true =>
    match h : s.phase t with
    | .get_found seqno =>
      decidable_of_iff (s.emptied = true → seqno ≤ s.value) (by simp [in_time, h])
    | .idle | .get_linked _ | .signal_found _ | .signalling | .destroy_removed
    | .destroy_spliced | .destroying => .isTrue (by simp [in_time, h])
  | _, .fence_alloc _ false | _, .fence_get .. | _, .fence_install .. | _, .signal ..
  | _, .signal_lock _ | _, .signal_next _ | _, .signal_unlock _ | _, .destroy ..
  | _, .destroy_splice _ | _, .destroy_lock _ | _, .destroy_next _ | _, .destroy_unlock _
  | _, .query _ | _, .dup _ | _, .close _ | _, .poll _ | _, .release _ | _, .free _ =>
    .isTrue trivial

section

variable (h : Waiting s)
include h

lemma Waiting.fence_alloc {seqno : ℕ}
    (ht : s.phase t = .get_found seqno) (hok : s.emptied = true → seqno ≤ s.value) :
    Waiting (s.fence_alloc t seqno) := by
  have hold : ∀ f, f < s.count → (s.fence_alloc t seqno).fence f = s.fence f := by
    intro f hf
    exact Function.update_of_ne (ne_of_lt hf) _ _
  have hnew : (s.fence_alloc t seqno).fence s.count =
      ⟨seqno, decide (seqno ≤ s.value), false, 1, .live⟩ := Function.update_self ..
  have hmem : ∀ f, f ∈ (s.fence_alloc t seqno).fences ↔
      f ∈ s.fences ∨ f = s.count ∧ s.value < seqno := by
    intro f
    simp only [Timeline.fence_alloc]
    split
    · have : ¬ s.value < seqno := by omega
      simp [this]
    · have : s.value < seqno := by omega
      rw [(add_fence_perm s seqno s.count s.fences).mem_iff, mem_cons]
      tauto
  constructor
  · intro f hf
    rw [hmem] at hf
    obtain hf | ⟨rfl, hlt⟩ := hf
    · have := h.listed f hf
      rw [hold f this.1]
      exact ⟨Nat.lt_succ_of_lt this.1, this.2⟩
    · rw [hnew]
      exact ⟨Nat.lt_succ_self _, hlt⟩
  · intro f hf
    have := h.moved f hf
    rw [hold f this.1]
    exact ⟨Nat.lt_succ_of_lt this.1, this.2⟩
  · intro f hf
    exact Nat.lt_succ_of_lt (h.spliced f hf)
  · intro f hf hl hsig
    rw [hmem]
    obtain hf | rfl := Nat.lt_succ_iff_lt_or_eq.mp hf
    · rw [hold f hf] at hl hsig
      exact (h.waits f hf hl hsig).imp_left .inl
    · rw [hnew] at hsig
      exact .inl (.inr ⟨rfl, not_le.mp (of_decide_eq_false hsig)⟩)
  · intro f hf hsig
    obtain hf | rfl := Nat.lt_succ_iff_lt_or_eq.mp hf
    · rw [hold f hf] at hsig ⊢
      exact (h.signaled f hf hsig).imp_right (exists_destroying_update _ (by simp [ht]))
    · rw [hnew] at hsig ⊢
      exact .inl (of_decide_eq_true hsig)
  · intro hemp
    have hdue : seqno ≤ s.value := hok hemp
    simp only [Timeline.fence_alloc, if_pos hdue]
    exact h.emptied hemp

lemma Waiting.signal_walk {seqno : ℕ} (hmoved : s.moved = [])
    (ht : s.phase t = .signal_found seqno) (hvalue : s.value ≤ seqno) :
    Waiting (s.signal_walk t seqno) := by
  rw [signal_walk_eq]
  constructor
  · intro f hf
    simp only [mem_filter, decide_eq_true_eq] at hf
    exact ⟨(h.listed f hf.1).1, hf.2⟩
  · intro f hf
    simp only [mem_reverse, mem_due] at hf
    exact ⟨(h.listed f hf.1).1, hf.2⟩
  · exact h.spliced
  · intro f hf hl hsig
    simp only [mem_filter, decide_eq_true_eq, mem_reverse, mem_due]
    have hw := h.waits f hf hl hsig
    rw [hmoved] at hw
    obtain hf | hf | hf := hw
    · obtain hlt | hle := lt_or_ge seqno (s.fence f).seqno
      · exact .inl ⟨hf, hlt⟩
      · exact .inr (.inl ⟨hf, hle⟩)
    · cases hf
    · exact .inr (.inr hf)
  · intro f hf hsig
    obtain hle | hend := h.signaled f hf hsig
    · exact .inl (le_trans hle hvalue)
    · exact .inr (exists_destroying_update _ (by simp [ht]) hend)
  · intro hemp
    simp [h.emptied hemp]

lemma Waiting.destroy_splice (hspliced : s.spliced = [])
    (ht : s.phase t = .destroy_removed) : Waiting (s.destroy_splice t) := by
  rw [destroy_splice_eq]
  constructor
  · intro f hf
    cases hf
  · exact h.moved
  · intro f hf
    exact (h.listed f hf).1
  · intro f hf hl hsig
    have hw := h.waits f hf hl hsig
    rw [hspliced] at hw
    obtain hf | hf | hf := hw
    · exact .inr (.inr hf)
    · exact .inr (.inl hf)
    · cases hf
  · intro f hf hsig
    exact (h.signaled f hf hsig).imp_right (exists_destroying_update _ (by simp [ht]))
  · intro _
    rfl

lemma Waiting.of_signal {s' : Timeline} (hvalue : s'.value = s.value)
    (hcount : s'.count = s.count) (hfences : s'.fences = s.fences)
    (hmoved : s'.moved ⊆ s.moved) (hspliced : s'.spliced ⊆ s.spliced)
    (hhead : ∀ g, g ∈ s.moved ∨ g ∈ s.spliced → g = f ∨ g ∈ s'.moved ∨ g ∈ s'.spliced)
    (hemptied : s'.emptied = s.emptied)
    (hseqno : ∀ g, (s'.fence g).seqno = (s.fence g).seqno)
    (hsignaled : ∀ g, (s'.fence g).signaled = (decide (g = f) || (s.fence g).signaled))
    (hlive : ∀ g, (s'.fence g).life = .live → (s.fence g).life = .live)
    (hdestroyed : s'.destroyed = s.destroyed) (hphase : s'.phase = s.phase)
    (hdue : (s.fence f).seqno ≤ s.value ∨ ∃ t, s.phase t = .destroying) : Waiting s' where
  listed := by simpa only [hvalue, hcount, hfences, hseqno] using h.listed
  moved := by
    intro g hg
    simpa only [hvalue, hcount, hseqno] using h.moved g (hmoved hg)
  spliced := by
    intro g hg
    simpa only [hcount] using h.spliced g (hspliced hg)
  waits := by
    intro g hg hl hsig
    rw [hsignaled, Bool.or_eq_false_iff, decide_eq_false_iff_not] at hsig
    obtain hw | hw := h.waits g (hcount ▸ hg) (hlive g hl) hsig.2
    · exact .inl (hfences ▸ hw)
    · exact .inr ((hhead g hw).resolve_left hsig.1)
  signaled := by
    intro g hg hsig
    rw [hseqno, hvalue, hdestroyed, hphase]
    rw [hsignaled, Bool.or_eq_true, decide_eq_true_eq] at hsig
    obtain rfl | hsig := hsig
    · exact hdue.imp_right .inr
    · exact h.signaled g (hcount ▸ hg) hsig
  emptied := by simpa only [hemptied, hfences] using h.emptied

lemma Waiting.signal_next {rest : List ℕ}
    (hmoved : s.moved = f :: rest) : Waiting (s.signal_next f rest) := by
  refine h.of_signal (f := f) rfl rfl rfl ?_ (.refl _) ?_ rfl ?_ ?_ ?_ rfl rfl ?_
  · rw [hmoved]
    exact subset_cons_self f rest
  · intro g hg
    rw [hmoved, mem_cons, or_assoc] at hg
    exact hg
  · intro g
    simp [Timeline.signal_next]
  · intro g
    simp [Timeline.signal_next]
  · intro g hg
    simpa using life_put hg
  · exact .inl (h.moved f (by simp [hmoved])).2

lemma Waiting.destroy_next {rest : List ℕ}
    (ht : s.phase t = .destroying) (hspliced : s.spliced = f :: rest) :
    Waiting (s.destroy_next f rest) := by
  refine h.of_signal (f := f) rfl rfl rfl (.refl _) ?_ ?_ rfl ?_ ?_ ?_ rfl rfl ?_
  · rw [hspliced]
    exact subset_cons_self f rest
  · intro g hg
    rw [hspliced, mem_cons] at hg
    tauto
  · intro g
    simp [Timeline.destroy_next]
  · intro g
    simp [Timeline.destroy_next]
  · intro g hg
    simpa using life_put hg
  · exact .inr ⟨t, ht⟩

lemma Waiting.release : Waiting (s.release f) := by
  have hfence : ∀ g, ((s.release f).fence g).seqno = (s.fence g).seqno ∧
      ((s.release f).fence g).signaled = (s.fence g).signaled := by
    intro g
    simp only [Timeline.release, modify_fence]
    grind
  constructor
  · intro g hg
    rw [(hfence g).1]
    exact h.listed g (mem_of_mem_erase hg)
  · intro g hg
    rw [(hfence g).1]
    exact h.moved g hg
  · exact h.spliced
  · intro g hg hl hsig
    have hne : g ≠ f := by
      rintro rfl
      simp [Timeline.release] at hl
    have hl : (s.fence g).life = .live := by simpa [Timeline.release, hne] using hl
    rw [(hfence g).2] at hsig
    exact (h.waits g hg hl hsig).imp_left fun hm => (mem_erase_of_ne hne).mpr hm
  · intro g hg hsig
    rw [(hfence g).2] at hsig
    rw [(hfence g).1]
    exact h.signaled g hg hsig
  · intro hemp
    simp [Timeline.release, h.emptied hemp]

/-- **Every critical section taken in time** keeps the fences where a walker will find them. -/
theorem Waiting.keeps {s' : Timeline} {a : Act} (hc : Control s)
    (hok : in_time s a) (hs : Step s a s') : Waiting s' := by
  cases hs with
  | stay => exact h
  | fence_get t _ ht | signal t _ ht | alloc_fail t _ ht | signal_late t _ ht
  | signal_unlock t ht | destroy t ht | destroy_lock t ht =>
    refine h.of_eq rfl rfl rfl rfl rfl rfl (fun _ => rfl) (fun _ => rfl) (fun _ => id) ?_
    exact exists_destroying_update _ (by simp [ht])
  | fence_alloc t seqno ht => exact h.fence_alloc ht (by simpa [in_time, ht] using hok)
  | fence_install t f installed ht =>
    cases installed with
    | true =>
      refine h.of_eq rfl rfl rfl rfl rfl rfl (fun _ => rfl) (fun _ => rfl) (fun _ => id) ?_
      exact exists_destroying_update _ (by simp [ht])
    | false =>
      refine h.of_eq rfl rfl rfl rfl rfl rfl ?_ ?_ ?_ ?_
      · intro g
        simp [Timeline.fence_install, set_phase]
      · intro g
        simp [Timeline.fence_install, set_phase]
      · intro g hg
        exact life_put hg
      · exact exists_destroying_update _ (by simp [ht])
  | signal_walk t seqno ht hlock hvalue => exact h.signal_walk (hc.moved_eq_nil hlock) ht hvalue
  | signal_next t f rest ht hmoved => exact h.signal_next hmoved
  | destroy_splice t ht => exact h.destroy_splice (hc.spliced_eq_nil ht) ht
  | destroy_next t f rest ht hspliced => exact h.destroy_next ht hspliced
  | destroy_unlock t ht =>
    refine h.of_eq rfl rfl rfl rfl rfl rfl (fun _ => rfl) (fun _ => rfl) (fun _ => id) ?_
    exact fun _ => .inl rfl
  | dup f =>
    refine h.of_eq rfl rfl rfl rfl rfl rfl ?_ ?_ ?_ id <;> intro g <;> simp [Timeline.dup]
  | close f =>
    refine h.of_eq rfl rfl rfl rfl rfl rfl ?_ ?_ (fun _ => life_put) id <;> intro g <;>
      simp [Timeline.close]
  | poll f hheld hlock hdue =>
    refine h.of_signal (f := f) rfl rfl rfl (.refl _) (.refl _)
      (fun _ => .inr) rfl ?_ ?_ ?_ rfl rfl ?_
    · intro g
      simp
    · intro g
      simp
    · intro g
      simp
    · exact .inl (by simpa [timeline_fence_signaled] using hdue)
  | release f => exact h.release
  | free f =>
    refine h.of_eq rfl rfl rfl rfl rfl rfl ?_ ?_ ?_ id <;> intro g <;>
      simp only [Timeline.free, modify_fence] <;> grind

end

lemma waiting_created (initial : ℕ) : Waiting (created initial) := by
  constructor <;> simp [created]

lemma sound_of_in_time {initial : ℕ} {l : List Act}
    (hok : Ok step in_time (created initial) l) :
    Control (exec step (created initial) l) ∧ Waiting (exec step (created initial) l) := by
  refine hok.inv (I := fun s => Control s ∧ Waiting s) ?_
    ⟨control_created initial, waiting_created initial⟩
  rintro s a ⟨hc, hw⟩ ha
  exact ⟨hc.keeps (step_spec s a), hw.keeps hc ha (step_spec s a)⟩

/-! ## Signalled exactly when due -/

theorem is_signaled_iff (hc : Control s) (hw : Waiting s) (hlock : s.lock = none)
    (hf : f < s.count) (hlive : (s.fence f).life = .live) :
    s.dma_fence_is_signaled f = true ↔ (s.fence f).seqno ≤ s.value ∨ s.destroyed = true := by
  have hfree := hc.not_holding hlock
  simp only [dma_fence_is_signaled, timeline_fence_signaled, Bool.or_eq_true, Bool.not_eq_true',
    decide_eq_false_iff_not, not_lt]
  constructor
  · rintro (hsig | hle)
    · obtain hle | hdes | ⟨t, ht⟩ := hw.signaled f hf hsig
      · exact .inl hle
      · exact .inr hdes
      · exact absurd (.inr ht) (hfree t)
    · exact .inl hle
  · rintro (hle | hdes)
    · exact .inr hle
    · -- the list is empty and nobody has a private one
      left
      by_contra hsig
      obtain hm | hm | hm := hw.waits f hf hlive (Bool.not_eq_true _ ▸ hsig)
      · rw [hw.emptied (hc.destroyed hdes).2] at hm
        cases hm
      · obtain ⟨t, ht⟩ := hc.moved (ne_nil_of_mem hm)
        exact hfree t (.inl ht)
      · obtain ⟨t, ht⟩ := hc.spliced (ne_nil_of_mem hm)
        have := (hc.removed t (.inr ht)).2
        rw [hdes] at this
        cases this

lemma signaled_iff_of_idle (hc : Control s) (hw : Waiting s)
    (hidle : ∀ t, s.phase t = .idle) (hf : f < s.count) (hlive : (s.fence f).life = .live) :
    (s.fence f).signaled = true ↔ (s.fence f).seqno ≤ s.value ∨ s.destroyed = true := by
  have hlock : s.lock = none := by
    rw [Option.eq_none_iff_forall_ne_some]
    intro t ht
    simpa [hidle t] using (hc.holder t).mp ht
  rw [← is_signaled_iff hc hw hlock hf hlive]
  simp only [dma_fence_is_signaled, timeline_fence_signaled, Bool.or_eq_true, Bool.not_eq_true',
    decide_eq_false_iff_not, not_lt]
  refine ⟨.inl, ?_⟩
  rintro (hsig | hle)
  · exact hsig
  · by_contra hsig
    obtain hm | hm | hm := hw.waits f hf hlive (Bool.not_eq_true _ ▸ hsig)
    · exact absurd (hw.listed f hm).2 (not_lt.mpr hle)
    · obtain ⟨t, ht⟩ := hc.moved (ne_nil_of_mem hm)
      simp [hidle t] at ht
    · obtain ⟨t, ht⟩ := hc.spliced (ne_nil_of_mem hm)
      simp [hidle t] at ht

/-- **Fences are signalled exactly when due**, in every interleaving in which no `fence_get` links a
fence that is not due after `destroy` has taken the list. -/
theorem timeline_fences_signalled_in_time (initial : ℕ) (l : List Act)
    (hok : Ok step in_time (created initial) l) :
    let s := exec step (created initial) l
    (∀ l', l' <+: l → (exec step (created initial) l').value ≤ s.value) ∧
    (s.lock = none → ∀ f < s.count, (s.fence f).life = .live →
      (s.dma_fence_is_signaled f = true ↔
        (s.fence f).seqno ≤ s.value ∨ s.destroyed = true)) ∧
    ((∀ t, s.phase t = .idle) → ∀ f < s.count, (s.fence f).life = .live →
      ((s.fence f).signaled = true ↔ (s.fence f).seqno ≤ s.value ∨ s.destroyed = true)) := by
  obtain ⟨hc, hw⟩ := sound_of_in_time hok
  refine ⟨?_, ?_, ?_⟩
  · rintro l' ⟨l'', rfl⟩
    rw [Run.exec_append]
    exact value_le_exec _ l''
  · intro hlock f hf hlive
    exact is_signaled_iff hc hw hlock hf hlive
  · intro hidle f hf hlive
    exact signaled_iff_of_idle hc hw hidle hf hlive

def destroyed_after_get : List Act :=
  [.fence_get 0 5, .fence_alloc 0 true, .fence_install 0 true, .signal 1 3, .signal_lock 1,
    .signal_unlock 1, .destroy 2 true, .destroy_splice 2, .destroy_lock 2, .destroy_next 2,
    .destroy_unlock 2]

theorem fence_signalled_by_destroy : let s := exec step (created 0) destroyed_after_get
    s.value = 3 ∧ s.destroyed = true ∧ (s.fence 0).seqno = 5 ∧
      s.dma_fence_is_signaled 0 = true := by
  have h := timeline_fences_signalled_in_time 0 destroyed_after_get (by decide +kernel)
  exact ⟨by decide +kernel, by decide +kernel, by decide +kernel,
    (h.2.1 (by decide +kernel) 0 (by decide +kernel) (by decide +kernel)).mpr
      (.inr (by decide +kernel))⟩

/-- Thread 1 destroys the timeline that thread 0 has looked up and then links a fence to. -/
theorem fence_orphaned_by_destroy :
    let s := exec step (created 0)
      [.fence_get 0 5, .destroy 1 true, .destroy_splice 1, .destroy_lock 1, .destroy_unlock 1,
        .fence_alloc 0 true, .fence_install 0 true]
    s.destroyed = true ∧ s.published = false ∧ (∀ t, s.phase t = .idle) ∧ s.lock = none ∧
      0 < s.count ∧ s.held 0 = 1 ∧ (s.fence 0).life = .live ∧ (s.fence 0).signaled = false ∧
      s.dma_fence_is_signaled 0 = false := by
  refine ⟨by decide +kernel, by decide +kernel, ?_, by decide +kernel, by decide +kernel,
    by decide +kernel, by decide +kernel, by decide +kernel, by decide +kernel⟩
  intro t
  match t with
  | 0 | 1 => decide +kernel
  | _ + 2 => rfl

end KernelExtra.Kgsl.Timelines
