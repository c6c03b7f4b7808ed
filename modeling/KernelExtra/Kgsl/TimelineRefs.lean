/-
References on timeline fences.

Every reference should be held by a file or waiter, by the running `fence_get` that made the fence,
or by a walker that has it on its private list. But `dma_fence_get` does not refuse a fence whose
count is zero, and such a fence is still on the list until its release has the lock.
-/
import KernelExtra.Kgsl.Timeline

namespace KernelExtra.Kgsl.Timelines

open Timeline Function List

def Timeline.refs (s : Timeline) (f : ℕ) : ℕ :=
  s.held f + s.fresh.count f + s.moved.count f + s.spliced.count f

/-- No fence is on two lists. -/
structure Listed (s : Timeline) : Prop where
  nodup : (s.fences ++ s.moved ++ s.spliced).Nodup
  lt : ∀ f ∈ s.fences ++ s.moved ++ s.spliced, f < s.count
  fresh_lt : ∀ f ∈ s.fresh, f < s.count
  held_lt : ∀ f, 0 < s.held f → f < s.count
  linked : ∀ t f, s.phase t = .get_linked f → f ∈ s.fresh ∧ s.fresh.count f = 1 ∧
    ∀ t', s.phase t' = .get_linked f → t' = t

/-- The count of a fence is the number of its references. -/
structure Counted (s : Timeline) : Prop where
  refcount : ∀ f < s.count, (s.fence f).refcount = s.refs f
  live : ∀ f < s.count, (s.fence f).life = .live ↔ 0 < (s.fence f).refcount
  gone : ∀ f < s.count, (s.fence f).life = .unlinked ∨ (s.fence f).life = .freed → f ∉ s.fences
  misuse : s.misuse = []

/-! ## What is said of every state -/

/-- No dead fence was used, and every freed fence is off all lists. -/
def NeverRevived (s : Timeline) : Prop :=
  s.misuse = [] ∧
    ∀ f < s.count, (s.fence f).life = .freed → f ∉ s.fences ∧ f ∉ s.moved ∧ f ∉ s.spliced

variable {s : Timeline} {f : ℕ}

lemma Counted.not_mem_of_dead (h : Counted s) (hf : f < s.count)
    (hdead : s.dead f) : f ∉ s.fresh ∧ f ∉ s.moved ∧ f ∉ s.spliced ∧ s.held f = 0 := by
  have hzero : s.refs f = 0 := by
    rw [← h.refcount f hf]
    by_contra hne
    exact hdead ((h.live f hf).mpr (Nat.pos_of_ne_zero hne))
  simp only [Timeline.refs, Nat.add_eq_zero_iff, count_eq_zero] at hzero
  obtain ⟨⟨⟨hheld, hfresh⟩, hmoved⟩, hspliced⟩ := hzero
  exact ⟨hfresh, hmoved, hspliced, hheld⟩

lemma Counted.neverRevived (h : Counted s) : NeverRevived s := by
  refine ⟨h.misuse, ?_⟩
  intro f hf hfreed
  have hdead : s.dead f := by
    rw [dead, hfreed]
    exact Life.noConfusion
  obtain ⟨-, hmoved, hspliced, -⟩ := h.not_mem_of_dead hf hdead
  exact ⟨h.gone f hf (.inr hfreed), hmoved, hspliced⟩

/-! ## The race -/

def walks (s : Timeline) : Act → Bool
  | .signal_lock t =>
    match s.phase t with
    | .signal_found seqno => s.lock.isNone && decide (s.value ≤ seqno)
    | _ => false
  | .destroy_splice t => decide (s.phase t = .destroy_removed)
  | _ => false

/-- When the list is walked, no fence that is still on it is about to be released. -/
def no_release_pending (s : Timeline) (a : Act) : Prop :=
  walks s a = true → ∀ f ∈ s.fences, (s.fence f).life ≠ .dying

instance (s : Timeline) (a : Act) : Decidable (no_release_pending s a) :=
  inferInstanceAs (Decidable (_ → _))

variable {l : List ℕ}

lemma walk_misuse_eq_nil (hl : l ⊆ s.fences)
    (h : ∀ f ∈ s.fences, ¬ s.dead f) : walk_misuse s l = [] := by
  have hnone : ∀ l' : List ℕ, l' ⊆ s.fences → l'.filter (fun f => s.dead f) = [] := by
    intro l' hl'
    rw [filter_eq_nil_iff]
    intro f hf
    simpa using h f (hl' hf)
  rw [walk_misuse, hnone _ (List.Subset.refl _), hnone _ hl]
  rfl

lemma Counted.dead_iff_dying (h : Counted s) (hl : Listed s)
    (hf : f ∈ s.fences) : s.dead f ↔ (s.fence f).life = .dying := by
  have hlt : f < s.count := hl.lt f (by simp [hf])
  have hgone := h.gone f hlt
  rw [dead]
  constructor
  · intro hdead
    cases hlife : (s.fence f).life with
    | live => exact absurd hlife hdead
    | dying => rfl
    | unlinked => exact absurd hf (hgone (.inl hlife))
    | freed => exact absurd hf (hgone (.inr hlife))
  · intro hdying
    rw [hdying]
    exact Life.noConfusion

/-! ## The steps -/

variable {s' : Timeline} {rest : List ℕ}

lemma Listed.of_eq (h : Listed s) (hcount : s'.count = s.count)
    (hperm : s'.fences ++ s'.moved ++ s'.spliced <+~ s.fences ++ s.moved ++ s.spliced)
    (hfresh : s'.fresh = s.fresh) (hheld : ∀ f, 0 < s'.held f → 0 < s.held f)
    (hphase : ∀ t f, s'.phase t = .get_linked f → s.phase t = .get_linked f) : Listed s' where
  nodup := by
    obtain ⟨l, hl, hsub⟩ := hperm
    exact hl.nodup_iff.mp (h.nodup.sublist hsub)
  lt := by
    intro f hf
    rw [hcount]
    exact h.lt f (hperm.subset hf)
  fresh_lt := by simpa only [hcount, hfresh] using h.fresh_lt
  held_lt := by
    intro f hf
    rw [hcount]
    exact h.held_lt f (hheld f hf)
  linked := by
    intro t f ht
    rw [hfresh]
    obtain ⟨hmem, hone, halone⟩ := h.linked t f (hphase t f ht)
    exact ⟨hmem, hone, fun t' ht' => halone t' (hphase t' f ht')⟩

lemma linked_update {t : ℕ} {p : Phase} (hp : ∀ f, p ≠ .get_linked f)
    (t' f : ℕ) (h : update s.phase t p t' = .get_linked f) :
    s.phase t' = .get_linked f := by
  rw [update_apply] at h
  split at h
  · exact absurd h (hp f)
  · exact h

lemma Counted.of_eq (h : Counted s) (hcount : s'.count = s.count)
    (hfence : ∀ f, (s'.fence f).refcount = (s.fence f).refcount ∧
      (s'.fence f).life = (s.fence f).life)
    (hrefs : ∀ f, s'.refs f = s.refs f) (hfences : s'.fences = s.fences)
    (hmisuse : s'.misuse = s.misuse) : Counted s' where
  refcount := by
    intro f hf
    rw [(hfence f).1, hrefs]
    exact h.refcount f (hcount ▸ hf)
  live := by
    intro f hf
    rw [(hfence f).1, (hfence f).2]
    exact h.live f (hcount ▸ hf)
  gone := by
    intro f hf
    rw [(hfence f).2, hfences]
    exact h.gone f (hcount ▸ hf)
  misuse := hmisuse.trans h.misuse

section

variable (h : Counted s) (hcount : s'.count = s.count)
  (hrefcount : ∀ g, (s'.fence g).refcount = (s.fence g).refcount - if g = f then 1 else 0)
  (hlife : ∀ g, (s'.fence g).life =
    if g = f ∧ (s.fence g).refcount = 1 then .dying else (s.fence g).life)
  (hrefs : ∀ g, s'.refs g + (if g = f then 1 else 0) = s.refs g) (hfences : s'.fences = s.fences)
include h hcount hrefcount hlife hrefs hfences

lemma Counted.of_put (hmisuse : s'.misuse = s.misuse) : Counted s' where
  refcount := by
    intro g hg
    rw [hrefcount, h.refcount g (hcount ▸ hg), ← hrefs g]
    exact Nat.add_sub_cancel ..
  live := by
    intro g hg
    have hl := h.live g (hcount ▸ hg)
    rw [hrefcount, hlife]
    split
    · rename_i hlast
      rw [hlast.2, if_pos hlast.1]
      simp
    · rw [hl]
      split
      · omega
      · exact Iff.rfl
  gone := by
    intro g hg hgone
    rw [hlife] at hgone
    rw [hfences]
    split at hgone
    · simp at hgone
    · exact h.gone g (hcount ▸ hg) hgone
  misuse := hmisuse.trans h.misuse

lemma Counted.of_signal_put (hf : f < s.count)
    (hmisuse : s'.misuse = s.misuse ++ if s.dead f then [.signalled f] else []) : Counted s' := by
  have hlive : ¬ s.dead f := by
    have := hrefs f
    rw [if_pos rfl] at this
    rw [dead, not_not, h.live f hf, h.refcount f hf]
    omega
  rw [if_neg hlive, append_nil] at hmisuse
  exact h.of_put hcount hrefcount hlife hrefs hfences hmisuse

end

lemma Counted.of_walk (h : Counted s)
    (hlive : ∀ f ∈ l, (s.fence f).life = .live) (hcount : s'.count = s.count)
    (hrefcount : ∀ f, (s'.fence f).refcount = (s.fence f).refcount + l.count f)
    (hlife : ∀ f, (s'.fence f).life = (s.fence f).life)
    (hrefs : ∀ f, s'.refs f = s.refs f + l.count f) (hfences : s'.fences ⊆ s.fences)
    (hmisuse : s'.misuse = s.misuse) : Counted s' where
  refcount := by
    intro f hf
    rw [hrefcount, hrefs, h.refcount f (hcount ▸ hf)]
  live := by
    intro f hf
    have hl := h.live f (hcount ▸ hf)
    rw [hrefcount, hlife, hl]
    by_cases hm : f ∈ l
    · have := hl.mp (hlive f hm)
      omega
    · rw [count_eq_zero.mpr hm]
      exact Iff.rfl
  gone := by
    intro f hf hgone hm
    rw [hlife] at hgone
    exact h.gone f (hcount ▸ hf) hgone (hfences hm)
  misuse := hmisuse.trans h.misuse

lemma Listed.fence_alloc (h : Listed s) (t seqno : ℕ) : Listed (s.fence_alloc t seqno) := by
  have hcount : s.count ∉ s.fences ++ s.moved ++ s.spliced := by
    intro hm
    exact lt_irrefl _ (h.lt _ hm)
  have hfresh : s.count ∉ s.fresh := by
    intro hm
    exact lt_irrefl _ (h.fresh_lt _ hm)
  have hperm : (s.fence_alloc t seqno).fences = s.fences ∨
      ((s.fence_alloc t seqno).fences ++ s.moved ++ s.spliced).Perm
        (s.count :: (s.fences ++ s.moved ++ s.spliced)) := by
    simp only [Timeline.fence_alloc]
    split
    · exact .inl rfl
    · exact .inr (((add_fence_perm s seqno s.count s.fences).append_right s.moved).append_right _)
  constructor
  · obtain heq | hperm := hperm
    · rw [heq]
      exact h.nodup
    · exact hperm.nodup_iff.mpr (nodup_cons.mpr ⟨hcount, h.nodup⟩)
  · intro f hf
    obtain heq | hperm := hperm
    · rw [heq] at hf
      exact Nat.lt_succ_of_lt (h.lt f hf)
    · obtain rfl | hf := mem_cons.mp (hperm.mem_iff.mp hf)
      · exact Nat.lt_succ_self _
      · exact Nat.lt_succ_of_lt (h.lt f hf)
  · intro f hf
    obtain rfl | hf := mem_cons.mp hf
    · exact Nat.lt_succ_self _
    · exact Nat.lt_succ_of_lt (h.fresh_lt f hf)
  · intro f hf
    exact Nat.lt_succ_of_lt (h.held_lt f hf)
  · -- the new fence belongs to `t`; the others keep their owners
    intro t' f ht'
    have hcase : ∀ t' f, (s.fence_alloc t seqno).phase t' = .get_linked f →
        t' = t ∧ f = s.count ∨ s.phase t' = .get_linked f ∧ f ≠ s.count := by
      intro t' f ht'
      simp only [Timeline.fence_alloc, update_apply] at ht'
      split at ht'
      · rename_i heq
        exact .inl ⟨heq, (Phase.get_linked.inj ht').symm⟩
      · refine .inr ⟨ht', ?_⟩
        rintro rfl
        exact hfresh (h.linked t' _ ht').1
    have hfr : (s.fence_alloc t seqno).fresh = s.count :: s.fresh := rfl
    rw [hfr]
    obtain ⟨rfl, rfl⟩ | ⟨hold, hne⟩ := hcase t' f ht'
    · refine ⟨mem_cons_self, ?_, ?_⟩
      · rw [count_cons_self, count_eq_zero.mpr hfresh]
      · intro t'' ht''
        obtain ⟨heq, -⟩ | ⟨-, hne⟩ := hcase t'' s.count ht''
        · exact heq
        · exact absurd rfl hne
    · obtain ⟨hmem, hone, halone⟩ := h.linked t' f hold
      refine ⟨mem_cons_of_mem _ hmem, ?_, ?_⟩
      · rw [count_cons_of_ne hne.symm, hone]
      · intro t'' ht''
        obtain ⟨-, heq⟩ | ⟨hold', -⟩ := hcase t'' f ht''
        · exact absurd heq hne
        · exact halone t'' hold'

lemma Counted.fence_alloc (h : Counted s) (hl : Listed s) (t seqno : ℕ) :
    Counted (s.fence_alloc t seqno) := by
  have hmem : s.count ∉ s.fences ++ s.moved ++ s.spliced := by
    intro hm
    exact lt_irrefl _ (hl.lt _ hm)
  simp only [mem_append, not_or] at hmem
  obtain ⟨⟨-, hmoved⟩, hspliced⟩ := hmem
  have hfresh : s.count ∉ s.fresh := by
    intro hm
    exact lt_irrefl _ (hl.fresh_lt _ hm)
  have hheld : s.held s.count = 0 := by
    by_contra hne
    exact lt_irrefl _ (hl.held_lt _ (Nat.pos_of_ne_zero hne))
  have hold : ∀ f, f < s.count → (s.fence_alloc t seqno).fence f = s.fence f := by
    intro f hf
    exact update_of_ne (ne_of_lt hf) _ _
  have hnew : (s.fence_alloc t seqno).fence s.count =
      ⟨seqno, decide (seqno ≤ s.value), false, 1, .live⟩ := update_self ..
  have hrefs : ∀ f, (s.fence_alloc t seqno).refs f =
      s.refs f + if f = s.count then 1 else 0 := by
    intro f
    simp only [Timeline.refs, Timeline.fence_alloc, count_cons, beq_iff_eq]
    simp only [eq_comm]
    omega
  have hcases : ∀ {f}, f < (s.fence_alloc t seqno).count → f < s.count ∨ f = s.count :=
    fun hf => Nat.lt_succ_iff_lt_or_eq.mp hf
  constructor
  · intro f hf
    rw [hrefs]
    obtain hf | rfl := hcases hf
    · rw [hold f hf, if_neg (ne_of_lt hf)]
      exact h.refcount f hf
    · rw [hnew, if_pos rfl, Timeline.refs, hheld, count_eq_zero.mpr hfresh,
        count_eq_zero.mpr hmoved, count_eq_zero.mpr hspliced]
  · intro f hf
    obtain hf | rfl := hcases hf
    · rw [hold f hf]
      exact h.live f hf
    · simp [hnew]
  · intro f hf hgone
    obtain hf | rfl := hcases hf
    · rw [hold f hf] at hgone
      simp only [Timeline.fence_alloc]
      split
      · exact h.gone f hf hgone
      · rw [(add_fence_perm s seqno s.count s.fences).mem_iff, mem_cons, not_or]
        exact ⟨ne_of_lt hf, h.gone f hf hgone⟩
    · simp [hnew] at hgone
  · exact h.misuse

lemma Listed.fence_install {t : ℕ} (h : Listed s)
    (ht : s.phase t = .get_linked f) (installed : Bool) :
    Listed (s.fence_install t f installed) := by
  have hlists : (s.fence_install t f installed).fences = s.fences ∧
      (s.fence_install t f installed).moved = s.moved ∧
      (s.fence_install t f installed).spliced = s.spliced ∧
      (s.fence_install t f installed).count = s.count ∧
      (s.fence_install t f installed).fresh = s.fresh.erase f ∧
      (s.fence_install t f installed).phase = update s.phase t .idle := by
    cases installed <;> exact ⟨rfl, rfl, rfl, rfl, rfl, rfl⟩
  obtain ⟨hfences, hmoved, hspliced, hcount, hfresh, hphase⟩ := hlists
  have hheld : ∀ g, 0 < (s.fence_install t f installed).held g → 0 < s.held g ∨ g = f := by
    intro g hg
    cases installed with
    | false => exact .inl hg
    | true =>
      by_cases hgf : g = f
      · exact .inr hgf
      · left
        simpa [Timeline.fence_install, set_phase, update_of_ne hgf] using hg
  obtain ⟨hmem, -, halone⟩ := h.linked t f ht
  constructor
  · rw [hfences, hmoved, hspliced]
    exact h.nodup
  · rw [hfences, hmoved, hspliced, hcount]
    exact h.lt
  · intro g hg
    rw [hfresh] at hg
    rw [hcount]
    exact h.fresh_lt g (mem_of_mem_erase hg)
  · intro g hg
    rw [hcount]
    obtain hg | rfl := hheld g hg
    · exact h.held_lt g hg
    · exact h.fresh_lt g hmem
  · intro t' g ht'
    have hold : ∀ t' g, (s.fence_install t f installed).phase t' = .get_linked g →
        s.phase t' = .get_linked g ∧ t' ≠ t := by
      intro t' g ht'
      rw [hphase] at ht'
      refine ⟨linked_update (fun _ => Phase.noConfusion) t' g ht', ?_⟩
      rintro rfl
      rw [update_self] at ht'
      cases ht'
    obtain ⟨hg, hne⟩ := hold t' g ht'
    -- `f` has only one owner, and that is `t`
    have hgf : g ≠ f := by
      rintro rfl
      exact hne (halone t' hg)
    obtain ⟨hgmem, hone, hgalone⟩ := h.linked t' g hg
    rw [hfresh]
    refine ⟨(mem_erase_of_ne hgf).mpr hgmem, ?_, ?_⟩
    · rw [count_erase_of_ne hgf, hone]
    · intro t'' ht''
      exact hgalone t'' (hold t'' g ht'').1

lemma Counted.fence_install {t : ℕ} (h : Counted s) (hl : Listed s)
    (ht : s.phase t = .get_linked f) (installed : Bool) :
    Counted (s.fence_install t f installed) := by
  obtain ⟨-, hone, -⟩ := hl.linked t f ht
  have hfresh : ∀ g, (s.fresh.erase f).count g + (if g = f then 1 else 0) = s.fresh.count g := by
    intro g
    split
    · rename_i hg
      rw [hg, count_erase_self, hone]
    · rename_i hg
      rw [count_erase_of_ne hg, Nat.add_zero]
  cases installed with
  | true =>
    refine h.of_eq rfl (fun _ => ⟨rfl, rfl⟩) ?_ rfl rfl
    intro g
    have := hfresh g
    simp only [Timeline.refs, Timeline.fence_install, set_phase, if_true, update_apply]
    split at this <;> simp_all
  | false =>
    refine h.of_put (f := f) rfl ?_ ?_ ?_ rfl rfl
    · intro g
      simp [Timeline.fence_install, set_phase]
    · intro g
      simp [Timeline.fence_install, set_phase]
    · intro g
      have := hfresh g
      simp only [Timeline.refs, Timeline.fence_install, set_phase, dma_fence_put,
        Timeline.modify, Bool.false_eq_true, if_false]
      omega

lemma count_of_eq_cons (h : l = f :: rest) (g : ℕ) :
    l.count g = rest.count g + if g = f then 1 else 0 := by
  rw [h]
  by_cases hg : g = f
  · rw [hg, count_cons_self, if_pos rfl]
  · rw [count_cons_of_ne (Ne.symm hg), if_neg hg, Nat.add_zero]

lemma Counted.signal_next (h : Counted s) (hl : Listed s)
    (hmoved : s.moved = f :: rest) : Counted (s.signal_next f rest) := by
  have hcons := count_of_eq_cons hmoved
  refine h.of_signal_put rfl ?_ ?_ ?_ rfl (hl.lt f (by simp [hmoved])) rfl
  · intro g
    simp [Timeline.signal_next]
  · intro g
    simp [Timeline.signal_next]
  · intro g
    simp only [Timeline.refs, hcons g, Timeline.signal_next, dma_fence_put,
      dma_fence_signal_locked, Timeline.modify]
    omega

lemma Counted.destroy_next (h : Counted s)
    (hl : Listed s) (hspliced : s.spliced = f :: rest) : Counted (s.destroy_next f rest) := by
  have hcons := count_of_eq_cons hspliced
  refine h.of_signal_put rfl ?_ ?_ ?_ rfl (hl.lt f (by simp [hspliced])) ?_
  · intro g
    simp [Timeline.destroy_next]
  · intro g
    simp [Timeline.destroy_next]
  · intro g
    simp only [Timeline.refs, hcons g, Timeline.destroy_next, dma_fence_put,
      dma_fence_signal_locked, dma_fence_set_error, Timeline.modify]
    omega
  · have hdead : (s.dma_fence_set_error f).dead f ↔ s.dead f := by
      simp [dead, set_error_fence]
    simp only [← hdead]
    rfl

lemma Listed.signal_walk (h : Listed s) (hmoved : s.moved = []) (t seqno : ℕ) :
    Listed (s.signal_walk t seqno) := by
  rw [signal_walk_eq]
  -- the walk only deals the list out into two
  have hperm : ((s.fences.filter fun f => decide (seqno < (s.fence f).seqno)) ++
      (due s seqno).reverse ++ s.spliced).Perm (s.fences ++ s.moved ++ s.spliced) := by
    rw [hmoved, append_nil]
    refine List.Perm.append_right _ (((reverse_perm _).append_left _).trans ?_)
    exact filter_append_perm (fun f => decide (seqno < (s.fence f).seqno)) s.fences
  exact h.of_eq rfl hperm.subperm rfl (fun _ => id)
    (linked_update fun _ => Phase.noConfusion)

lemma Counted.signal_walk (h : Counted s) (hmoved : s.moved = [])
    (hlive : ∀ f ∈ s.fences, ¬ s.dead f) (t seqno : ℕ) : Counted (s.signal_walk t seqno) := by
  have hsub : due s seqno ⊆ s.fences := filter_sublist.subset
  rw [signal_walk_eq]
  refine h.of_walk ?_ rfl (fun _ => rfl) (fun _ => rfl) ?_
    filter_sublist.subset ?_
  · intro f hf
    exact not_not.mp (hlive f (hsub hf))
  · intro f
    simp only [Timeline.refs, set_phase, hmoved, count_reverse, count_nil]
    omega
  · rw [walk_misuse_eq_nil hsub hlive]
    exact append_nil _

lemma Listed.destroy_splice (h : Listed s) (hspliced : s.spliced = []) (t : ℕ) :
    Listed (s.destroy_splice t) := by
  rw [destroy_splice_eq]
  have hperm : ([] ++ s.moved ++ s.fences).Perm (s.fences ++ s.moved ++ s.spliced) := by
    rw [hspliced, append_nil]
    exact perm_append_comm
  exact h.of_eq rfl hperm.subperm rfl (fun _ => id)
    (linked_update fun _ => Phase.noConfusion)

lemma Counted.destroy_splice (h : Counted s) (hspliced : s.spliced = [])
    (hlive : ∀ f ∈ s.fences, ¬ s.dead f) (t : ℕ) : Counted (s.destroy_splice t) := by
  rw [destroy_splice_eq]
  refine h.of_walk ?_ rfl (fun _ => rfl) (fun _ => rfl) ?_
    (nil_subset _) ?_
  · intro f hf
    exact not_not.mp (hlive f hf)
  · intro f
    simp only [Timeline.refs, set_phase, hspliced, count_nil]
    omega
  · rw [walk_misuse_eq_nil (List.Subset.refl _) hlive]
    exact append_nil _

lemma Listed.keeps {a : Act} (h : Listed s) (hc : Control s) (hs : Step s a s') : Listed s' := by
  cases hs with
  | stay => exact h
  | fence_get t | signal t | alloc_fail t | signal_late t | signal_unlock t | destroy t
  | destroy_lock t | destroy_unlock t =>
    exact h.of_eq rfl (List.Subperm.refl _) rfl (fun _ => id)
      (linked_update fun _ => Phase.noConfusion)
  | fence_alloc t seqno => exact h.fence_alloc t seqno
  | fence_install t f installed ht => exact h.fence_install ht installed
  | signal_walk t seqno ht hlock => exact h.signal_walk (hc.moved_eq_nil hlock) t seqno
  | signal_next t f rest ht hmoved =>
    refine h.of_eq rfl ?_ rfl (fun _ => id) (fun _ _ => id)
    rw [hmoved]
    exact (((sublist_cons_self f rest).append_left s.fences).append_right s.spliced).subperm
  | destroy_splice t ht => exact h.destroy_splice (hc.spliced_eq_nil ht) t
  | destroy_next t f rest ht hspliced =>
    refine h.of_eq rfl ?_ rfl (fun _ => id) (fun _ _ => id)
    rw [hspliced]
    exact ((sublist_cons_self f rest).append_left (s.fences ++ s.moved)).subperm
  | dup f hheld | close f hheld =>
    refine h.of_eq rfl (List.Subperm.refl _) rfl ?_ (fun _ _ => id)
    intro g hg
    simp only [Timeline.dup, Timeline.close, update_apply] at hg
    split at hg
    · rename_i heq
      rwa [heq]
    · exact hg
  | poll f | free f => exact h.of_eq rfl (List.Subperm.refl _) rfl (fun _ => id) (fun _ _ => id)
  | release f =>
    refine h.of_eq rfl ?_ rfl (fun _ => id) (fun _ _ => id)
    exact ((erase_sublist.append_right s.moved).append_right s.spliced).subperm

section

variable (h : Counted s)
include h

lemma Counted.dup (hf : f < s.count) (hheld : 0 < s.held f) : Counted (s.dup f) := by
  have hlive : (s.fence f).life = .live := by
    rw [h.live f hf, h.refcount f hf, Timeline.refs]
    omega
  refine h.of_walk (l := [f]) ?_ rfl ?_ ?_ ?_ (List.Subset.refl _) ?_
  · simpa using hlive
  · intro g
    rw [count_of_eq_cons rfl g, count_nil, Nat.zero_add]
    simp [Timeline.dup]
  · intro g
    simp [Timeline.dup]
  · intro g
    have := count_of_eq_cons (l := [f]) rfl g
    simp only [Timeline.refs, Timeline.dup, dma_fence_get, Timeline.modify,
      update_apply, this, count_nil]
    split
    · rename_i heq
      rw [heq]
      omega
    · omega
  · have : ¬ s.dead f := not_not.mpr hlive
    simp [Timeline.dup, dma_fence_get, this]

lemma Counted.close (hheld : 0 < s.held f) : Counted (s.close f) := by
  refine h.of_put (f := f) rfl ?_ ?_ ?_ rfl rfl
  · intro g
    simp [Timeline.close]
  · intro g
    simp [Timeline.close]
  · intro g
    simp only [Timeline.refs, Timeline.close, dma_fence_put, Timeline.modify,
      update_apply]
    split
    · rename_i heq
      rw [heq]
      omega
    · omega

lemma Counted.of_dead (life : Life) (hf : f < s.count)
    (hdead : s.dead f) (hlife : life ≠ .live) (hcount : s'.count = s.count)
    (hfence : ∀ g, s'.fence g = if g = f then { s.fence f with life := life } else s.fence g)
    (hrefs : ∀ g, s'.refs g = s.refs g) (hfences : s'.fences ⊆ s.fences) (hmem : f ∉ s'.fences)
    (hmisuse : s'.misuse = s.misuse) : Counted s' where
  refcount := by
    intro g hg
    rw [hfence, hrefs]
    split
    · rename_i heq
      rw [heq]
      exact h.refcount f hf
    · exact h.refcount g (hcount ▸ hg)
  live := by
    intro g hg
    rw [hfence]
    split
    · have hzero : ¬ 0 < (s.fence f).refcount := by
        rw [← h.live f hf]
        exact hdead
      simpa [hlife] using hzero
    · exact h.live g (hcount ▸ hg)
  gone := by
    intro g hg hgone
    rw [hfence] at hgone
    by_cases heq : g = f
    · rw [heq]
      exact hmem
    · rw [if_neg heq] at hgone
      exact fun hm => h.gone g (hcount ▸ hg) hgone (hfences hm)
  misuse := hmisuse.trans h.misuse

lemma Counted.release (hl : Listed s)
    (hf : f < s.count) (hlife : (s.fence f).life = .dying) : Counted (s.release f) := by
  refine h.of_dead .unlinked hf ?_ Life.noConfusion rfl ?_ (fun _ => rfl)
    erase_sublist.subset ?_ rfl
  · rw [dead, hlife]
    exact Life.noConfusion
  · intro g
    exact modify_fence s f g fun e => { e with life := .unlinked }
  · have hnodup : s.fences.Nodup := (nodup_append.mp (nodup_append.mp hl.nodup).1).1
    exact hnodup.not_mem_erase

lemma Counted.free (hf : f < s.count)
    (hlife : (s.fence f).life = .unlinked) : Counted (s.free f) := by
  refine h.of_dead .freed hf ?_ Life.noConfusion rfl ?_ (fun _ => rfl)
    (List.Subset.refl _) (h.gone f hf (.inl hlife)) rfl
  · rw [dead, hlife]
    exact Life.noConfusion
  · intro g
    exact modify_fence s f g fun e => { e with life := .freed }

lemma not_dead_of_walk {a : Act} (hl : Listed s)
    (hwalk : walks s a = true) (hok : no_release_pending s a) : ∀ f ∈ s.fences, ¬ s.dead f := by
  intro f hf
  rw [h.dead_iff_dying hl hf]
  exact hok hwalk f hf

lemma Counted.keeps {a : Act} (hl : Listed s) (hc : Control s)
    (hok : no_release_pending s a) (hs : Step s a s') : Counted s' := by
  cases hs with
  | stay => exact h
  | fence_get | signal | alloc_fail | signal_late | signal_unlock | destroy | destroy_lock
  | destroy_unlock => exact h.of_eq rfl (fun _ => ⟨rfl, rfl⟩) (fun _ => rfl) rfl rfl
  | fence_alloc t seqno => exact h.fence_alloc hl t seqno
  | fence_install t f installed ht => exact h.fence_install hl ht installed
  | signal_walk t seqno ht hlock hvalue =>
    have hwalk : walks s (.signal_lock t) = true := by simp [walks, ht, hlock, hvalue]
    exact h.signal_walk (hc.moved_eq_nil hlock) (not_dead_of_walk h hl hwalk hok) t seqno
  | signal_next t f rest ht hmoved => exact h.signal_next hl hmoved
  | destroy_splice t ht =>
    have hwalk : walks s (.destroy_splice t) = true := by simp [walks, ht]
    exact h.destroy_splice (hc.spliced_eq_nil ht) (not_dead_of_walk h hl hwalk hok) t
  | destroy_next t f rest ht hspliced => exact h.destroy_next hl hspliced
  | dup f hheld => exact h.dup (hl.held_lt f hheld) hheld
  | close f hheld => exact h.close hheld
  | poll f hheld =>
    have hlive : ¬ s.dead f := by
      rw [dead, not_not, h.live f (hl.held_lt f hheld), h.refcount f (hl.held_lt f hheld),
        Timeline.refs]
      omega
    refine h.of_eq rfl ?_ (fun _ => rfl) rfl ?_
    · intro g
      simp
    · simp [dma_fence_signal_locked, hlive]
  | release f hf hlife => exact h.release hl hf hlife
  | free f hf hlife => exact h.free hf hlife

end

/-! ## Never revived -/

theorem misuse_of_walk {a : Act} (hbad : ¬ no_release_pending s a) : (step s a).misuse ≠ [] := by
  rw [no_release_pending, Classical.not_imp] at hbad
  obtain ⟨hwalk, hbad⟩ := hbad
  push Not at hbad
  obtain ⟨f, hf, hdying⟩ := hbad
  have hdead : s.dead f := by
    rw [dead, hdying]
    exact Life.noConfusion
  have htrace : ∀ l, s.misuse ++ walk_misuse s l ≠ [] := by
    intro l
    have : .walked f ∈ s.misuse ++ walk_misuse s l := by
      simp [walk_misuse, hf, hdead]
    exact ne_nil_of_mem this
  cases a with
  | signal_lock t =>
    simp only [walks] at hwalk
    split at hwalk
    · rename_i seqno ht
      simp only [Bool.and_eq_true, Option.isNone_iff_eq_none, decide_eq_true_eq] at hwalk
      have hstep : step s (.signal_lock t) = s.signal_walk t seqno := by
        simp [step, ht, hwalk.1, not_lt.mpr hwalk.2]
      rw [hstep, signal_walk_eq]
      exact htrace _
    · cases hwalk
  | destroy_splice t =>
    have ht : s.phase t = .destroy_removed := by simpa [walks] using hwalk
    have hstep : step s (.destroy_splice t) = s.destroy_splice t := by simp [step, ht]
    rw [hstep, destroy_splice_eq]
    exact htrace _
  | _ => cases hwalk

lemma counted_created (initial : ℕ) :
    Control (created initial) ∧ Listed (created initial) ∧ Counted (created initial) := by
  refine ⟨control_created initial, ?_, ?_⟩
  · constructor <;> simp [created]
  · constructor <;> simp [created]

/-- **A dead fence is not revived, but for one race.** -/
theorem never_revived_iff (initial : ℕ) (l : List Act) :
    (∀ l', l' <+: l → NeverRevived (Run.exec step (created initial) l')) ↔
      Run.Ok step no_release_pending (created initial) l := by
  refine Run.prefix_good_iff (I := fun s => Control s ∧ Listed s ∧ Counted s) ?_ ?_ ?_ l
    (counted_created initial)
  · rintro s ⟨-, -, hcounted⟩
    exact hcounted.neverRevived
  · rintro s a ⟨hc, hl, hcounted⟩ hok
    have hs := step_spec s a
    exact ⟨hc.keeps hs, hl.keeps hc hs, hcounted.keeps hl hc hok hs⟩
  · rintro s a - hbad hgood
    exact misuse_of_walk hbad hgood.1

/-- The last reference of fence 0 is dropped while it is on the list. Before its release gets
`fence_lock`, a `signal` moves it to a private list. -/
theorem dead_fence_signalled :
    let s := Run.exec step (created 0)
      [.fence_get 0 5, .fence_alloc 0 true, .fence_install 0 true, .signal 1 7, .close 0,
        .signal_lock 1, .release 0, .free 0]
    ¬ NeverRevived s ∧ (s.fence 0).life = .freed ∧ s.moved = [0] ∧
      s.misuse = [.walked 0, .got 0] ∧
      (step s (.signal_next 1)).misuse = [.walked 0, .got 0, .signalled 0] := by
  refine ⟨?_, by decide +kernel⟩
  rintro ⟨hmisuse, -⟩
  exact absurd hmisuse (by decide +kernel)

end KernelExtra.Kgsl.Timelines
