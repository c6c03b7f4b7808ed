/-
The order in which the commands of a context reach the GPU.

In the machine of `Kgsl.Dispatch`, with submissions that follow one another, room that a sleeper was
told of cannot go to another one. So the queue never overruns and is first-in first-out.
-/
import KernelExtra.Kgsl.Dispatch

namespace KernelExtra.Kgsl

open Function

def Ended (pending : ℕ → Bool) (k : (ℕ × DrawobjType) × Fate) : Prop :=
  match k.2 with
  | .sent => k.1.2 = .CMDOBJ ∨ k.1.2 = .MARKEROBJ
  | _ => Retired pending k

variable {pending : ℕ → Bool} {k : (ℕ × DrawobjType) × Fate}

lemma Retired.ended (h : Retired pending k) : Ended pending k := by
  obtain ⟨key, fate⟩ := k
  cases fate with
  | sent => exact absurd h (by simp [Retired])
  | _ => exact h

lemma Ended.sync (h : Ended pending k) (hsync : k.1.2 = .SYNCOBJ) : pending k.1.1 = false := by
  obtain ⟨⟨id, type⟩, fate⟩ := k
  subst hsync
  cases fate with
  | synced => exact h.2
  | _ => simp [Ended, Retired] at h

lemma Ended.signalled (h : Ended pending k) (id : ℕ) : Ended (update pending id false) k := by
  obtain ⟨⟨id', type⟩, fate⟩ := k
  cases fate with
  | synced =>
    refine ⟨h.1, ?_⟩
    by_cases hid : id' = id
    · simp [hid]
    · simpa [hid] using h.2
  | _ => exact h

namespace Dispatch

variable {Tid : Type}

/-- Submissions follow one another, every failed `sendcmd` is followed by a requeue, and the context
lives on. -/
def InSequence (s : Dispatch Tid) : Step Tid → Prop
  | .submit _ _ => ∀ t, s.phase t = .idle
  | .sendcmd ret => ret ≠ some .ENOENT
  | .invalidate => False
  | .detach => False
  | _ => True

/-- The call that takes this step hands over `sub`. It returns success, or the report of an earlier
fault. -/
def Takes (D : Device) (s : Dispatch Tid) (sub : Submission) (a : Step Tid) : Prop :=
  (match a with
    | .submit t sub' => sub' = sub ∧ s.phase t = .idle ∧ early_checks D sub s.ctx = .ok () ∧
        no_room D sub.count s.ctx = false
    | .resume t => s.phase t = .ready sub ∧ after_sleep .condition s.ctx = .ok ()
    | _ => False) ∧
  ((queue_locked sub s.ctx).2 = .ok () ∨ (queue_locked sub s.ctx).2 = .error .EPROTO)

/-- The invariant behind the order: every object is in the ring, in hand or gone. -/
structure Ordered (D : Device) (s : Dispatch Tid) : Prop where
  keeps : ∃ l, s.Keeps D l
  good : s.ctx.invalid = false ∧ s.ctx.detached = false ∨ s.ctx.enqueued = []
  ended : ∀ k ∈ s.ctx.left, Ended s.pending k
  hand : ∀ o, s.popped = some o → o.type = .CMDOBJ ∨ o.type = .MARKEROBJ
  alone : ∀ t t', s.phase t ≠ .idle → s.phase t' ≠ .idle → t = t'
  room : ∀ t sub, s.phase t = .ready sub → s.ctx.invalid = false →
    s.ctx.queued + s.in_hand + sub.count ≤ D.context_drawqueue_size

variable {D : Device} {s : Dispatch Tid}

lemma Ordered.roomy (h : s.Ordered D) {a : Step Tid} (ha : s.InSequence a) : s.Roomy D a := by
  cases a with
  | resume t =>
    unfold Roomy
    dsimp only
    split
    · rename_i sub hready
      exact h.room t sub hready
    · exact trivial
  | invalidate => exact ha.elim
  | detach => exact ha.elim
  | _ => exact trivial

/-! ## The threads -/

variable {phase : Tid → Phase}

lemma room_of_idle (h : ∀ t, phase t = .idle) {p : Submission → Prop} :
    (∀ t t', phase t ≠ .idle → phase t' ≠ .idle → t = t') ∧
      ∀ t sub, phase t = .ready sub → p sub := by
  constructor
  · intro t _ ht
    exact absurd (h t) ht
  · intro t sub ht
    rw [h t] at ht
    cases ht

/-! ## The steps -/

lemma check_context_state_of_early_checks {sub : Submission} {ctx : Drawctxt}
    (h : early_checks D sub ctx = .ok ()) : check_context_state ctx = .ok () := by
  unfold early_checks at h
  split at h
  · cases h
  · obtain ⟨_, hstate, -⟩ := bind_eq_ok.mp h
    exact hstate

lemma Ordered.same_threads {s' : Dispatch Tid} (h : s.Ordered D) (hphase : s'.phase = s.phase)
    (hle : s'.ctx.queued + s'.in_hand ≤ s.ctx.queued + s.in_hand)
    (hkeeps : ∃ l, s'.Keeps D l)
    (hgood : s'.ctx.invalid = s.ctx.invalid ∧ s'.ctx.detached = s.ctx.detached ∧
      s'.ctx.enqueued = s.ctx.enqueued)
    (hended : ∀ k ∈ s'.ctx.left, Ended s'.pending k)
    (hhand : ∀ o, s'.popped = some o → o.type = .CMDOBJ ∨ o.type = .MARKEROBJ) :
    s'.Ordered D where
  keeps := hkeeps
  good := by
    rw [hgood.1, hgood.2.1, hgood.2.2]
    exact h.good
  ended := hended
  hand := hhand
  alone := by
    rw [hphase]
    exact h.alone
  room t sub ht hvalid := by
    rw [hphase] at ht
    rw [hgood.1] at hvalid
    have := h.room t sub ht hvalid
    omega

lemma Ordered.queue_locked (h : s.Ordered D)
    (hidle : ∀ t, phase t = .idle) (sub : Submission) (hstate : check_context_state s.ctx = .ok ())
    (hkeeps : ∃ l, Keeps D { s with ctx := (Kgsl.queue_locked sub s.ctx).1, phase := phase } l) :
    Ordered D { s with ctx := (Kgsl.queue_locked sub s.ctx).1, phase := phase } := by
  obtain ⟨pre, -, hgain⟩ := gains_queue_locked sub s.ctx
  obtain ⟨hinvalid, hdetached⟩ := check_context_state_ok hstate
  obtain ⟨halone, hroom⟩ := room_of_idle hidle
  refine ⟨hkeeps, .inl ⟨hgain.invalid.trans hinvalid, hgain.detached.trans hdetached⟩, ?_,
    h.hand, halone, hroom⟩
  intro k hk
  rw [hgain.left] at hk
  exact h.ended k hk

lemma Ordered.process (hD : D.context_drawqueue_size < ADRENO_CONTEXT_DRAWQUEUE_SIZE)
    (h : s.Ordered D) (hnone : s.popped = none) :
    Ordered D { s with ctx := (process_drawqueue_get_next_drawobj s.pending s.ctx).1 } ∧
      ∃ rest, (process_drawqueue_get_next_drawobj s.pending s.ctx).2.Fits rest ∧
        Keeps D { s with ctx := (process_drawqueue_get_next_drawobj s.pending s.ctx).1 } rest := by
  obtain ⟨l, hl⟩ := h.keeps
  obtain ⟨rest, ks, hlen, hks, hsheds, hfits, hkeeps⟩ := hl.process hD hnone
  refine ⟨h.same_threads rfl ?_ ⟨rest, hkeeps⟩
    ⟨hsheds.invalid, hsheds.detached, hsheds.enqueued⟩ ?_ h.hand, rest, hfits, hkeeps⟩
  · have h₁ : (process_drawqueue_get_next_drawobj s.pending s.ctx).1.queued = rest.length :=
      hkeeps.holds.count
    have h₂ := hl.holds.count
    change (process_drawqueue_get_next_drawobj s.pending s.ctx).1.queued + s.in_hand ≤ _
    omega
  · intro k hk
    rw [hsheds.left, List.mem_append] at hk
    rcases hk with hk | hk
    · exact h.ended k hk
    · exact (hks k hk).ended

lemma Ordered.sendcmd {o : Drawobj} (h : s.Ordered D) (hsome : s.popped = some o)
    {ret : Option Errno} (hret : ret ≠ some .ENOENT)
    (hkeeps : ∃ l, Keeps D { s with ctx := after_sendcmd s.ctx o ret, popped := none } l) :
    Ordered D { s with ctx := after_sendcmd s.ctx o ret, popped := none } := by
  have hhand : s.in_hand = 1 := by simp [in_hand, hsome]
  -- something was queued, so the context is good
  obtain ⟨hinvalid, hdetached⟩ := h.good.resolve_right fun hempty => by
    obtain ⟨l, hl⟩ := h.keeps
    have := hl.order
    rw [hempty, hsome] at this
    simp at this
  cases ret with
  | none =>
    refine h.same_threads rfl (Nat.add_le_add_left (Nat.zero_le _) _) hkeeps ⟨rfl, rfl, rfl⟩ ?_
      (by simp)
    exact List.forall_mem_append.mpr ⟨h.ended, List.forall_mem_singleton.mpr (h.hand o hsome)⟩
  | some e =>
    have heq : after_sendcmd s.ctx o (some e) = adreno_dispatcher_requeue_cmdobj s.ctx o := by
      unfold after_sendcmd
      split
      · rename_i hnone
        cases hnone
      · rename_i hnoent
        exact absurd hnoent hret
      · rfl
    rw [heq] at hkeeps ⊢
    have hre : adreno_dispatcher_requeue_cmdobj s.ctx o = { s.ctx with
        drawqueue := s.ctx.drawqueue.unpop ADRENO_CONTEXT_DRAWQUEUE_SIZE o
        queued := s.ctx.queued + 1 } := by
      simp [adreno_dispatcher_requeue_cmdobj, hinvalid, hdetached]
    rw [hre] at hkeeps ⊢
    refine h.same_threads rfl ?_ hkeeps ⟨rfl, rfl, rfl⟩ h.ended (by simp)
    rw [hhand]
    exact le_rfl

variable [DecidableEq Tid]

lemma Ordered.idle_of_return (h : s.Ordered D) {t : Tid} (ht : s.phase t ≠ .idle) :
    ∀ t', update s.phase t .idle t' = .idle := by
  intro t'
  by_cases heq : t' = t
  · rw [heq, update_self]
  · rw [update_of_ne heq]
    by_contra hne
    exact heq (h.alone t' t hne ht)

lemma alone_of_update {t : Tid} (hothers : ∀ t', t' ≠ t → phase t' = .idle) (p : Phase) :
    ∀ t₁ t₂, update phase t p t₁ ≠ .idle → update phase t p t₂ ≠ .idle →
      t₁ = t₂ := by
  have hmust : ∀ t', update phase t p t' ≠ .idle → t' = t := by
    intro t' hne
    by_contra heq
    rw [update_of_ne heq] at hne
    exact hne (hothers t' heq)
  intro t₁ t₂ h₁ h₂
  rw [hmust t₁ h₁, hmust t₂ h₂]

/-- **One step** keeps the order. -/
theorem Ordered.step (hD : D.context_drawqueue_size < ADRENO_CONTEXT_DRAWQUEUE_SIZE)
    (hpos : 0 < D.context_drawqueue_size) (h : s.Ordered D) {a : Step Tid}
    (ha : s.InSequence a) : (s.step D a).Ordered D := by
  obtain ⟨l, hl⟩ := h.keeps
  have hkeeps := hl.step hD hpos (h.roomy ha)
  cases a with
  | submit t sub =>
    simp only [Dispatch.step] at hkeeps ⊢
    split at hkeeps
    · rename_i hidle hearly
      split at hkeeps
      · -- the call goes to sleep; nobody else is in one
        rename_i hfull
        rw [if_pos hfull]
        refine { h with keeps := hkeeps, alone := ?_, room := ?_ }
        · exact alone_of_update (fun t' _ => ha t') _
        · intro t' sub' ht'
          change update s.phase t (.asleep sub) t' = _ at ht'
          by_cases heq : t' = t
          · subst heq
            simp at ht'
          · rw [update_of_ne heq, ha] at ht'
            cases ht'
      · rename_i hfits
        rw [if_neg hfits]
        exact h.queue_locked ha sub (check_context_state_of_early_checks hearly) hkeeps
    · exact h
  | check t =>
    simp only [Dispatch.step] at hkeeps ⊢
    split
    · rename_i sub hasleep
      split
      · -- the sleeper is told that there is room, even if a command comes back
        rename_i hcond
        have hothers : ∀ t', t' ≠ t → s.phase t' = .idle := by
          intro t' hne
          by_contra hbusy
          exact hne (h.alone t' t hbusy (by simp [hasleep]))
        refine { h with keeps := ⟨l, hl.holds, hl.bound, hl.order⟩, alone := ?_, room := ?_ }
        · exact alone_of_update hothers _
        · intro t' sub' ht' hvalid
          change update s.phase t (.ready sub) t' = _ at ht'
          by_cases heq : t' = t
          · subst heq
            rw [update_self, Phase.ready.injEq] at ht'
            subst ht'
            have hvalid : s.ctx.invalid = false := hvalid
            simp only [check_context_queue, hvalid, Bool.false_or, decide_eq_true_eq] at hcond
            have hhand := s.in_hand_le
            change s.ctx.queued + s.in_hand + sub.count ≤ _
            omega
          · rw [update_of_ne heq, hothers t' heq] at ht'
            cases ht'
      · exact h
    · exact h
  | give_up t =>
    simp only [Dispatch.step] at hkeeps ⊢
    split
    · rename_i sub hasleep
      obtain ⟨halone, hroom⟩ := room_of_idle (h.idle_of_return (t := t) (by simp [hasleep]))
      exact { h with keeps := ⟨l, hl.holds, hl.bound, hl.order⟩, alone := halone, room := hroom }
    · exact h
  | resume t =>
    simp only [Dispatch.step] at hkeeps ⊢
    split at hkeeps
    · rename_i sub hready
      have hidle := h.idle_of_return (t := t) (by simp [hready])
      split at hkeeps
      · rename_i hstate
        exact h.queue_locked hidle sub hstate hkeeps
      · obtain ⟨halone, hroom⟩ := room_of_idle hidle
        exact { h with keeps := hkeeps, alone := halone, room := hroom }
    · exact h
  | retire =>
    simp only [Dispatch.step]
    split
    · rename_i hnone
      exact (h.process hD hnone).1
    · exact h
  | dispatch =>
    simp only [Dispatch.step]
    split
    · rename_i hnone
      obtain ⟨hord, rest, hfits, hrest⟩ := h.process hD hnone
      generalize process_drawqueue_get_next_drawobj s.pending s.ctx = looked at hord hfits hrest ⊢
      obtain ⟨ctx, next⟩ := looked
      cases next with
      | null => exact hord
      | again => exact hord
      | send o =>
        obtain ⟨htype, rest', rfl⟩ := hfits
        refine hord.same_threads rfl ?_ ⟨rest', hrest.take hnone⟩ ⟨rfl, rfl, rfl⟩ hord.ended ?_
        · -- what was at the head is in hand
          have hcount : ctx.queued = rest'.length + 1 := hrest.holds.count
          have hhand : in_hand { s with ctx := ctx } = 0 := by simp [in_hand, hnone]
          rw [hhand]
          change ctx.queued - 1 + 1 ≤ ctx.queued + 0
          omega
        · rintro _ ⟨rfl⟩
          exact htype
    · exact h
  | sendcmd ret =>
    simp only [Dispatch.step] at hkeeps ⊢
    split at hkeeps
    · exact h
    · rename_i o hsome
      exact h.sendcmd hsome ha hkeeps
  | sync_signalled id =>
    exact h.same_threads rfl le_rfl hkeeps ⟨rfl, rfl, rfl⟩
      (fun k hk => (h.ended k hk).signalled id) h.hand
  | gpu_retired timestamp =>
    exact h.same_threads rfl le_rfl hkeeps ⟨rfl, rfl, rfl⟩ h.ended h.hand
  | invalidate => exact ha.elim
  | detach => exact ha.elim

instance [Fintype Tid] (s : Dispatch Tid) (a : Step Tid) : Decidable (s.InSequence a) := by
  refine Step.casesOn a ?_ ?_ ?_ ?_ ?_ ?_ ?_ ?_ ?_ ?_ ?_
  all_goals
    intros
    dsimp only [InSequence]
    infer_instance

end Dispatch

end KernelExtra.Kgsl
