/-
Whoever sleeps on a flow is woken.

As long as a confirmation is under way it gets closer: from the sender to the link, to the receive
queue, to a resume packet, which wakes everyone.
-/
import KernelExtra.Lib.Fair
import KernelExtra.Qrtr.Stranded

namespace KernelExtra.Qrtr.Flow

open Run (exec)
open Fair (trace Recurs LeadsTo)
open List Nat

/-! ## What one action does to the queues -/

section Queues

variable (dst : Addr) (s : Link)

lemma tx_call_queues (sk : ℕ) (timeo alloc : Bool) :
    (tx_call dst s sk timeo alloc).wire = s.wire ∧
      (tx_call dst s sk timeo alloc).rcv_queue = s.rcv_queue ∧
      (tx_call dst s sk timeo alloc).resumes = s.resumes := by
  unfold tx_call
  split
  · exact ⟨rfl, rfl, rfl⟩
  · split <;> exact ⟨rfl, rfl, rfl⟩

lemma tx_turn_queues (sk : ℕ) (ret alloc : Bool) :
    (tx_turn dst s sk ret alloc).wire = s.wire ∧
      (tx_turn dst s sk ret alloc).rcv_queue = s.rcv_queue ∧
      (tx_turn dst s sk ret alloc).resumes = s.resumes := by
  unfold tx_turn
  split
  · exact ⟨rfl, rfl, rfl⟩
  · split
    · exact ⟨rfl, rfl, rfl⟩
    split
    · exact ⟨rfl, rfl, rfl⟩
    split
    · exact ⟨rfl, rfl, rfl⟩
    split <;> exact ⟨rfl, rfl, rfl⟩

lemma step_queues (a : Act) :
    ((¬ ∃ ok, a = .deliver ok) → s.wire <+: (step dst s a).wire) ∧
      ((¬ ∃ ok, a = .read ok) → s.rcv_queue <+: (step dst s a).rcv_queue) ∧
      (a ≠ .resume → s.resumes <+: (step dst s a).resumes) := by
  have hsame : ∀ s' : Link, s'.wire = s.wire ∧ s'.rcv_queue = s.rcv_queue ∧ s'.resumes = s.resumes →
      ((¬ ∃ ok, a = .deliver ok) → s.wire <+: s'.wire) ∧
        ((¬ ∃ ok, a = .read ok) → s.rcv_queue <+: s'.rcv_queue) ∧
        (a ≠ .resume → s.resumes <+: s'.resumes) := by
    rintro s' ⟨hw, hr, hb⟩
    rw [hw, hr, hb]
    exact ⟨fun _ => prefix_refl _, fun _ => prefix_refl _, fun _ => prefix_refl _⟩
  have hstay := hsame s ⟨rfl, rfl, rfl⟩
  cases a with
  | call sk timeo alloc =>
    rw [step]
    split
    · exact hsame _ (tx_call_queues dst s sk timeo alloc)
    · exact hstay
  | turn sk alloc =>
    rw [step]
    split
    · exact hsame _ (tx_turn_queues dst s sk _ alloc)
    · exact hstay
  | check sk | timeout sk | signal sk =>
    rw [step]
    split <;> exact hsame _ ⟨rfl, rfl, rfl⟩
  | transmit sk pad xmit =>
    rw [step]
    split
    · unfold transmit
      split
      · exact hsame _ ⟨rfl, rfl, rfl⟩
      split
      · exact ⟨fun _ => prefix_append _ _, fun _ => prefix_refl _, fun _ => prefix_refl _⟩
      · exact hsame _ ⟨rfl, rfl, rfl⟩
    · exact hstay
  | flow_failed sk =>
    rw [step]
    split
    · unfold tx_flow_failed
      split <;> exact hsame _ ⟨rfl, rfl, rfl⟩
    · exact hstay
  | deliver ok =>
    rw [step, deliver]
    split
    · exact hstay
    split
    · exact ⟨absurd ⟨ok, rfl⟩, fun _ => prefix_append _ _, fun _ => prefix_refl _⟩
    · exact ⟨absurd ⟨ok, rfl⟩, fun _ => prefix_refl _, fun _ => prefix_refl _⟩
  | read ok =>
    rw [step, read]
    split
    · exact hstay
    split
    · exact ⟨fun _ => prefix_refl _, absurd ⟨ok, rfl⟩, fun _ => prefix_append _ _⟩
    · exact ⟨fun _ => prefix_refl _, absurd ⟨ok, rfl⟩, fun _ => prefix_refl _⟩
  | resume =>
    rw [step, resume]
    split
    · exact hstay
    split <;> exact ⟨fun _ => prefix_refl _, fun _ => prefix_refl _, absurd rfl⟩

lemma deliver_wire (ok : Bool) : (deliver s ok).wire = s.wire.tail := by
  unfold deliver
  split
  · rename_i h
    rw [h]
    rfl
  · rename_i h
    rw [h]
    split <;> rfl

lemma read_rcv_queue (ok : Bool) : (read s ok).rcv_queue = s.rcv_queue.tail := by
  unfold read
  split
  · rename_i h
    rw [h]
    rfl
  · rename_i h
    rw [h]
    split <;> rfl

lemma resume_resumes : (resume s).resumes = s.resumes.tail := by
  unfold resume
  split
  · rename_i h
    rw [h]
    rfl
  · rename_i h
    rw [h]
    split <;> rfl

variable {s} {i sk : ℕ}

lemma set_phase_of_ne (h : i ≠ sk) (p : Phase) : (s.set_phase sk p).phase i = s.phase i :=
  Function.update_of_ne h ..

lemma tx_call_phase_of_ne (h : i ≠ sk) (timeo alloc : Bool) :
    (tx_call dst s sk timeo alloc).phase i = s.phase i := by
  unfold tx_call
  split
  · exact set_phase_of_ne h _
  · split <;> exact set_phase_of_ne h _

lemma tx_turn_phase_of_ne (h : i ≠ sk) (ret alloc : Bool) :
    (tx_turn dst s sk ret alloc).phase i = s.phase i := by
  unfold tx_turn
  split
  · rfl
  · split
    · exact set_phase_of_ne h _
    split
    · exact set_phase_of_ne h _
    split
    · exact set_phase_of_ne h _
    split <;> exact set_phase_of_ne h _

lemma step_phase_of_asks (hi : (s.phase i).asks) (a : Act)
    (htransmit : ¬ ∃ pad xmit, a = .transmit i pad xmit) (hfailed : a ≠ .flow_failed i) :
    (step dst s a).phase i = s.phase i := by
  have hother : ∀ {sk : ℕ} {p : Phase}, s.phase sk = p → ¬ p.asks → i ≠ sk := by
    rintro sk p hp hasks rfl
    rw [hp] at hi
    exact hasks hi
  cases a with
  | call sk timeo alloc =>
    rw [step]
    split
    · rename_i hidle
      exact tx_call_phase_of_ne dst (hother hidle (not_asks_of rfl (by decide))) timeo alloc
    · rfl
  | turn sk alloc =>
    rw [step]
    split
    · rename_i hloop
      exact tx_turn_phase_of_ne dst (hother hloop (not_asks_of rfl (by simp))) _ alloc
    · rfl
  | check sk | timeout sk | signal sk =>
    rw [step]
    split
    · rename_i hphase
      exact set_phase_of_ne (hother hphase (not_asks_of rfl (by decide))) _
    · rfl
  | transmit sk pad xmit =>
    have hne : i ≠ sk := by
      rintro rfl
      exact htransmit ⟨pad, xmit, rfl⟩
    rw [step]
    split
    · unfold transmit
      split
      · exact set_phase_of_ne hne _
      split <;> exact set_phase_of_ne hne _
    · rfl
  | flow_failed sk =>
    have hne : i ≠ sk := by
      rintro rfl
      exact hfailed rfl
    rw [step]
    split
    · unfold tx_flow_failed
      split <;> exact set_phase_of_ne hne _
    · rfl
  | deliver ok =>
    rw [step, deliver]
    split
    · rfl
    · split <;> rfl
  | read ok =>
    rw [step, read]
    split
    · rfl
    · split <;> rfl
  | resume =>
    rw [step, resume]
    split
    · rfl
    · split
      · rfl
      · -- it was awake
        change wake (s.phase i) = s.phase i
        rw [wake, if_neg]
        intro h
        rw [h] at hi
        rcases hi with hi | hi <;> cases hi

end Queues

/-! ## Sleepers are woken -/

/-- Both sides keep taking steps. -/
structure Going (acts : ℕ → Act) : Prop where
  transmit : ∀ sk, Recurs acts fun a => ∃ pad xmit, a = .transmit sk pad xmit
  flow_failed : ∀ sk, Recurs acts fun a => a = .flow_failed sk
  deliver : Recurs acts fun a => ∃ ok, a = .deliver ok
  read : Recurs acts fun a => ∃ ok, a = .read ok
  resume : Recurs acts fun a => a = .resume

section Woken

variable {dst : Addr} {tr : ℕ → Link} {acts : ℕ → Act} {i : ℕ}
  (hstep : ∀ t, tr (t + 1) = step dst (tr t) (acts t))
  (hkeep : ∀ t, ¬ Loses dst (tr t) (acts t))
include hstep hkeep

lemma inv_trace (h : Inv dst (tr 0)) (t : ℕ) : Inv dst (tr t) := by
  induction t with
  | zero => exact h
  | succ t ih =>
    rw [hstep]
    exact ih.step_of_not_loses _ (hkeep t)

variable (h : ∀ t, Inv dst (tr t)) (hgoing : Going acts)
include h hgoing

omit hkeep in
lemma resumes_wake :
    LeadsTo tr (fun s => s.phase i = .asleep ∧ ∃ a ∈ s.resumes, flow_key a = flow_key dst)
      (fun s => s.phase i ≠ .asleep) := by
  refine Fair.leadsTo_of_fifo (fun t _ => em _) (fun t hact => ?_) (fun t hact => ?_) ?_
    hgoing.resume
  · rw [hstep]
    exact (step_queues dst _ _).2.2 hact
  · rw [hstep, hact]
    exact resume_resumes _
  · rintro t x l hasleep hq hx hact
    have hflow := (h t).present i (by rw [hasleep]; trivial)
    obtain ⟨flow, hflow⟩ := Option.ne_none_iff_exists'.mp hflow
    rw [← hx] at hflow
    rw [hstep, hact, step, resume, hq]
    simp only [hflow]
    exact wake_ne_asleep _

lemma rcv_queue_wakes :
    LeadsTo tr (fun s => s.phase i = .asleep ∧ ∃ m ∈ s.rcv_queue, m.confirm_rx = true)
      (fun s => s.phase i ≠ .asleep) := by
  refine LeadsTo.through ?_ (resumes_wake hstep h hgoing)
  refine Fair.leadsTo_of_fifo (fun t _ => (em _).imp_right .inl) (fun t hact => ?_)
    (fun t hact => ?_) ?_ hgoing.read
  · rw [hstep]
    exact (step_queues dst _ _).2.1 hact
  · obtain ⟨ok, hok⟩ := hact
    rw [hstep, hok]
    exact read_rcv_queue _ ok
  · rintro t m l - hq hm ⟨ok, hok⟩
    have hsent : ok = true ∧ flow_key m.dst = flow_key dst := by
      have := hkeep t
      rw [hok] at this
      simpa [Loses, hq, hm] using this
    refine (em _).symm.imp_right fun hasleep => ⟨hasleep, m.dst, ?_, hsent.2⟩
    rw [hstep, hok, step, read, hq]
    simp [hm, hsent.1]

lemma wire_wakes :
    LeadsTo tr (fun s => s.phase i = .asleep ∧ ∃ m ∈ s.wire, m.confirm_rx = true)
      (fun s => s.phase i ≠ .asleep) := by
  refine LeadsTo.through ?_ (rcv_queue_wakes hstep hkeep h hgoing)
  refine Fair.leadsTo_of_fifo (fun t _ => (em _).imp_right .inl) (fun t hact => ?_)
    (fun t hact => ?_) ?_ hgoing.deliver
  · rw [hstep]
    exact (step_queues dst _ _).1 hact
  · obtain ⟨ok, hok⟩ := hact
    rw [hstep, hok]
    exact deliver_wire _ ok
  · rintro t m l - hq hm ⟨ok, hok⟩
    have hqueued : ok = true := by
      have := hkeep t
      rw [hok] at this
      simpa [Loses, hq, hm] using this
    refine (em _).symm.imp_right fun hasleep =>
      ⟨hasleep, { m with dst := { m.dst with sq_port := legacy_port m.dst.sq_port } }, ?_, hm⟩
    rw [hstep, hok, step, deliver, hq]
    simp only [hqueued, if_true]
    exact mem_append_right _ mem_cons_self

omit h in
lemma failing_wakes (sk : ℕ) :
    LeadsTo tr
      (fun s => s.phase i = .asleep ∧ s.phase sk = .failing) (fun s => s.phase i ≠ .asleep) := by
  refine Fair.leadsTo_of_helpful ?_ ?_ (hgoing.flow_failed sk)
  · rintro t ⟨-, hfailing⟩ hother
    refine (em _).symm.imp_right fun hasleep => ⟨hasleep, ?_⟩
    by_cases htransmit : ∃ pad xmit, acts t = .transmit sk pad xmit
    · obtain ⟨pad, xmit, hact⟩ := htransmit
      rw [hstep, hact, step, hfailing]
      exact hfailing
    · rw [hstep, step_phase_of_asks dst (.inr hfailing) (acts t) htransmit hother]
      exact hfailing
  · rintro t ⟨-, hfailing⟩ hact
    exact absurd (by rw [hact]; exact hfailing) (hkeep t)

lemma sending_wakes (sk : ℕ) :
    LeadsTo tr
      (fun s => s.phase i = .asleep ∧ s.phase sk = .sending true)
      (fun s => s.phase i ≠ .asleep) := by
  refine LeadsTo.through ?_
    (.or (failing_wakes hstep hkeep hgoing sk) (wire_wakes hstep hkeep h hgoing))
  refine Fair.leadsTo_of_helpful ?_ ?_ (hgoing.transmit sk)
  · rintro t ⟨-, hsending⟩ htransmit
    have hstay : (tr (t + 1)).phase sk = .sending true := by
      rcases em (acts t = .flow_failed sk) with hfailed | hfailed
      · rw [hstep, hfailed, step, hsending]
        exact hsending
      · rw [hstep, step_phase_of_asks dst (.inl hsending) (acts t) htransmit hfailed]
        exact hsending
    exact (em _).symm.imp .inl fun hasleep => ⟨hasleep, hstay⟩
  · rintro t ⟨-, hsending⟩ ⟨pad, xmit, hact⟩
    have hpad : pad = true := by
      have := hkeep t
      rw [hact] at this
      simpa [Loses, hsending] using this
    have hnext : (tr (t + 1)).phase sk = .failing ∨
        ∃ m ∈ (tr (t + 1)).wire, m.confirm_rx = true := by
      rw [hstep, hact, step, hsending]
      cases xmit with
      | true =>
        refine .inr ⟨⟨true, dst⟩, ?_, rfl⟩
        simp [transmit, hpad]
      | false =>
        refine .inl ?_
        simp [transmit, hpad, Link.set_phase]
    exact (em _).symm.imp_right fun hasleep =>
      hnext.imp (fun hf => ⟨hasleep, hf⟩) fun hw => ⟨hasleep, hw⟩

/-- **Whoever sleeps is woken** in every run that loses no confirmation and keeps going. -/
theorem asleep_wakes :
    LeadsTo tr (fun s => s.phase i = .asleep) (fun s => s.phase i ≠ .asleep) := by
  intro t hasleep
  have hc : (tr t).Confirming dst :=
    (h t).live.2.resolve_right fun hnone => hnone i hasleep
  rcases hc with ⟨sk, hsk | hsk⟩ | hc | hc | hc
  · exact sending_wakes hstep hkeep h hgoing sk t ⟨hasleep, hsk⟩
  · exact failing_wakes hstep hkeep hgoing sk t ⟨hasleep, hsk⟩
  · exact wire_wakes hstep hkeep h hgoing t ⟨hasleep, hc⟩
  · exact rcv_queue_wakes hstep hkeep h hgoing t ⟨hasleep, hc⟩
  · exact resumes_wake hstep h hgoing t ⟨hasleep, hc⟩

end Woken

/-! ## A fair schedule -/

def round_robin (t : ℕ) : Act :=
  let sk := (unpair (t / 5)).1
  match t % 5 with
  | 0 => .transmit sk true true
  | 1 => .flow_failed sk
  | 2 => .deliver true
  | 3 => .read true
  | _ => .resume

lemma round_robin_going : Going round_robin := by
  have hpair : ∀ sk t k : ℕ, k < 5 → ∃ t' ≥ t, t' % 5 = k ∧ (unpair (t' / 5)).1 = sk := by
    intro sk t k hk
    have hle := right_le_pair sk t
    refine ⟨5 * pair sk t + k, by omega, by omega, ?_⟩
    rw [show (5 * pair sk t + k) / 5 = pair sk t by omega, unpair_pair]
  refine ⟨fun sk t => ?_, fun sk t => ?_, fun t => ?_, fun t => ?_, fun t => ?_⟩
  · obtain ⟨t', hle, hmod, hsk⟩ := hpair sk t 0 (by omega)
    exact ⟨t', hle, true, true, by simp only [round_robin, hmod, hsk]⟩
  · obtain ⟨t', hle, hmod, hsk⟩ := hpair sk t 1 (by omega)
    exact ⟨t', hle, by simp only [round_robin, hmod, hsk]⟩
  · obtain ⟨t', hle, hmod, -⟩ := hpair 0 t 2 (by omega)
    exact ⟨t', hle, true, by simp only [round_robin, hmod]⟩
  · obtain ⟨t', hle, hmod, -⟩ := hpair 0 t 3 (by omega)
    exact ⟨t', hle, true, by simp only [round_robin, hmod]⟩
  · obtain ⟨t', hle, hmod, -⟩ := hpair 0 t 4 (by omega)
    exact ⟨t', hle, by simp only [round_robin, hmod]⟩

/-- No transmission has failed, and every message names the flow at both ends. -/
structure Smooth (dst : Addr) (s : Link) : Prop where
  phase : ∀ sk, s.phase sk ≠ .failing
  wire : ∀ m ∈ s.wire, m.dst = dst
  rcv_queue : ∀ m ∈ s.rcv_queue, flow_key m.dst = flow_key dst

section Smooth

lemma smooth_start (dst : Addr) : Smooth dst start :=
  ⟨by simp [start], by simp [start], by simp [start]⟩

variable {dst : Addr} {s : Link}

section

variable (h : Smooth dst s)
include h

lemma Smooth.set_phase (sk : ℕ) {p : Phase}
    (hp : p ≠ .failing) : Smooth dst (s.set_phase sk p) := by
  refine ⟨fun i => ?_, h.wire, h.rcv_queue⟩
  rcases eq_or_ne i sk with rfl | hi
  · exact (congrArg (· ≠ Phase.failing) (Function.update_self i p s.phase)).mpr hp
  · rw [set_phase_of_ne hi]
    exact h.phase i

lemma Smooth.set_flow (key : UInt64) (flow : TxFlow) : Smooth dst (s.set_flow key flow) :=
  ⟨h.phase, h.wire, h.rcv_queue⟩

lemma Smooth.tx_turn (sk : ℕ) (ret alloc : Bool) : Smooth dst (tx_turn dst s sk ret alloc) := by
  unfold Flow.tx_turn
  split
  · exact h
  · split_ifs
    · exact (h.set_flow _ _).set_phase sk (by simp)
    · exact (h.set_flow _ _).set_phase sk (by simp)
    · exact h.set_phase sk (by simp)
    · exact h.set_phase sk (by simp)
    · have hidle := h.set_phase sk (p := .idle) (by simp)
      exact ⟨hidle.phase, hidle.wire, hidle.rcv_queue⟩

lemma Smooth.tx_call (sk : ℕ) (timeo alloc : Bool) : Smooth dst (tx_call dst s sk timeo alloc) := by
  unfold Flow.tx_call
  split
  · exact h.set_phase sk (by simp)
  · split_ifs
    · exact (h.set_flow _ _).set_phase sk (by simp)
    · exact h.set_phase sk (by simp)

lemma Smooth.transmit (sk : ℕ) (confirm_rx : Bool) :
    Smooth dst (transmit dst s sk confirm_rx true true) := by
  have hidle := h.set_phase sk (p := .idle) (by simp)
  exact ⟨hidle.phase, forall_mem_append.mpr ⟨h.wire, forall_mem_singleton.mpr rfl⟩, hidle.rcv_queue⟩

lemma Smooth.deliver (hport : legacy_port dst.sq_port = dst.sq_port) :
    Smooth dst (deliver s true) := by
  unfold Flow.deliver
  split
  · exact h
  · next m wire hq =>
    have hm : m.dst = dst := h.wire m (by simp [hq])
    refine ⟨h.phase, fun m' hm' => h.wire m' (by rw [hq]; exact .tail m hm'), fun m' hm' => ?_⟩
    rcases mem_append.mp hm' with hm' | hm'
    · exact h.rcv_queue m' hm'
    · rw [mem_singleton.mp hm', hm, hport]

lemma Smooth.read : Smooth dst (read s true) := by
  unfold Flow.read
  split
  · exact h
  · next m rcv_queue hq =>
    have hrest : ∀ m' ∈ rcv_queue, flow_key m'.dst = flow_key dst :=
      fun m' hm' => h.rcv_queue m' (by simp [hq, hm'])
    split
    · exact ⟨h.phase, h.wire, hrest⟩
    · exact ⟨h.phase, h.wire, hrest⟩

lemma Smooth.resume : Smooth dst (resume s) := by
  unfold Flow.resume
  split
  · exact h
  · split
    · exact ⟨h.phase, h.wire, h.rcv_queue⟩
    · refine ⟨fun sk => ?_, h.wire, h.rcv_queue⟩
      simp only [wake]
      split
      · simp
      · exact h.phase sk

lemma Smooth.round_robin (hport : legacy_port dst.sq_port = dst.sq_port) (t : ℕ) :
    Smooth dst (step dst s (round_robin t)) := by
  unfold Flow.round_robin
  split
  · rw [step]
    split
    · exact h.transmit _ _
    · exact h
  · rw [step, if_neg (h.phase _)]
    exact h
  · exact h.deliver hport
  · exact h.read
  · exact h.resume

lemma Smooth.not_loses (t : ℕ) : ¬ Loses dst s (Flow.round_robin t) := by
  unfold Flow.round_robin
  split
  · exact fun hl => absurd hl.2 (by simp)
  · exact h.phase _
  · exact fun hl => absurd hl.1 (by simp)
  · simp only [Loses]
    cases hq : s.rcv_queue with
    | nil => simp
    | cons m rcv_queue => simp [h.rcv_queue m (by simp [hq])]
  · exact id

lemma Smooth.trace (hport : legacy_port dst.sq_port = dst.sq_port) (t : ℕ) :
    Smooth dst (trace (step dst) s Flow.round_robin t) := by
  induction t with
  | zero => exact h
  | succ t ih => exact ih.round_robin hport t

end

def crowd : List Act :=
  (List.range 10).flatMap (fun sk => [.call sk true true, .turn sk true]) ++
    [.call 10 true true, .turn 10 true, .check 10]

lemma Smooth.waiting (h : Smooth dst s) {acts : List Act}
    (hacts : acts.all fun | .call .. | .turn .. | .check _ => true | _ => false) :
    Run.Ok (step dst) (Kept dst) s acts ∧ Smooth dst (exec (step dst) s acts) := by
  induction acts generalizing s with
  | nil => exact ⟨trivial, h⟩
  | cons a acts ih =>
    rw [all_cons, Bool.and_eq_true] at hacts
    have hstep : Kept dst s a ∧ Smooth dst (step dst s a) := by
      cases a with
      | call sk timeo alloc =>
        refine ⟨False.elim, ?_⟩
        rw [step]
        split
        · exact h.tx_call sk timeo alloc
        · exact h
      | turn sk alloc =>
        refine ⟨False.elim, ?_⟩
        rw [step]
        split
        · exact h.tx_turn sk _ alloc
        · exact h
      | check sk =>
        refine ⟨False.elim, ?_⟩
        rw [step]
        split_ifs
        · exact h.set_phase sk (by simp)
        · exact h.set_phase sk (by simp)
        · exact h
      | _ => simp at hacts
    obtain ⟨hok, hsmooth⟩ := ih hstep.2 hacts.2
    exact ⟨⟨hstep.1, hok⟩, hsmooth⟩

end Smooth

/-! ## Every run -/

/-- **A flow is live exactly as long as it loses no last confirmation**; and then, if all keep
going, whoever sleeps is woken. -/
theorem flow_never_stranded_iff (dst : Addr) (acts : List Act) :
    ((∀ pre, pre <+: acts → Live dst (exec (step dst) start pre)) ↔
        Run.Ok (step dst) (Kept dst) start acts) ∧
      (Run.Ok (step dst) (Kept dst) start acts → ∀ (more : ℕ → Act) (i : ℕ),
        (∀ t, ¬ Loses dst (trace (step dst) (exec (step dst) start acts) more t)
          (more t)) → Going more →
        LeadsTo (trace (step dst) (exec (step dst) start acts) more)
          (fun s => s.phase i = .asleep) (fun s => s.phase i ≠ .asleep)) := by
  constructor
  · exact Run.prefix_good_iff (fun s h => h.live) (fun s a h hk => h.step a hk)
      (fun s a h hk => h.not_live_step a hk) acts (inv_start dst)
  · intro hok more i hkeep hgoing
    have hinv := Run.Ok.inv (fun s a h hk => h.step a hk) (inv_start dst) hok
    exact asleep_wakes (fun _ => rfl) hkeep (inv_trace (fun _ => rfl) hkeep hinv) hgoing

theorem eleventh_woken :
    (exec (step ⟨2, 7⟩) start crowd).phase 10 = .asleep ∧
      ∃ t ≥ 0, (trace (step ⟨2, 7⟩) (exec (step ⟨2, 7⟩) start crowd) round_robin t).phase
        10 ≠ .asleep := by
  have hall : crowd.all (fun | .call .. | .turn .. | .check _ => true | _ => false) := by decide
  have hwait := (smooth_start ⟨2, 7⟩).waiting hall
  refine ⟨by decide +kernel, ?_⟩
  exact (flow_never_stranded_iff ⟨2, 7⟩ crowd).2 hwait.1 round_robin 10
    (fun t => (hwait.2.trace (by decide) t).not_loses t) round_robin_going 0 (by decide +kernel)

/-- Five messages are pending and nothing is under way. -/
lemma not_live_of_quiet {dst : Addr} {s : Link} (hphase : ∀ sk, s.phase sk = .idle)
    (hquiet : (s.wire = [] ∧ s.rcv_queue = [] ∧ s.resumes = []) ∧
      QRTR_TX_FLOW_LOW ≤ s.pending dst ∧ s.tx_failed dst = false) : ¬ Live dst s := by
  obtain ⟨⟨hwire, hrcv, hres⟩, hpending, hfailed⟩ := hquiet
  rintro ⟨hlow, -⟩
  rcases hlow hpending with hc | hf
  · simp [Link.Confirming, Confirming, hphase, hwire, hrcv, hres] at hc
  · rw [hfailed] at hf
    cases hf

def message : List Act :=
  [.call 0 true true, .turn 0 true, .transmit 0 true true, .deliver true, .read true]

/-- Three ways to lose the confirmation of the fifth message. -/
theorem flow_stranded :
    ¬ Live ⟨2, 7⟩ (exec (step ⟨2, 7⟩) start
        (message ++ message ++ message ++ message ++
          [.call 0 true true, .turn 0 true, .transmit 0 false true])) ∧
      ¬ Live ⟨2, 0x80000007⟩ (exec (step ⟨2, 0x80000007⟩) start
        (message ++ message ++ message ++ message ++
          [.call 0 true true, .turn 0 true, .transmit 0 true false, .flow_failed 0])) ∧
      ¬ Live ⟨2, 7⟩ (exec (step ⟨2, 7⟩) start
        (message ++ message ++ message ++ message ++
          [.call 0 true true, .turn 0 true, .transmit 0 true true, .deliver false])) := by
  refine ⟨not_live_of_quiet ?_ (by decide +kernel), not_live_of_quiet ?_ (by decide +kernel),
    not_live_of_quiet ?_ (by decide +kernel)⟩
  all_goals
    rintro (_ | sk) <;> rfl

end KernelExtra.Qrtr.Flow
