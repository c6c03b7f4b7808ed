/-
When a sender is stranded.

Five actions can lose a confirmation, and the code makes good for a failed `xmit` only, and there
only for those who have not gone to sleep: `qrtr_tx_flow_failed` wakes nobody.
-/
import KernelExtra.Qrtr.Flow

namespace KernelExtra.Qrtr.Flow

open List
open Function (update_self update_of_ne)

/-! ## Confirmations under way -/

def Phase.asks (p : Phase) : Prop := p = .sending true ∨ p = .failing

section

variable {dst : Addr} {phase : ℕ → Phase} {wire rcv_queue : List Message} {resumes : List Addr}

lemma Confirming.update {sk : ℕ} (h : Confirming dst phase wire rcv_queue resumes)
    (hsk : ¬ (phase sk).asks) (p : Phase) :
    Confirming dst (Function.update phase sk p) wire rcv_queue resumes := by
  rcases h with ⟨i, hi⟩ | h
  · have hne : i ≠ sk := by
      rintro rfl
      exact hsk hi
    exact .inl ⟨i, by rwa [update_of_ne hne]⟩
  · exact .inr h

lemma Confirming.of_asks (sk : ℕ) {p : Phase} (hp : p.asks) :
    Confirming dst (Function.update phase sk p) wire rcv_queue resumes :=
  .inl ⟨sk, by rwa [update_self]⟩

lemma Confirming.mono {wire' rcv_queue' : List Message} {resumes' : List Addr}
    (h : Confirming dst phase wire rcv_queue resumes) (hwire : wire ⊆ wire')
    (hrcv : rcv_queue ⊆ rcv_queue') (hresumes : resumes ⊆ resumes') :
    Confirming dst phase wire' rcv_queue' resumes' := by
  rcases h with h | ⟨m, hm, hc⟩ | ⟨m, hm, hc⟩ | ⟨a, ha, hk⟩
  · exact .inl h
  · exact .inr (.inl ⟨m, hwire hm, hc⟩)
  · exact .inr (.inr (.inl ⟨m, hrcv hm, hc⟩))
  · exact .inr (.inr (.inr ⟨a, hresumes ha, hk⟩))

end

/-! ## The counter and the mark -/

section

variable {dst : Addr} {s s' : Link}

lemma pending_congr (h : s'.flows (flow_key dst) = s.flows (flow_key dst)) :
    s'.pending dst = s.pending dst := by
  rw [Link.pending, Link.pending, h]

lemma tx_failed_congr (h : s'.flows (flow_key dst) = s.flows (flow_key dst)) :
    s'.tx_failed dst = s.tx_failed dst := by
  rw [Link.tx_failed, Link.tx_failed, h]

lemma pending_eq {flow : TxFlow} (h : s.flows (flow_key dst) = some flow) :
    s.pending dst = flow.pending := by
  rw [Link.pending, h]

lemma tx_failed_eq {flow : TxFlow} (h : s.flows (flow_key dst) = some flow) :
    s.tx_failed dst = flow.tx_failed := by
  rw [Link.tx_failed, h]

lemma pending_none (h : s.flows (flow_key dst) = none) : s.pending dst = 0 := by
  rw [Link.pending, h]

lemma set_flow_self (s : Link) (key : UInt64) (flow : TxFlow) :
    (s.set_flow key flow).flows key = some flow := update_self ..

lemma Live.of_le (h : Live dst s) (hflow : s'.flows (flow_key dst) = s.flows (flow_key dst))
    (hconf : s.Confirming dst → s'.Confirming dst) (hnone : s.NoneAsleep → s'.NoneAsleep) :
    Live dst s' := by
  rw [Live, pending_congr hflow, tx_failed_congr hflow]
  exact ⟨fun hlow => (h.1 hlow).imp_left hconf, h.2.imp hconf hnone⟩

end

lemma Live.of_confirming {dst : Addr} {s : Link} (h : s.Confirming dst) : Live dst s :=
  ⟨fun _ => .inl h, .inl h⟩

lemma Live.of_reset {dst : Addr} {s : Link} (hpending : s.pending dst = 0) (h : s.NoneAsleep) :
    Live dst s :=
  ⟨fun hlow => absurd (hpending ▸ hlow) (by decide), .inr h⟩

lemma NoneAsleep.update {s : Link} (h : s.NoneAsleep) {sk : ℕ} {p : Phase} (hp : p ≠ .asleep) :
    (s.set_phase sk p).NoneAsleep := by
  intro i
  change Function.update s.phase sk p i ≠ .asleep
  by_cases hi : i = sk
  · subst hi
    rwa [update_self]
  · rw [update_of_ne hi]
    exact h i

/-! ## The invariant -/

def Phase.waits : Phase → Prop
  | .loop _ | .waiting | .asleep => True
  | _ => False

/-- The flow is live, and who waits for it finds it. -/
structure Inv (dst : Addr) (s : Link) : Prop where
  live : Live dst s
  present : ∀ sk, (s.phase sk).waits → s.flows (flow_key dst) ≠ none

lemma inv_start (dst : Addr) : Inv dst start where
  live := .of_reset (pending_none rfl) nofun
  present := fun _ h => h.elim

section Keeps

variable {dst : Addr} {s : Link} {sk : ℕ}

lemma Inv.noneAsleep (h : Inv dst s) (hflow : s.flows (flow_key dst) = none) : s.NoneAsleep := by
  intro i hi
  exact h.present i (by rw [hi]; trivial) hflow

lemma Inv.set_phase (h : Inv dst s) (hsk : ¬ (s.phase sk).asks) {p : Phase} (hp : p ≠ .asleep)
    (hwaits : p.waits → s.flows (flow_key dst) ≠ none) : Inv dst (s.set_phase sk p) where
  live := h.live.of_le rfl (fun hc => hc.update hsk p) fun hn => NoneAsleep.update hn hp
  present := by
    intro i hi
    change (Function.update s.phase sk p i).waits at hi
    by_cases hne : i = sk
    · subst hne
      rw [update_self] at hi
      exact hwaits hi
    · rw [update_of_ne hne] at hi
      exact h.present i hi

lemma not_asks_of {p q : Phase} (h : p = q) (hq : q ≠ .sending true ∧ q ≠ .failing) : ¬ p.asks := by
  subst h
  rintro (h | h)
  · exact hq.1 h
  · exact hq.2 h

section

variable (h : Inv dst s)
include h

lemma Inv.tx_call (hidle : s.phase sk = .idle) (timeo alloc : Bool) :
    Inv dst (tx_call dst s sk timeo alloc) := by
  have hasks : ¬ (s.phase sk).asks := not_asks_of hidle (by decide)
  unfold Flow.tx_call
  cases hflow : s.flows (flow_key dst) with
  | some flow => exact h.set_phase hasks (by simp) fun _ => by simp [hflow]
  | none =>
    dsimp only
    split
    · -- a new flow counts from nothing
      have hself := set_flow_self s (flow_key dst) ⟨0, false⟩
      have hnew : Inv dst (s.set_flow (flow_key dst) ⟨0, false⟩) :=
        ⟨.of_reset (pending_eq hself) (h.noneAsleep hflow), fun i _ => by simp [hself]⟩
      exact hnew.set_phase hasks (by simp) fun _ => by simp [hself]
    · exact h.set_phase hasks (by simp) fun hw => hw.elim

lemma Inv.tx_turn {ret : Bool} (hloop : s.phase sk = .loop ret) (alloc : Bool) :
    Inv dst (tx_turn dst s sk ret alloc) := by
  have hasks : ¬ (s.phase sk).asks := not_asks_of hloop (by simp)
  unfold Flow.tx_turn
  cases hflow : s.flows (flow_key dst) with
  | none => exact h
  | some flow =>
    have hpending := pending_eq hflow
    dsimp only
    split
    · -- the next message asks again
      refine ⟨.of_confirming (.of_asks sk (.inl rfl)), fun i _ => ?_⟩
      change Function.update s.flows (flow_key dst) _ (flow_key dst) ≠ none
      simp
    split
    · set flow' : TxFlow := { flow with pending := flow.pending + 1 }
      have hself := set_flow_self s (flow_key dst) flow'
      refine ⟨?_, fun i _ => ?_⟩
      · by_cases hlow : flow.pending + 1 = QRTR_TX_FLOW_LOW
        · refine .of_confirming (.of_asks sk (.inl ?_))
          rw [decide_eq_true hlow]
        · refine ⟨fun hle => ?_, ?_⟩
          · have hcount : Link.pending dst ((s.set_flow (flow_key dst) flow').set_phase sk
                (.sending (flow.pending + 1 = QRTR_TX_FLOW_LOW))) = flow.pending + 1 :=
              pending_eq hself
            have hle' : QRTR_TX_FLOW_LOW ≤ s.pending dst := by omega
            refine .inl (Confirming.update ?_ hasks _)
            refine (h.live.1 hle').resolve_right ?_
            rwa [tx_failed_eq hflow]
          · refine h.live.2.imp (fun hc => hc.update hasks _) fun hn => ?_
            exact NoneAsleep.update hn (by simp)
      · change Function.update s.flows (flow_key dst) _ (flow_key dst) ≠ none
        simp
    split
    · exact h.set_phase hasks (by simp) fun _ => by simp [hflow]
    have hidle : Inv dst (s.set_phase sk .idle) :=
      h.set_phase hasks (by simp) fun hw => hw.elim
    split
    · exact hidle
    · exact ⟨hidle.live, hidle.present⟩

lemma Inv.check (hwaiting : s.phase sk = .waiting) :
    Inv dst (s.set_phase sk (if may_go dst s then .loop true else .asleep)) := by
  have hasks : ¬ (s.phase sk).asks := not_asks_of hwaiting (by decide)
  have hflow := h.present sk (by rw [hwaiting]; trivial)
  split
  · exact h.set_phase hasks (by simp) fun _ => hflow
  · rename_i hstay
    have hc : s.Confirming dst := by
      obtain ⟨flow, hflow⟩ := Option.ne_none_iff_exists'.mp hflow
      rw [may_go, hflow] at hstay
      simp only [TxFlow.may_send, Bool.or_eq_true, decide_eq_true_iff, not_or] at hstay
      refine (h.live.1 ?_).resolve_right ?_
      · rw [pending_eq hflow]
        exact le_trans (by decide) (not_lt.mp hstay.2)
      · rw [tx_failed_eq hflow]
        exact hstay.1
    have hc' : (s.set_phase sk .asleep).Confirming dst := hc.update hasks _
    exact ⟨.of_confirming hc', fun i _ => hflow⟩

lemma Inv.leave (hasleep : s.phase sk = .asleep) {p : Phase}
    (hp : p ≠ .asleep) : Inv dst (s.set_phase sk p) :=
  h.set_phase (not_asks_of hasleep (by decide)) hp fun _ =>
    h.present sk (by rw [hasleep]; trivial)

lemma Inv.transmit {confirm_rx pad xmit : Bool}
    (hsending : s.phase sk = .sending confirm_rx) (hkeep : confirm_rx = true → pad = true) :
    Inv dst (transmit dst s sk confirm_rx pad xmit) := by
  have hpresent : ∀ p : Phase, ¬ p.waits → ∀ i, ((s.set_phase sk p).phase i).waits →
      s.flows (flow_key dst) ≠ none := by
    intro p hp i hi
    change (Function.update s.phase sk p i).waits at hi
    by_cases hne : i = sk
    · subst hne
      rw [update_self] at hi
      exact absurd hi hp
    · rw [update_of_ne hne] at hi
      exact h.present i hi
  cases confirm_rx with
  | false =>
    have hidle : Inv dst (s.set_phase sk .idle) :=
      h.set_phase (not_asks_of hsending (by decide)) (by simp) fun hw => hw.elim
    unfold Flow.transmit
    split
    · exact hidle
    split
    · refine ⟨hidle.live.of_le rfl (fun hc => ?_) id, hidle.present⟩
      exact hc.mono (subset_append_left _ _) (.refl _) (.refl _)
    · exact hidle
  | true =>
    have hpad := hkeep rfl
    subst hpad
    unfold Flow.transmit
    rw [if_neg (by decide)]
    split
    · have hc : Link.Confirming dst { s.set_phase sk .idle with wire := s.wire ++ [⟨true, dst⟩] } :=
        .inr (.inl ⟨⟨true, dst⟩, mem_append_right _ mem_cons_self, rfl⟩)
      exact ⟨.of_confirming hc, hpresent .idle id⟩
    · have hc : Link.Confirming dst (s.set_phase sk .failing) := .of_asks sk (.inr rfl)
      exact ⟨.of_confirming hc, hpresent .failing id⟩

lemma Inv.deliver {ok : Bool} (hkeep : ¬ Loses dst s (.deliver ok)) : Inv dst (deliver s ok) := by
  unfold Flow.deliver
  cases hwire : s.wire with
  | nil => exact h
  | cons m wire =>
    dsimp only
    split
    · refine ⟨h.live.of_le rfl (fun hc => ?_) id, h.present⟩
      rcases hc with hc | ⟨m', hm', hc⟩ | ⟨m', hm', hc⟩ | hc
      · exact .inl hc
      · rw [hwire] at hm'
        rcases mem_cons.mp hm' with rfl | hm'
        · exact .inr (.inr (.inl ⟨_, mem_append_right _ mem_cons_self, hc⟩))
        · exact .inr (.inl ⟨m', hm', hc⟩)
      · exact .inr (.inr (.inl ⟨m', mem_append_left _ hm', hc⟩))
      · exact .inr (.inr (.inr hc))
    · rename_i hok
      refine ⟨h.live.of_le rfl (fun hc => ?_) id, h.present⟩
      rcases hc with hc | ⟨m', hm', hc⟩ | hc
      · exact .inl hc
      · rw [hwire] at hm'
        rcases mem_cons.mp hm' with rfl | hm'
        · refine absurd ?_ hkeep
          exact ⟨Bool.eq_false_iff.mpr hok, by rw [hwire]; exact hc⟩
        · exact .inr (.inl ⟨m', hm', hc⟩)
      · exact .inr (.inr hc)

lemma Inv.read {ok : Bool} (hkeep : ¬ Loses dst s (.read ok)) : Inv dst (read s ok) := by
  unfold Flow.read
  cases hrcv : s.rcv_queue with
  | nil => exact h
  | cons m rcv_queue =>
    have hhead : m.confirm_rx = true → ok = true ∧ flow_key m.dst = flow_key dst := by
      intro hc
      simpa [Loses, hrcv, hc] using hkeep
    dsimp only
    split
    · rename_i hc
      rw [Bool.and_eq_true] at hc
      have hc' : Link.Confirming dst { s with rcv_queue, resumes := s.resumes ++ [m.dst] } :=
        .inr (.inr (.inr ⟨m.dst, mem_append_right _ mem_cons_self, (hhead hc.1).2⟩))
      exact ⟨.of_confirming hc', h.present⟩
    · rename_i hnot
      refine ⟨h.live.of_le rfl (fun hc => ?_) id, h.present⟩
      rcases hc with hc | hc | ⟨m', hm', hc⟩ | hc
      · exact .inl hc
      · exact .inr (.inl hc)
      · rw [hrcv] at hm'
        rcases mem_cons.mp hm' with rfl | hm'
        · refine absurd ?_ hnot
          rw [hc, (hhead hc).1]
          rfl
        · exact .inr (.inr (.inl ⟨m', hm', hc⟩))
      · exact .inr (.inr (.inr hc))

end

lemma wake_ne_asleep (p : Phase) : wake p ≠ .asleep := by
  unfold wake
  split
  · simp
  · assumption

lemma asks_wake {p : Phase} (h : p.asks) : (wake p).asks := by
  unfold wake
  rw [if_neg]
  · exact h
  · rintro rfl
    rcases h with h | h <;> cases h

lemma waits_of_wake {p : Phase} (h : (wake p).waits) : p.waits := by
  unfold wake at h
  split at h
  · rename_i hp
    rw [hp]
    trivial
  · exact h

lemma Inv.resume (h : Inv dst s) : Inv dst (resume s) := by
  unfold Flow.resume
  cases hres : s.resumes with
  | nil => exact h
  | cons client resumes =>
    dsimp only
    cases hflow : s.flows (flow_key client) with
    | none =>
      by_cases hkey : flow_key client = flow_key dst
      · -- nobody waits for a flow that is not there
        rw [hkey] at hflow
        exact ⟨.of_reset (pending_none hflow) (h.noneAsleep hflow), h.present⟩
      · refine ⟨h.live.of_le rfl (fun hc => ?_) id, h.present⟩
        rcases hc with hc | hc | hc | ⟨a, ha, hk⟩
        · exact .inl hc
        · exact .inr (.inl hc)
        · exact .inr (.inr (.inl hc))
        · rw [hres] at ha
          rcases mem_cons.mp ha with rfl | ha
          · exact absurd hk hkey
          · exact .inr (.inr (.inr ⟨a, ha, hk⟩))
    | some flow =>
      have hnone : ∀ sk, wake (s.phase sk) ≠ .asleep := fun sk => wake_ne_asleep _
      have hpresent : ∀ sk, (wake (s.phase sk)).waits →
          Function.update s.flows (flow_key client) (some { flow with pending := 0 })
            (flow_key dst) ≠ none := by
        intro sk hw
        by_cases hkey : flow_key dst = flow_key client
        · rw [hkey, update_self]
          simp
        · rw [update_of_ne hkey]
          exact h.present sk (waits_of_wake hw)
      refine ⟨?_, hpresent⟩
      by_cases hkey : flow_key dst = flow_key client
      · refine .of_reset (pending_eq ?_ : _ = { flow with pending := 0 }.pending) hnone
        rw [hkey]
        exact set_flow_self ..
      · -- somebody else's flow
        have hsame : Function.update s.flows (flow_key client) (some { flow with pending := 0 })
            (flow_key dst) = s.flows (flow_key dst) := update_of_ne hkey ..
        refine h.live.of_le hsame (fun hc => ?_) fun _ => hnone
        rcases hc with ⟨i, hi⟩ | hc | hc | ⟨a, ha, hk⟩
        · exact .inl ⟨i, asks_wake hi⟩
        · exact .inr (.inl hc)
        · exact .inr (.inr (.inl hc))
        · rw [hres] at ha
          rcases mem_cons.mp ha with rfl | ha
          · exact absurd hk.symm hkey
          · exact .inr (.inr (.inr ⟨a, ha, hk⟩))

/-- **Actions that lose nothing keep the invariant.** -/
theorem Inv.step_of_not_loses (h : Inv dst s) (a : Act) (hkeep : ¬ Loses dst s a) :
    Inv dst (step dst s a) := by
  cases a with
  | call sk timeo alloc =>
    rw [Flow.step]
    split
    · rename_i hidle
      exact h.tx_call hidle timeo alloc
    · exact h
  | turn sk alloc =>
    rw [Flow.step]
    split
    · rename_i ret hloop
      exact h.tx_turn hloop alloc
    · exact h
  | check sk =>
    rw [Flow.step]
    split
    · rename_i hwaiting
      exact h.check hwaiting
    · exact h
  | timeout sk =>
    rw [Flow.step]
    split
    · rename_i hasleep
      exact h.leave hasleep (by simp)
    · exact h
  | signal sk =>
    rw [Flow.step]
    split
    · rename_i hasleep
      refine h.leave hasleep ?_
      split <;> simp
    · exact h
  | transmit sk pad xmit =>
    rw [Flow.step]
    split
    · rename_i confirm_rx hsending
      refine h.transmit hsending fun hc => ?_
      rw [hc] at hsending
      by_contra hpad
      exact hkeep ⟨hsending, Bool.eq_false_iff.mpr hpad⟩
    · exact h
  | flow_failed sk =>
    rw [Flow.step, if_neg (show ¬ s.phase sk = .failing from hkeep)]
    exact h
  | deliver ok => exact h.deliver hkeep
  | read ok => exact h.read hkeep
  | resume => exact h.resume

end Keeps

/-! ## Losing a confirmation -/

section Loses

variable {dst : Addr} {s : Link} {sk : ℕ}

lemma live_lost_iff {s' : Link} {B M : Prop} (hnone : s'.NoneAsleep ↔ s.NoneAsleep)
    (hconf : s'.Confirming dst ↔ B) (hpending : s'.pending dst = s.pending dst)
    (hfailed : s'.tx_failed dst = true ↔ s.tx_failed dst = true ∨ M) :
    Live dst s' ↔
      B ∨ s.NoneAsleep ∧ (s.pending dst < QRTR_TX_FLOW_LOW ∨ s.tx_failed dst = true ∨ M) := by
  rw [Live, hnone, hconf, hpending, hfailed]
  constructor
  · rintro ⟨hlow, hb | hn⟩
    · exact .inl hb
    · by_cases hle : QRTR_TX_FLOW_LOW ≤ s.pending dst
      · exact (hlow hle).imp_right fun hm => ⟨hn, .inr hm⟩
      · exact .inr ⟨hn, .inl (not_le.mp hle)⟩
  · rintro (hb | ⟨hn, hlt | hm⟩)
    · exact ⟨fun _ => .inl hb, .inl hb⟩
    · exact ⟨fun hle => absurd hlt (not_lt.mpr hle), .inr hn⟩
    · exact ⟨fun _ => .inr hm, .inr hn⟩

lemma noneAsleep_idle_iff (hsk : s.phase sk ≠ .asleep) :
    (s.set_phase sk .idle).NoneAsleep ↔ s.NoneAsleep := by
  constructor
  · intro h i hi
    by_cases hne : i = sk
    · subst hne
      exact hsk hi
    · refine h i ?_
      change Function.update s.phase sk .idle i = .asleep
      rwa [update_of_ne hne]
  · intro h
    exact NoneAsleep.update h (by simp)

variable (h : Inv dst s)
include h

lemma present_idle (i : ℕ) (hi : ((s.set_phase sk .idle).phase i).waits) :
    s.flows (flow_key dst) ≠ none := by
  change (Function.update s.phase sk .idle i).waits at hi
  by_cases hne : i = sk
  · subst hne
    rw [update_self] at hi
    exact hi.elim
  · rw [update_of_ne hne] at hi
    exact h.present i hi

lemma tx_flow_failed_spec (hfailing : s.phase sk = .failing) :
    (Live dst (tx_flow_failed dst s sk) ↔ Besides dst s (.flow_failed sk) ∨
      s.NoneAsleep ∧ (s.pending dst < QRTR_TX_FLOW_LOW ∨ s.tx_failed dst = true ∨
        Marks dst s (.flow_failed sk))) ∧
    ∀ i, ((tx_flow_failed dst s sk).phase i).waits →
      (tx_flow_failed dst s sk).flows (flow_key dst) ≠ none := by
  have hnone : (s.set_phase sk .idle).NoneAsleep ↔ s.NoneAsleep :=
    noneAsleep_idle_iff (by rw [hfailing]; simp)
  unfold tx_flow_failed
  cases hflow : s.flows (failed_key dst) with
  | none =>
    have hmarks : ¬ Marks dst s (.flow_failed sk) := by
      rintro ⟨hkey, hsome⟩
      rw [hkey] at hflow
      exact hsome hflow
    exact ⟨live_lost_iff hnone .rfl rfl (or_iff_left hmarks).symm, present_idle h⟩
  | some flow =>
    by_cases hkey : failed_key dst = flow_key dst
    · rw [hkey] at hflow ⊢
      have hself := set_flow_self s (flow_key dst) { flow with tx_failed := true }
      have hmarks : Marks dst s (.flow_failed sk) := ⟨hkey, by simp [hflow]⟩
      refine ⟨live_lost_iff hnone .rfl ?_ ?_, fun i _ => ?_⟩
      · exact (pending_eq hself).trans (pending_eq hflow).symm
      · exact iff_of_true (tx_failed_eq hself) (.inr hmarks)
      · exact Option.ne_none_iff_exists'.mpr ⟨_, hself⟩
    · have hsame : Function.update s.flows (failed_key dst) (some { flow with tx_failed := true })
          (flow_key dst) = s.flows (flow_key dst) := update_of_ne (Ne.symm hkey) ..
      have hmarks : ¬ Marks dst s (.flow_failed sk) := fun hm => hkey hm.1
      refine ⟨live_lost_iff hnone .rfl (pending_congr hsame) ?_, fun i hi => ?_⟩
      · have hfailed : Link.tx_failed dst ((s.set_flow (failed_key dst)
            { flow with tx_failed := true }).set_phase sk .idle) = s.tx_failed dst :=
          tx_failed_congr hsame
        rw [hfailed]
        exact (or_iff_left hmarks).symm
      · change Function.update s.flows (failed_key dst) _ (flow_key dst) ≠ none
        rw [hsame]
        exact present_idle h i hi

/-- **An action that loses a confirmation** leaves the flow live exactly when something
else stands in for it. -/
theorem loses_spec (a : Act) (hloses : Loses dst s a) :
    (Live dst (step dst s a) ↔ Besides dst s a ∨
      s.NoneAsleep ∧ (s.pending dst < QRTR_TX_FLOW_LOW ∨ s.tx_failed dst = true ∨
        Marks dst s a)) ∧
    ∀ i, ((step dst s a).phase i).waits → (step dst s a).flows (flow_key dst) ≠ none := by
  have hkeep : s.tx_failed dst = true ↔ s.tx_failed dst = true ∨ False :=
    (iff_of_eq (or_false _)).symm
  cases a with
  | transmit sk pad xmit =>
    obtain ⟨hsending, rfl⟩ := hloses
    have heq : step dst s (.transmit sk false xmit) = s.set_phase sk .idle := by
      simp [Flow.step, hsending, Flow.transmit]
    rw [heq]
    exact ⟨live_lost_iff (noneAsleep_idle_iff (by rw [hsending]; simp)) .rfl rfl hkeep,
      present_idle h⟩
  | flow_failed sk =>
    have heq : step dst s (.flow_failed sk) = tx_flow_failed dst s sk := if_pos hloses
    rw [heq]
    exact tx_flow_failed_spec h hloses
  | deliver ok =>
    obtain ⟨rfl, hhead⟩ := hloses
    cases hwire : s.wire with
    | nil =>
      rw [hwire] at hhead
      cases hhead
    | cons m wire =>
      have heq : step dst s (.deliver false) = { s with wire } := by
        simp [Flow.step, Flow.deliver, hwire]
      rw [heq]
      refine ⟨live_lost_iff .rfl ?_ rfl hkeep, h.present⟩
      rw [Besides, hwire]
      rfl
  | read ok =>
    cases hrcv : s.rcv_queue with
    | nil =>
      rw [Loses, hrcv] at hloses
      cases hloses
    | cons m rcv_queue =>
      have hm : m.confirm_rx = true ∧ (ok = false ∨ flow_key m.dst ≠ flow_key dst) := by
        simpa [Loses, hrcv] using hloses
      cases ok with
      | false =>
        have heq : step dst s (.read false) = { s with rcv_queue } := by
          simp [Flow.step, Flow.read, hrcv]
        rw [heq]
        refine ⟨live_lost_iff .rfl ?_ rfl hkeep, h.present⟩
        rw [Besides, hrcv]
        rfl
      | true =>
        have heq : step dst s (.read true) =
            { s with rcv_queue, resumes := s.resumes ++ [m.dst] } := by
          simp [Flow.step, Flow.read, hrcv, hm.1]
        rw [heq]
        refine ⟨live_lost_iff .rfl ?_ rfl hkeep, h.present⟩
        rw [Besides, hrcv]
        -- a resume packet for another flow is no use
        refine or_congr_right (or_congr_right (or_congr_right ?_))
        constructor
        · rintro ⟨a, ha, hk⟩
          rcases mem_append.mp ha with ha | ha
          · exact ⟨a, ha, hk⟩
          · rw [mem_singleton.mp ha] at hk
            exact absurd hk (hm.2.resolve_left (by decide))
        · rintro ⟨a, ha, hk⟩
          exact ⟨a, mem_append_left _ ha, hk⟩
  | call sk timeo alloc => exact hloses.elim
  | turn sk alloc => exact hloses.elim
  | check sk => exact hloses.elim
  | timeout sk => exact hloses.elim
  | signal sk => exact hloses.elim
  | resume => exact hloses.elim

lemma Inv.step (a : Act) (hkept : Kept dst s a) : Inv dst (step dst s a) := by
  by_cases hloses : Loses dst s a
  · obtain ⟨hlive, hpresent⟩ := loses_spec h a hloses
    exact ⟨hlive.mpr (hkept hloses), hpresent⟩
  · exact h.step_of_not_loses a hloses

lemma Inv.not_live_step (a : Act) (hkept : ¬ Kept dst s a) : ¬ Live dst (Flow.step dst s a) := by
  rw [Kept, Classical.not_imp] at hkept
  rw [(loses_spec h a hkept.1).1]
  exact hkept.2

end Loses

end KernelExtra.Qrtr.Flow
