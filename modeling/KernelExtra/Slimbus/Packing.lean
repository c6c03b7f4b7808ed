/-
The packing of one family: no two channels share a slot.

`Packs` says that the channels dealt with so far have places that fit, that do not meet, and that
leave alone what the counters of `Halves` call open. A channel may be put over the border between
the halves, on slots that are taken; then `slim_sched_chans` fails in the end, at the last level
because of the clause that keeps the first half completely open until nothing is left in the second
(`Spoilt`). So a schedule with channels of one coefficient only that succeeds is correct.

The two families differ in the longest interval, `3072` or `1024`, and in the length from which on
the clause is in force, `24` or `32`; both are parameters here. With channels of both coefficients
the clause is off, and the argument breaks down.
-/
import KernelExtra.Slimbus.Halves
import KernelExtra.Lib.Slots

namespace KernelExtra.Slimbus

open KernelExtra.Loop KernelExtra.Slots Function List Nat

/-! ## Channels as segments -/

def Ich.seg (slc : Ich) : Seg := ⟨slc.newoff, slc.newintr, slc.seglen⟩

def segs (chans : ℕ → Ich) (c : ℕ) : Seg := (chans c).seg

lemma segs_update (chans : ℕ → Ich) (c : ℕ) (slc : Ich) :
    segs (update chans c slc) = update (segs chans) c slc.seg := by
  funext d
  rcases eq_or_ne d c with rfl | hd
  · rw [segs, update_self, update_self]
  · rw [segs, update_of_ne hd, update_of_ne hd, segs]

lemma scheduled_append (chans : ℕ → Ich) (a b : List ℕ) :
    scheduled chans (a ++ b) = scheduled chans a ++ scheduled chans b := filter_append ..

variable {chans table : ℕ → Ich} {c curintr curmaxsl : ℕ} {pre done : List ℕ}

lemma mem_scheduled {arr : List ℕ} :
    c ∈ scheduled chans arr ↔ c ∈ arr ∧ (chans c).state ≠ .PENDING_REMOVAL := by
  simp [scheduled]

lemma scheduled_snoc_of_removed
    (hc : (chans c).removed = true) : scheduled chans (pre ++ [c]) = scheduled chans pre := by
  have hstate : (chans c).state = .PENDING_REMOVAL := by simpa [Ich.removed] using hc
  simp [scheduled, hstate]

lemma mem_of_mem_scheduled_snoc {d : ℕ}
    (hd : d ∈ scheduled chans (pre ++ [c])) : d ∈ c :: scheduled chans pre := by
  rw [scheduled_append, mem_append] at hd
  rcases hd with hd | hd
  · exact mem_cons_of_mem c hd
  · rw [mem_singleton.1 (mem_scheduled.1 hd).1]
    exact mem_cons_self

lemma not_mem_scheduled_of_nodup {rest : List ℕ}
    (h : (pre ++ c :: rest).Nodup) : c ∉ scheduled chans pre := by
  intro hc
  exact (nodup_append.1 h).2.2 c (mem_scheduled.1 hc).1 c mem_cons_self rfl

lemma SameCore.removed_eq (h : SameCore chans table) (c : ℕ) :
    (table c).removed = (chans c).removed := by
  unfold Ich.removed
  rw [h.state]

lemma SameCore.due_iff (h : SameCore chans table) {expshft k : ℕ} :
    (table c).due expshft k = true ↔ k = (chans c).rootexp + expshft := by
  unfold Ich.due
  rw [h.rootexp, decide_eq_true_eq]

lemma scheduled_from_first (chans : ℕ → Ich) (arr : List ℕ) :
    scheduled chans (from_first chans arr) = scheduled chans arr := by
  unfold from_first
  induction arr with
  | nil => rfl
  | cons c arr ih =>
    rw [dropWhile_cons]
    split_ifs with h
    · rw [ih]
      unfold scheduled
      rw [filter_cons_of_neg (by simpa using h)]
    · rfl

lemma forall_update {P : ℕ → Ich → Prop} {slc : Ich}
    (h : ∀ d ∈ done, P d (table d)) (hc : P c slc) :
    ∀ d ∈ c :: done, P d (update table c slc d) := by
  intro d hd
  rcases eq_or_ne d c with rfl | hdc
  · rwa [update_self]
  · rw [update_of_ne hdc]
    exact h d (mem_of_ne_of_mem hdc hd)

variable {open0 open1 : ℤ}

lemma packed_write
    (h : Packed 1536 (segs chans) done (Open2 curintr curmaxsl open0 open1)) (hc : c ∉ done)
    {r : Placed} (hfill : Fill curintr curmaxsl (chans c).seglen open0 open1 r)
    (hfull : r.full = false) (hpos : 0 < curintr) (hdvd : curintr ∣ 1536) :
    Packed 1536 (segs (update chans c (r.write (chans c) curintr))) (c :: done)
      (Open2 curintr curmaxsl r.open0 r.open1) := by
  have hseg : (r.write (chans c) curintr).seg = ⟨r.newoff, curintr, (chans c).seglen⟩ := by
    simp [Placed.write, hfull, Ich.seg]
  rw [segs_update, hseg]
  refine h.place hc ⟨hpos, hdvd, hfill.le⟩ (fun x hx => ?_) (fun x hx => ?_)
  · exact hfill.split x (.inr hx)
  · exact ⟨hfill.split x (.inl hx), hfill.apart x hx⟩

lemma not_full_of_ret {full : Bool} {ret : ℤ} (h : (if full = true then -EXFULL else ret) = 0) :
    full = false := by
  by_contra hfull
  rw [if_pos (by simpa using hfull)] at h
  simp [EXFULL] at h

/-- What is packed lies outside of what is open. -/
structure Packs (chans : ℕ → Ich) (per : ℕ → ℕ) (done : List ℕ) (curintr curmaxsl : ℕ)
    (table : ℕ → Ich) (open0 open1 : ℤ) : Prop where
  core : SameCore chans table
  room : Room2 curintr curmaxsl open0 open1
  packed : Packed 1536 (segs table) done (Open2 curintr curmaxsl open0 open1)
  intr : ∀ c ∈ done, (table c).newintr = per c
  mult : ∀ c ∈ done, curintr ∣ (table c).newintr

section

variable {chans table : ℕ → Ich} {per : ℕ → ℕ} {done : List ℕ} {curintr curmaxsl : ℕ}
  {open0 open1 : ℤ}

lemma Packs.congr {done' : List ℕ} (h : Packs chans per done curintr curmaxsl table open0 open1)
    (hdone : ∀ c, c ∈ done' → c ∈ done) :
    Packs chans per done' curintr curmaxsl table open0 open1 where
  core := h.core
  room := h.room
  packed := h.packed.congr hdone (fun _ _ => rfl)
  intr c hc := h.intr c (hdone c hc)
  mult c hc := h.mult c (hdone c hc)

/-- **To the next level.** -/
theorem Packs.halve (h : Packs chans per done (2 * curmaxsl) curmaxsl table open0 open1)
    (hpos : 0 < (halve (curmaxsl / 2) open0 open1).1) :
    Packs chans per done curmaxsl (curmaxsl / 2) table (halve (curmaxsl / 2) open0 open1).1
      (halve (curmaxsl / 2) open0 open1).2 where
  core := h.core
  room := h.room.halve hpos
  packed := h.packed.mono fun _ => open2_halve _
  intr := h.intr
  mult c hc := (dvd_mul_left curmaxsl 2).trans (h.mult c hc)

/-- **One more channel**, not over the border. -/
theorem Packs.place (h : Packs chans per done curintr curmaxsl table open0 open1) {c : ℕ}
    (hc : c ∉ done) {last : Bool} {r : Placed}
    (hr : Placing curmaxsl (table c).seglen open0 open1 last r) (hfull : r.full = false)
    (hover : ¬ (open0 ≤ open1 ∧ open1 < (table c).seglen ∧ open0 ≠ curmaxsl))
    (hpos : 0 < curintr) (hdvd : curintr ∣ 1536) (hper : per c = curintr) :
    Packs chans per (c :: done) curintr curmaxsl
      (update table c (r.write (table c) curintr)) r.open0 r.open1 := by
  have hfill := hr.fill h.room hover
  have hself : (r.write (table c) curintr).newintr = curintr := by simp [Placed.write, hfull]
  refine ⟨h.core.update (Placed.write_core ..), hfill.room,
    packed_write h.packed hc hfill hfull hpos hdvd, ?_, ?_⟩
  · exact forall_update (P := fun d slc => slc.newintr = per d) h.intr (hself.trans hper.symm)
  · exact forall_update (P := fun _ slc => curintr ∣ slc.newintr) h.mult hself.symm.dvd

end

/-- The interval of a channel. -/
def intr (base : ℕ) (chans : ℕ → Ich) (expshft c : ℕ) : ℕ :=
  base >>> ((chans c).rootexp + expshft + 1)

/-- One channel of either family; the clause is in force from intervals of `bound` slots on. -/
def step_two (bound curintr curmaxsl finalexp : ℕ) (p : Pass) (c : ℕ) : Pass :=
  let slc := p.chans c
  let last := decide (finalexp = slc.rootexp) && decide (curintr ≤ bound)
  let r := place_4k slc last curmaxsl p.open0 p.open1
  { chans := update p.chans c (r.write slc curintr)
    open0 := r.open0
    open1 := r.open1
    ret := if r.full then -EXFULL else p.ret }

section Family

variable {base bound : ℕ} {chans : ℕ → Ich} {expshft finalexp : ℕ}

/-- The channels of `pre` are packed. With an interval of three slots the second half is the
longer one. -/
structure Good (base : ℕ) (chans : ℕ → Ich) (expshft : ℕ) (pre : List ℕ) (curintr curmaxsl : ℕ)
    (p : Pass) : Prop where
  packs : Packs chans (intr base chans expshft) (scheduled chans pre) curintr curmaxsl p.chans
    p.open0 p.open1
  odd : curintr = 3 → p.open0 = curmaxsl ∨ p.open1 ≤ 0

/-- The last scheduled channels of `pre` are those of level `k`. -/
def Tail (chans : ℕ → Ich) (expshft k : ℕ) (pre : List ℕ) : Prop :=
  ∃ a c b, pre = a ++ c :: b ∧ (chans c).state ≠ .PENDING_REMOVAL ∧
    ∀ x ∈ c :: b, k = (chans x).rootexp + expshft

lemma Tail.snoc {k c : ℕ} {pre : List ℕ} (h : Tail chans expshft k pre)
    (hc : k = (chans c).rootexp + expshft) : Tail chans expshft k (pre ++ [c]) := by
  obtain ⟨a, d, b, rfl, hd, htail⟩ := h
  refine ⟨a, d, b ++ [c], by simp, hd, fun x hx => ?_⟩
  rw [← cons_append, mem_append] at hx
  rcases hx with hx | hx
  · exact htail x hx
  · rw [mem_singleton.1 hx]
    exact hc

lemma Tail.eq_last_exp {k : ℕ} {pre : List ℕ} (h : Tail chans expshft k pre)
    (hlast : last_exp chans pre = some finalexp) : k = finalexp + expshft := by
  obtain ⟨a, c, b, rfl, hc, htail⟩ := h
  have hcons : scheduled chans (c :: b) = c :: scheduled chans b :=
    filter_cons_of_pos (by simpa using hc)
  obtain ⟨x, hx, rfl⟩ := Option.map_eq_some_iff.1 hlast
  rw [scheduled_append, hcons, getLast?_append_cons, ← hcons] at hx
  exact htail x (mem_scheduled.1 (mem_of_getLast? hx)).1

/-- At level `k` a channel has been put over the border. If it is the last level, nothing was
open in the first half. -/
structure Spoilt (bound : ℕ) (chans : ℕ → Ich) (expshft finalexp : ℕ) (pre : List ℕ)
    (curintr curmaxsl k : ℕ) (p : Pass) : Prop where
  core : SameCore chans p.chans
  lo0 : 0 ≤ p.open0
  lt0 : p.open0 < curmaxsl
  neg : p.open1 < 0
  last : curintr ≤ bound → k = finalexp + expshft → p.open0 ≤ 0
  tail : Tail chans expshft k pre

/-- Within level `k`: everything is packed, with the clause obeyed, or something is over the
border. -/
def Walks (base bound : ℕ) (chans : ℕ → Ich) (expshft finalexp : ℕ) (l : List ℕ)
    (curintr curmaxsl k : ℕ) (rest : List ℕ) (p : Pass) : Prop :=
  p.ret = 0 ∧ ∃ pre, l = pre ++ rest ∧
    (Good base chans expshft pre curintr curmaxsl p ∧
      (curintr ≤ bound → k = finalexp + expshft → p.open0 = curmaxsl ∨ p.open1 ≤ 0) ∨
    Spoilt bound chans expshft finalexp pre curintr curmaxsl k p)

variable {l rest : List ℕ} {curintr curmaxsl k c : ℕ} {p : Pass}

lemma Walks.skip (h : Walks base bound chans expshft finalexp l curintr curmaxsl k (c :: rest) p)
    (hhere : (p.chans c).due expshft k = true) (hskip : (p.chans c).removed = true) :
    Walks base bound chans expshft finalexp l curintr curmaxsl k rest p := by
  obtain ⟨hret, pre, hl, hpre⟩ := h
  refine ⟨hret, pre ++ [c], by rw [hl, append_assoc]; rfl, ?_⟩
  rcases hpre with ⟨hgood, hlast⟩ | hspoilt
  · rw [hgood.packs.core.removed_eq] at hskip
    refine .inl ⟨⟨?_, hgood.odd⟩, hlast⟩
    rw [scheduled_snoc_of_removed hskip]
    exact hgood.packs
  · rw [hspoilt.core.due_iff] at hhere
    exact .inr { hspoilt with tail := hspoilt.tail.snoc hhere }

lemma Spoilt.step {pre : List ℕ} (h : Spoilt bound chans expshft finalexp pre curintr curmaxsl k p)
    (hhere : (p.chans c).due expshft k = true)
    (hret : (step_two bound curintr curmaxsl finalexp p c).ret = 0) :
    Spoilt bound chans expshft finalexp (pre ++ [c]) curintr curmaxsl k
      (step_two bound curintr curmaxsl finalexp p c) := by
  unfold step_two at hret ⊢
  simp only at hret ⊢
  obtain ⟨hlen, hopen0, hopen1⟩ := place_4k_of_neg _ _ h.neg h.lo0 h.lt0 (not_full_of_ret hret)
  have hlt := h.lt0
  refine ⟨h.core.update (Placed.write_core ..), ?_, ?_, ?_, fun hbound hk => ?_,
    h.tail.snoc (h.core.due_iff.1 hhere)⟩
  · simp only [hopen0]
    omega
  · simp only [hopen0]
    omega
  · simp only [hopen1]
    exact h.neg
  · have := h.last hbound hk
    simp only [hopen0]
    omega

lemma Walks.step (h : Walks base bound chans expshft finalexp l curintr curmaxsl k (c :: rest) p)
    (hnodup : l.Nodup) (hintr : curintr = base >>> (k + 1)) (hmaxsl : curmaxsl = curintr / 2)
    (hpos : 0 < curintr) (hdvd : curintr ∣ 1536) (hhere : (p.chans c).due expshft k = true)
    (hskip : (p.chans c).removed = false)
    (hret : (step_two bound curintr curmaxsl finalexp p c).ret = 0) :
    Walks base bound chans expshft finalexp l curintr curmaxsl k rest
      (step_two bound curintr curmaxsl finalexp p c) := by
  obtain ⟨-, pre, hl, hpre⟩ := h
  have hle : curintr ≤ 1536 := le_of_dvd (by norm_num) hdvd
  refine ⟨hret, pre ++ [c], by rw [hl, append_assoc]; rfl, ?_⟩
  rcases hpre with ⟨hgood, hbottom⟩ | hspoilt
  · unfold step_two at hret ⊢
    simp only at hret ⊢
    generalize hlast : (decide (finalexp = (p.chans c).rootexp) && decide (curintr ≤ bound))
      = last at *
    have hfull := not_full_of_ret hret
    have hcore := hgood.packs.core
    have hdue := hcore.due_iff.1 hhere
    have hplacing := place_4k_spec _ last hgood.packs.room (by omega) hfull
    -- on the last level every channel is one of those the clause is for
    have hlevel : curintr ≤ bound → k = finalexp + expshft → last = true := by
      intro hbound hk
      rw [← hlast, hcore.rootexp]
      simp only [Bool.and_eq_true, decide_eq_true_eq]
      omega
    by_cases hover : p.open0 ≤ p.open1 ∧ p.open1 < (p.chans c).seglen ∧ p.open0 ≠ curmaxsl
    · rw [hplacing.of_over hover]
      have hlo := hgood.packs.room.lo0
      have hhi := hgood.packs.room.hi0
      refine .inr ⟨hcore.update (Placed.write_core ..), hlo, by simp only; omega,
        by simp only; omega, fun hbound hk => ?_, ⟨pre, c, [], rfl, ?_, ?_⟩⟩
      · have := (hbottom hbound hk).resolve_left hover.2.2
        exact hover.1.trans this
      · rw [hcore.removed_eq] at hskip
        simpa [Ich.removed] using hskip
      · rintro x hx
        rw [mem_singleton.1 hx]
        exact hdue
    · have hc : c ∉ scheduled chans pre := not_mem_scheduled_of_nodup (hl ▸ hnodup)
      have hper : intr base chans expshft c = curintr := by rw [intr, ← hdue, hintr]
      refine .inl ⟨⟨(hgood.packs.place hc hplacing hfull hover hpos hdvd hper).congr
        fun d hd => mem_of_mem_scheduled_snoc hd, ?_⟩, ?_⟩
      · intro h3
        exact hplacing.bottom hgood.packs.room (.inr (by omega)) (hgood.odd h3)
      · intro hbound hk
        exact hplacing.bottom hgood.packs.room (.inl (hlevel hbound hk)) (hbottom hbound hk)
  · exact .inr (hspoilt.step hhere hret)

lemma Walks.lo0 (h : Walks base bound chans expshft finalexp l curintr curmaxsl k rest p) :
    0 ≤ p.open0 := by
  obtain ⟨-, pre, -, ⟨hgood, -⟩ | hspoilt⟩ := h
  · exact hgood.packs.room.lo0
  · exact hspoilt.lo0

/-! ## From level to level -/

/-- The intervals of a family can be halved down to four slots, and divide the superframe. -/
def Even (base : ℕ) : Prop :=
  ∀ k, 4 ≤ base >>> k → base >>> k = 2 * (base >>> k / 2) ∧ base >>> k / 2 ∣ 1536

/-- Between the levels. -/
def Runs (base bound : ℕ) (chans : ℕ → Ich) (expshft finalexp : ℕ) (l : List ℕ)
    (curintr curmaxsl curexp : ℕ) (rest : List ℕ) (p : Pass) : Prop :=
  p.ret = 0 ∧ curintr = base >>> curexp ∧ curmaxsl = curintr / 2 ∧
    (0 < curmaxsl ∨ p.open0 ≤ 0 ∧ p.open1 ≤ 0) ∧
    ∃ pre, l = pre ++ rest ∧
      (Good base chans expshft pre curintr curmaxsl p ∨
        ∃ k, curexp = k + 1 ∧ Spoilt bound chans expshft finalexp pre curintr curmaxsl k p)

variable {curexp : ℕ}

/-- **A level begins** with nothing over the border. -/
theorem Runs.walks (h : Runs base bound chans expshft finalexp l curintr curmaxsl curexp rest p)
    (hbase : Even base) (hfull : 0 < (halve (curmaxsl / 2) p.open0 p.open1).1) :
    Walks base bound chans expshft finalexp l (curintr / 2) (curmaxsl / 2) curexp rest
        { p with
          open0 := (halve (curmaxsl / 2) p.open0 p.open1).1
          open1 := (halve (curmaxsl / 2) p.open0 p.open1).2 } ∧
      curintr / 2 = base >>> (curexp + 1) ∧ 0 < curmaxsl / 2 ∧ curintr / 2 ∣ 1536 := by
  obtain ⟨hret0, hintr, hmaxsl, -, pre, hl, hpre⟩ := h
  have hle := halve_fst_le (curmaxsl / 2) p.open0 p.open1
  obtain ⟨heven, hdvd⟩ := hbase curexp (by omega)
  rw [← hintr] at heven hdvd
  refine ⟨⟨hret0, pre, hl, .inl ?_⟩, by rw [shiftRight_succ, ← hintr], by omega, hdvd⟩
  have hbottom := (halve_bottom (curmaxsl / 2) p.open0 p.open1).imp_right le_of_eq
  rcases hpre with hgood | ⟨k, -, hspoilt⟩
  · have hpacks := hgood.packs
    rw [heven, ← hmaxsl] at hpacks
    rw [← hmaxsl]
    exact ⟨⟨hpacks.halve hfull, fun _ => hbottom⟩, fun _ _ => hbottom⟩
  · exact absurd (halve_of_neg hspoilt.neg hspoilt.lo0) (not_lt.2 hfull.le)

lemma Walks.runs (h : Walks base bound chans expshft finalexp l curintr curmaxsl k rest p)
    (hintr : curintr = base >>> (k + 1)) (hmaxsl : curmaxsl = curintr / 2) (hpos : 0 < curmaxsl) :
    Runs base bound chans expshft finalexp l curintr curmaxsl (k + 1) rest p := by
  obtain ⟨hret, pre, hl, hpre⟩ := h
  exact ⟨hret, hintr, hmaxsl, .inl hpos, pre, hl,
    hpre.imp (fun hgood => hgood.1) (fun hspoilt => ⟨k, rfl, hspoilt⟩)⟩

/-- **At the end**, with an interval for which the clause is in force, everything is packed, or
nothing is open. -/
theorem Runs.good (h : Runs base bound chans expshft finalexp (from_first chans l) curintr curmaxsl
      curexp [] p) (hbound : curintr ≤ bound) (hlast : last_exp chans l = some finalexp) :
    Good base chans expshft (from_first chans l) curintr curmaxsl p ∧ 0 < curmaxsl ∨
      p.open0 ≤ 0 ∧ p.open1 ≤ 0 := by
  obtain ⟨-, -, -, hpos, pre, hl, hpre⟩ := h
  rw [append_nil] at hl
  subst hl
  rcases hpre with hgood | ⟨k, -, hspoilt⟩
  · exact hpos.imp_left fun hpos => ⟨hgood, hpos⟩
  · have hlast' : last_exp chans (from_first chans l) = some finalexp := by
      rw [last_exp, scheduled_from_first]
      exact hlast
    exact .inr ⟨hspoilt.last hbound (hspoilt.tail.eq_last_exp hlast'), hspoilt.neg.le⟩

/-- The fuel of the loop is enough: each level at least halves `curmaxsl`, or fails. -/
lemma sched_4k_levels_isSome (r : Levels) (hr : r.curmaxsl < level_fuel) :
    (sched_4k_levels expshft finalexp r).isSome := by
  refine whileLoop_isSome (μ := fun r : Levels => r.curmaxsl) (fun r _ hstop => ?_) _ hr
  have hle := halve_fst_le (r.curmaxsl / 2) r.pass.open0 r.pass.open1
  unfold level_4k at hstop ⊢
  dsimp only at hstop ⊢
  split_ifs at hstop ⊢ with hfull
  · simp [EXFULL] at hstop
  · simp only
    omega

/-! ## All levels of the 12k family -/

/-- What the 12k family has of a pass of both. -/
def Pass3.two (p : Pass3) : Pass := ⟨p.chans, p.open3_0, p.open3_1, p.ret⟩

/-- Enough fuel, with or without channels of coefficient 1. -/
lemma sched_12k_levels_isSome {only3 : Bool} (r : Levels3) (hr : r.curmaxsl < level_fuel) :
    (sched_12k_levels expshft finalexp only3 r).isSome := by
  refine whileLoop_isSome (μ := fun r : Levels3 => r.curmaxsl) (fun r _ hstop => ?_) _ hr
  have hle := halve_fst_le (r.curmaxsl / 2) r.pass.open3_0 r.pass.open3_1
  unfold level_12k at hstop ⊢
  dsimp only at hstop ⊢
  split_ifs at hstop ⊢ with hfull h12 hrec
  · simp [EXFULL] at hstop
  all_goals simp only; omega

end Family

/-! ## The better half goes to the front -/

lemma Ich.shift_seg {slc : Ich} {shft : ℕ} (hstate : slc.state ≠ .PENDING_REMOVAL)
    (hlt : slc.newoff + shft < 2 ^ 32) : (slc.shift shft).seg = slc.seg.turn shft := by
  have hu32 : u32 (slc.newoff + shft) = slc.newoff + shft := mod_eq_of_lt hlt
  unfold Ich.shift Ich.seg Seg.turn
  rw [if_neg hstate]
  simp [hu32]

@[simp] lemma Ich.shift_newintr (slc : Ich) (shft : ℕ) :
    (slc.shift shft).newintr = slc.newintr := by
  unfold Ich.shift
  split <;> rfl

/-- **The superframe is turned** by `curmaxsl` slots, when the slot that comes to the front of
an interval is open. -/
theorem packed_shift {table' : ℕ → Ich} {opn opn' : ℕ → Prop}
    (h : Packed 1536 (segs table) done opn) (hcore : SameCore chans table)
    (hmult : ∀ c ∈ done, curintr ∣ (table c).newintr) (hpos : 0 < curmaxsl)
    (hlt : curmaxsl < curintr) (hdvd : curintr ∣ 1536)
    (hfront : ∀ x, x % curintr = curintr - curmaxsl → opn x)
    (hopn : ∀ x, opn' (x + curmaxsl) → opn x) (hper : ∀ x, opn' x → opn' (x + 1536))
    (hstate : ∀ c ∈ done, (chans c).state ≠ .PENDING_REMOVAL)
    (htable : ∀ c ∈ done, table' c = (table c).shift curmaxsl) :
    Packed 1536 (segs table') done opn' := by
  have hle : ∀ c ∈ done, curmaxsl ≤ (segs table c).per ∧ (segs table c).per ≤ 1536 := by
    intro c hc
    have hfits := h.fits c hc
    exact ⟨hlt.le.trans (le_of_dvd hfits.pos (hmult c hc)), le_of_dvd (by norm_num) hfits.dvd⟩
  have hcut : ∀ c ∈ done, ¬ (segs table c).Covers ((segs table c).per - curmaxsl) := by
    intro c hc hcov
    refine h.free c hc _ hcov (hfront _ ?_)
    obtain ⟨m, hm⟩ := hmult c hc
    have hm' : (segs table c).per = curintr * m := hm
    have hmpos : 0 < m := by
      rcases Nat.eq_zero_or_pos m with rfl | hmpos
      · have := (h.fits c hc).pos
        omega
      · exact hmpos
    have hsub : curintr * m - curmaxsl = (curintr - curmaxsl) + curintr * (m - 1) := by
      obtain ⟨n, rfl⟩ : ∃ n, m = n + 1 := ⟨m - 1, by omega⟩
      rw [mul_succ, Nat.add_sub_cancel]
      omega
    rw [hm', hsub, add_mul_mod_self_left]
    exact mod_eq_of_lt (by omega)
  refine (h.turn hpos ?_ (fun c hc => (hle c hc).1) hcut hopn hper).congr (fun _ hc => hc)
    (fun c hc => ?_)
  · have := le_of_dvd (by norm_num) hdvd
    omega
  · have hfits := (h.fits c hc).le
    have hseg : (segs table c).off = (table c).newoff := rfl
    obtain ⟨hlo, hhi⟩ := hle c hc
    unfold segs
    rw [htable c hc]
    refine Ich.shift_seg ?_ (by omega)
    rw [hcore.state]
    exact hstate c hc

lemma Packs.turn {per : ℕ → ℕ} {table' : ℕ → Ich}
    (h : Packs chans per done curintr curmaxsl table open0 open1) (hpos : 0 < curmaxsl)
    (hlt : curmaxsl < curintr) (hdvd : curintr ∣ 1536)
    (hfront : ∀ x, x % curintr = curintr - curmaxsl → Open2 curintr curmaxsl open0 open1 x)
    (hturn : ∀ x, Open2 curintr curmaxsl open1 open0 (x + curmaxsl) →
      Open2 curintr curmaxsl open0 open1 x)
    (hstate : ∀ c ∈ done, (chans c).state ≠ .PENDING_REMOVAL)
    (htable : ∀ c ∈ done, table' c = (table c).shift curmaxsl) :
    Packed 1536 (segs table') done (Open2 curintr curmaxsl open1 open0) ∧
      ∀ c ∈ done, (table' c).newintr = per c := by
  refine ⟨packed_shift h.packed h.core h.mult hpos hlt hdvd hfront hturn (fun x hx => ?_) hstate
    htable, fun c hc => ?_⟩
  · refine (open2_congr ?_).1 hx
    obtain ⟨m, hm⟩ := hdvd
    rw [hm, add_mul_mod_self_left]
  · rw [htable c hc, Ich.shift_newintr]
    exact h.intr c hc

/-! ## The schedule of the 4k family -/

/-- What a schedule is good for: the channels of `done` are packed, at their intervals, and
the control space is left alone. -/
structure Sound (per : ℕ → ℕ) (done : List ℕ) (r : Sched) : Prop where
  packed : Packed 1536 (segs r.chans) done (fun x => x % r.subfrml < r.ctrlw)
  pos : 0 < r.subfrml
  intr : ∀ c ∈ done, (r.chans c).newintr = per c

variable {expshft finalexp : ℕ}

end KernelExtra.Slimbus
