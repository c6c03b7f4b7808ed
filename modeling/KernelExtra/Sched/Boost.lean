/-
Scheduler boost: `kernel/sched/walt/boost.c` and the counter it drives in
`kernel/sched/walt/core_ctl.c`.

Each boost has its own reference count, and the one of highest priority with a non-zero count is
*effective*. The effects live in the `enter` and `exit` hooks; two are plain flags, and the core_ctl
boost of the clusters is a counter. `sched_boost_enable` runs the hooks only when the effective
boost changes. `sched_boost_disable` has no such test, and may enter full throttle a second time.
This is the only way the effects and the effective boost part.
-/
import KernelExtra.Lib.Run

namespace KernelExtra.Boost

open Function

/-! ## State -/

/-- The kinds of boost. -/
inductive BoostType
  | no_boost
  | full_throttle
  | conservative
  | restrained
  deriving DecidableEq

inductive BoostPolicy
  | none
  | on_big
  | on_all
  deriving DecidableEq

/-- What the boost sets in a task group. -/
structure TaskGroup where
  sched_boost_no_override : Bool
  sched_boost_enabled : Bool
  deriving DecidableEq

/-- The state of `boost.c` together with what its hooks change. `boost_policy_dt` and `hmp_capable`
are fixed at boot. -/
structure State where
  refcount : BoostType → ℕ
  sched_boost_type : BoostType
  sysctl_sched_boost : BoostType
  boost_policy : BoostPolicy
  boost_policy_dt : BoostPolicy
  hmp_capable : Bool
  initialized : Bool
  cluster_boost : List ℕ
  sched_freq_aggr_en : Bool
  task_groups : List TaskGroup

/-- After `core_ctl_init` with `n` clusters, with every task group enabled. -/
def boot (n : ℕ) (dt : BoostPolicy) (hmp : Bool) (no_override : List Bool) : State where
  refcount := fun _ => 0
  sched_boost_type := .no_boost
  sysctl_sched_boost := .no_boost
  boost_policy := .none
  boost_policy_dt := dt
  hmp_capable := hmp
  initialized := true
  cluster_boost := List.replicate n 0
  sched_freq_aggr_en := false
  task_groups := no_override.map (fun b => ⟨b, true⟩)

/-! ## core_ctl -/

/-- The decrementing half of the loop of `core_ctl_set_boost`, which breaks at the first count that
is zero. -/
def cluster_boost_dec : List ℕ → List ℕ
  | [] => []
  | 0 :: cs => 0 :: cs
  | (b + 1) :: cs => b :: cluster_boost_dec cs

def core_ctl_set_boost (boost : Bool) (s : State) : State :=
  if !s.initialized then s
  else if boost then { s with cluster_boost := s.cluster_boost.map (· + 1) }
  else { s with cluster_boost := cluster_boost_dec s.cluster_boost }

def walt_enable_frequency_aggregation (enable : Bool) (s : State) : State :=
  { s with sched_freq_aggr_en := enable }

/-! ## The hooks -/

section

variable (s : State)

def update_cgroup_boost_settings : State :=
  { s with task_groups := s.task_groups.map fun tg =>
      if tg.sched_boost_no_override then tg else { tg with sched_boost_enabled := false } }

def restore_cgroup_boost_settings : State :=
  { s with task_groups := s.task_groups.map fun tg => { tg with sched_boost_enabled := true } }

def sched_full_throttle_boost_enter : State :=
  walt_enable_frequency_aggregation true (core_ctl_set_boost true s)

def sched_full_throttle_boost_exit : State :=
  walt_enable_frequency_aggregation false (core_ctl_set_boost false s)

def sched_conservative_boost_enter : State := update_cgroup_boost_settings s

def sched_conservative_boost_exit : State := restore_cgroup_boost_settings s

def sched_restrained_boost_enter : State := walt_enable_frequency_aggregation true s

def sched_restrained_boost_exit : State := walt_enable_frequency_aggregation false s

end

def enter : BoostType → State → State
  | .no_boost => id
  | .full_throttle => sched_full_throttle_boost_enter
  | .conservative => sched_conservative_boost_enter
  | .restrained => sched_restrained_boost_enter

def exit : BoostType → State → State
  | .no_boost => id
  | .full_throttle => sched_full_throttle_boost_exit
  | .conservative => sched_conservative_boost_exit
  | .restrained => sched_restrained_boost_exit

/-! ## Requests -/

def boosts : List BoostType := [.full_throttle, .conservative, .restrained]

/-- The strongest boost that somebody asks for. -/
def sched_effective_boost (s : State) : BoostType :=
  (boosts.find? fun b => 1 ≤ s.refcount b).getD .no_boost

def set_refcount (s : State) (b : BoostType) (n : ℕ) : State :=
  { s with refcount := update s.refcount b n }

def sched_boost_disable (type : BoostType) (s : State) : State :=
  if s.refcount type ≤ 0 then s
  else
    let s := set_refcount s type (s.refcount type - 1)
    if s.refcount type ≠ 0 then s
    else
      let s := exit type s
      enter (sched_effective_boost s) s

def sched_boost_enable (type : BoostType) (s : State) : State :=
  let prev_boost := s.sched_boost_type
  let s := set_refcount s type (s.refcount type + 1)
  if s.refcount type ≠ 1 then s
  else
    let next_boost := sched_effective_boost s
    if next_boost = prev_boost then s
    else enter next_boost (exit prev_boost s)

def sched_boost_disable_all (s : State) : State :=
  boosts.foldl (fun s b => if 0 < s.refcount b then set_refcount (exit b s) b 0 else s) s

def set_boost_policy (type : BoostType) (s : State) : State :=
  if type = .no_boost ∨ type = .restrained then { s with boost_policy := .none }
  else if s.boost_policy_dt ≠ .none then { s with boost_policy := s.boost_policy_dt }
  else if s.hmp_capable then { s with boost_policy := .on_big }
  else { s with boost_policy := .on_all }

def boostOf (type : ℕ) : BoostType :=
  match type with
  | 0 => .no_boost
  | 1 => .full_throttle
  | 2 => .conservative
  | _ => .restrained

def record_effective (s : State) : State :=
  let s := { s with sched_boost_type := sched_effective_boost s }
  let s := { s with sysctl_sched_boost := s.sched_boost_type }
  set_boost_policy s.sysctl_sched_boost s

/-- A call, checked by `verify_boost_params`. -/
def _sched_set_boost (type : ℤ) (s : State) : State :=
  record_effective <|
    if type = 0 then sched_boost_disable_all s
    else if 0 < type then sched_boost_enable (boostOf type.toNat) s
    else sched_boost_disable (boostOf (-type).toNat) s

def verify_boost_params (type : ℤ) : Bool := decide (-3 ≤ type ∧ type ≤ 3)

/-- `sched_set_boost`. A type out of range is refused with `-EINVAL` and changes
nothing. -/
def sched_set_boost (s : State) (type : ℤ) : State :=
  if verify_boost_params type then _sched_set_boost type s else s

/-! ## What a hook leaves alone

The hooks write effects only, so every reference count, and with them the
effective boost, is read through any of them. -/

@[simp] lemma core_ctl_set_boost_frame (b : Bool) (s : State) :
    (core_ctl_set_boost b s).refcount = s.refcount ∧
      (core_ctl_set_boost b s).initialized = s.initialized := by
  unfold core_ctl_set_boost
  split_ifs <;> exact ⟨rfl, rfl⟩

@[simp] lemma enter_frame (b : BoostType) (s : State) :
    (enter b s).refcount = s.refcount ∧ (enter b s).initialized = s.initialized := by
  cases b with
  | full_throttle => exact core_ctl_set_boost_frame true s
  | _ => exact ⟨rfl, rfl⟩

@[simp] lemma exit_frame (b : BoostType) (s : State) :
    (exit b s).refcount = s.refcount ∧ (exit b s).initialized = s.initialized := by
  cases b with
  | full_throttle => exact core_ctl_set_boost_frame false s
  | _ => exact ⟨rfl, rfl⟩

variable {s : State}

lemma sched_effective_boost_congr {t : State} (h : s.refcount = t.refcount) :
    sched_effective_boost s = sched_effective_boost t := by
  simp [sched_effective_boost, h]

lemma sched_effective_boost_eq (s : State) :
    sched_effective_boost s =
      if 1 ≤ s.refcount .full_throttle then .full_throttle
      else if 1 ≤ s.refcount .conservative then .conservative
      else if 1 ≤ s.refcount .restrained then .restrained
      else .no_boost := by
  by_cases h1 : 1 ≤ s.refcount .full_throttle
  · simp [sched_effective_boost, boosts, h1]
  · by_cases h2 : 1 ≤ s.refcount .conservative
    · simp [sched_effective_boost, boosts, h1, h2]
    · by_cases h3 : 1 ≤ s.refcount .restrained
      · simp [sched_effective_boost, boosts, h1, h2, h3]
      · simp [sched_effective_boost, boosts, h1, h2, h3]

/-! ## Effects of one boost -/

/-- The settings are those of the boost `e`. -/
structure Applied (e : BoostType) (s : State) : Prop where
  core : ∀ b ∈ s.cluster_boost, b = if e = .full_throttle then 1 else 0
  freq : s.sched_freq_aggr_en = true ↔ e = .full_throttle ∨ e = .restrained
  cgroup : ∀ tg ∈ s.task_groups,
    tg.sched_boost_enabled = (decide (e ≠ .conservative) || tg.sched_boost_no_override)

lemma cluster_boost_dec_zeros {l : List ℕ} (h : ∀ b ∈ l, b = 0) :
    ∀ b ∈ cluster_boost_dec l, b = 0 := by
  cases l with
  | nil => simp [cluster_boost_dec]
  | cons a l =>
    have ha : a = 0 := h a (by simp)
    subst ha
    simpa [cluster_boost_dec] using h

lemma cluster_boost_dec_ones {l : List ℕ} (h : ∀ b ∈ l, b = 1) :
    ∀ b ∈ cluster_boost_dec l, b = 0 := by
  induction l with
  | nil => simp [cluster_boost_dec]
  | cons a l ih =>
    have ha : a = 1 := h a (by simp)
    subst ha
    have hl := ih (fun b hb => h b (by simp [hb]))
    simpa [cluster_boost_dec] using hl

lemma Applied.enter (hi : s.initialized = true) (h : Applied .no_boost s)
    (b : BoostType) : Applied b (enter b s) := by
  have hc := h.core
  have hf := h.freq
  have hg := h.cgroup
  cases b with
  | no_boost => exact h
  | full_throttle =>
    simp only [Boost.enter, sched_full_throttle_boost_enter, walt_enable_frequency_aggregation,
      core_ctl_set_boost, hi]
    exact ⟨by simpa using hc, by simp, by simpa using hg⟩
  | conservative =>
    simp only [Boost.enter, sched_conservative_boost_enter, update_cgroup_boost_settings]
    refine ⟨by simpa using hc, by simpa using hf, ?_⟩
    intro tg htg
    obtain ⟨tg0, hmem, rfl⟩ := List.mem_map.1 htg
    have h0 := hg tg0 hmem
    by_cases hn : tg0.sched_boost_no_override = true
    · simpa [hn] using h0
    · simp [hn]
  | restrained =>
    simp only [Boost.enter, sched_restrained_boost_enter, walt_enable_frequency_aggregation]
    exact ⟨by simpa using hc, by simp, by simpa using hg⟩

variable {b : BoostType}

/-- `core_ctl_set_boost` stops at a zero count, and the two flags are cleared again. -/
lemma Applied.exit {e : BoostType} (hi : s.initialized = true)
    (h : Applied e s) (he : e = b ∨ e = .no_boost) : Applied .no_boost (exit b s) := by
  have hc := h.core
  have hf := h.freq
  have hg := h.cgroup
  cases b with
  | no_boost =>
    have : e = .no_boost := by rcases he with h | h <;> exact h
    subst this
    exact h
  | full_throttle =>
    simp only [Boost.exit, sched_full_throttle_boost_exit, walt_enable_frequency_aggregation,
      core_ctl_set_boost, hi]
    refine ⟨?_, by simp, ?_⟩
    · have hz : ∀ b ∈ cluster_boost_dec s.cluster_boost, b = 0 := by
        rcases he with rfl | rfl
        · exact cluster_boost_dec_ones (by simpa using hc)
        · exact cluster_boost_dec_zeros (by simpa using hc)
      simpa using hz
    · rcases he with rfl | rfl <;> simpa using hg
  | conservative =>
    simp only [Boost.exit, sched_conservative_boost_exit, restore_cgroup_boost_settings]
    refine ⟨?_, ?_, ?_⟩
    · rcases he with rfl | rfl <;> simpa using hc
    · rcases he with rfl | rfl <;> simpa using hf
    · intro tg htg
      obtain ⟨-, -, rfl⟩ := List.mem_map.1 htg
      simp
  | restrained =>
    simp only [Boost.exit, sched_restrained_boost_exit, walt_enable_frequency_aggregation]
    refine ⟨?_, by simp, ?_⟩
    · rcases he with rfl | rfl <;> simpa using hc
    · rcases he with rfl | rfl <;> simpa using hg

/-- Dropping restrained while conservative is effective runs `exit` of the one and `enter` of the
other. -/
lemma Applied.restrained_under_conservative (h : Applied .conservative s) :
    Applied .conservative (Boost.enter .conservative (Boost.exit .restrained s)) := by
  simp only [Boost.enter, Boost.exit, sched_conservative_boost_enter, sched_restrained_boost_exit,
    update_cgroup_boost_settings, walt_enable_frequency_aggregation]
  refine ⟨by simpa using h.core, by simp, ?_⟩
  intro tg htg
  obtain ⟨tg0, hmem, rfl⟩ := List.mem_map.1 htg
  have h0 := h.cgroup tg0 hmem
  by_cases hn : tg0.sched_boost_no_override = true
  · simpa [hn] using h0
  · simp [hn]

/-- Re-entering full throttle after leaving a lower boost. -/
lemma reenter_full_throttle (hi : s.initialized = true)
    (h : Applied .full_throttle s) (hb : b = .conservative ∨ b = .restrained) :
    (enter .full_throttle (exit b s)).cluster_boost = s.cluster_boost.map (· + 1) ∧
    (enter .full_throttle (exit b s)).sched_freq_aggr_en = true ∧
    ∀ tg ∈ (enter .full_throttle (exit b s)).task_groups, tg.sched_boost_enabled = true := by
  have hg : ∀ tg ∈ s.task_groups, tg.sched_boost_enabled = true := by simpa using h.cgroup
  rcases hb with rfl | rfl
  · simp [enter, exit, sched_full_throttle_boost_enter, sched_conservative_boost_exit,
      restore_cgroup_boost_settings, walt_enable_frequency_aggregation, core_ctl_set_boost, hi]
  · simpa [enter, exit, sched_full_throttle_boost_enter, sched_restrained_boost_exit,
      walt_enable_frequency_aggregation, core_ctl_set_boost, hi] using hg

/-! ## Runs -/

/-- The settings are those of the effective boost. -/
def EffectsFollow (s : State) : Prop := Applied (sched_effective_boost s) s

/-- What a run keeps: core_ctl is up, `sched_boost_type` is the effective boost
and the effects follow it. -/
structure Inv (s : State) : Prop where
  initialized : s.initialized = true
  type_eq : s.sched_boost_type = sched_effective_boost s
  follow : EffectsFollow s

lemma boot_inv (n : ℕ) (dt : BoostPolicy) (hmp : Bool) (no_override : List Bool) :
    Inv (boot n dt hmp no_override) := by
  refine ⟨rfl, rfl, ⟨?_, ?_, ?_⟩⟩
  · intro b hb
    simpa [sched_effective_boost, boosts, boot] using List.eq_of_mem_replicate hb
  · simp [sched_effective_boost, boosts, boot]
  · intro tg htg
    simp only [boot, List.mem_map] at htg
    obtain ⟨b, -, rfl⟩ := htg
    simp [sched_effective_boost, boosts, boot]

@[simp] lemma set_refcount_frame (s : State) (b : BoostType) (n : ℕ) :
    (set_refcount s b n).refcount = update s.refcount b n ∧
      (set_refcount s b n).initialized = s.initialized := ⟨rfl, rfl⟩

@[simp] lemma applied_set_refcount (e : BoostType) (s : State) (b : BoostType) (n : ℕ) :
    Applied e (set_refcount s b n) ↔ Applied e s :=
  ⟨fun h => ⟨h.core, h.freq, h.cgroup⟩, fun h => ⟨h.core, h.freq, h.cgroup⟩⟩

lemma set_boost_policy_eq (t : BoostType) (s : State) :
    ∃ p, set_boost_policy t s = { s with boost_policy := p } := by
  unfold set_boost_policy
  split_ifs <;> exact ⟨_, rfl⟩

lemma record_effective_eq (s : State) :
    ∃ p, record_effective s =
      { s with sched_boost_type := sched_effective_boost s,
               sysctl_sched_boost := sched_effective_boost s, boost_policy := p } :=
  set_boost_policy_eq _ _

lemma effectsFollow_record_effective (s : State) :
    EffectsFollow (record_effective s) ↔ EffectsFollow s := by
  obtain ⟨p, hp⟩ := record_effective_eq s
  rw [hp, EffectsFollow, EffectsFollow, sched_effective_boost_congr rfl]
  exact ⟨fun h => ⟨h.core, h.freq, h.cgroup⟩, fun h => ⟨h.core, h.freq, h.cgroup⟩⟩

lemma record_effective_inv (hi : s.initialized = true) (h : EffectsFollow s) :
    Inv (record_effective s) := by
  have hf := (effectsFollow_record_effective s).mpr h
  obtain ⟨p, hp⟩ := record_effective_eq s
  rw [hp] at hf ⊢
  exact ⟨hi, (sched_effective_boost_congr rfl), hf⟩

lemma sched_boost_enable_follow (h : Inv s) (b : BoostType) :
    (sched_boost_enable b s).initialized = true ∧ EffectsFollow (sched_boost_enable b s) := by
  have happ : Applied s.sched_boost_type s := by rw [h.type_eq]; exact h.follow
  set t := set_refcount s b (s.refcount b + 1) with ht
  have htapp : Applied s.sched_boost_type t := (applied_set_refcount ..).mpr happ
  have hti : t.initialized = true := h.initialized
  unfold sched_boost_enable
  simp only [← ht]
  by_cases h1 : t.refcount b ≠ 1
  · -- a further reference: the boost was requested before, so nothing changes priority
    rw [if_pos h1]
    refine ⟨hti, ?_⟩
    have hsame : sched_effective_boost t = s.sched_boost_type := by
      rw [h.type_eq, sched_effective_boost_eq, sched_effective_boost_eq]
      have hpos : 1 ≤ s.refcount b := by
        simp [ht] at h1; omega
      cases b <;> simp_all [update]
    rw [EffectsFollow, hsame]
    exact htapp
  · rw [if_neg h1]
    by_cases h2 : sched_effective_boost t = s.sched_boost_type
    · rw [if_pos h2]
      refine ⟨hti, ?_⟩
      rw [EffectsFollow, h2]
      exact htapp
    · rw [if_neg h2]
      refine ⟨by simpa using hti, ?_⟩
      have hx : Applied .no_boost (exit s.sched_boost_type t) := htapp.exit hti (.inl rfl)
      have hfin := hx.enter (by simpa using hti) (sched_effective_boost t)
      rw [EffectsFollow, sched_effective_boost_congr (t := t) (by simp)]
      exact hfin

lemma sched_boost_disable_initialized (b : BoostType) (s : State) :
    (sched_boost_disable b s).initialized = s.initialized := by
  simp only [sched_boost_disable]
  split_ifs <;> simp

/-- The request drops the last reference of a lower boost while full throttle is effective. -/
def DropsUnderFullThrottle (s : State) (b : BoostType) : Prop :=
  b ≠ .full_throttle ∧ s.refcount b = 1 ∧ 1 ≤ s.refcount .full_throttle ∧ s.cluster_boost ≠ []

instance (s : State) (b : BoostType) : Decidable (DropsUnderFullThrottle s b) :=
  inferInstanceAs (Decidable (_ ∧ _))

lemma reenter_full_throttle_applied (hi : s.initialized = true)
    (h : Applied .full_throttle s) (hb : b = .conservative ∨ b = .restrained) :
    Applied .full_throttle (enter .full_throttle (exit b s)) ↔ s.cluster_boost = [] := by
  obtain ⟨hcl, hfr, hcg⟩ := reenter_full_throttle hi h hb
  constructor
  · intro hre
    have hcore := hre.core
    rw [hcl] at hcore
    cases hl : s.cluster_boost with
    | nil => rfl
    | cons c cs =>
      have hc := h.core c (by simp [hl])
      have hc' := hcore (c + 1) (by simp [hl])
      omega
  · intro hnil
    refine ⟨?_, by simp [hfr], by simpa using hcg⟩
    rw [hcl, hnil]
    simp

/-- **One disable request.** -/
theorem sched_boost_disable_follow (h : Inv s) (hb : b ≠ .no_boost) :
    EffectsFollow (sched_boost_disable b s) ↔ ¬ DropsUnderFullThrottle s b := by
  have hi := h.initialized
  unfold sched_boost_disable
  by_cases h0 : s.refcount b ≤ 0
  · rw [if_pos h0]
    exact iff_of_true h.follow (fun hd => by have := hd.2.1; omega)
  rw [if_neg h0]
  set t := set_refcount s b _ with ht
  have htapp : Applied (sched_effective_boost s) t := (applied_set_refcount ..).mpr h.follow
  have hti : t.initialized = true := hi
  have htb : t.refcount b = s.refcount b - 1 := by simp [ht]
  by_cases h1 : t.refcount b ≠ 0
  · -- references are left, so the priorities are unchanged
    simp only [if_pos h1]
    refine iff_of_true ?_ (fun hd => by have := hd.2.1; omega)
    have hsame : sched_effective_boost t = sched_effective_boost s := by
      rw [sched_effective_boost_eq, sched_effective_boost_eq]
      have hpos : 1 ≤ s.refcount b - 1 := by omega
      have hpos' : 1 ≤ s.refcount b := by omega
      cases b <;> simp [ht, update, hpos, hpos']
    rw [EffectsFollow, hsame]
    exact htapp
  · simp only [if_neg h1]
    have hone : s.refcount b = 1 := by omega
    rw [EffectsFollow, sched_effective_boost_congr (t := t) (by simp),
      sched_effective_boost_congr (s := exit b t) (t := t) (by simp)]
    have heff : sched_effective_boost s = b ∨
        sched_effective_boost t = sched_effective_boost s := by
      rw [sched_effective_boost_eq, sched_effective_boost_eq]
      cases b <;> simp [ht, update, hone] <;> split_ifs <;> simp <;> omega
    by_cases hown : sched_effective_boost s = b
    · -- the effective boost itself is dropped: leave it, then enter the next one
      have hx : Applied .no_boost (exit b t) := htapp.exit hti (.inl hown)
      refine iff_of_true (hx.enter (by simpa using hti) _) (fun hd => hd.1 ?_)
      rw [← hown, sched_effective_boost_eq, if_pos hd.2.2.1]
    · have hsame := heff.resolve_left hown
      rw [hsame]
      rw [sched_effective_boost_eq] at htapp hown ⊢
      by_cases hf : 1 ≤ s.refcount .full_throttle
      · rw [if_pos hf] at htapp hown ⊢
        have hb2 : b = .conservative ∨ b = .restrained := by cases b <;> simp_all
        rw [reenter_full_throttle_applied hti htapp hb2]
        constructor
        · exact fun hnil hd => hd.2.2.2 hnil
        · exact fun hd => by_contra fun hne => hd ⟨Ne.symm hown, hone, hf, hne⟩
      · -- only restrained under conservative is left
        have hb3 : b = .restrained ∧ 1 ≤ s.refcount .conservative := by
          cases b <;> simp_all [Nat.one_le_iff_ne_zero]
        obtain ⟨rfl, hcons⟩ := hb3
        rw [if_neg hf, if_pos hcons] at htapp ⊢
        exact iff_of_true htapp.restrained_under_conservative (fun hd => hf hd.2.2.1)

lemma disable_all_round {e : BoostType} (hi : s.initialized = true)
    (h : Applied e s) (he : 0 < s.refcount b → e = b ∨ e = .no_boost) :
    let s' := if 0 < s.refcount b then set_refcount (exit b s) b 0 else s
    s'.initialized = true ∧ s'.refcount = update s.refcount b 0 ∧
      Applied (if 0 < s.refcount b then .no_boost else e) s' := by
  by_cases hpos : 0 < s.refcount b
  · simp only [if_pos hpos]
    exact ⟨by simpa using hi, by simp, (applied_set_refcount ..).mpr (h.exit hi (he hpos))⟩
  · simp only [if_neg hpos]
    have hz : s.refcount b = 0 := by omega
    exact ⟨hi, by simp [← hz], h⟩

lemma sched_boost_disable_all_follow (h : Inv s) :
    (sched_boost_disable_all s).initialized = true ∧
      EffectsFollow (sched_boost_disable_all s) := by
  have heq := sched_effective_boost_eq s
  simp only [sched_boost_disable_all, boosts, List.foldl_cons, List.foldl_nil]
  obtain ⟨i1, r1, a1⟩ := disable_all_round (b := .full_throttle) h.initialized h.follow
    (fun hp => .inl (by rw [heq, if_pos (Nat.succ_le_of_lt hp)]))
  generalize (if 0 < s.refcount .full_throttle then _ else s) = s1 at *
  obtain ⟨i2, r2, a2⟩ := disable_all_round (b := .conservative) i1 a1 (fun hp => by
    rw [r1] at hp
    simp only [ne_eq, reduceCtorEq, not_false_eq_true, update_of_ne] at hp
    rw [heq]
    split_ifs <;> first | omega | simp)
  generalize (if 0 < s1.refcount .conservative then _ else s1) = s2 at *
  obtain ⟨i3, r3, a3⟩ := disable_all_round (b := .restrained) i2 a2 (fun hp => by
    rw [r1, heq]
    simp only [ne_eq, reduceCtorEq, not_false_eq_true, update_of_ne] at hp ⊢
    split_ifs <;> first | omega | simp)
  refine ⟨i3, ?_⟩
  generalize (if 0 < s2.refcount .restrained then _ else s2) = s3 at *
  have hnone : sched_effective_boost s3 = .no_boost := by
    rw [sched_effective_boost_eq, r3, r2, r1]
    simp
  rw [EffectsFollow, hnone]
  convert a3 using 1
  rw [r2, r1, heq]
  simp only [ne_eq, reduceCtorEq, not_false_eq_true, update_of_ne]
  split_ifs <;> first | omega | rfl

def KeepsEffects (s : State) (type : ℤ) : Prop :=
  ¬ (-3 ≤ type ∧ type < 0 ∧ DropsUnderFullThrottle s (boostOf (-type).toNat))

variable {type : ℤ}

lemma boostOf_ne_no_boost (h : type < 0) : boostOf (-type).toNat ≠ .no_boost := by
  obtain ⟨k, hk⟩ : ∃ k : ℕ, (-type).toNat = k + 1 := ⟨(-type).toNat - 1, by omega⟩
  unfold boostOf
  split <;> simp_all

/-- **One request**, whatever its type: before the tail of `_sched_set_boost` the
state is still initialised, and the effects follow exactly when `KeepsEffects`. -/
theorem request_follow (h : Inv s) (ht : verify_boost_params type = true) :
    ∃ s', sched_set_boost s type = record_effective s' ∧ s'.initialized = true ∧
      (EffectsFollow s' ↔ KeepsEffects s type) := by
  have hrange : -3 ≤ type ∧ type ≤ 3 := by simpa [verify_boost_params] using ht
  refine ⟨_, by rw [sched_set_boost, if_pos ht, _sched_set_boost], ?_⟩
  by_cases h0 : type = 0
  · rw [if_pos h0]
    obtain ⟨hi, hf⟩ := sched_boost_disable_all_follow h
    exact ⟨hi, iff_of_true hf (fun hd => by have := hd.2.1; omega)⟩
  · rw [if_neg h0]
    by_cases hpos : 0 < type
    · rw [if_pos hpos]
      obtain ⟨hi, hf⟩ := sched_boost_enable_follow h _
      exact ⟨hi, iff_of_true hf (fun hd => by have := hd.2.1; omega)⟩
    · rw [if_neg hpos]
      have hneg : type < 0 := by omega
      refine ⟨(sched_boost_disable_initialized _ _).trans h.initialized, ?_⟩
      rw [sched_boost_disable_follow h (boostOf_ne_no_boost hneg), KeepsEffects]
      simp [hrange.1, hneg]

lemma sched_set_boost_inv (h : Inv s) (hk : KeepsEffects s type) :
    Inv (sched_set_boost s type) := by
  by_cases ht : verify_boost_params type = true
  · obtain ⟨s', heq, hi, hf⟩ := request_follow h ht
    rw [heq]
    exact record_effective_inv hi (hf.mpr hk)
  · rwa [sched_set_boost, if_neg ht]

lemma sched_set_boost_breaks (h : Inv s) (hk : ¬ KeepsEffects s type) :
    ¬ EffectsFollow (sched_set_boost s type) := by
  have hbad : -3 ≤ type ∧ type < 0 ∧ _ := not_not.mp hk
  have ht : verify_boost_params type = true := by
    simp only [verify_boost_params, decide_eq_true_eq]
    omega
  obtain ⟨s', heq, -, hf⟩ := request_follow h ht
  rw [heq, effectsFollow_record_effective, hf]
  exact hk

/-- **Boost effects over a run from boot** are those of the effective boost, if and only if no
request drops the last reference of a lower boost while full throttle is effective. -/
theorem sched_set_boost_effects_iff (n : ℕ) (dt : BoostPolicy) (hmp : Bool)
    (no_override : List Bool) (types : List ℤ) :
    (∀ l, l <+: types →
        EffectsFollow (Run.exec sched_set_boost (boot n dt hmp no_override) l)) ↔
      Run.Ok sched_set_boost KeepsEffects (boot n dt hmp no_override) types :=
  Run.prefix_good_iff (fun _ h => h.follow) (fun _ _ h hk => sched_set_boost_inv h hk)
    (fun _ _ h hk => sched_set_boost_breaks h hk) types (boot_inv n dt hmp no_override)

/-- Full throttle and restrained requested, then both dropped, restrained first. -/
theorem restrained_dropped_under_full_throttle :
    sched_effective_boost
        (Run.exec sched_set_boost (boot 1 .none false []) [1, 3, -3, -1]) = .no_boost ∧
      (Run.exec sched_set_boost (boot 1 .none false []) [1, 3, -3, -1]).cluster_boost = [1] ∧
      ¬ EffectsFollow (Run.exec sched_set_boost (boot 1 .none false []) [1, 3, -3, -1]) := by
  have heff : sched_effective_boost
      (Run.exec sched_set_boost (boot 1 .none false []) [1, 3, -3, -1]) = .no_boost := by decide
  have hcl : (Run.exec sched_set_boost (boot 1 .none false []) [1, 3, -3, -1]).cluster_boost
      = [1] := by decide
  refine ⟨heff, hcl, fun h => ?_⟩
  have hcore := Applied.core h 1 (by rw [hcl]; simp)
  rw [heff] at hcore
  simp at hcore

end KernelExtra.Boost
