/-
Timeline fences, `drivers/gpu/msm/kgsl_timeline.c`.

A timeline is a value that only `kgsl_timeline_signal` raises, and a list of fences that wait for
it. Three ioctls work on the list, each in several critical sections:

* `fence_get` looks the timeline up, and then signals the new fence or links it;
* `signal` moves the fences that are due to a private list (under `fence_lock`) and signals them
  there, holding `timeline->lock`;
* `destroy` removes the id, takes the whole list, and signals what it took.

The list holds no references. A fence whose last reference is dropped unlinks itself, but only when
its release callback gets `fence_lock`. The model is one timeline from the moment its id is
published, with any number of threads.
-/
import KernelExtra.Lib.Run

namespace KernelExtra.Kgsl.Timelines

open Function List

/-- How far a fence is from being freed. -/
inductive Life where
  | live
  /-- The count is zero; `timeline_fence_release` has not had `fence_lock` yet. -/
  | dying
  | unlinked
  | freed
  deriving DecidableEq

/-- A fence of the timeline. -/
structure Fence where
  seqno : ℕ
  signaled : Bool
  error : Bool
  refcount : ℕ
  life : Life
  deriving DecidableEq

/-- Where a thread is. -/
inductive Phase where
  | idle
  | get_found (seqno : ℕ)
  | get_linked (f : ℕ)
  | signal_found (seqno : ℕ)
  | signalling
  | destroy_removed
  | destroy_spliced
  | destroying
  deriving DecidableEq

/-- A use of a fence that is dying or freed. -/
inductive Misuse where
  | walked (f : ℕ)
  | got (f : ℕ)
  | signalled (f : ℕ)
  deriving DecidableEq

/-- `struct kgsl_timeline` with the fences made on it and the threads that use it.
Fences are numbered in the order they are made. -/
structure Timeline where
  value : ℕ
  published : Bool
  count : ℕ
  fence : ℕ → Fence
  fences : List ℕ
  /-- What is left of the list `temp` of the `signal` that holds `timeline->lock`. -/
  moved : List ℕ
  spliced : List ℕ
  /-- The holder of `timeline->lock`, if it keeps it over several steps. -/
  lock : Option ℕ
  phase : ℕ → Phase
  /-- Fences whose `fence_get` has yet to drop its reference. -/
  fresh : List ℕ
  /-- The references that files and waiters hold. -/
  held : ℕ → ℕ
  /-- Trace: `destroy` has taken the list. -/
  emptied : Bool
  /-- Trace: `destroy` has signalled what it took. -/
  destroyed : Bool
  /-- Trace: uses of dead fences. -/
  misuse : List Misuse

def created (initial : ℕ) : Timeline where
  value := initial
  published := true
  count := 0
  fence := fun _ => ⟨0, false, false, 0, .freed⟩
  fences := []
  moved := []
  spliced := []
  lock := none
  phase := fun _ => .idle
  fresh := []
  held := fun _ => 0
  emptied := false
  destroyed := false
  misuse := []

/-! ## The fence operations -/

namespace Timeline

variable (s : Timeline)

def dead (f : ℕ) : Prop := (s.fence f).life ≠ .live

instance (f : ℕ) : Decidable (s.dead f) := inferInstanceAs (Decidable (_ ≠ _))

def timeline_fence_signaled (f : ℕ) : Bool := !decide (s.value < (s.fence f).seqno)

def dma_fence_is_signaled (f : ℕ) : Bool :=
  (s.fence f).signaled || s.timeline_fence_signaled f

def modify (f : ℕ) (g : Fence → Fence) : Timeline :=
  { s with fence := update s.fence f (g (s.fence f)) }

def set_phase (t : ℕ) (p : Phase) : Timeline :=
  { s with phase := update s.phase t p }

def dma_fence_get (f : ℕ) : Timeline :=
  { s.modify f fun e => { e with refcount := e.refcount + 1 } with
    misuse := s.misuse ++ if s.dead f then [.got f] else [] }

/-- `dma_fence_put`. The release callback of a count that reaches zero runs in steps
of its own. -/
def dma_fence_put (f : ℕ) : Timeline :=
  s.modify f fun e => { e with
    refcount := e.refcount - 1
    life := if e.refcount = 1 then .dying else e.life }

def dma_fence_signal_locked (f : ℕ) : Timeline :=
  { s.modify f fun e => { e with signaled := true } with
    misuse := s.misuse ++ if s.dead f then [.signalled f] else [] }

def dma_fence_set_error (f : ℕ) : Timeline :=
  s.modify f fun e => { e with error := true }

/-- The list is walked, and each fence on it looked at. -/
def walk_fences : Timeline :=
  { s with misuse := s.misuse ++ (s.fences.filter fun f => s.dead f).map .walked }

/-- The list is kept sorted by number. -/
def add_fence (seqno : ℕ) (f : ℕ) : List ℕ → List ℕ
  | [] => [f]
  | entry :: fences =>
    if seqno < (s.fence entry).seqno then f :: entry :: fences
    else entry :: add_fence seqno f fences

/-! ## What each critical section does -/

/-- The second section of `kgsl_timeline_fence_alloc`: a fence that is due is signalled, any other
is linked. -/
def fence_alloc (t seqno : ℕ) : Timeline :=
  { s with
    fence := update s.fence s.count
      ⟨seqno, decide (seqno ≤ s.value), false, 1, .live⟩
    count := s.count + 1
    fences := if seqno ≤ s.value then s.fences else s.add_fence seqno s.count s.fences
    fresh := s.count :: s.fresh
    phase := update s.phase t (.get_linked s.count) }

def fence_install (t f : ℕ) (installed : Bool) : Timeline :=
  let s := { s.set_phase t .idle with fresh := s.fresh.erase f }
  if installed then { s with held := update s.held f (s.held f + 1) }
  else s.dma_fence_put f

/-- `kgsl_timeline_signal` up to the end of its `fence_lock` section; `list_move` turns
the order around. -/
def signal_walk (t seqno : ℕ) : Timeline :=
  let s := { s with value := seqno }
  let s := s.walk_fences
  let due := s.fences.filter fun f => s.timeline_fence_signaled f
  let s' := due.foldl dma_fence_get s
  { s'.set_phase t .signalling with
    fences := s'.fences.filter fun f => !s.timeline_fence_signaled f
    moved := due.reverse
    lock := some t }

def signal_next (f : ℕ) (rest : List ℕ) : Timeline :=
  { (s.dma_fence_signal_locked f).dma_fence_put f with moved := rest }

def destroy_splice (t : ℕ) : Timeline :=
  let s := s.walk_fences
  let s' := s.fences.foldl dma_fence_get s
  { s'.set_phase t .destroy_spliced with
    fences := []
    spliced := s.fences
    emptied := true }

def destroy_next (f : ℕ) (rest : List ℕ) : Timeline :=
  { ((s.dma_fence_set_error f).dma_fence_signal_locked f).dma_fence_put f with spliced := rest }

def dup (f : ℕ) : Timeline :=
  { s.dma_fence_get f with held := update s.held f (s.held f + 1) }

def close (f : ℕ) : Timeline :=
  { s.dma_fence_put f with held := update s.held f (s.held f - 1) }

def release (f : ℕ) : Timeline :=
  { s.modify f fun e => { e with life := .unlinked } with fences := s.fences.erase f }

def free (f : ℕ) : Timeline := s.modify f fun e => { e with life := .freed }

def query : Option ℕ := if s.published then some s.value else none

end Timeline

/-! ## The machine -/

/-- The steps of all threads. -/
inductive Act where
  | fence_get (t seqno : ℕ)
  | fence_alloc (t : ℕ) (alloc : Bool)
  | fence_install (t : ℕ) (installed : Bool)
  | signal (t seqno : ℕ)
  | signal_lock (t : ℕ)
  | signal_next (t : ℕ)
  | signal_unlock (t : ℕ)
  /-- `kgsl_ioctl_timeline_destroy` up to `idr_remove`; `owner` is whether the
  timeline was made by the caller. -/
  | destroy (t : ℕ) (owner : Bool)
  | destroy_splice (t : ℕ)
  | destroy_lock (t : ℕ)
  | destroy_next (t : ℕ)
  | destroy_unlock (t : ℕ)
  | query (t : ℕ)
  | dup (f : ℕ)
  | close (f : ℕ)
  | poll (f : ℕ)
  | release (f : ℕ)
  | free (f : ℕ)
  deriving DecidableEq

open Timeline

def step (s : Timeline) : Act → Timeline
  | .fence_get t seqno =>
    if s.phase t = .idle ∧ s.published then s.set_phase t (.get_found seqno) else s
  | .fence_alloc t alloc =>
    match s.phase t with
    | .get_found seqno =>
      if !alloc then s.set_phase t .idle
      else if s.lock = none then s.fence_alloc t seqno
      else s
    | _ => s
  | .fence_install t installed =>
    match s.phase t with
    | .get_linked f => s.fence_install t f installed
    | _ => s
  | .signal t seqno =>
    if s.phase t = .idle ∧ s.published then s.set_phase t (.signal_found seqno) else s
  | .signal_lock t =>
    match s.phase t with
    | .signal_found seqno =>
      if s.lock ≠ none then s
      else if seqno < s.value then s.set_phase t .idle
      else s.signal_walk t seqno
    | _ => s
  | .signal_next t =>
    match s.phase t, s.moved with
    | .signalling, f :: rest => s.signal_next f rest
    | _, _ => s
  | .signal_unlock t =>
    if s.phase t = .signalling ∧ s.moved = [] then { s.set_phase t .idle with lock := none }
    else s
  | .destroy t owner =>
    if s.phase t = .idle ∧ s.published ∧ owner then
      { s.set_phase t .destroy_removed with published := false }
    else s
  | .destroy_splice t => if s.phase t = .destroy_removed then s.destroy_splice t else s
  | .destroy_lock t =>
    if s.phase t = .destroy_spliced ∧ s.lock = none then
      { s.set_phase t .destroying with lock := some t }
    else s
  | .destroy_next t =>
    match s.phase t, s.spliced with
    | .destroying, f :: rest => s.destroy_next f rest
    | _, _ => s
  | .destroy_unlock t =>
    if s.phase t = .destroying ∧ s.spliced = [] then
      { s.set_phase t .idle with lock := none, destroyed := true }
    else s
  | .query _ => s
  | .dup f => if 0 < s.held f then s.dup f else s
  | .close f => if 0 < s.held f then s.close f else s
  | .poll f =>
    if 0 < s.held f ∧ s.lock = none ∧ s.timeline_fence_signaled f then
      s.dma_fence_signal_locked f
    else s
  | .release f => if f < s.count ∧ (s.fence f).life = .dying then s.release f else s
  | .free f => if f < s.count ∧ (s.fence f).life = .unlinked then s.free f else s

/-- What a step can do, guards included. Every invariant below is read off this. -/
inductive Step (s : Timeline) : Act → Timeline → Prop where
  | stay (a : Act) : Step s a s
  | fence_get (t seqno : ℕ) (ht : s.phase t = .idle) (hpub : s.published = true) :
    Step s (.fence_get t seqno) (s.set_phase t (.get_found seqno))
  | alloc_fail (t seqno : ℕ) (ht : s.phase t = .get_found seqno) :
    Step s (.fence_alloc t false) (s.set_phase t .idle)
  | fence_alloc (t seqno : ℕ) (ht : s.phase t = .get_found seqno) (hlock : s.lock = none) :
    Step s (.fence_alloc t true) (s.fence_alloc t seqno)
  | fence_install (t f : ℕ) (installed : Bool) (ht : s.phase t = .get_linked f) :
    Step s (.fence_install t installed) (s.fence_install t f installed)
  | signal (t seqno : ℕ) (ht : s.phase t = .idle) (hpub : s.published = true) :
    Step s (.signal t seqno) (s.set_phase t (.signal_found seqno))
  | signal_late (t seqno : ℕ) (ht : s.phase t = .signal_found seqno) (hlock : s.lock = none)
    (hlate : seqno < s.value) : Step s (.signal_lock t) (s.set_phase t .idle)
  | signal_walk (t seqno : ℕ) (ht : s.phase t = .signal_found seqno) (hlock : s.lock = none)
    (hvalue : s.value ≤ seqno) : Step s (.signal_lock t) (s.signal_walk t seqno)
  | signal_next (t f : ℕ) (rest : List ℕ) (ht : s.phase t = .signalling)
    (hmoved : s.moved = f :: rest) : Step s (.signal_next t) (s.signal_next f rest)
  | signal_unlock (t : ℕ) (ht : s.phase t = .signalling) (hmoved : s.moved = []) :
    Step s (.signal_unlock t) { s.set_phase t .idle with lock := none }
  | destroy (t : ℕ) (ht : s.phase t = .idle) (hpub : s.published = true) :
    Step s (.destroy t true) { s.set_phase t .destroy_removed with published := false }
  | destroy_splice (t : ℕ) (ht : s.phase t = .destroy_removed) :
    Step s (.destroy_splice t) (s.destroy_splice t)
  | destroy_lock (t : ℕ) (ht : s.phase t = .destroy_spliced) (hlock : s.lock = none) :
    Step s (.destroy_lock t) { s.set_phase t .destroying with lock := some t }
  | destroy_next (t f : ℕ) (rest : List ℕ) (ht : s.phase t = .destroying)
    (hspliced : s.spliced = f :: rest) : Step s (.destroy_next t) (s.destroy_next f rest)
  | destroy_unlock (t : ℕ) (ht : s.phase t = .destroying) (hspliced : s.spliced = []) :
    Step s (.destroy_unlock t) { s.set_phase t .idle with lock := none, destroyed := true }
  | dup (f : ℕ) (hheld : 0 < s.held f) : Step s (.dup f) (s.dup f)
  | close (f : ℕ) (hheld : 0 < s.held f) : Step s (.close f) (s.close f)
  | poll (f : ℕ) (hheld : 0 < s.held f) (hlock : s.lock = none)
    (hdue : s.timeline_fence_signaled f = true) :
    Step s (.poll f) (s.dma_fence_signal_locked f)
  | release (f : ℕ) (hf : f < s.count) (hlife : (s.fence f).life = .dying) :
    Step s (.release f) (s.release f)
  | free (f : ℕ) (hf : f < s.count) (hlife : (s.fence f).life = .unlinked) :
    Step s (.free f) (s.free f)

lemma Step.ite {s s' : Timeline} {a : Act} {c : Prop} [Decidable c] (h : c → Step s a s') :
    Step s a (if c then s' else s) := by
  split_ifs with hc
  · exact h hc
  · exact .stay _

lemma step_spec (s : Timeline) (a : Act) : Step s a (step s a) := by
  cases a with
  | fence_get t seqno => exact .ite fun h => .fence_get t seqno h.1 h.2
  | fence_alloc t alloc =>
    simp only [step]
    split
    · rename_i seqno ht
      cases alloc with
      | false => exact .alloc_fail t seqno ht
      | true =>
        by_cases hlock : s.lock = none
        · simpa [hlock] using Step.fence_alloc t seqno ht hlock
        · simpa [hlock] using Step.stay _
    · exact .stay _
  | fence_install t installed =>
    simp only [step]
    split
    · rename_i f ht
      exact .fence_install t f installed ht
    · exact .stay _
  | signal t seqno => exact .ite fun h => .signal t seqno h.1 h.2
  | signal_lock t =>
    simp only [step]
    split
    · rename_i seqno ht
      split
      · exact .stay _
      · rename_i hlock
        split
        · rename_i hlate
          exact .signal_late t seqno ht (not_not.mp hlock) hlate
        · rename_i hlate
          exact .signal_walk t seqno ht (not_not.mp hlock) (not_lt.mp hlate)
    · exact .stay _
  | signal_next t =>
    simp only [step]
    split
    · rename_i f rest ht hmoved
      exact .signal_next t f rest ht hmoved
    · exact .stay _
  | signal_unlock t => exact .ite fun h => .signal_unlock t h.1 h.2
  | destroy t owner => exact .ite fun ⟨ht, hpub, howner⟩ => howner ▸ .destroy t ht hpub
  | destroy_splice t => exact .ite (.destroy_splice t)
  | destroy_lock t => exact .ite fun h => .destroy_lock t h.1 h.2
  | destroy_next t =>
    simp only [step]
    split
    · rename_i f rest ht hspliced
      exact .destroy_next t f rest ht hspliced
    · exact .stay _
  | destroy_unlock t => exact .ite fun h => .destroy_unlock t h.1 h.2
  | query t => exact .stay _
  | dup f => exact .ite (.dup f)
  | close f => exact .ite (.close f)
  | poll f => exact .ite fun h => .poll f h.1 h.2.1 h.2.2
  | release f => exact .ite fun h => .release f h.1 h.2
  | free f => exact .ite fun h => .free f h.1 h.2

/-! ## What the sections leave behind -/

section Fields

variable (s : Timeline)

@[simp] lemma modify_fence (f g : ℕ) (e : Fence → Fence) :
    (s.modify f e).fence g = if g = f then e (s.fence f) else s.fence g :=
  update_apply ..

@[simp] lemma get_fence (f g : ℕ) :
    (s.dma_fence_get f).fence g =
      { s.fence g with refcount := (s.fence g).refcount + if g = f then 1 else 0 } := by
  simp only [dma_fence_get, modify_fence]
  split
  · rename_i h
    rw [h]
  · rfl

@[simp] lemma put_fence (f g : ℕ) :
    (s.dma_fence_put f).fence g =
      { s.fence g with
        refcount := (s.fence g).refcount - if g = f then 1 else 0
        life := if g = f ∧ (s.fence g).refcount = 1 then .dying else (s.fence g).life } := by
  simp only [dma_fence_put, modify_fence]
  split
  · rename_i h
    simp [h]
  · rename_i h
    simp [h]

@[simp] lemma signal_locked_fence (f g : ℕ) :
    (s.dma_fence_signal_locked f).fence g =
      { s.fence g with signaled := decide (g = f) || (s.fence g).signaled } := by
  simp only [dma_fence_signal_locked, modify_fence]
  split
  · rename_i h
    simp [h]
  · rename_i h
    simp [h]

@[simp] lemma set_error_fence (f g : ℕ) :
    (s.dma_fence_set_error f).fence g =
      { s.fence g with error := decide (g = f) || (s.fence g).error } := by
  simp only [dma_fence_set_error, modify_fence]
  split
  · rename_i h
    simp [h]
  · rename_i h
    simp [h]

lemma foldl_get (l : List ℕ) :
    l.foldl dma_fence_get s =
      { s with
        fence := fun f => { s.fence f with refcount := (s.fence f).refcount + l.count f }
        misuse := s.misuse ++ (l.filter fun f => s.dead f).map .got } := by
  induction l generalizing s with
  | nil => simp
  | cons g l ih =>
    have hdead : ∀ f, (s.dma_fence_get g).dead f ↔ s.dead f := by
      intro f
      simp [dead, get_fence]
    rw [foldl_cons, ih]
    simp only [hdead, get_fence]
    simp only [dma_fence_get, Timeline.modify, Timeline.mk.injEq, true_and, count_cons,
      filter_cons, append_assoc, append_cancel_left_eq, beq_iff_eq]
    constructor
    · funext f
      grind
    · split <;> simp_all

lemma add_fence_perm (seqno f : ℕ) (l : List ℕ) : (s.add_fence seqno f l).Perm (f :: l) := by
  induction l with
  | nil => exact .refl _
  | cons e l ih =>
    rw [add_fence]
    split
    · exact .refl _
    · exact (ih.cons e).trans (.swap f e l)

def due (seqno : ℕ) : List ℕ := s.fences.filter fun f => !decide (seqno < (s.fence f).seqno)

lemma mem_due {seqno f : ℕ} : f ∈ due s seqno ↔ f ∈ s.fences ∧ (s.fence f).seqno ≤ seqno := by
  simp [due]

def walk_misuse (l : List ℕ) : List Misuse :=
  (s.fences.filter fun f => s.dead f).map .walked ++ (l.filter fun f => s.dead f).map .got

lemma signal_walk_eq (t seqno : ℕ) :
    s.signal_walk t seqno =
      { s.set_phase t .signalling with
        value := seqno
        fence := fun f =>
          { s.fence f with refcount := (s.fence f).refcount + (due s seqno).count f }
        fences := s.fences.filter fun f => decide (seqno < (s.fence f).seqno)
        moved := (due s seqno).reverse
        lock := some t
        misuse := s.misuse ++ walk_misuse s (due s seqno) } := by
  simp only [Timeline.signal_walk, foldl_get, walk_fences, timeline_fence_signaled, set_phase,
    walk_misuse, due, append_assoc, Bool.not_not]
  rfl

lemma destroy_splice_eq (t : ℕ) :
    s.destroy_splice t =
      { s.set_phase t .destroy_spliced with
        fence := fun f =>
          { s.fence f with refcount := (s.fence f).refcount + s.fences.count f }
        fences := []
        spliced := s.fences
        emptied := true
        misuse := s.misuse ++ walk_misuse s s.fences } := by
  simp only [Timeline.destroy_splice, foldl_get, walk_fences, set_phase, walk_misuse, append_assoc]
  rfl

end Fields

/-! ## Who is where

Only one thread holds `timeline->lock`, only one has removed the id, and a private list
with something on it belongs to that thread. -/

def Phase.destroys (p : Phase) : Prop :=
  p = .destroy_removed ∨ p = .destroy_spliced ∨ p = .destroying

/-- What the phases say about lock and lists. -/
structure Control (s : Timeline) : Prop where
  holder : ∀ t, s.lock = some t ↔ s.phase t = .signalling ∨ s.phase t = .destroying
  moved : s.moved ≠ [] → ∃ t, s.phase t = .signalling
  spliced : s.spliced ≠ [] → ∃ t, s.phase t = .destroy_spliced ∨ s.phase t = .destroying
  removed : ∀ t, (s.phase t).destroys → s.published = false ∧ s.destroyed = false
  alone : ∀ t t', (s.phase t).destroys → (s.phase t').destroys → t = t'
  emptied : ∀ t, s.phase t = .destroy_spliced ∨ s.phase t = .destroying → s.emptied = true
  destroyed : s.destroyed = true → s.published = false ∧ s.emptied = true

variable {s s' : Timeline} {t : ℕ}

section

variable (h : Control s)
include h

lemma Control.of_eq (hphase : s'.phase = s.phase)
    (hlock : s'.lock = s.lock) (hmoved : s'.moved <:+ s.moved) (hspliced : s'.spliced <:+ s.spliced)
    (hpub : s'.published = s.published) (hdes : s'.destroyed = s.destroyed)
    (hemp : s'.emptied = s.emptied) : Control s' := by
  have hnil : ∀ {l l' : List ℕ}, l' <:+ l → l' ≠ [] → l ≠ [] := by
    rintro l l' hl hne rfl
    exact hne (suffix_nil.mp hl)
  obtain ⟨h1, h2, h3, h4, h5, h6, h7⟩ := h
  constructor
  · rwa [hphase, hlock]
  · rw [hphase]
    exact fun hne => h2 (hnil hmoved hne)
  · rw [hphase]
    exact fun hne => h3 (hnil hspliced hne)
  · rwa [hphase, hpub, hdes]
  · rwa [hphase]
  · rwa [hphase, hemp]
  · rwa [hdes, hpub, hemp]

lemma Control.of_move {p : Phase} (hphase : s'.phase = update s.phase t p)
    (hself : s'.lock = some t ↔ p = .signalling ∨ p = .destroying)
    (hother : ∀ t' ≠ t, s'.lock = some t' ↔ s.lock = some t')
    (hmoved : s'.moved ≠ [] → p = .signalling ∨ s.moved ≠ [] ∧ s.phase t ≠ .signalling)
    (hspliced : s'.spliced ≠ [] → (p = .destroy_spliced ∨ p = .destroying) ∨
      s.spliced ≠ [] ∧ ¬ (s.phase t = .destroy_spliced ∨ s.phase t = .destroying))
    (hremoved : p.destroys → s'.published = false ∧ s'.destroyed = false)
    (hkept : ∀ t' ≠ t, (s.phase t').destroys → s'.published = false ∧ s'.destroyed = false)
    (halone : p.destroys → (s.phase t).destroys ∨ s.published = true)
    (hemptied : p = .destroy_spliced ∨ p = .destroying → s'.emptied = true)
    (hstays : s.emptied = true → s'.emptied = true)
    (hdestroyed : s'.destroyed = true → s'.published = false ∧ s'.emptied = true) :
    Control s' where
  holder := by
    rw [hphase, forall_update_iff s.phase
      fun t' q => s'.lock = some t' ↔ q = .signalling ∨ q = .destroying]
    refine ⟨hself, fun t' ht' => ?_⟩
    rw [hother t' ht']
    exact h.holder t'
  moved := by
    intro hne
    rw [hphase, exists_update_iff s.phase fun _ q => q = .signalling]
    refine (hmoved hne).imp_right fun ⟨hold, ht⟩ => ?_
    obtain ⟨t', ht'⟩ := h.moved hold
    exact ⟨t', ne_of_apply_ne s.phase (fun heq => ht (heq ▸ ht')), ht'⟩
  spliced := by
    intro hne
    rw [hphase, exists_update_iff s.phase fun _ q => q = .destroy_spliced ∨ q = .destroying]
    refine (hspliced hne).imp_right fun ⟨hold, ht⟩ => ?_
    obtain ⟨t', ht'⟩ := h.spliced hold
    exact ⟨t', ne_of_apply_ne s.phase (fun heq => ht (heq ▸ ht')), ht'⟩
  removed := by
    rw [hphase, forall_update_iff s.phase
      fun _ q => q.destroys → s'.published = false ∧ s'.destroyed = false]
    exact ⟨hremoved, hkept⟩
  alone := by
    -- the only thread that may join is one that was there, or one that found the id
    have hnobody : p.destroys → ∀ t' ≠ t, ¬ (s.phase t').destroys := by
      intro hp t' ht' hd
      obtain hold | hpub := halone hp
      · exact ht' (h.alone t' t hd hold)
      · have := (h.removed t' hd).1
        rw [hpub] at this
        cases this
    rw [hphase]
    intro t₁ t₂ h₁ h₂
    rw [update_apply] at h₁ h₂
    split at h₁ <;> split at h₂
    · rename_i e₁ e₂
      rw [e₁, e₂]
    · rename_i e₁ e₂
      exact absurd h₂ (hnobody h₁ t₂ e₂)
    · rename_i e₁ e₂
      exact absurd h₁ (hnobody h₂ t₁ e₁)
    · exact h.alone t₁ t₂ h₁ h₂
  emptied := by
    rw [hphase, forall_update_iff s.phase
      fun _ q => q = .destroy_spliced ∨ q = .destroying → s'.emptied = true]
    exact ⟨hemptied, fun t' _ ht' => hstays (h.emptied t' ht')⟩
  destroyed := hdestroyed

lemma Control.of_set_phase {p : Phase} (ht : s.phase t ≠ .signalling ∧ ¬ (s.phase t).destroys)
    (hp : p ≠ .signalling ∧ ¬ p.destroys) (hphase : s'.phase = update s.phase t p)
    (hlock : s'.lock = s.lock) (hmoved : s'.moved = s.moved) (hspliced : s'.spliced = s.spliced)
    (hpub : s'.published = s.published) (hdes : s'.destroyed = s.destroyed)
    (hemp : s'.emptied = s.emptied) : Control s' := by
  have hp' : ¬ (p = .signalling ∨ p = .destroying) := by
    rintro (rfl | rfl)
    · exact hp.1 rfl
    · exact hp.2 (.inr (.inr rfl))
  have ht' : ¬ (s.phase t = .signalling ∨ s.phase t = .destroying) := by
    rintro (heq | heq)
    · exact ht.1 heq
    · exact ht.2 (.inr (.inr heq))
  apply h.of_move hphase
  · rw [hlock, h.holder t]
    exact iff_of_false ht' hp'
  · intro t' _
    rw [hlock]
  · rw [hmoved]
    exact fun hne => .inr ⟨hne, ht.1⟩
  · rw [hspliced]
    exact fun hne => .inr ⟨hne, fun hd => ht.2 (.inr hd)⟩
  · exact fun hd => absurd hd hp.2
  · rw [hpub, hdes]
    exact fun t' _ hd => h.removed t' hd
  · exact fun hd => absurd hd hp.2
  · exact fun hd => absurd (.inr hd) hp.2
  · rw [hemp]
    exact id
  · rw [hdes, hpub, hemp]
    exact h.destroyed

lemma Control.not_holding (hlock : s.lock = none) (t : ℕ) :
    ¬ (s.phase t = .signalling ∨ s.phase t = .destroying) := by
  rw [← h.holder t, hlock]
  simp

lemma Control.signal_walk {seqno : ℕ}
    (ht : s.phase t = .signal_found seqno) (hlock : s.lock = none) :
    Control (s.signal_walk t seqno) := by
  rw [signal_walk_eq]
  apply h.of_move rfl
  · simp
  · intro t' ht'
    simp [hlock, ht'.symm]
  · exact fun _ => .inl rfl
  · exact fun hne => .inr ⟨hne, by simp [ht]⟩
  · simp [Phase.destroys]
  · exact fun t' _ hd => h.removed t' hd
  · simp [Phase.destroys]
  · simp
  · exact id
  · exact h.destroyed

lemma Control.destroy_splice
    (ht : s.phase t = .destroy_removed) : Control (s.destroy_splice t) := by
  have hd : (s.phase t).destroys := .inl ht
  rw [destroy_splice_eq]
  apply h.of_move rfl
  · change s.lock = some t ↔ _
    rw [h.holder t, ht]
    simp
  · exact fun _ _ => .rfl
  · exact fun hne => .inr ⟨hne, by simp [ht]⟩
  · exact fun _ => .inl (.inl rfl)
  · exact fun _ => h.removed t hd
  · exact fun t' _ hd' => h.removed t' hd'
  · exact fun _ => .inl hd
  · exact fun _ => rfl
  · exact fun _ => rfl
  · exact fun hdes => ⟨(h.destroyed hdes).1, rfl⟩

lemma Control.unlock (ht : s.phase t = .signalling ∧ s'.destroyed = s.destroyed ∨
      s.phase t = .destroying ∧ s'.destroyed = true)
    (hphase : s'.phase = update s.phase t .idle) (hlock : s'.lock = none)
    (hmoved : s.phase t = .signalling → s'.moved = [])
    (hmoved' : s'.moved = s.moved) (hspliced : s.phase t = .destroying → s'.spliced = [])
    (hspliced' : s'.spliced = s.spliced) (hpub : s'.published = s.published)
    (hemp : s'.emptied = s.emptied) : Control s' := by
  have hholds : s.phase t = .signalling ∨ s.phase t = .destroying := ht.imp And.left And.left
  have hlocked : s.lock = some t := (h.holder t).mpr hholds
  apply h.of_move hphase
  · simp [hlock]
  · intro t' ht'
    simp [hlock, hlocked, ht'.symm]
  · intro hne
    refine .inr ⟨hmoved' ▸ hne, ?_⟩
    intro hs
    exact hne (hmoved hs)
  · intro hne
    refine .inr ⟨hspliced' ▸ hne, ?_⟩
    rintro (hs | hs)
    · rw [hs] at hholds
      simp at hholds
    · exact hne (hspliced hs)
  · simp [Phase.destroys]
  · intro t' ht' hd
    rw [hpub]
    refine ⟨(h.removed t' hd).1, ?_⟩
    obtain ⟨-, hdes⟩ | ⟨hdestroying, -⟩ := ht
    · rw [hdes]
      exact (h.removed t' hd).2
    · exact absurd (h.alone t' t hd (.inr (.inr hdestroying))) ht'
  · simp [Phase.destroys]
  · simp
  · rw [hemp]
    exact id
  · rw [hpub, hemp]
    intro hdes
    obtain ⟨-, hsame⟩ | ⟨hdestroying, -⟩ := ht
    · exact h.destroyed (hsame ▸ hdes)
    · exact ⟨(h.removed t (.inr (.inr hdestroying))).1, h.emptied t (.inr hdestroying)⟩

lemma Control.destroy (ht : s.phase t = .idle) (hpub : s.published = true) :
    Control { s.set_phase t .destroy_removed with published := false } := by
  -- with the id still there the timeline is not destroyed
  have hdes : s.destroyed = false := by
    by_contra hdes
    have := (h.destroyed (by simpa using hdes)).1
    rw [hpub] at this
    cases this
  apply h.of_move rfl
  · change s.lock = some t ↔ _
    rw [h.holder t, ht]
    simp
  · exact fun _ _ => .rfl
  · exact fun hne => .inr ⟨hne, by simp [ht]⟩
  · exact fun hne => .inr ⟨hne, by simp [ht]⟩
  · exact fun _ => ⟨rfl, hdes⟩
  · exact fun t' _ _ => ⟨rfl, hdes⟩
  · exact fun _ => .inr hpub
  · simp
  · exact id
  · intro hd
    exact absurd hd (by simp [set_phase, hdes])

lemma Control.destroy_lock (ht : s.phase t = .destroy_spliced) (hlock : s.lock = none) :
    Control { s.set_phase t .destroying with lock := some t } := by
  have hd : (s.phase t).destroys := .inr (.inl ht)
  apply h.of_move rfl
  · simp
  · intro t' ht'
    simp [hlock, ht'.symm]
  · exact fun hne => .inr ⟨hne, by simp [ht]⟩
  · exact fun _ => .inl (.inr rfl)
  · exact fun _ => h.removed t hd
  · exact fun t' _ hd' => h.removed t' hd'
  · exact fun _ => .inl hd
  · exact fun _ => h.emptied t (.inl ht)
  · exact id
  · exact h.destroyed

lemma Control.keeps {a : Act} (hs : Step s a s') : Control s' := by
  cases hs with
  | stay => exact h
  | fence_get t _ ht | signal t _ ht | alloc_fail t _ ht | fence_alloc t _ ht
  | signal_late t _ ht =>
    exact h.of_set_phase (by simp [ht, Phase.destroys]) (by simp [Phase.destroys]) rfl rfl
      rfl rfl rfl rfl rfl
  | fence_install t f installed ht =>
    refine h.of_set_phase (t := t) (p := .idle) (by simp [ht, Phase.destroys])
      (by simp [Phase.destroys]) ?_ ?_ ?_ ?_ ?_ ?_ ?_ <;> cases installed <;> rfl
  | signal_next t f rest ht hmoved =>
    have hrest : rest <:+ s.moved := by
      rw [hmoved]
      exact suffix_cons f rest
    exact h.of_eq rfl rfl hrest (suffix_refl _) rfl rfl rfl
  | destroy_next t f rest ht hspliced =>
    have hrest : rest <:+ s.spliced := by
      rw [hspliced]
      exact suffix_cons f rest
    exact h.of_eq rfl rfl (suffix_refl _) hrest rfl rfl rfl
  | dup | close | poll | release | free =>
    exact h.of_eq rfl rfl (suffix_refl _) (suffix_refl _) rfl rfl rfl
  | signal_walk t seqno ht hlock => exact h.signal_walk ht hlock
  | destroy_splice t ht => exact h.destroy_splice ht
  | signal_unlock t ht hmoved =>
    exact h.unlock (.inl ⟨ht, rfl⟩) rfl rfl (fun _ => hmoved) rfl
      (fun hd => by rw [ht] at hd; cases hd) rfl rfl rfl
  | destroy t ht hpub => exact h.destroy ht hpub
  | destroy_lock t ht hlock => exact h.destroy_lock ht hlock
  | destroy_unlock t ht hspliced =>
    exact h.unlock (.inr ⟨ht, rfl⟩) rfl rfl (fun hd => by rw [ht] at hd; cases hd) rfl
      (fun _ => hspliced) rfl rfl rfl

lemma Control.moved_eq_nil (hlock : s.lock = none) : s.moved = [] := by
  by_contra hne
  obtain ⟨t, ht⟩ := h.moved hne
  exact h.not_holding hlock t (.inl ht)

lemma Control.spliced_eq_nil (ht : s.phase t = .destroy_removed) : s.spliced = [] := by
  by_contra hne
  obtain ⟨t', ht'⟩ := h.spliced hne
  -- the other destroyer would be this thread, which has not taken the list yet
  have := h.alone t t' (.inl ht) (.inr ht')
  subst this
  rw [ht] at ht'
  simp at ht'

end

lemma control_created (initial : ℕ) : Control (created initial) := by
  constructor <;> simp [created, Phase.destroys]

end KernelExtra.Kgsl.Timelines
