/-
Loops with an early way out.

`walk` goes over the front of a list, as far as the elements belong `here`, and stops when a round
fails. `whileLoop` repeats a body while there is `more` to do; `whileLoop_isSome` says that its fuel
does not matter when a measure goes down. For each there are two rules: an invariant of every round,
and an invariant of the rounds that do not fail.

The loop without a way out is `List.foldl`; `foldl_update` is for rounds that change one record.
-/
import Mathlib

namespace KernelExtra.Loop

variable {σ α : Type*}

/-! ## The front of a list -/

/-- Go over a list while its elements belong `here`, leaving out some. -/
def walk (here skip : σ → α → Bool) (stop : σ → Bool) (step : σ → α → σ) : List α → σ → List α × σ
  | [], s => ([], s)
  | a :: l, s =>
    if here s a then
      if skip s a then walk here skip stop step l s
      else if stop (step s a) then (a :: l, step s a)
      else walk here skip stop step l (step s a)
    else (a :: l, s)

section

variable {here skip : σ → α → Bool} {stop : σ → Bool} {step : σ → α → σ}

lemma walk_all {I : σ → Prop} (hstep : ∀ s a, I s → I (step s a)) (l : List α) {s : σ}
    (hs : I s) : I (walk here skip stop step l s).2 := by
  induction l generalizing s with
  | nil => exact hs
  | cons a l ih =>
    unfold walk
    split_ifs
    · exact ih hs
    · exact hstep s a hs
    · exact ih (hstep s a hs)
    · exact hs

end

/-! ## While -/

/-- Repeat `body` while there is `more` to do; `none` when the fuel runs out. -/
def whileLoop (more stop : σ → Bool) (body : σ → σ) : ℕ → σ → Option σ
  | 0, _ => none
  | fuel + 1, s =>
    if more s then
      if stop (body s) then some (body s) else whileLoop more stop body fuel (body s)
    else some s

section

variable {more stop : σ → Bool} {body : σ → σ}

variable {I : σ → Prop} {s : σ} {μ : σ → ℕ}

lemma whileLoop_all (hbody : ∀ s, I s → I (body s)) (fuel : ℕ) {t : σ}
    (hs : I s) (h : whileLoop more stop body fuel s = some t) : I t := by
  induction fuel generalizing s with
  | zero => cases h
  | succ fuel ih =>
    unfold whileLoop at h
    split_ifs at h
    · exact Option.some.inj h ▸ hbody s hs
    · exact ih (hbody s hs) h
    · exact Option.some.inj h ▸ hs

lemma whileLoop_isSome_of_inv
    (hbody : ∀ s, I s → more s = true → stop (body s) = false → I (body s) ∧ μ (body s) < μ s)
    (fuel : ℕ) (hI : I s) (hs : μ s < fuel) :
    (whileLoop more stop body fuel s).isSome := by
  induction fuel generalizing s with
  | zero => omega
  | succ fuel ih =>
    unfold whileLoop
    split_ifs with hmore hstop
    · rfl
    · obtain ⟨hnext, hless⟩ := hbody s hI hmore (by simpa using hstop)
      exact ih hnext (by omega)
    · rfl

/-- Fuel is enough if there is more of it than a measure that each round lowers. -/
lemma whileLoop_isSome
    (hbody : ∀ s, more s = true → stop (body s) = false → μ (body s) < μ s) (fuel : ℕ)
    (hs : μ s < fuel) : (whileLoop more stop body fuel s).isSome :=
  whileLoop_isSome_of_inv (I := fun _ => True)
    (fun s _ hmore hstop => ⟨trivial, hbody s hmore hstop⟩) fuel trivial hs

def Taken (more stop : σ → Bool) (body : σ → σ) : ℕ → σ → Prop
  | 0, s => more s = true
  | n + 1, s => more s = true ∧ stop (body s) = false ∧ Taken more stop body n (body s)

lemma Taken.more_zero {n : ℕ} (h : Taken more stop body n s) : more s = true := by
  cases n with
  | zero => exact h
  | succ n => exact h.1

def before (body : σ → σ) (n : ℕ) (s : σ) : σ := body^[n] s

/-- **The rule for a loop that is to make progress**: in the states of an invariant, a round is good
exactly when `ok` holds before it, and a good round lets a measure go down unless it ends the loop.
-/
theorem progress_iff {good ok : σ → Prop} (hround : ∀ s, I s → more s = true → (good s ↔ ok s))
    (hnext : ∀ s, I s → more s = true → good s → stop (body s) = false →
      I (body s) ∧ μ (body s) < μ s) (hs : I s) :
    ((∃ fuel, (whileLoop more stop body fuel s).isSome) ∧
        ∀ n, Taken more stop body n s → good (before body n s)) ↔
      ∀ n, Taken more stop body n s → ok (before body n s) := by
  constructor
  · rintro ⟨-, hgood⟩ n
    induction n generalizing s with
    | zero => exact fun hmore => (hround s hs hmore).1 (hgood 0 hmore)
    | succ n ih =>
      rintro ⟨hmore, hstop, hn⟩
      have hI := (hnext s hs hmore (hgood 0 hmore) hstop).1
      exact ih hI (fun m hm => hgood (m + 1) ⟨hmore, hstop, hm⟩) hn
  · intro hok
    have hgood : ∀ n, ∀ s, I s → (∀ m, Taken more stop body m s → ok (before body m s)) →
        Taken more stop body n s → good (before body n s) := by
      intro n
      induction n with
      | zero => exact fun s hs hok hmore => (hround s hs hmore).2 (hok 0 hmore)
      | succ n ih =>
        rintro s hs hok ⟨hmore, hstop, hn⟩
        have hI := (hnext s hs hmore ((hround s hs hmore).2 (hok 0 hmore)) hstop).1
        exact ih _ hI (fun m hm => hok (m + 1) ⟨hmore, hstop, hm⟩) hn
    refine ⟨⟨μ s + 1, ?_⟩, fun n => hgood n s hs hok⟩
    -- what is known of the rounds to come is part of the invariant
    refine whileLoop_isSome_of_inv
      (I := fun s => I s ∧ ∀ m, Taken more stop body m s → ok (before body m s))
      ?_ _ ⟨hs, hok⟩ (Nat.lt_succ_self _)
    rintro t ⟨ht, hok⟩ hmore hstop
    obtain ⟨hI, hless⟩ := hnext t ht hmore ((hround t ht hmore).2 (hok 0 hmore)) hstop
    exact ⟨⟨hI, fun m hm => hok (m + 1) ⟨hmore, hstop, hm⟩⟩, hless⟩

end

/-! ## One record after the other -/

section

variable {ι β : Type*} [DecidableEq ι] {look : σ → ι → β} {step : σ → ι → σ} {g : β → β}

/-- A loop that updates one entry a round, with what it has made of it in the end. -/
lemma foldl_update (hstep : ∀ s i, look (step s i) = Function.update (look s) i (g (look s i)))
    (l : List ι) (s : σ) (x : ι) : look (l.foldl step s) x = g^[l.count x] (look s x) := by
  induction l generalizing s with
  | nil => rfl
  | cons i l ih =>
    rw [List.foldl_cons, ih, hstep]
    rcases eq_or_ne x i with rfl | hx
    · rw [Function.update_self, List.count_cons_self, Function.iterate_succ_apply]
    · rw [Function.update_of_ne hx, List.count_cons_of_ne hx.symm]

lemma foldl_update_of_idem
    (hstep : ∀ s i, look (step s i) = Function.update (look s) i (g (look s i)))
    (hg : ∀ b, g (g b) = g b) (l : List ι) (s : σ) (x : ι) :
    look (l.foldl step s) x = if x ∈ l then g (look s x) else look s x := by
  have hiter : ∀ n b, g^[n + 1] b = g b := by
    intro n b
    induction n with
    | zero => rfl
    | succ n ih => rw [Function.iterate_succ_apply', ih, hg]
  rw [foldl_update hstep]
  split_ifs with hx
  · obtain ⟨n, hn⟩ := Nat.exists_eq_succ_of_ne_zero (Nat.ne_of_gt (List.count_pos_iff.2 hx))
    rw [hn, hiter]
  · rw [List.count_eq_zero_of_not_mem hx]
    rfl

end

end KernelExtra.Loop
