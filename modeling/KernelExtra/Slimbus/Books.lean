/-
What each step of a reconfiguration does to the framework's books.

A reconfiguration goes over the client's three lists before it asks for a schedule (`pend`), and
again when it is committed or taken back (`slim_chan_changes`). For each of these loops this module
says what has become of a channel, of the arrays and of the slots.
-/
import KernelExtra.Slimbus.Reconfig
import KernelExtra.Lib.Insertion
import KernelExtra.Lib.Tally

namespace KernelExtra.Slimbus

open KernelExtra.Insertion KernelExtra.Loop Function List

/-! ## Reading after writing -/

/-- What `sl` slots count for: nothing, if the controller allocates bandwidth itself. -/
def charge (allocbw : Bool) (sl : UInt32) : UInt32 := if allocbw then 0 else sl

@[simp] lemma charge_zero (allocbw : Bool) : charge allocbw 0 = 0 := by simp [charge]

lemma charge_add (allocbw : Bool) (sl sl' : UInt32) :
    charge allocbw (sl + sl') = charge allocbw sl + charge allocbw sl' := by
  cases allocbw <;> simp [charge]

section

variable (ctrl : Ctrl) (c : ℕ) (slc : Ich) (state : ChState) (k k' : Coeff) (l : List ℕ)
  (sl : UInt32)

/-- Only the writes to a channel show in the channels. -/
@[simp] lemma chans_set_chan : (ctrl.set_chan c slc).chans = update ctrl.chans c slc := rfl
@[simp] lemma chans_set_state : (ctrl.set_state c state).chans =
    update ctrl.chans c { ctrl.chans c with state := state } := rfl
@[simp] lemma chans_set_arr : (ctrl.set_arr k l).chans = ctrl.chans := by cases k <;> rfl
@[simp] lemma chans_add_slots : (ctrl.add_slots sl).chans = ctrl.chans := by
  unfold Ctrl.add_slots; split <;> rfl
@[simp] lemma chans_sub_slots : (ctrl.sub_slots sl).chans = ctrl.chans := by
  unfold Ctrl.sub_slots; split <;> rfl

/-- Only `set_arr` shows in the arrays. -/
@[simp] lemma arr_set_chan : (ctrl.set_chan c slc).arr k = ctrl.arr k := by cases k <;> rfl
@[simp] lemma arr_set_state : (ctrl.set_state c state).arr k = ctrl.arr k := by cases k <;> rfl
@[simp] lemma arr_set_arr : (ctrl.set_arr k l).arr k' = if k' = k then l else ctrl.arr k' := by
  cases k <;> cases k' <;> rfl
@[simp] lemma arr_add_slots : (ctrl.add_slots sl).arr k = ctrl.arr k := by
  unfold Ctrl.add_slots; split <;> cases k <;> rfl
@[simp] lemma arr_sub_slots : (ctrl.sub_slots sl).arr k = ctrl.arr k := by
  unfold Ctrl.sub_slots; split <;> cases k <;> rfl

/-- The slots change by the charge, and else not. -/
@[simp] lemma usedslots_set_chan : (ctrl.set_chan c slc).usedslots = ctrl.usedslots := rfl
@[simp] lemma usedslots_set_state : (ctrl.set_state c state).usedslots = ctrl.usedslots := rfl
@[simp] lemma usedslots_set_arr : (ctrl.set_arr k l).usedslots = ctrl.usedslots := by
  cases k <;> rfl
@[simp] lemma usedslots_add_slots :
    (ctrl.add_slots sl).usedslots = ctrl.usedslots + charge ctrl.allocbw sl := by
  unfold Ctrl.add_slots charge; split <;> simp
@[simp] lemma usedslots_sub_slots :
    (ctrl.sub_slots sl).usedslots = ctrl.usedslots - charge ctrl.allocbw sl := by
  unfold Ctrl.sub_slots charge; split <;> simp

/-- The ghost flag is set when a subtraction goes below zero. -/
@[simp] lemma wrapped_set_chan : (ctrl.set_chan c slc).wrapped = ctrl.wrapped := rfl
@[simp] lemma wrapped_set_arr : (ctrl.set_arr k l).wrapped = ctrl.wrapped := by cases k <;> rfl
@[simp] lemma wrapped_add_slots : (ctrl.add_slots sl).wrapped = ctrl.wrapped := by
  unfold Ctrl.add_slots; split <;> rfl
lemma wrapped_sub_slots : (ctrl.sub_slots sl).wrapped =
    if ctrl.allocbw then ctrl.wrapped else ctrl.wrapped || decide (ctrl.usedslots < sl) := by
  unfold Ctrl.sub_slots; split <;> rfl

end

/-- What no step over a client's lists changes. -/
structure SameFrame (ctrl ctrl' : Ctrl) : Prop where
  allocbw : ctrl'.allocbw = ctrl.allocbw
  pending_msgsl : ctrl'.pending_msgsl = ctrl.pending_msgsl

lemma SameFrame.refl (ctrl : Ctrl) : SameFrame ctrl ctrl := ⟨rfl, rfl⟩

lemma SameFrame.trans {ctrl ctrl' ctrl'' : Ctrl} (h : SameFrame ctrl ctrl')
    (h' : SameFrame ctrl' ctrl'') : SameFrame ctrl ctrl'' :=
  ⟨h'.allocbw.trans h.allocbw, h'.pending_msgsl.trans h.pending_msgsl⟩

lemma SameFrame.foldl {f : Ctrl → ℕ → Ctrl} (hf : ∀ ctrl c, SameFrame ctrl (f ctrl c))
    (ctrl : Ctrl) (l : List ℕ) : SameFrame ctrl (l.foldl f ctrl) :=
  foldlRecOn l f (.refl ctrl) fun _ h c _ => h.trans (hf _ c)

section

variable (ctrl : Ctrl) (c : ℕ)

lemma sameFrame_set_chan (slc : Ich) : SameFrame ctrl (ctrl.set_chan c slc) := ⟨rfl, rfl⟩
lemma sameFrame_set_state (s : ChState) : SameFrame ctrl (ctrl.set_state c s) := ⟨rfl, rfl⟩
lemma sameFrame_set_arr (k : Coeff) (l : List ℕ) : SameFrame ctrl (ctrl.set_arr k l) := by
  cases k <;> exact ⟨rfl, rfl⟩
lemma sameFrame_add_slots (sl : UInt32) : SameFrame ctrl (ctrl.add_slots sl) := by
  unfold Ctrl.add_slots; split <;> exact ⟨rfl, rfl⟩
lemma sameFrame_sub_slots (sl : UInt32) : SameFrame ctrl (ctrl.sub_slots sl) := by
  unfold Ctrl.sub_slots; split <;> exact ⟨rfl, rfl⟩

/-- The steps of the loops, one by one. -/
lemma sameFrame_slim_add_ch : SameFrame ctrl (slim_add_ch ctrl c) := by
  unfold slim_add_ch
  dsimp only
  split_ifs
  · exact .refl ctrl
  · exact (sameFrame_set_arr ..).trans (sameFrame_add_slots ..)

lemma sameFrame_slim_remove_ch : SameFrame ctrl (slim_remove_ch ctrl c).1 := by
  unfold slim_remove_ch
  dsimp only
  split_ifs
  · exact (sameFrame_set_arr ..).trans (sameFrame_set_chan ..)
  · exact .refl ctrl

lemma sameFrame_pend_define : SameFrame ctrl (pend_define ctrl c) := by
  unfold pend_define
  dsimp only
  split_ifs
  · exact (sameFrame_slim_add_ch ctrl c).trans (sameFrame_set_state ..)
  · exact sameFrame_slim_add_ch ctrl c

lemma sameFrame_pend_removal : SameFrame ctrl (pend_removal ctrl c) :=
  (sameFrame_sub_slots ..).trans (sameFrame_set_state ..)

lemma sameFrame_changes_define (revert : Bool) : SameFrame ctrl (changes_define revert ctrl c) := by
  unfold changes_define
  dsimp only
  split_ifs
  · exact ((sameFrame_sub_slots ..).trans (sameFrame_slim_remove_ch ..)).trans
      (sameFrame_set_state ..)
  · exact .refl ctrl
  · exact sameFrame_set_chan ..

lemma sameFrame_changes_removal (revert : Bool) :
    SameFrame ctrl (changes_removal revert ctrl c) := by
  unfold changes_removal
  dsimp only
  split_ifs
  · exact (sameFrame_add_slots ..).trans (sameFrame_set_chan ..)
  · exact (sameFrame_add_slots ..).trans (sameFrame_set_chan ..)
  · exact sameFrame_slim_remove_ch ..

lemma sameFrame_changes_suspend (revert : Bool) :
    SameFrame ctrl (changes_suspend revert ctrl c) := by
  unfold changes_suspend
  split_ifs
  · exact sameFrame_set_state ..
  · exact .refl ctrl

end

/-! ## The order of an array -/

/-- The order of an array: by exponent, and the longer segment first. -/
def ChLe (chans : ℕ → Ich) (a b : ℕ) : Prop := (chans a).behind (chans b) = false

instance (chans : ℕ → Ich) : DecidableRel (ChLe chans) :=
  fun a b => inferInstanceAs (Decidable ((chans a).behind (chans b) = false))

/-- The order in terms of the two fields it compares. -/
lemma chLe_iff {chans : ℕ → Ich} {a b : ℕ} :
    ChLe chans a b ↔ (chans a).rootexp < (chans b).rootexp ∨
      (chans a).rootexp = (chans b).rootexp ∧ (chans b).seglen ≤ (chans a).seglen := by
  simp only [ChLe, Ich.behind, Bool.or_eq_false_iff, Bool.and_eq_false_iff, decide_eq_false_iff_not]
  omega

instance (chans : ℕ → Ich) : Std.Total (ChLe chans) :=
  ⟨fun a b => by rw [chLe_iff, chLe_iff]; omega⟩

instance (chans : ℕ → Ich) : IsTrans ℕ (ChLe chans) :=
  ⟨fun a b c => by rw [chLe_iff, chLe_iff, chLe_iff]; omega⟩

/-- `slim_add_ch` inserts in order. -/
lemma insert_ch_eq_orderedInsert (chans : ℕ → Ich) (c : ℕ) (arr : List ℕ) :
    insert_ch chans c arr = arr.orderedInsert (ChLe chans) c := by
  have hp : ∀ x, decide (¬ ChLe chans c x) = (chans c).behind (chans x) := by
    intro x
    by_cases h : (chans c).behind (chans x) = true <;> simp [ChLe, h]
  rw [orderedInsert_eq_take_drop]
  simp [insert_ch, hp]

/-- The order depends on exponent and length only. -/
lemma insert_ch_congr {chans chans' : ℕ → Ich} (hexp : ∀ x, (chans' x).rootexp = (chans x).rootexp)
    (hlen : ∀ x, (chans' x).seglen = (chans x).seglen) (c : ℕ) (arr : List ℕ) :
    insert_ch chans' c arr = insert_ch chans c arr := by
  simp [insert_ch, Ich.behind, hexp, hlen]

/-- An insertion adds one entry. -/
lemma count_insert_ch (chans : ℕ → Ich) (c x : ℕ) (arr : List ℕ) :
    (insert_ch chans c arr).count x = arr.count x + if c = x then 1 else 0 := by
  rw [insert_ch_eq_orderedInsert, (perm_orderedInsert _ c arr).count_eq, count_cons]
  simp

lemma mem_insert_ch {chans : ℕ → Ich} {c x : ℕ} {arr : List ℕ} :
    x ∈ insert_ch chans c arr ↔ x = c ∨ x ∈ arr := by
  rw [insert_ch_eq_orderedInsert, mem_orderedInsert]

/-! ## Before the schedule -/

/-- `slim_add_ch` puts the channel on its array. -/
def Ich.joins (slc : Ich) : Bool := decide (slc.state < .ACTIVE)

/-- The channel after its round over `mark_define`. -/
def Ich.pending (slc : Ich) : Ich :=
  if slc.joins then { slc with state := .PENDING_ACTIVE } else slc

section

variable (slc : Ich)

/-- Only the state has changed. -/
@[simp] lemma pending_coeff : slc.pending.coeff = slc.coeff := by
  unfold Ich.pending; split <;> rfl
@[simp] lemma pending_rootexp : slc.pending.rootexp = slc.rootexp := by
  unfold Ich.pending; split <;> rfl
@[simp] lemma pending_seglen : slc.pending.seglen = slc.seglen := by
  unfold Ich.pending; split <;> rfl
@[simp] lemma pending_sl : slc.pending.sl = slc.sl := by simp [Ich.sl]
@[simp] lemma pending_joins : slc.pending.joins = slc.joins := by
  by_cases h : slc.joins
  · simp only [Ich.pending, h, if_true]
    rfl
  · simp only [Ich.pending, h]
    simpa using h
/-- A second round changes nothing. -/
@[simp] lemma pending_pending : slc.pending.pending = slc.pending := by
  by_cases h : slc.joins
  · rw [Ich.pending, pending_joins, if_pos h, Ich.pending, if_pos h]
  · rw [Ich.pending, pending_joins, if_neg h]

end

section

variable (ctrl : Ctrl) (c x : ℕ) (k : Coeff) (l : List ℕ)

@[simp] lemma chans_slim_add_ch : (slim_add_ch ctrl c).chans = ctrl.chans := by
  unfold slim_add_ch
  dsimp only
  split_ifs <;> simp

/-- One round over `mark_define`: the channel. -/
lemma chans_pend_define :
    (pend_define ctrl c).chans = update ctrl.chans c (ctrl.chans c).pending := by
  unfold pend_define Ich.pending Ich.joins
  simp only [chans_slim_add_ch, decide_eq_true_eq]
  split_ifs
  · simp
  · simp

/-- One round over `mark_define`: the arrays. -/
lemma arr_slim_add_ch : (slim_add_ch ctrl c).arr k =
    if (ctrl.chans c).joins ∧ (ctrl.chans c).coeff = k then insert_ch ctrl.chans c (ctrl.arr k)
    else ctrl.arr k := by
  unfold slim_add_ch Ich.joins
  simp only [← ChState.not_lt]
  by_cases hst : (ctrl.chans c).state < .ACTIVE
  · by_cases hk : (ctrl.chans c).coeff = k
    · simp [hst, hk]
    · simp [hst, hk, Ne.symm hk]
  · simp [hst]

/-- One round over `mark_define`: the slots. -/
lemma usedslots_slim_add_ch : (slim_add_ch ctrl c).usedslots = ctrl.usedslots +
      charge ctrl.allocbw (if (ctrl.chans c).joins then (ctrl.chans c).sl else 0) := by
  unfold slim_add_ch Ich.joins
  simp only [← ChState.not_lt]
  by_cases hst : (ctrl.chans c).state < .ACTIVE
  · simp [hst, (sameFrame_set_arr ctrl _ _).allocbw]
  · simp [hst]

@[simp] lemma arr_pend_define : (pend_define ctrl c).arr k = (slim_add_ch ctrl c).arr k := by
  unfold pend_define
  dsimp only
  split_ifs
  · exact arr_set_state ..
  · rfl

@[simp] lemma usedslots_pend_define :
    (pend_define ctrl c).usedslots = (slim_add_ch ctrl c).usedslots := by
  unfold pend_define
  dsimp only
  split_ifs <;> rfl

/-- The loop over `mark_define` makes each of its channels pending. -/
lemma chans_foldl_pend_define : (l.foldl pend_define ctrl).chans x =
    if x ∈ l then (ctrl.chans x).pending else ctrl.chans x :=
  foldl_update_of_idem chans_pend_define pending_pending l ctrl x

/-- A field that does not depend on the state is as before. -/
lemma reading_pend_define {β : Type} {φ : Ich → β} (hφ : ∀ slc : Ich, φ slc.pending = φ slc) :
    φ ((pend_define ctrl c).chans x) = φ (ctrl.chans x) := by
  rw [chans_pend_define]
  exact Tally.reading_update_of_eq (hφ _) x

/-- The loop inserts the channels that join, in the order of the list. -/
lemma arr_foldl_pend_define : (l.foldl pend_define ctrl).arr k =
    (l.filter fun c => (ctrl.chans c).joins && decide ((ctrl.chans c).coeff = k)).foldl
      (fun arr c => insert_ch ctrl.chans c arr) (ctrl.arr k) := by
  induction l generalizing ctrl with
  | nil => rfl
  | cons c l ih =>
    rw [foldl_cons, ih, arr_pend_define, arr_slim_add_ch]
    simp only [reading_pend_define (φ := Ich.joins) _ _ _ pending_joins,
      reading_pend_define (φ := Ich.coeff) _ _ _ pending_coeff,
      @insert_ch_congr ctrl.chans _ (reading_pend_define _ _ · pending_rootexp)
        (reading_pend_define _ _ · pending_seglen)]
    by_cases h : (ctrl.chans c).joins ∧ (ctrl.chans c).coeff = k
    · rw [if_pos h, filter_cons_of_pos (by simpa using h), foldl_cons]
    · rw [if_neg h, filter_cons_of_neg (by simpa using h)]

/-- The loop charges the channels that join, once for each entry. -/
lemma usedslots_foldl_pend_define : (l.foldl pend_define ctrl).usedslots =
    ctrl.usedslots + charge ctrl.allocbw
      ((l.filter fun c => (ctrl.chans c).joins).map fun c => (ctrl.chans c).sl).sum := by
  induction l generalizing ctrl with
  | nil => simp
  | cons c l ih =>
    rw [foldl_cons, ih, usedslots_pend_define, usedslots_slim_add_ch,
      (sameFrame_pend_define ctrl c).allocbw, add_assoc, ← charge_add]
    simp only [reading_pend_define (φ := Ich.joins) _ _ _ pending_joins,
      reading_pend_define (φ := Ich.sl) _ _ _ pending_sl]
    by_cases h : (ctrl.chans c).joins <;> simp [h]

end

section

variable (ctrl : Ctrl) (x : ℕ) (k : Coeff) (l : List ℕ)

/-- The loop over `mark_removal`. -/
lemma chans_foldl_pend_removal : (l.foldl pend_removal ctrl).chans x =
    if x ∈ l then { ctrl.chans x with state := .PENDING_REMOVAL } else ctrl.chans x :=
  foldl_update_of_idem (g := fun slc : Ich => { slc with state := .PENDING_REMOVAL })
    (fun ctrl c => by simp [pend_removal]) (fun _ => rfl) l ctrl x

/-- The loop over `mark_suspend`. -/
lemma chans_foldl_pend_suspend : (l.foldl pend_suspend ctrl).chans x =
    if x ∈ l then { ctrl.chans x with state := .SUSPENDED } else ctrl.chans x :=
  foldl_update_of_idem (g := fun slc : Ich => { slc with state := .SUSPENDED })
    (fun ctrl c => chans_set_state ctrl c .SUSPENDED) (fun _ => rfl) l ctrl x

@[simp] lemma arr_foldl_pend_removal : (l.foldl pend_removal ctrl).arr k = ctrl.arr k := by
  induction l generalizing ctrl with
  | nil => rfl
  | cons c l ih => simp [ih, pend_removal]

@[simp] lemma arr_foldl_pend_suspend : (l.foldl pend_suspend ctrl).arr k = ctrl.arr k := by
  induction l generalizing ctrl with
  | nil => rfl
  | cons c l ih => simp [ih, pend_suspend]

/-- It takes the slots of each entry off at once. -/
lemma usedslots_foldl_pend_removal : (l.foldl pend_removal ctrl).usedslots =
    ctrl.usedslots - charge ctrl.allocbw (l.map fun c => (ctrl.chans c).sl).sum := by
  induction l generalizing ctrl with
  | nil => simp
  | cons c l ih =>
    have hsl : ∀ x, ((pend_removal ctrl c).chans x).sl = (ctrl.chans x).sl := by
      intro x
      simp only [pend_removal, chans_set_state, chans_sub_slots]
      exact Tally.reading_update_of_eq (φ := Ich.sl) (by rfl) x
    rw [foldl_cons, ih, (sameFrame_pend_removal ctrl c).allocbw]
    simp only [hsl, map_cons, sum_cons, charge_add]
    simp only [pend_removal, usedslots_set_state, usedslots_sub_slots]
    abel

@[simp] lemma usedslots_foldl_pend_suspend :
    (l.foldl pend_suspend ctrl).usedslots = ctrl.usedslots := by
  induction l generalizing ctrl with
  | nil => rfl
  | cons c l ih => simp [ih, pend_suspend]

end

/-! ### All three lists -/

section

variable (ctrl : Ctrl) (sb : Client) (x : ℕ) (k : Coeff)

/-- The last of the three loops that has the channel sets its state. -/
def pend_state (state : ChState) : ChState :=
  if x ∈ sb.mark_suspend then .SUSPENDED
  else if x ∈ sb.mark_removal then .PENDING_REMOVAL
  else if x ∈ sb.mark_define ∧ state < .ACTIVE then .PENDING_ACTIVE
  else state

/-- What the three loops make of a channel. -/
lemma chans_pend : (pend ctrl sb).chans x =
    { ctrl.chans x with state := pend_state sb x (ctrl.chans x).state } := by
  have hpending : ∀ slc : Ich, (if x ∈ sb.mark_define then slc.pending else slc) =
      { slc with
        state := if x ∈ sb.mark_define ∧ slc.state < .ACTIVE then .PENDING_ACTIVE
          else slc.state } := by
    intro slc
    by_cases hx : x ∈ sb.mark_define <;> by_cases hst : slc.state < .ACTIVE <;>
      simp [Ich.pending, Ich.joins, hx, hst]
  unfold pend
  rw [chans_foldl_pend_suspend, chans_foldl_pend_removal, chans_foldl_pend_define, hpending]
  unfold pend_state
  by_cases hs : x ∈ sb.mark_suspend <;> by_cases hr : x ∈ sb.mark_removal <;> simp [hs, hr]

/-- The entries of `mark_define` that get on the array of a coefficient. -/
def Client.joining (chans : ℕ → Ich) : List ℕ :=
  sb.mark_define.filter fun c => (chans c).joins && decide ((chans c).coeff = k)

/-- What the three loops make of an array. -/
lemma arr_pend : (pend ctrl sb).arr k =
    (sb.joining k ctrl.chans).foldl (fun arr c => insert_ch ctrl.chans c arr) (ctrl.arr k) := by
  unfold pend
  rw [arr_foldl_pend_suspend, arr_foldl_pend_removal, arr_foldl_pend_define]
  cases k <;> rfl

/-- What the three loops make of the slots. -/
lemma usedslots_pend : (pend ctrl sb).usedslots = ctrl.usedslots
      + charge ctrl.allocbw
        ((sb.mark_define.filter fun c => (ctrl.chans c).joins).map fun c => (ctrl.chans c).sl).sum
      - charge ctrl.allocbw (sb.mark_removal.map fun c => (ctrl.chans c).sl).sum := by
  unfold pend
  rw [usedslots_foldl_pend_suspend, usedslots_foldl_pend_removal, usedslots_foldl_pend_define,
    (SameFrame.foldl sameFrame_pend_define _ _).allocbw]
  have hsl : ∀ ctrl : Ctrl, ∀ c, ((sb.mark_define.foldl pend_define ctrl).chans c).sl =
      (ctrl.chans c).sl := by
    intro ctrl c
    rw [chans_foldl_pend_define]
    split_ifs <;> simp
  simp [hsl]

/-- They also move the bandwidth for messages, and nothing else. -/
lemma frame_pend : (pend ctrl sb).allocbw = ctrl.allocbw ∧
    (pend ctrl sb).pending_msgsl = ctrl.pending_msgsl + (sb.pending_msgsl - sb.cur_msgsl) := by
  have h : SameFrame _ (pend ctrl sb) := ((SameFrame.foldl sameFrame_pend_define _ _).trans
    (SameFrame.foldl sameFrame_pend_removal _ _)).trans
    (SameFrame.foldl (fun ctrl c => sameFrame_set_state ctrl c _) _ _)
  exact ⟨h.allocbw, h.pending_msgsl⟩

end

lemma count_foldl_insert_ch (chans : ℕ → Ich) (l arr : List ℕ) (x : ℕ) :
    (l.foldl (fun arr c => insert_ch chans c arr) arr).count x = arr.count x + l.count x := by
  induction l generalizing arr with
  | nil => simp
  | cons c l ih =>
    rw [foldl_cons, ih, count_insert_ch, count_cons]
    simp only [beq_iff_eq]
    omega

/-! ## The schedule -/

section

variable (env : Env) (ctrl : Ctrl) (k : Coeff)

/-- The schedule sets offsets and intervals only. -/
lemma sameCore_allocate : SameCore ctrl.chans (allocate env ctrl).1.chans := by
  unfold allocate
  split_ifs
  · exact .refl ctrl.chans
  · exact sameCore_slim_allocbw ctrl

@[simp] lemma arr_allocate : (allocate env ctrl).1.arr k = ctrl.arr k := by
  unfold allocate
  split_ifs <;> cases k <;> rfl

@[simp] lemma usedslots_allocate : (allocate env ctrl).1.usedslots = ctrl.usedslots := by
  unfold allocate
  split_ifs <;> rfl

@[simp] lemma wrapped_allocate : (allocate env ctrl).1.wrapped = ctrl.wrapped := by
  unfold allocate
  split_ifs <;> rfl

lemma sameFrame_allocate : SameFrame ctrl (allocate env ctrl).1 := by
  unfold allocate
  split_ifs <;> exact ⟨rfl, rfl⟩

end

/-! ## Taking back -/

section

variable (ctrl : Ctrl) (c : ℕ) (k : Coeff)

/-- `slim_remove_ch` takes one entry off the channel's array. -/
lemma arr_slim_remove_ch : (slim_remove_ch ctrl c).1.arr k =
    if (ctrl.chans c).coeff = k then (ctrl.arr k).erase c else ctrl.arr k := by
  unfold slim_remove_ch
  dsimp only
  split_ifs with hmem hk hk
  · simp [hk]
  · simp [Ne.symm hk]
  · rw [← hk, erase_of_not_mem hmem]
  · rfl

/-- It resets the channel, if it finds it there. -/
lemma chans_slim_remove_ch : (slim_remove_ch ctrl c).1.chans =
    if c ∈ ctrl.arr (ctrl.chans c).coeff then update ctrl.chans c (ctrl.chans c).reset
    else ctrl.chans := by
  unfold slim_remove_ch
  dsimp only
  split_ifs <;> simp

@[simp] lemma usedslots_slim_remove_ch : (slim_remove_ch ctrl c).1.usedslots = ctrl.usedslots := by
  unfold slim_remove_ch
  dsimp only
  split_ifs <;> simp

@[simp] lemma wrapped_slim_remove_ch : (slim_remove_ch ctrl c).1.wrapped = ctrl.wrapped := by
  unfold slim_remove_ch
  dsimp only
  split_ifs <;> simp

end

/-- The state that `pend_define` leaves. -/
def Ich.is_pending (slc : Ich) : Bool := decide (slc.state = .PENDING_ACTIVE)

/-- The channel after `mark_define` has been taken back. -/
def Ich.unpend (slc : Ich) : Ich :=
  if slc.is_pending then { slc.reset with state := .DEFINED } else slc

/-- Taking it back again changes nothing. -/
lemma unpend_unpend (slc : Ich) : slc.unpend.unpend = slc.unpend := by
  have hdone : ¬ slc.unpend.is_pending := by
    by_cases h : slc.is_pending
    · rw [Ich.unpend, if_pos h]
      exact Bool.false_ne_true
    · rw [Ich.unpend, if_neg h]
      exact h
  rw [Ich.unpend, if_neg hdone]

section Revert

variable (ctrl : Ctrl) (c x : ℕ) (k : Coeff) (l : List ℕ)

/-- One round of taking back: the arrays. -/
lemma arr_revert_define : (changes_define true ctrl c).arr k =
    if (ctrl.chans c).is_pending ∧ (ctrl.chans c).coeff = k then (ctrl.arr k).erase c
    else ctrl.arr k := by
  unfold changes_define Ich.is_pending
  by_cases h : (ctrl.chans c).state = .PENDING_ACTIVE <;> simp [h, arr_slim_remove_ch]

/-- One round of taking back: the slots. -/
lemma usedslots_revert_define : (changes_define true ctrl c).usedslots = ctrl.usedslots -
      charge ctrl.allocbw (if (ctrl.chans c).is_pending then (ctrl.chans c).sl else 0) := by
  unfold changes_define Ich.is_pending
  by_cases h : (ctrl.chans c).state = .PENDING_ACTIVE <;> simp [h]

/-- One round of taking back: the channel, which must be on its array. -/
lemma chans_revert_define (hmem : (ctrl.chans c).is_pending → c ∈ ctrl.arr (ctrl.chans c).coeff) :
    (changes_define true ctrl c).chans = update ctrl.chans c (ctrl.chans c).unpend := by
  unfold changes_define Ich.unpend Ich.is_pending at *
  by_cases h : (ctrl.chans c).state = .PENDING_ACTIVE
  · simp [h, chans_slim_remove_ch, hmem (by simpa using h)]
  · simp [h]

/-- A field that neither a reset nor the state changes is as before. -/
lemma reading_revert_define {β : Type} {φ : Ich → β} (hreset : ∀ slc : Ich, φ slc.reset = φ slc)
    (hstate : ∀ (slc : Ich) s, φ { slc with state := s } = φ slc) :
    φ ((changes_define true ctrl c).chans x) = φ (ctrl.chans x) := by
  unfold changes_define
  simp only [if_true]
  split_ifs
  · simp only [chans_set_state]
    rw [Tally.reading_update_of_eq (hstate _ _), chans_slim_remove_ch]
    split_ifs
    · rw [chans_sub_slots]
      exact Tally.reading_update_of_eq (hreset _) x
    · rw [chans_sub_slots]
  · rfl

/-- After its round the channel is not pending. -/
lemma is_pending_revert_define : ((changes_define true ctrl c).chans x).is_pending =
    ((ctrl.chans x).is_pending && decide (x ≠ c)) := by
  rcases eq_or_ne x c with rfl | hx
  · unfold changes_define
    by_cases h : (ctrl.chans x).state = .PENDING_ACTIVE <;> simp [h, Ich.is_pending]
  · have hsame : (changes_define true ctrl c).chans x = ctrl.chans x := by
      unfold changes_define
      simp only [if_true]
      split_ifs
      · rw [chans_set_state, update_of_ne hx, chans_slim_remove_ch]
        split_ifs <;> simp [hx]
      · rfl
    simp [hsame, hx]

lemma revert_define_of_not_pending (hc : ¬ (ctrl.chans c).is_pending) :
    changes_define true ctrl c = ctrl := by
  exact if_neg (by simpa [Ich.is_pending] using hc)

variable {ctrl c l} in
/-- What the next rounds need is still there. -/
lemma mem_arr_revert_define
    (hmem : ∀ d ∈ c :: l, (ctrl.chans d).is_pending → d ∈ ctrl.arr (ctrl.chans d).coeff) :
    ∀ d ∈ l, ((changes_define true ctrl c).chans d).is_pending →
      d ∈ (changes_define true ctrl c).arr ((changes_define true ctrl c).chans d).coeff := by
  intro d hd hpend
  rw [is_pending_revert_define, Bool.and_eq_true, decide_eq_true_eq] at hpend
  have hold := hmem d (mem_cons_of_mem c hd) hpend.1
  rw [reading_revert_define (φ := Ich.coeff) _ _ _ (fun _ => rfl) (fun _ _ => rfl),
    arr_revert_define]
  split_ifs
  · exact (mem_erase_of_ne hpend.2).2 hold
  · exact hold

/-- The loop takes back each channel of the list. -/
lemma chans_foldl_revert_define
    (hmem : ∀ c ∈ l, (ctrl.chans c).is_pending → c ∈ ctrl.arr (ctrl.chans c).coeff) :
    (l.foldl (changes_define true) ctrl).chans x =
      if x ∈ l then (ctrl.chans x).unpend else ctrl.chans x := by
  induction l generalizing ctrl with
  | nil => rfl
  | cons c l ih =>
    have hc := hmem c mem_cons_self
    rw [foldl_cons, ih _ (mem_arr_revert_define hmem), chans_revert_define ctrl c hc]
    rcases eq_or_ne x c with rfl | hx
    · simp [unpend_unpend]
    · simp [hx]

/-- An entry goes once, however often the list has it. -/
lemma count_foldl_revert_define : ((l.foldl (changes_define true) ctrl).arr k).count x =
    (ctrl.arr k).count x -
      if x ∈ l ∧ (ctrl.chans x).is_pending ∧ (ctrl.chans x).coeff = k then 1 else 0 := by
  induction l generalizing ctrl with
  | nil => simp
  | cons c l ih =>
    rw [foldl_cons, ih, arr_revert_define, is_pending_revert_define,
      reading_revert_define (φ := Ich.coeff) _ _ _ (fun _ => rfl) (fun _ _ => rfl)]
    rcases eq_or_ne x c with rfl | hx
    · by_cases h : (ctrl.chans x).is_pending ∧ (ctrl.chans x).coeff = k <;> simp [h]
    · by_cases h : (ctrl.chans c).is_pending ∧ (ctrl.chans c).coeff = k <;>
        simp [h, hx, count_erase_of_ne hx]

/-- The channels of a list that are still to be taken back. -/
def pending_of (chans : ℕ → Ich) (l : List ℕ) : List ℕ := l.filter fun c => (chans c).is_pending

lemma pending_of_revert_define (hc : c ∉ pending_of ctrl.chans l) :
    pending_of (changes_define true ctrl c).chans l = pending_of ctrl.chans l := by
  refine filter_congr fun d hd => ?_
  rw [is_pending_revert_define]
  rcases eq_or_ne d c with rfl | hne
  · have := mem_filter.not.1 hc
    simp_all
  · simp [hne]

/-- The loop erases the pending channels and gives their slots back. -/
lemma foldl_revert_define (hnodup : (pending_of ctrl.chans l).Nodup) :
    (∀ k, (l.foldl (changes_define true) ctrl).arr k =
      ((pending_of ctrl.chans l).filter fun c => decide ((ctrl.chans c).coeff = k)).foldl List.erase
        (ctrl.arr k)) ∧
    (l.foldl (changes_define true) ctrl).usedslots = ctrl.usedslots -
      charge ctrl.allocbw ((pending_of ctrl.chans l).map fun c => (ctrl.chans c).sl).sum := by
  induction l generalizing ctrl with
  | nil => simp [pending_of]
  | cons c l ih =>
    by_cases hc : (ctrl.chans c).is_pending
    · have hcons : pending_of ctrl.chans (c :: l) = c :: pending_of ctrl.chans l :=
        filter_cons_of_pos hc
      rw [hcons] at hnodup ⊢
      have hrest := pending_of_revert_define ctrl c l hnodup.notMem
      obtain ⟨harr, hslots⟩ := ih _ (hrest ▸ hnodup.of_cons)
      rw [hrest] at harr hslots
      refine ⟨fun k => ?_, ?_⟩
      · rw [foldl_cons, harr, arr_revert_define]
        simp only [reading_revert_define (φ := Ich.coeff) _ _ _ (fun _ => rfl) (fun _ _ => rfl)]
        by_cases hk : (ctrl.chans c).coeff = k <;> simp [hc, hk]
      · rw [foldl_cons, hslots, usedslots_revert_define,
          (sameFrame_changes_define ctrl c true).allocbw]
        simp only [reading_revert_define (φ := Ich.sl) _ _ _ (fun _ => rfl) (fun _ _ => rfl), hc,
          if_true, map_cons, sum_cons, charge_add]
        abel
    · have hcons : pending_of ctrl.chans (c :: l) = pending_of ctrl.chans l :=
        filter_cons_of_neg hc
      rw [hcons] at hnodup ⊢
      rw [foldl_cons, revert_define_of_not_pending ctrl c hc]
      exact ih _ hnodup

end Revert

/-- The channel after `n` rounds that make it active. -/
def Ich.activate (n : ℕ) (slc : Ich) : Ich := { slc with state := .ACTIVE, def_ := slc.def_ + n }

lemma iterate_activate (n : ℕ) (slc : Ich) :
    (Ich.activate 1)^[n] slc = if n = 0 then slc else slc.activate n := by
  induction n with
  | zero => rfl
  | succ n ih =>
    rw [iterate_succ_apply', ih, if_neg (Nat.succ_ne_zero n)]
    split_ifs with hn
    · rw [hn]
    · rfl

/-- A loop of such rounds counts how often it meets the channel. -/
lemma chans_foldl_activate {f : Ctrl → ℕ → Ctrl}
    (hf : ∀ ctrl c, (f ctrl c).chans = update ctrl.chans c ((ctrl.chans c).activate 1))
    (ctrl : Ctrl) (x : ℕ) (l : List ℕ) : (l.foldl f ctrl).chans x =
      if x ∈ l then (ctrl.chans x).activate (l.count x) else ctrl.chans x := by
  rw [foldl_update hf, iterate_activate]
  by_cases hx : x ∈ l
  · rw [if_neg (count_pos_iff.2 hx).ne', if_pos hx]
  · rw [if_pos (count_eq_zero_of_not_mem hx), if_neg hx]

section

variable (ctrl : Ctrl) (c x : ℕ) (k : Coeff) (l : List ℕ)

/-- One round over `mark_removal`, taken back. -/
lemma chans_revert_removal : (changes_removal true ctrl c).chans =
    update ctrl.chans c ((ctrl.chans c).activate 1) := by
  simp [changes_removal, Ich.activate]

@[simp] lemma arr_foldl_revert_removal :
    (l.foldl (changes_removal true) ctrl).arr k = ctrl.arr k := by
  induction l generalizing ctrl with
  | nil => rfl
  | cons c l ih => simp [ih, changes_removal]

/-- The slots that were taken off come back. -/
lemma usedslots_foldl_revert_removal : (l.foldl (changes_removal true) ctrl).usedslots =
    ctrl.usedslots + charge ctrl.allocbw (l.map fun c => (ctrl.chans c).sl).sum := by
  induction l generalizing ctrl with
  | nil => simp
  | cons c l ih =>
    have hsl : ∀ x, ((changes_removal true ctrl c).chans x).sl = (ctrl.chans x).sl := by
      rw [chans_revert_removal]
      exact Tally.reading_update_of_eq (φ := Ich.sl) (by rfl)
    rw [foldl_cons, ih, (sameFrame_changes_removal ctrl c true).allocbw]
    simp only [hsl, map_cons, sum_cons, charge_add]
    simp [changes_removal]
    abel

/-- The loop over `mark_suspend`, taken back. -/
lemma chans_foldl_revert_suspend : (l.foldl (changes_suspend true) ctrl).chans x =
    if x ∈ l then { ctrl.chans x with state := .ACTIVE } else ctrl.chans x :=
  foldl_update_of_idem (g := fun slc : Ich => { slc with state := .ACTIVE })
    (fun ctrl c => chans_set_state ctrl c .ACTIVE) (fun _ => rfl) l ctrl x

@[simp] lemma arr_foldl_revert_suspend :
    (l.foldl (changes_suspend true) ctrl).arr k = ctrl.arr k := by
  induction l generalizing ctrl with
  | nil => rfl
  | cons c l ih => simp [ih, changes_suspend]

@[simp] lemma usedslots_foldl_revert_suspend :
    (l.foldl (changes_suspend true) ctrl).usedslots = ctrl.usedslots := by
  induction l generalizing ctrl with
  | nil => rfl
  | cons c l ih => simp [ih, changes_suspend]

end

/-! ## Committing -/

section Commit

variable (ctrl : Ctrl) (c x : ℕ) (k : Coeff) (l : List ℕ)

/-- The loop over `mark_define`, committed. -/
lemma chans_foldl_commit_define : (l.foldl (changes_define false) ctrl).chans x =
    if x ∈ l then (ctrl.chans x).activate (l.count x) else ctrl.chans x :=
  chans_foldl_activate (fun ctrl c => by simp [changes_define, Ich.activate]) ctrl x l

@[simp] lemma arr_foldl_commit_define :
    (l.foldl (changes_define false) ctrl).arr k = ctrl.arr k := by
  induction l generalizing ctrl with
  | nil => rfl
  | cons c l ih => simp [ih, changes_define]

@[simp] lemma foldl_commit_suspend : l.foldl (changes_suspend false) ctrl = ctrl := by
  induction l with
  | nil => rfl
  | cons c l ih => simpa [changes_suspend] using ih

/-- A channel goes when no client has it defined, and else is active again. -/
lemma commit_removal_eq : changes_removal false ctrl c =
    if (ctrl.chans c).def_ = 0 then (slim_remove_ch ctrl c).1
    else (ctrl.add_slots (ctrl.chans c).sl).set_chan c
      { ctrl.chans c with state := .ACTIVE } := by
  unfold changes_removal
  by_cases h : (ctrl.chans c).def_ = 0
  · simp [h]
  · simp [h, pos_of_ne_zero h]

/-- One removal, committed: the arrays. -/
lemma arr_commit_removal : (changes_removal false ctrl c).arr k =
    if (ctrl.chans c).def_ = 0 ∧ (ctrl.chans c).coeff = k then (ctrl.arr k).erase c
    else ctrl.arr k := by
  rw [commit_removal_eq]
  by_cases h : (ctrl.chans c).def_ = 0 <;> simp [h, arr_slim_remove_ch]

/-- One removal, committed: the channel. -/
lemma chans_commit_removal : (changes_removal false ctrl c).chans =
    if (ctrl.chans c).def_ = 0 then (slim_remove_ch ctrl c).1.chans
    else update ctrl.chans c { ctrl.chans c with state := .ACTIVE } := by
  rw [commit_removal_eq]
  by_cases h : (ctrl.chans c).def_ = 0 <;> simp [h]

lemma reading_commit_removal {β : Type} {φ : Ich → β}
    (hreset : ∀ slc : Ich, slc.def_ = 0 → φ slc.reset = φ slc)
    (hstate : ∀ (slc : Ich) s, φ { slc with state := s } = φ slc) :
    φ ((changes_removal false ctrl c).chans x) = φ (ctrl.chans x) := by
  rw [chans_commit_removal]
  split_ifs with hdef
  · rw [chans_slim_remove_ch]
    split_ifs
    · exact Tally.reading_update_of_eq (hreset _ hdef) x
    · rfl
  · exact Tally.reading_update_of_eq (hstate _ _) x

/-- Each entry of the list takes one off the array. -/
lemma count_foldl_commit_removal : ((l.foldl (changes_removal false) ctrl).arr k).count x =
    (ctrl.arr k).count x -
      if (ctrl.chans x).def_ = 0 ∧ (ctrl.chans x).coeff = k then l.count x else 0 := by
  induction l generalizing ctrl with
  | nil => simp
  | cons c l ih =>
    rw [foldl_cons, ih, arr_commit_removal,
      reading_commit_removal (φ := Ich.def_) _ _ _ (fun _ h => h.symm) (fun _ _ => rfl),
      reading_commit_removal (φ := Ich.coeff) _ _ _ (fun _ _ => rfl) (fun _ _ => rfl)]
    rcases eq_or_ne x c with rfl | hx
    · by_cases h : (ctrl.chans x).def_ = 0 ∧ (ctrl.chans x).coeff = k
      · simp only [h, and_self, if_true, count_erase_self, count_cons_self]
        omega
      · simp [h]
    · rw [count_cons_of_ne hx.symm]
      split_ifs <;> simp [count_erase_of_ne hx]

/-- The channel after its removal has been committed. -/
def Ctrl.removed (ctrl : Ctrl) (x : ℕ) : Ich :=
  if (ctrl.chans x).def_ = 0 then
    if x ∈ ctrl.arr (ctrl.chans x).coeff then (ctrl.chans x).reset else ctrl.chans x
  else { ctrl.chans x with state := .ACTIVE }

lemma chans_commit_removal_self : (changes_removal false ctrl x).chans x = ctrl.removed x := by
  rw [chans_commit_removal, Ctrl.removed]
  split_ifs with hdef hmem
  · rw [chans_slim_remove_ch, if_pos hmem, update_self]
  · rw [chans_slim_remove_ch, if_neg hmem]
  · rw [update_self]

lemma chans_commit_removal_of_ne (hx : x ≠ c) :
    (changes_removal false ctrl c).chans x = ctrl.chans x := by
  rw [chans_commit_removal]
  split_ifs
  · rw [chans_slim_remove_ch]
    split_ifs <;> simp [hx]
  · simp [hx]

/-- Another round does not change what a removal leaves. -/
lemma removed_commit_removal : (changes_removal false ctrl c).removed x = ctrl.removed x := by
  rcases eq_or_ne x c with rfl | hx
  · rw [Ctrl.removed, reading_commit_removal (φ := Ich.def_) _ _ _ (fun _ h => h.symm)
      (fun _ _ => rfl), reading_commit_removal (φ := Ich.coeff) _ _ _ (fun _ _ => rfl)
      (fun _ _ => rfl), arr_commit_removal, chans_commit_removal_self]
    by_cases hdef : (ctrl.chans x).def_ = 0
    · by_cases hmem : x ∈ ctrl.arr (ctrl.chans x).coeff
      · simp only [Ctrl.removed, hdef, hmem, if_true, and_self]
        exact ite_id _
      · simp [Ctrl.removed, hdef, hmem, erase_of_not_mem]
    · simp [Ctrl.removed, hdef]
  · rw [Ctrl.removed, Ctrl.removed, chans_commit_removal_of_ne ctrl c x hx, arr_commit_removal]
    have hmem : (x ∈ if (ctrl.chans c).def_ = 0 ∧ (ctrl.chans c).coeff = (ctrl.chans x).coeff then
        (ctrl.arr (ctrl.chans x).coeff).erase c else ctrl.arr (ctrl.chans x).coeff) ↔
        x ∈ ctrl.arr (ctrl.chans x).coeff := by
      split_ifs
      · exact mem_erase_of_ne hx
      · rfl
    simp [hmem]

/-- The loop over `mark_removal`, committed. -/
lemma chans_foldl_commit_removal : (l.foldl (changes_removal false) ctrl).chans x =
    if x ∈ l then ctrl.removed x else ctrl.chans x := by
  induction l generalizing ctrl with
  | nil => rfl
  | cons c l ih =>
    rw [foldl_cons, ih, removed_commit_removal]
    rcases eq_or_ne x c with rfl | hx
    · rw [chans_commit_removal_self, ite_id, if_pos mem_cons_self]
    · rw [chans_commit_removal_of_ne ctrl c x hx]
      simp [hx]

/-- Taking over the new places leaves the other fields. -/
lemma reading_settle {β : Type} {φ : Ich → β}
    (hφ : ∀ (slc : Ich) offset interval,
      φ { slc with offset := offset, interval := interval } = φ slc) :
    φ ((slim_change_existing_chans ctrl k).chans x) = φ (ctrl.chans x) := by
  have hone : ∀ slc : Ich, φ slc.settle = φ slc := by
    intro slc
    unfold Ich.settle
    split_ifs
    · exact hφ slc _ _
    · rfl
  unfold slim_change_existing_chans
  generalize ctrl.arr k = l
  induction l generalizing ctrl with
  | nil => rfl
  | cons c l ih =>
    rw [foldl_cons, ih, chans_set_chan]
    exact Tally.reading_update_of_eq (hone _) x

@[simp] lemma arr_settle (k' : Coeff) :
    (slim_change_existing_chans ctrl k).arr k' = ctrl.arr k' := by
  unfold slim_change_existing_chans
  generalize ctrl.arr k = l
  induction l generalizing ctrl with
  | nil => rfl
  | cons c l ih => rw [foldl_cons, ih, arr_set_chan]

end Commit

end KernelExtra.Slimbus
