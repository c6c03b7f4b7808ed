/-
Synx: bindings to external sync objects, `drivers/media/platform/msm/synx/synx.c`.

`synx_bind` records a binding under the lock of the object and registers the callback after it has
dropped the lock. If that fails it clears the slot that it has remembered and lowers the count. By
then a signal may have emptied the table, or another binding may have been recorded behind. Nothing
else goes wrong.

The model is one object and the external objects that it is bound to. A callback that is not
registered, or has begun, cannot be deregistered.
-/
import KernelExtra.Lib.Run

namespace KernelExtra.Synx

open Function List

def SYNX_MAX_NUM_BINDINGS : UInt32 := 8
def SYNX_MAX_BIND_TYPES : ℕ := 1
def SYNX_STATE_SIGNALED_SUCCESS : ℕ := 2

structure ExternalDesc where
  type : ℕ
  id : ℤ

/-- An entry of the table. -/
structure BindDesc where
  external_desc : ExternalDesc
  external_data : Option ℕ

/-- Who has an `external_data`: `synx_bind` until it has registered the callback, the external
object, a callback that has begun, nobody. -/
inductive Stage where
  | binding (bound_idx : ℕ)
  | registered
  | running
  | gone
  deriving DecidableEq

/-- Where each record is, and which were freed. -/
structure Books where
  stage : ℕ → Stage
  freed : List ℕ

def Books.finish (k : Books) (r : ℕ) : Books := ⟨update k.stage r .gone, r :: k.freed⟩

/-- `struct synx_coredata`, the `external_data` allocated for its bindings, and their books. `bound`
lists the bindings that were recorded, and neither cleared nor taken back. -/
structure Obj where
  merged : Bool
  external : Bool
  valid : Bool
  active : Bool
  bound_synxs : ℕ → BindDesc
  num_bound_synxs : UInt32
  next : ℕ
  desc : ℕ → ExternalDesc
  books : Books
  bound : List ℕ

namespace Obj

variable (o : Obj)

def start (merged external valid : Bool) : Obj :=
  ⟨merged, external, valid, true, fun _ => ⟨⟨0, 0⟩, none⟩, 0, 0, fun _ => ⟨0, 0⟩,
    ⟨fun _ => .gone, []⟩, []⟩

def pass (r : ℕ) (x : Stage) : Obj :=
  { o with books := { o.books with stage := update o.books.stage r x } }

def synx_util_get_bind_ops (type : ℕ) : Bool := decide (type < SYNX_MAX_BIND_TYPES) && o.valid

def synx_bind (d : ExternalDesc) (alloc : Bool) : Obj :=
  if !o.synx_util_get_bind_ops d.type || o.merged || o.external || !alloc then o
  else
    let data := o.next
    let bound_idx := o.num_bound_synxs.toNat
    let o := { o with next := data + 1, desc := update o.desc data d }
    if !o.active || decide (o.num_bound_synxs ≥ SYNX_MAX_NUM_BINDINGS) ||
      (range bound_idx).any fun i => d.id = (o.bound_synxs i).external_desc.id
    then { o with books := o.books.finish data }
    else
      { o.pass data (.binding bound_idx) with
        bound_synxs := update o.bound_synxs bound_idx ⟨d, data⟩
        num_bound_synxs := o.num_bound_synxs + 1
        bound := o.bound ++ [data] }

def bind_failed (r bound_idx : ℕ) : Obj :=
  { o with
    bound_synxs := update o.bound_synxs bound_idx
      { o.bound_synxs bound_idx with external_desc := ⟨0, 0⟩ }
    num_bound_synxs := o.num_bound_synxs - 1
    bound := o.bound.erase r
    books := o.books.finish r }

/-- A round of the second loop of `synx_signal_core`; `luck` says which callbacks are
deregistered, of those that can be. -/
def signal_external (luck : ℕ → Bool) (k : Books) (b : BindDesc) : Books :=
  if !o.synx_util_get_bind_ops b.external_desc.type then
    { k with freed := b.external_data.toList ++ k.freed }
  else
    match b.external_data with
    | some r =>
      if k.stage r = .registered ∧ (o.desc r).id = b.external_desc.id ∧ luck r then k.finish r
      else k
    | none => k

/-- `ext_sync_id` is there if `cb_signal` is set. -/
def synx_signal_core (ext_sync_id : Option ℤ) (luck : ℕ → Bool) : Obj :=
  let num := o.num_bound_synxs.toNat
  let bind_descs := (range num).map o.bound_synxs
  { o with
    bound_synxs := fun i => if i < num then ⟨⟨0, 0⟩, none⟩ else o.bound_synxs i
    num_bound_synxs := 0
    bound := []
    books := (bind_descs.filter (ext_sync_id ≠ some ·.external_desc.id)).foldl
      (o.signal_external luck) o.books }

/-- `fence` says whether the callback of the fence can be removed and the fence signalled. -/
def synx_signal_fence (status : ℕ) (fence : Bool) : Bool :=
  decide (status ≥ SYNX_STATE_SIGNALED_SUCCESS) && !o.merged && o.active && fence

/-- The section of `synx_signal`, and that of `synx_external_callback`. -/
def signal (ext_sync_id : Option ℤ) (status : ℕ) (fence : Bool) (luck : ℕ → Bool) : Obj :=
  if o.synx_signal_fence status fence then
    { o with active := false }.synx_signal_core ext_sync_id luck
  else o

end Obj

/-- The steps of threads on an object. -/
inductive Act where
  | synx_bind (d : ExternalDesc) (alloc : Bool)
  | register_callback (r : ℕ) (ok : Bool)
  | synx_signal (status : ℕ) (fence : Bool) (luck : ℕ → Bool)
  | external (r : ℕ)
  /-- `handle` says whether the session and the handle are still there. -/
  | synx_external_callback (r : ℕ) (handle : Bool) (status : ℕ) (fence : Bool) (luck : ℕ → Bool)
  | fence_signaled

def Obj.step (o : Obj) : Act → Obj
  | .synx_bind d alloc => o.synx_bind d alloc
  | .register_callback r ok =>
    match o.books.stage r with
    | .binding bound_idx => if ok then o.pass r .registered else o.bind_failed r bound_idx
    | _ => o
  | .synx_signal status fence luck => o.signal none status fence luck
  | .external r => if o.books.stage r = .registered then o.pass r .running else o
  | .synx_external_callback r handle status fence luck =>
    if o.books.stage r = .running then
      let o := if handle then o.signal (o.desc r).id status fence luck else o
      { o with books := o.books.finish r }
    else o
  | .fence_signaled => { o with active := false }

/-! ## Table and records agree -/

/-- Each of `n` records is freed once, and then nobody has it any more. -/
structure Ledger (n : ℕ) (k : Books) : Prop where
  nodup : k.freed.Nodup
  freed : ∀ r, r ∈ k.freed ↔ r < n ∧ k.stage r = .gone
  fresh : ∀ r, n ≤ r → k.stage r = .gone

/-- The table is the list of the bindings, and the records are
freed as they should be. -/
structure Good (o : Obj) : Prop where
  count : o.num_bound_synxs.toNat = o.bound.length
  max : o.num_bound_synxs ≤ SYNX_MAX_NUM_BINDINGS
  table : ∀ i r, o.bound[i]? = some r → o.bound_synxs i = ⟨o.desc r, some r⟩
  ledger : Ledger o.next o.books

/-- A registration that fails finds its binding to be the last one. -/
def Careful (o : Obj) : Act → Prop
  | .register_callback r false => ∀ bound_idx, o.books.stage r = .binding bound_idx →
    bound_idx + 1 = o.num_bound_synxs.toNat ∧ (o.bound_synxs bound_idx).external_data = some r
  | _ => True

/-! ## The invariant -/

/-- Table, list and records go together. -/
structure Inv (o : Obj) : Prop extends Good o where
  nodup : o.bound.Nodup
  old : ∀ r ∈ o.bound, r < o.next
  ops : ∀ r < o.next, o.synx_util_get_bind_ops (o.desc r).type = true
  binding : ∀ r i, o.books.stage r = .binding i →
    (o.bound = [] ∧ o.active = false) ∨ o.bound[i]? = some r

lemma binding_of_update {stage : ℕ → Stage} {r : ℕ} {x : Stage} (hx : ∀ i, x ≠ .binding i)
    (q i : ℕ) (hq : update stage r x q = .binding i) : stage q = .binding i := by
  rcases eq_or_ne q r with rfl | hne
  · rw [update_self] at hq
    exact absurd hq (hx i)
  · rwa [update_of_ne hne] at hq

section

variable {n r : ℕ} {k : Books}

lemma Ledger.lt (h : Ledger n k) (hr : k.stage r ≠ .gone) : r < n := by
  by_contra hge
  exact hr (h.fresh r (Nat.le_of_not_lt hge))

/-- **A record changes hands**, or is new. -/
theorem Ledger.pass (h : Ledger n k) {n' : ℕ} (hn : ∀ q, q < n' ↔ q < n ∨ q = r)
    (hr : r < n → k.stage r ≠ .gone) {x : Stage} (hx : x ≠ .gone) :
    Ledger n' { k with stage := update k.stage r x } := by
  refine ⟨h.nodup, fun q => ?_, fun q hq => ?_⟩
  · rw [h.freed, hn]
    rcases eq_or_ne q r with rfl | hne
    · simpa [hx] using hr
    · simp [hne]
  · have hlt := hn q
    dsimp only
    rw [update_of_ne (by omega)]
    exact h.fresh q (by omega)

/-- **A record is freed**, by the one that has it or as soon as it is allocated. -/
theorem Ledger.finish (h : Ledger n k) {n' : ℕ} (hn : ∀ q, q < n' ↔ q < n ∨ q = r)
    (hr : r < n → k.stage r ≠ .gone) : Ledger n' (k.finish r) := by
  refine ⟨nodup_cons.2 ⟨fun hmem => ?_, h.nodup⟩, fun q => ?_, fun q hq => ?_⟩
  · exact hr ((h.freed r).1 hmem).1 ((h.freed r).1 hmem).2
  · change q ∈ r :: k.freed ↔ q < n' ∧ update k.stage r .gone q = .gone
    rw [mem_cons, h.freed, hn]
    rcases eq_or_ne q r with rfl | hne
    · simp
    · simp [hne]
  · have hlt := hn q
    change update k.stage r .gone q = .gone
    rw [update_of_ne (by omega)]
    exact h.fresh q (by omega)

lemma Ledger.finish_of_ne (h : Ledger n k) (hr : k.stage r ≠ .gone) : Ledger n (k.finish r) := by
  have hlt := h.lt hr
  exact h.finish (by omega) fun _ => hr

/-- **The second loop** of `synx_signal_core` frees the records whose callback it deregisters. -/
theorem ledger_foldl (o : Obj) (luck : ℕ → Bool) {l : List BindDesc} (h : Ledger n k)
    (hops : ∀ b ∈ l, o.synx_util_get_bind_ops b.external_desc.type = true) :
    Ledger n (l.foldl (o.signal_external luck) k) ∧ ∀ r, k.stage r = .running →
      (l.foldl (o.signal_external luck) k).stage r = .running := by
  induction l generalizing k with
  | nil => exact ⟨h, fun _ hr => hr⟩
  | cons b l ih =>
    have hround : Ledger n (o.signal_external luck k b) ∧ ∀ r, k.stage r = .running →
        (o.signal_external luck k b).stage r = .running := by
      unfold Obj.signal_external
      rw [hops b mem_cons_self, Bool.not_true, if_neg Bool.false_ne_true]
      split
      · split_ifs with hstage
        · refine ⟨h.finish_of_ne (by simp [hstage.1]), fun q hq => ?_⟩
          exact (update_of_ne (fun hqr => by simp [hqr, hstage.1] at hq) ..).trans hq
        · exact ⟨h, fun _ hr => hr⟩
      · exact ⟨h, fun _ hr => hr⟩
    have hrest := ih hround.1 fun b hb => hops b (mem_cons_of_mem _ hb)
    exact ⟨hrest.1, fun r hr => hrest.2 r (hround.2 r hr)⟩

end

section Steps

variable {o : Obj} {r i : ℕ}

variable (h : Inv o)
include h

lemma Inv.bind_descs :
    (range o.num_bound_synxs.toNat).map o.bound_synxs = o.bound.map fun r => ⟨o.desc r, r⟩ := by
  refine ext_getElem? fun i => ?_
  rw [getElem?_map, getElem?_map, h.count]
  rcases lt_or_ge i o.bound.length with hi | hi
  · rw [getElem?_range hi, getElem?_eq_getElem hi, Option.map_some, Option.map_some,
      h.table i _ (getElem?_eq_getElem hi)]
  · rw [getElem?_eq_none (by simpa using hi), getElem?_eq_none hi]
    rfl

lemma Inv.signal (ext_sync_id : Option ℤ) (status : ℕ) (fence : Bool)
    (luck : ℕ → Bool) : Inv (o.signal ext_sync_id status fence luck) ∧
      (o.books.stage r = .running →
        (o.signal ext_sync_id status fence luck).books.stage r = .running) := by
  unfold Obj.signal
  split_ifs
  · have hloop := ledger_foldl { o with active := false } luck h.ledger
      (l := (o.bound.map fun r => ⟨o.desc r, r⟩).filter (ext_sync_id ≠ some ·.external_desc.id))
      fun b hb => by
        obtain ⟨r, hr, rfl⟩ := mem_map.1 (mem_of_mem_filter hb)
        exact h.ops r (h.old r hr)
    rw [← h.bind_descs] at hloop
    refine ⟨⟨⟨rfl, UInt32.zero_le, nofun, hloop.1⟩, nodup_nil, nofun, h.ops, ?_⟩, hloop.2 r⟩
    exact fun _ _ _ => .inl ⟨rfl, rfl⟩
  · exact ⟨h, id⟩

/-- The table is left alone. -/
lemma Inv.of_ledger {books : Books} (hledger : Ledger o.next books)
    (hstage : ∀ r i, books.stage r = .binding i → o.books.stage r = .binding i) :
    Inv { o with books } :=
  ⟨⟨h.count, h.max, h.table, hledger⟩, h.nodup, h.old, h.ops,
    fun r i hr => h.binding r i (hstage r i hr)⟩

lemma Inv.pass {x : Stage} (hr : o.books.stage r ≠ .gone) (hgone : x ≠ .gone)
    (hx : ∀ i, x ≠ .binding i) : Inv (o.pass r x) := by
  have hlt := h.ledger.lt hr
  exact h.of_ledger (h.ledger.pass (by omega) (fun _ => hr) hgone) (binding_of_update hx)

lemma Inv.finish (hr : o.books.stage r ≠ .gone) : Inv { o with books := o.books.finish r } :=
  h.of_ledger (h.ledger.finish_of_ne hr) (binding_of_update (by simp))

lemma Inv.synx_bind (d : ExternalDesc) (alloc : Bool) : Inv (o.synx_bind d alloc) := by
  unfold Obj.synx_bind
  split_ifs with hrefused
  · exact h
  simp only [Bool.or_eq_true, not_or, Bool.not_eq_true', Bool.not_eq_false] at hrefused
  have hops : ∀ r < o.next + 1,
      o.synx_util_get_bind_ops (update o.desc o.next d r).type = true := by
    intro r hr
    rcases eq_or_ne r o.next with rfl | hne
    · rw [update_self]
      exact hrefused.1.1.1
    · rw [update_of_ne hne]
      exact h.ops r (by omega)
  have hold : ∀ r ∈ o.bound, r < o.next + 1 := fun r hr => Nat.lt_succ_of_lt (h.old r hr)
  have hdesc : ∀ {i r}, o.bound[i]? = some r → update o.desc o.next d r = o.desc r :=
    fun hr => update_of_ne (h.old _ (mem_of_getElem? hr)).ne ..
  have hnew : ∀ q, q < o.next + 1 ↔ q < o.next ∨ q = o.next := fun q => by omega
  dsimp only
  split_ifs with hfree
  · refine ⟨⟨h.count, h.max, fun i r hr => ?_, h.ledger.finish hnew (by simp)⟩, h.nodup, hold, hops,
      fun r i hr => h.binding r i (binding_of_update (by simp) r i hr)⟩
    rw [h.table i r hr, ← hdesc hr]
  · simp only [Bool.or_eq_true, Bool.not_eq_true', decide_eq_true_eq, not_or, Bool.not_eq_false]
      at hfree
    obtain ⟨⟨hactive, hroom⟩, _⟩ := hfree
    have hlen : o.bound.length < 8 := h.count ▸ UInt32.lt_iff_toNat_lt.1 (UInt32.not_le.1 hroom)
    have hnum : (o.num_bound_synxs + 1).toNat = o.bound.length + 1 := by
      rw [UInt32.toNat_add, h.count]
      exact Nat.mod_eq_of_lt (by change _ + 1 < _; omega)
    refine ⟨⟨?_, ?_, fun i r hr => ?_, h.ledger.pass hnew (by simp) (by simp)⟩, ?_,
      forall_mem_append.2 ⟨hold, forall_mem_singleton.2 (Nat.lt_succ_self _)⟩, hops,
      fun r i hr => .inr ?_⟩
    · simpa using hnum
    · rw [UInt32.le_iff_toNat_le, hnum]
      exact hlen
    · dsimp only at hr ⊢
      rw [h.count, update_apply]
      split_ifs with hi
      · rw [hi, getElem?_concat_length] at hr
        cases hr
        simp [Obj.pass]
      · have hlt := (List.getElem?_eq_some_iff.1 hr).1
        rw [getElem?_append_left (by simp at hlt; omega)] at hr
        rw [h.table i r hr, ← hdesc hr]
        rfl
    · refine nodup_append.2 ⟨h.nodup, nodup_singleton _, fun r hr q hq => ?_⟩
      rw [mem_singleton.1 hq]
      exact (h.old r hr).ne
    · change update o.books.stage o.next _ r = _ at hr
      rcases eq_or_ne r o.next with rfl | hne
      · rw [update_self] at hr
        cases hr
        simp [h.count]
      · rw [update_of_ne hne] at hr
        obtain ⟨_, hoff⟩ | hr := h.binding r i hr
        · rw [hactive] at hoff
          cases hoff
        · rw [getElem?_append_left (List.getElem?_eq_some_iff.1 hr).1, hr]

/-- **A registration fails**, and its binding is the last one. -/
theorem Inv.bind_failed (hr : o.books.stage r = .binding i)
    (hlast : i + 1 = o.num_bound_synxs.toNat) (hdata : (o.bound_synxs i).external_data = some r) :
    Inv (o.bind_failed r i) := by
  rw [h.count] at hlast
  obtain hnil | ⟨l, b, hbound⟩ := eq_nil_or_concat' o.bound
  · simp [hnil] at hlast
  have hlen : l.length = i := by simpa [hbound] using hlast.symm
  obtain rfl : b = r := by simpa [h.table i b (by simp [hbound, ← hlen])] using hdata
  have hnot : b ∉ l := fun hb => (nodup_append.1 (hbound ▸ h.nodup)).2.2 b hb b mem_cons_self rfl
  have herase : o.bound.erase b = l := by
    rw [hbound, erase_append_right _ hnot]
    simp
  have hnum : (o.num_bound_synxs - 1).toNat = l.length := by
    rw [UInt32.toNat_sub_of_le _ _ (UInt32.le_iff_toNat_le.2 (by rw [h.count, ← hlast]; simp)),
      h.count, hbound]
    simp
  unfold Obj.bind_failed
  rw [herase]
  refine ⟨⟨hnum, ?_, fun j q hq => ?_, h.ledger.finish_of_ne (by simp [hr])⟩,
    (nodup_append.1 (hbound ▸ h.nodup)).1, fun q hq => h.old q (hbound ▸ mem_append_left _ hq),
    h.ops, fun q j hq => .inr ?_⟩
  · have hmax := UInt32.le_iff_toNat_le.1 h.max
    rw [h.count] at hmax
    rw [UInt32.le_iff_toNat_le, hnum]
    omega
  · dsimp only at hq ⊢
    have hj := (List.getElem?_eq_some_iff.1 hq).1
    rw [update_of_ne (by omega)]
    exact h.table j q (by rw [hbound, getElem?_append_left hj, hq])
  · have hne : q ≠ b := fun hqb => by simp [hqb, Books.finish] at hq
    obtain ⟨hnil, _⟩ | hq := h.binding q j (binding_of_update (by simp) q j hq)
    · simp [hnil] at hbound
    have hj := (List.getElem?_eq_some_iff.1 hq).1
    rw [hbound] at hq hj
    rcases eq_or_ne j l.length with rfl | hjl
    · rw [getElem?_concat_length] at hq
      cases hq
      exact absurd rfl hne
    · rwa [getElem?_append_left (by simp at hj; omega)] at hq

/-- **A registration fails**, and its binding is not the last one: the count is wrong, or the slot
still has the record that is freed. -/
theorem Inv.not_good_bind_failed (hr : o.books.stage r = .binding i)
    (hbad : ¬ (i + 1 = o.num_bound_synxs.toNat ∧ (o.bound_synxs i).external_data = some r)) :
    ¬ Good (o.bind_failed r i) := by
  intro hgood
  have hcount : (o.num_bound_synxs - 1).toNat = (o.bound.erase r).length := hgood.count
  rcases h.binding r i hr with ⟨hnil, _⟩ | hb
  · have hnum : o.num_bound_synxs = 0 := by
      rw [← UInt32.toNat_inj, h.count, hnil]
      rfl
    rw [hnum, hnil] at hcount
    cases hcount
  · have hi := (List.getElem?_eq_some_iff.1 hb).1
    have hslot := h.table i r hb
    rw [h.count, hslot] at hbad
    have hlt : i < (o.bound.erase r).length := by
      rw [length_erase_of_mem (mem_of_getElem? hb)]
      simp only [and_true] at hbad
      omega
    have htable := hgood.table i _ (getElem?_eq_getElem hlt)
    have hsame : some r = some (o.bound.erase r)[i] := by
      simpa [Obj.bind_failed, hslot] using congrArg BindDesc.external_data htable
    have hmem := getElem_mem hlt
    rw [← Option.some.inj hsame] at hmem
    exact h.nodup.not_mem_erase hmem

/-- **One careful step** keeps the invariant. -/
theorem Inv.step (a : Act) (hok : Careful o a) : Inv (o.step a) := by
  cases a with
  | synx_bind d alloc => exact h.synx_bind d alloc
  | register_callback r ok =>
    simp only [Obj.step]
    split
    · rename_i i hr
      cases ok with
      | true => exact h.pass (by simp [hr]) (by simp) (by simp)
      | false => exact h.bind_failed hr (hok i hr).1 (hok i hr).2
    · exact h
  | synx_signal status fence luck => exact (h.signal (r := 0) none status fence luck).1
  | external r =>
    simp only [Obj.step]
    split_ifs with hr
    · exact h.pass (by simp [hr]) (by simp) (by simp)
    · exact h
  | synx_external_callback r handle status fence luck =>
    simp only [Obj.step]
    split_ifs with hr hhandle
    · have hs := h.signal (r := r) (o.desc r).id status fence luck
      exact hs.1.finish (by simp [hs.2 hr])
    · exact h.finish (by simp [hr])
    · exact h
  | fence_signaled =>
    refine ⟨⟨h.count, h.max, h.table, h.ledger⟩, h.nodup, h.old, h.ops, fun r i hr => ?_⟩
    exact (h.binding r i hr).imp_left fun hnil => ⟨hnil.1, rfl⟩

lemma Inv.not_good (a : Act) (hbad : ¬ Careful o a) : ¬ Good (o.step a) := by
  cases a with
  | register_callback r ok =>
    cases ok with
    | true => exact absurd trivial hbad
    | false =>
      simp only [Careful, not_forall] at hbad
      obtain ⟨i, hr, hbad⟩ := hbad
      simp only [Obj.step, hr]
      exact h.not_good_bind_failed hr hbad
  | synx_bind | synx_signal | external | synx_external_callback | fence_signaled =>
    exact absurd trivial hbad

end Steps

lemma inv_start (merged external valid : Bool) : Inv (.start merged external valid) := by
  refine ⟨⟨rfl, UInt32.zero_le, nofun, nodup_nil, ?_, fun _ _ => rfl⟩, nodup_nil, nofun, nofun,
    nofun⟩
  simp [Obj.start]

/-- **Bindings survive races exactly when** every registration that fails finds its binding to be
the last one. -/
theorem bindings_iff (merged external valid : Bool) (l : List Act) :
    (∀ l', l' <+: l → Good (Run.exec Obj.step (.start merged external valid) l')) ↔
      Run.Ok Obj.step Careful (.start merged external valid) l :=
  Run.prefix_good_iff (fun _ h => h.toGood) (fun _ a h hok => h.step a hok)
    (fun _ a h hbad => h.not_good a hbad) l (inv_start merged external valid)

/-- The object is signalled before a registration fails: the count wraps. -/
theorem signal_before_failed_bind :
    let o := Run.exec Obj.step (.start false false true)
      [.synx_bind ⟨0, 5⟩ true, .synx_signal 2 true fun _ => true, .register_callback 0 false]
    o.num_bound_synxs = 2 ^ 32 - 1 ∧ o.bound = [] ∧ ¬ Good o := by
  refine ⟨rfl, rfl, fun h => ?_⟩
  cases h.count

end KernelExtra.Synx
