/-
The import warehouse of a context, and who uses the descriptors in it.

`hab_mem_import` looks for a descriptor under `imp_lock` and uses it after it has dropped the lock;
`hab_mem_unimport` takes one out and frees it afterwards; `hab_ctx_free` frees all of them.
Reference counts keep `hab_ctx_free` from running too early, and nothing protects a descriptor from
`hab_mem_unimport`. If `hab_mem_import` finds none, it inspects the head of the list.

The calls are cut where they take or drop a lock.
-/
import KernelExtra.Hab.Import
import KernelExtra.Lib.Heap
import KernelExtra.Lib.Run
import KernelExtra.Lib.Tally

namespace KernelExtra.Hab

open Run (exec Ok)
open Bytes List

/-! ## The context -/

def Desc.export_id (exp : Desc) : ℕ := le exp.mem exp_export_id.off exp_export_id.len
def Desc.pchan (exp : Desc) : ℕ := le exp.mem exp_pchan.off exp_pchan.len

namespace Warehouse

/-- A vchan of the context. -/
structure Chan where
  id : ℤ
  pchan : ℕ
  otherend_closed : Bool
  closed : Bool
  listed : Bool
  refcount : ℕ
  deriving DecidableEq

/-- The arguments of an import or unimport. -/
structure Param where
  vcid : ℤ
  exportid : ℕ
  sizebytes : ℕ
  index : ℕ
  kernel : Bool
  deriving DecidableEq

/-- Where a call is between two looks at the warehouse. -/
inductive Call where
  | lookup (vchan : ℕ) (param : Param)
  | check (vchan : ℕ) (param : Param) (exp : Option ℕ)
  | map (vchan : ℕ) (param : Param) (exp : ℕ)
  | create (vchan : ℕ) (param : Param) (exp : ℕ)
  | finish (vchan : ℕ) (param : Param) (exp : ℕ) (ready : Bool)
  | remove (vchan : ℕ) (exportid : ℕ)
  | unmap (vchan : ℕ) (exp : ℕ)
  | put (vchan : ℕ)
  | done
  deriving DecidableEq

/-- One context, with its warehouse and the calls under way. -/
structure World where
  heap : Heap Desc
  imp_whse : List ℕ
  vchans : List Chan
  /-- The file has not been closed: it holds the context. -/
  opened : Bool
  refcount : ℕ
  calls : List Call

/-- What a step meets: the outcomes of the import, what is found in memory that has been freed,
and the address of the mapping. -/
structure Luck where
  import_meets : Circumstances
  garbage : Desc
  kva : ℕ

namespace World

variable (s : World)

def start : World := ⟨.empty, [], [], true, 1, []⟩

def hab_get_vchan_fromvcid (vcid : ℤ) (ignore_remote : Bool) : Option ℕ :=
  (s.vchans.findIdx? fun v => v.listed && v.id = vcid).filter fun i =>
    match s.vchans[i]? with
    | none => false
    | some v => !((!ignore_remote && v.otherend_closed) || v.closed || v.refcount = 0)

def enter (i : ℕ) (call : Call) : World :=
  { s with
    vchans := s.vchans.modify i fun v => { v with refcount := v.refcount + 1 }
    calls := s.calls ++ [call] }

def with_call (t : ℕ) (call : Call) : World := { s with calls := s.calls.set t call }

def hab_ctx_free : World :=
  { s with
    heap := s.imp_whse.foldl Heap.free s.heap
    imp_whse := [] }

def hab_ctx_put : World :=
  let s' := { s with refcount := s.refcount - 1 }
  if s'.refcount = 0 then s'.hab_ctx_free else s'

def hab_vchan_put (i : ℕ) : World :=
  match s.vchans[i]? with
  | none => s
  | some v =>
    let s' := { s with vchans := s.vchans.set i { v with refcount := v.refcount - 1 } }
    if v.refcount - 1 = 0 then s'.hab_ctx_put else s'

def is_wanted (exportid pchan a : ℕ) : Bool :=
  match s.heap.cell a with
  | none => false
  | some exp => exp.export_id = exportid && exp.pchan = pchan

def pchan_of (i : ℕ) : ℕ :=
  match s.vchans[i]? with
  | none => 0
  | some v => v.pchan

def find (vchan exportid : ℕ) : Option ℕ :=
  s.imp_whse.find? (s.is_wanted exportid (s.pchan_of vchan))

def read (luck : Luck) (exp : Option ℕ) : Desc := (exp.bind s.heap.cell).getD luck.garbage

def imported (param : Param) (kva : ℕ) (exp : Desc) : Desc :=
  { exp with
    mem := store (store exp.mem exp_import_index.off (toLe exp_import_index.len param.index))
      exp_kva.off (toLe exp_kva.len (if param.kernel then kva else 0)) }

def go (t : ℕ) (luck : Luck) : Call → World
  | .lookup vchan param => s.with_call t (.check vchan param (s.find vchan param.exportid))
  | .check vchan param exp =>
    if (s.read luck exp).payload_count * 2 ^ PAGE_SHIFT % 2 ^ 32 ≠ param.sizebytes then
      s.with_call t (.put vchan)
    else
      match exp with
      | none => s.with_call t (.put vchan)
      | some exp => s.with_call t (.map vchan param exp)
  | .map vchan param exp =>
    if luck.import_meets.imported then s.with_call t (.finish vchan param exp true)
    else s.with_call t (.create vchan param exp)
  | .create vchan param exp =>
    match (pages_list_create (s.read luck (some exp)) luck.import_meets).1 with
    | .error _ => s.with_call t (.finish vchan param exp false)
    | .ok _ => s.with_call t (.finish vchan param exp true)
  | .finish vchan param exp ready =>
    let s' :=
      if ready && luck.import_meets.dma_buf then
        { s with heap := s.heap.put exp (imported param luck.kva (s.read luck (some exp))) }
      else s
    s'.with_call t (.put vchan)
  | .remove vchan exportid =>
    match s.find vchan exportid with
    | none => s.with_call t (.put vchan)
    | some exp => { s with imp_whse := s.imp_whse.erase exp }.with_call t (.unmap vchan exp)
  | .unmap vchan exp => { s with heap := s.heap.free exp }.with_call t (.put vchan)
  | .put vchan => (s.with_call t .done).hab_vchan_put vchan
  | .done => s

end World

/-- What happens next. Nothing begins in a context that has been freed. -/
inductive Act where
  | open_vchan (id : ℤ) (pchan : ℕ)
  | stop (vchan : ℕ)
  | close (vchan : ℕ)
  | get (vchan : ℕ)
  | release
  | arrive (vchan : ℕ) (exp : Desc)
  | hab_mem_import (param : Param)
  | hab_mem_unimport (vcid : ℤ) (exportid : ℕ)
  | go (t : ℕ) (luck : Luck)

def World.step (s : World) : Act → World
  | .open_vchan id pchan =>
    if s.opened then
      { s with
        vchans := s.vchans ++ [⟨id, pchan, false, false, true, 1⟩]
        refcount := s.refcount + 1 }
    else s
  | .stop i => { s with vchans := s.vchans.modify i fun v => { v with otherend_closed := true } }
  | .close i =>
    match s.vchans[i]? with
    | none => s
    | some v =>
      if v.listed then
        { s with
          vchans := s.vchans.set i { v with closed := true, listed := false }
          calls := s.calls ++ [.put i] }
      else s
  | .get i =>
    match s.vchans[i]? with
    | none => s
    | some v => if v.refcount = 0 then s else s.enter i (.put i)
  | .release =>
    if s.opened ∧ ∀ v ∈ s.vchans, v.listed = false then { s with opened := false }.hab_ctx_put
    else s
  | .arrive i exp =>
    match s.vchans[i]? with
    | none => s
    | some v =>
      if v.otherend_closed || v.closed || v.refcount = 0 then s
      else { s with heap := s.heap.alloc exp, imp_whse := s.imp_whse ++ [s.heap.next] }
  | .hab_mem_import param =>
    match s.hab_get_vchan_fromvcid param.vcid false with
    | none => s
    | some i => s.enter i (.lookup i param)
  | .hab_mem_unimport vcid exportid =>
    match s.hab_get_vchan_fromvcid vcid true with
    | none => s
    | some i => s.enter i (.remove i exportid)
  | .go t luck =>
    match s.calls[t]? with
    | none => s
    | some call => s.go t luck call

/-! ## Imports touch stored descriptors only -/

def accesses (s : World) : Act → List (Option ℕ)
  | .go t _ =>
    match s.calls[t]? with
    | some (.lookup vchan param) =>
      let wanted := s.is_wanted param.exportid (s.pchan_of vchan)
      (s.imp_whse.takeWhile (!wanted ·) ++ (s.imp_whse.find? wanted).toList).map some
    | some (.check _ _ exp) => [exp]
    | some (.map _ _ exp) | some (.create _ _ exp) | some (.finish _ _ exp _) => [some exp]
    | _ => []
  | _ => []

def Stored (s : World) (p : Option ℕ) : Prop :=
  ∃ a, p = some a ∧ a ∈ s.imp_whse ∧ s.heap.cell a ≠ none

/-- An import only touches descriptors that are in the warehouse and not freed. -/
def Sound (s : World) : Prop := ∀ a, ∀ p ∈ accesses s a, Stored s p

def Call.exp : Call → Option (Option ℕ)
  | .check _ _ exp => some exp
  | .map _ _ exp | .create _ _ exp | .finish _ _ exp _ => some (some exp)
  | _ => none

/-- An import asks for a descriptor that is there; and a descriptor is not taken
out while an import that has found it is under way. -/
def Careful (s : World) : Act → Prop
  | .go t _ =>
    match s.calls[t]? with
    | some (.lookup vchan param) => s.find vchan param.exportid ≠ none
    | some (.remove vchan exportid) =>
      ∀ exp, s.find vchan exportid = some exp → ∀ c ∈ s.calls, c.exp ≠ some (some exp)
    | _ => True
  | _ => True

/-! ## The invariant -/

def Call.vchan : Call → Option ℕ
  | .lookup i _ | .check i _ _ | .map i _ _ | .create i _ _ | .finish i _ _ _ | .remove i _
  | .unmap i _ | .put i => some i
  | .done => none

def Call.removed : Call → Option ℕ
  | .unmap _ exp => some exp
  | _ => none

def World.holders (s : World) (i : ℕ) : ℕ := s.calls.countP fun c => c.vchan = some i

/-- The warehouse is in order, imports use what is in it, and the channels count the calls
that hold them. -/
structure Base (s : World) : Prop where
  live : ∀ a ∈ s.imp_whse, s.heap.cell a ≠ none
  nodup : s.imp_whse.Nodup
  used : ∀ c ∈ s.calls, ∀ p, c.exp = some p → ∃ a, p = some a ∧ a ∈ s.imp_whse
  removed : ∀ c ∈ s.calls, ∀ a, c.removed = some a → a ∉ s.imp_whse ∧ a < s.heap.next
  held : ∀ c ∈ s.calls, ∀ i, c.vchan = some i → i < s.vchans.length
  vrefs : ∀ i v, s.vchans[i]? = some v → v.refcount = v.listed.toNat + s.holders i

/-- The count of references is right. -/
structure Inv (s : World) : Prop extends Base s where
  refs : s.refcount = s.opened.toNat + s.vchans.countP (0 < ·.refcount)

lemma Call.vchan_of_exp {c : Call} {p : Option ℕ} (h : c.exp = some p) : ∃ i, c.vchan = some i := by
  cases c with
  | lookup i _ | check i _ _ | map i _ _ | create i _ _ | finish i _ _ _ | remove i _
  | unmap i _ | put i => exact ⟨i, rfl⟩
  | done => cases h

lemma Call.vchan_of_removed {c : Call} {a : ℕ} (h : c.removed = some a) :
    ∃ i, c.vchan = some i := by
  cases c with
  | unmap i _ => exact ⟨i, rfl⟩
  | lookup | check | map | create | finish | remove | put | done => cases h

lemma Call.removed_of_exp {c : Call} {p : Option ℕ} (h : c.exp = some p) : c.removed = none := by
  cases c with
  | unmap => cases h
  | lookup | check | map | create | finish | remove | put | done => rfl

lemma inv_start : Inv .start where
  live := nofun
  nodup := nodup_nil
  used := nofun
  removed := nofun
  held := nofun
  vrefs := fun _ _ h => absurd h (by simp [World.start])
  refs := rfl

section Steps

variable {s : World} {t : ℕ} {c c' : Call}

lemma holders_with_call (ht : s.calls[t]? = some c) (hv : c'.vchan = c.vchan) (i : ℕ) :
    (s.with_call t c').holders i = s.holders i := by
  have hcount := Tally.countP_set_add (p := fun c => decide (c.vchan = some i)) ht c'
  rw [hv] at hcount
  exact add_right_cancel hcount

lemma Base.with_call (h : Base s) (ht : s.calls[t]? = some c) (hv : c'.vchan = c.vchan)
    (hexp : ∀ p, c'.exp = some p → ∃ a, p = some a ∧ a ∈ s.imp_whse)
    (hremoved : ∀ a, c'.removed = some a → a ∉ s.imp_whse ∧ a < s.heap.next) :
    Base (s.with_call t c') where
  live := h.live
  nodup := h.nodup
  used d hd := by
    rcases mem_or_eq_of_mem_set hd with hd | rfl
    · exact h.used d hd
    · exact hexp
  removed d hd := by
    rcases mem_or_eq_of_mem_set hd with hd | rfl
    · exact h.removed d hd
    · exact hremoved
  held d hd := by
    rcases mem_or_eq_of_mem_set hd with hd | rfl
    · exact h.held d hd
    · rw [hv]
      exact h.held c (mem_of_getElem? ht)
  vrefs i v hi := by
    rw [holders_with_call ht hv]
    exact h.vrefs i v hi

lemma Inv.with_idle (h : Inv s) (ht : s.calls[t]? = some c) (hv : c'.vchan = c.vchan)
    (hexp : c'.exp = none) (hremoved : c'.removed = none) : Inv (s.with_call t c') :=
  { h.toBase.with_call ht hv (fun p hp => absurd (hexp.symm.trans hp) (by simp))
      (fun a ha => absurd (hremoved.symm.trans ha) (by simp)) with
    refs := h.refs }

lemma Inv.with_exp (h : Inv s) (ht : s.calls[t]? = some c) (hv : c'.vchan = c.vchan) {a : ℕ}
    (hexp : c'.exp = some (some a)) (ha : a ∈ s.imp_whse) : Inv (s.with_call t c') :=
  { h.toBase.with_call ht hv
      (fun p hp => ⟨a, Option.some.inj (hp.symm.trans hexp), ha⟩)
      (fun b hb => absurd ((Call.removed_of_exp hexp).symm.trans hb) (by simp)) with
    refs := h.refs }

lemma Base.ctx_put (h : Base s)
    (hrefs : s.refcount = s.opened.toNat + s.vchans.countP (0 < ·.refcount) + 1) :
    Inv s.hab_ctx_put := by
  simp only [World.hab_ctx_put]
  split_ifs with hzero
  · have hfree : ∀ v ∈ s.vchans, v.refcount = 0 := by
      have hcount : s.vchans.countP (0 < ·.refcount) = 0 := by omega
      intro v hv
      have := countP_eq_zero.mp hcount v hv
      rw [decide_eq_true_eq] at this
      omega
    have hidle : ∀ c ∈ s.calls, c.vchan = none := by
      intro c hc
      by_contra hsome
      obtain ⟨i, hi⟩ := Option.ne_none_iff_exists'.mp hsome
      have hlt := h.held c hc i hi
      have hvrefs := h.vrefs i _ (getElem?_eq_getElem hlt)
      have hpos : 0 < s.holders i := countP_pos_iff.mpr ⟨c, hc, decide_eq_true hi⟩
      rw [hfree _ (getElem_mem hlt)] at hvrefs
      omega
    exact
      { live := nofun
        nodup := nodup_nil
        used := by
          intro c hc p hp
          obtain ⟨i, hi⟩ := Call.vchan_of_exp hp
          exact absurd ((hidle c hc).symm.trans hi) (by simp)
        removed := by
          intro c hc a ha
          obtain ⟨i, hi⟩ := Call.vchan_of_removed ha
          exact absurd ((hidle c hc).symm.trans hi) (by simp)
        held := h.held
        vrefs := h.vrefs
        refs := by
          rw [hrefs, Nat.add_sub_cancel]
          rfl }
  · exact { h with refs := by change s.refcount - 1 = _; rw [hrefs, Nat.add_sub_cancel] }

variable {i : ℕ} {v v' : Chan} {calls : List Call}

/-- A channel and the calls change together: nothing new is used, and the calls that hold
another channel are as many as before. -/
lemma Base.set_vchan (h : Base s) (hv : s.vchans[i]? = some v) (hcalls : ∀ c ∈ calls, c ∈ s.calls ∨
      c.exp = none ∧ c.removed = none ∧ (c.vchan = none ∨ c.vchan = some i))
    (hself : v'.refcount = v'.listed.toNat + calls.countP fun c => c.vchan = some i)
    (hother : ∀ j, i ≠ j → (calls.countP fun c => c.vchan = some j) = s.holders j) :
    Base { s with vchans := s.vchans.set i v', calls } where
  live := h.live
  nodup := h.nodup
  used c hc p hp := by
    rcases hcalls c hc with hc | ⟨hexp, -⟩
    · exact h.used c hc p hp
    · exact absurd (hexp.symm.trans hp) (by simp)
  removed c hc a ha := by
    rcases hcalls c hc with hc | ⟨-, hremoved, -⟩
    · exact h.removed c hc a ha
    · exact absurd (hremoved.symm.trans ha) (by simp)
  held c hc j hj := by
    rw [length_set]
    rcases hcalls c hc with hc | ⟨-, -, hnone | hsome⟩
    · exact h.held c hc j hj
    · exact absurd (hnone.symm.trans hj) (by simp)
    · cases hsome.symm.trans hj
      exact (List.getElem?_eq_some_iff.mp hv).1
  vrefs j w hw := by
    rcases eq_or_ne i j with rfl | hne
    · rw [getElem?_set_self (List.getElem?_eq_some_iff.mp hv).1] at hw
      cases hw
      exact hself
    · rw [getElem?_set_ne hne] at hw
      change w.refcount = w.listed.toNat + calls.countP _
      rw [hother j hne]
      exact h.vrefs j w hw

lemma Inv.put (h : Inv s) (ht : s.calls[t]? = some (.put i)) :
    Inv ((s.with_call t .done).hab_vchan_put i) := by
  have hlt := h.held _ (mem_of_getElem? ht) i rfl
  obtain ⟨v, hv⟩ : ∃ v, s.vchans[i]? = some v := ⟨_, getElem?_eq_getElem hlt⟩
  have hholders : ∀ j, (s.with_call t .done).holders j + (decide (some i = some j)).toNat =
      s.holders j := fun j =>
    Tally.countP_set_add ht .done
  have hself := hholders i
  rw [decide_eq_true rfl, Bool.toNat_true] at hself
  have hvrefs := h.vrefs i v hv
  have hbase : Base { s.with_call t .done with
      vchans := s.vchans.set i { v with refcount := v.refcount - 1 } } := by
    apply h.set_vchan hv
    · intro c hc
      rcases mem_or_eq_of_mem_set hc with hc | rfl
      · exact .inl hc
      · exact .inr ⟨rfl, rfl, .inl rfl⟩
    · change v.refcount - 1 = v.listed.toNat + (s.with_call t .done).holders i
      omega
    · intro j hne
      have hj := hholders j
      rwa [decide_eq_false (fun heq => hne (Option.some.inj heq)), Bool.toNat_false] at hj
  have hcount := Tally.countP_set_add (p := fun w : Chan => decide (0 < w.refcount)) hv
    { v with refcount := v.refcount - 1 }
  rw [decide_eq_true (show 0 < v.refcount by omega), Bool.toNat_true] at hcount
  have hrefs := h.refs
  unfold World.hab_vchan_put
  rw [show (s.with_call t .done).vchans[i]? = some v from hv]
  dsimp only
  by_cases hlast : v.refcount - 1 = 0
  · rw [if_pos hlast]
    apply hbase.ctx_put
    rw [decide_eq_false (show ¬ 0 < v.refcount - 1 by omega), Bool.toNat_false] at hcount
    change s.refcount = s.opened.toNat + countP _ (s.vchans.set i _) + 1
    omega
  · rw [if_neg hlast]
    rw [decide_eq_true (show 0 < v.refcount - 1 by omega), Bool.toNat_true] at hcount
    refine { hbase with refs := ?_ }
    change s.refcount = s.opened.toNat + countP _ (s.vchans.set i _)
    omega

/-- A call that holds channel `i` begins. -/
lemma Inv.join (h : Inv s) (hv : s.vchans[i]? = some v) (hvchan : c.vchan = some i)
    (hexp : c.exp = none) (hremoved : c.removed = none)
    (hrefs : v'.refcount = v'.listed.toNat + s.holders i + 1)
    (hpos : 0 < v'.refcount ↔ 0 < v.refcount) :
    Inv { s with vchans := s.vchans.set i v', calls := s.calls ++ [c] } := by
  have hbase : Base { s with vchans := s.vchans.set i v', calls := s.calls ++ [c] } := by
    apply h.set_vchan hv
    · intro d hd
      rcases mem_append.mp hd with hd | hd
      · exact .inl hd
      · rw [mem_singleton.mp hd]
        exact .inr ⟨hexp, hremoved, .inr hvchan⟩
    · rw [countP_append, countP_singleton, if_pos (decide_eq_true hvchan), ← add_assoc]
      exact hrefs
    · intro j hne
      have hc : c.vchan ≠ some j := by
        rw [hvchan]
        exact fun heq => hne (Option.some.inj heq)
      rw [countP_append, countP_singleton, if_neg (by rwa [decide_eq_true_eq])]
      rfl
  have hcount := Tally.countP_set_add (p := fun w : Chan => decide (0 < w.refcount)) hv v'
  rw [decide_eq_decide.mpr hpos] at hcount
  refine { hbase with refs := ?_ }
  rw [add_right_cancel hcount, h.refs]

lemma Inv.enter (h : Inv s) (hv : s.vchans[i]? = some v) (hpos : v.refcount ≠ 0)
    (hvchan : c.vchan = some i) (hexp : c.exp = none) (hremoved : c.removed = none) :
    Inv (s.enter i c) := by
  unfold World.enter
  rw [modify_eq_set_getElem?, hv]
  apply h.join hv hvchan hexp hremoved
  · rw [h.vrefs i v hv]
  · change 0 < v.refcount + 1 ↔ _
    omega

lemma Inv.with_heap (h : Inv s) {heap : Heap Desc} (hnext : heap.next = s.heap.next)
    (hlive : ∀ a ∈ s.imp_whse, heap.cell a ≠ none) : Inv { s with heap } :=
  { h with
    live := hlive
    removed := by
      rw [hnext]
      exact h.removed }

lemma Inv.go (h : Inv s) (luck : Luck) (ht : s.calls[t]? = some c)
    (hcareful : Careful s (.go t luck)) : Inv (s.go t luck c) := by
  have hmem := mem_of_getElem? ht
  simp only [Careful, ht] at hcareful
  cases c with
  | lookup i param =>
    obtain ⟨a, ha⟩ := Option.ne_none_iff_exists'.mp hcareful
    simp only [World.go, ha]
    exact h.with_exp ht rfl rfl (mem_of_find?_eq_some ha)
  | check i param exp =>
    obtain ⟨a, rfl, ha⟩ := h.used _ hmem exp rfl
    simp only [World.go]
    split_ifs
    · exact h.with_idle ht rfl rfl rfl
    · exact h.with_exp ht rfl rfl ha
  | map i param exp =>
    obtain ⟨a, hexp, ha⟩ := h.used _ hmem _ rfl
    cases hexp
    simp only [World.go]
    split_ifs <;> exact h.with_exp ht rfl rfl ha
  | create i param exp =>
    obtain ⟨a, hexp, ha⟩ := h.used _ hmem _ rfl
    cases hexp
    simp only [World.go]
    split <;> exact h.with_exp ht rfl rfl ha
  | finish i param exp ready =>
    simp only [World.go]
    split_ifs
    · have hput : ∀ v, Inv { s with heap := s.heap.put exp v } := by
        intro v
        apply h.with_heap (s.heap.next_put exp v)
        intro b hb hnone
        change (if b = exp then (s.heap.cell exp).map _ else s.heap.cell b) = none at hnone
        split_ifs at hnone with heq
        · exact h.live b hb (by rw [heq]; exact Option.map_eq_none_iff.mp hnone)
        · exact h.live b hb hnone
      exact (hput _).with_idle ht rfl rfl rfl
    · exact h.with_idle ht rfl rfl rfl
  | remove i exportid =>
    cases hfind : s.find i exportid with
    | none =>
      simp only [World.go, hfind]
      exact h.with_idle ht rfl rfl rfl
    | some exp =>
      have hunused := hcareful exp hfind
      simp only [World.go, hfind]
      have hout : Inv { s with imp_whse := s.imp_whse.erase exp } :=
        { h with
          live := fun b hb => h.live b (mem_of_mem_erase hb)
          nodup := h.nodup.erase exp
          used := by
            intro d hd p hp
            obtain ⟨a, rfl, ha⟩ := h.used d hd p hp
            refine ⟨a, rfl, (mem_erase_of_ne ?_).mpr ha⟩
            rintro rfl
            exact hunused d hd hp
          removed := fun d hd a ha =>
            ⟨fun hin => (h.removed d hd a ha).1 (mem_of_mem_erase hin),
              (h.removed d hd a ha).2⟩ }
      obtain ⟨_, hcell⟩ := Option.ne_none_iff_exists'.mp
        (h.live exp (mem_of_find?_eq_some hfind))
      have hbase := @Base.with_call _ t _ (.unmap i exp) hout.toBase ht rfl
        (fun p hp => by cases hp)
        (by
          rintro a ⟨⟩
          exact ⟨h.nodup.not_mem_erase, Heap.lt_next hcell⟩)
      exact { hbase with refs := h.refs }
  | unmap i exp =>
    have hout := (h.removed _ hmem exp rfl).1
    have hfree : Inv { s with heap := s.heap.free exp } := by
      apply h.with_heap (s.heap.next_free exp)
      intro b hb
      change (if b = exp then none else s.heap.cell b) ≠ none
      rw [if_neg (fun heq : b = exp => hout (heq ▸ hb))]
      exact h.live b hb
    exact hfree.with_idle ht rfl rfl rfl
  | put i => exact h.put ht
  | done => exact h

lemma get_vchan_spec {vcid : ℤ} {ignore_remote : Bool}
    (hget : s.hab_get_vchan_fromvcid vcid ignore_remote = some i) :
    ∃ v, s.vchans[i]? = some v ∧ v.refcount ≠ 0 := by
  have hlive := (Option.filter_eq_some_iff.mp hget).2
  cases hv : s.vchans[i]? with
  | none => simp [hv] at hlive
  | some v =>
    simp only [hv, Bool.not_eq_true', Bool.or_eq_false_iff, decide_eq_false_iff_not] at hlive
    exact ⟨v, rfl, hlive.2⟩

lemma Inv.open_vchan (h : Inv s) (id : ℤ) (pchan : ℕ) : Inv (s.step (.open_vchan id pchan)) := by
  simp only [World.step]
  split_ifs
  · have hheld : ∀ c ∈ s.calls, c.vchan ≠ some s.vchans.length := fun c hc hlen =>
      absurd (h.held c hc _ hlen) (lt_irrefl _)
    refine { h with held := ?_, vrefs := ?_, refs := ?_ }
    · intro c hc i hi
      rw [length_append]
      exact Nat.lt_add_right 1 (h.held c hc i hi)
    · intro i v hi
      change v.refcount = v.listed.toNat + s.holders i
      rcases lt_or_ge i s.vchans.length with hlt | hge
      · rw [getElem?_append_left hlt] at hi
        exact h.vrefs i v hi
      · rw [getElem?_append_right hge] at hi
        obtain ⟨hlt, rfl⟩ := List.getElem?_eq_some_iff.mp hi
        rw [length_singleton] at hlt
        have hnew : i = s.vchans.length := by omega
        have hnone : s.holders i = 0 :=
          countP_eq_zero.mpr fun c hc => by
            rw [hnew, decide_eq_true_eq]
            exact hheld c hc
        rw [hnone]
        simp [hnew]
    · rw [countP_append, h.refs]
      rfl
  · exact h

lemma Inv.arrive (h : Inv s) (exp : Desc) :
    Inv { s with heap := s.heap.alloc exp, imp_whse := s.imp_whse ++ [s.heap.next] } := by
  have hnew : s.heap.next ∉ s.imp_whse := fun hin =>
    h.live _ hin (s.heap.fresh _ (le_rfl))
  refine { h with live := ?_, nodup := ?_, used := ?_, removed := ?_ }
  · intro a ha
    change (if a = s.heap.next then some exp else s.heap.cell a) ≠ none
    split_ifs with heq
    · exact Option.some_ne_none exp
    · rcases mem_append.mp ha with ha | ha
      · exact h.live a ha
      · exact absurd (mem_singleton.mp ha) heq
  · rw [nodup_append]
    refine ⟨h.nodup, nodup_singleton _, ?_⟩
    intro a ha b hb hab
    rw [hab, mem_singleton.mp hb] at ha
    exact hnew ha
  · intro c hc p hp
    obtain ⟨a, hpa, ha⟩ := h.used c hc p hp
    exact ⟨a, hpa, mem_append_left _ ha⟩
  · intro c hc a ha
    obtain ⟨hout, hlt⟩ := h.removed c hc a ha
    refine ⟨?_, Nat.lt_succ_of_lt hlt⟩
    rw [mem_append, mem_singleton]
    rintro (hin | heq)
    · exact hout hin
    · omega

lemma Inv.step (h : Inv s) (a : Act) (hcareful : Careful s a) : Inv (s.step a) := by
  cases a with
  | open_vchan id pchan => exact h.open_vchan id pchan
  | stop i =>
    simp only [World.step]
    refine { h with held := ?_, vrefs := ?_, refs := ?_ }
    · rw [length_modify]
      exact h.held
    · intro j w hw
      rw [getElem?_modify] at hw
      obtain ⟨v, hv, rfl⟩ := Option.map_eq_some_iff.mp hw
      have := h.vrefs j v hv
      split_ifs <;> exact this
    · rw [Tally.countP_modify, h.refs]
      exact fun _ _ => rfl
  | close i =>
    simp only [World.step]
    split
    · exact h
    · rename_i v hv
      split_ifs with hlisted
      · refine h.join hv rfl rfl rfl ?_ .rfl
        have hcount := h.vrefs i v hv
        rw [hlisted, Bool.toNat_true] at hcount
        change v.refcount = 0 + s.holders i + 1
        omega
      · exact h
  | get i =>
    simp only [World.step]
    split
    · exact h
    · rename_i v hv
      split_ifs with hzero
      · exact h
      · exact h.enter hv hzero rfl rfl rfl
  | release =>
    simp only [World.step]
    split_ifs with hlast
    · have hbase : Base { s with opened := false } := { h with }
      apply hbase.ctx_put
      have := h.refs
      rw [hlast.1, Bool.toNat_true] at this
      change s.refcount = 0 + s.vchans.countP _ + 1
      omega
    · exact h
  | arrive i exp =>
    simp only [World.step]
    split
    · exact h
    · split_ifs
      · exact h
      · exact h.arrive exp
  | hab_mem_import param =>
    simp only [World.step]
    split
    · exact h
    · rename_i i hget
      obtain ⟨v, hv, hpos⟩ := get_vchan_spec hget
      exact h.enter hv hpos rfl rfl rfl
  | hab_mem_unimport vcid exportid =>
    simp only [World.step]
    split
    · exact h
    · rename_i i hget
      obtain ⟨v, hv, hpos⟩ := get_vchan_spec hget
      exact h.enter hv hpos rfl rfl rfl
  | go t luck =>
    simp only [World.step]
    split
    · exact h
    · rename_i c ht
      exact h.go luck ht hcareful

/-! ## Which runs are sound -/

lemma Inv.sound (h : Inv s) : Sound s := by
  intro a p hp
  have hstored : ∀ b ∈ s.imp_whse, Stored s (some b) := fun b hb => ⟨b, rfl, hb, h.live b hb⟩
  cases a with
  | go t luck =>
    simp only [accesses] at hp
    cases ht : s.calls[t]? with
    | none => simp [ht] at hp
    | some c =>
      have hused : ∀ q, c.exp = some q → Stored s q := by
        intro q hq
        obtain ⟨b, rfl, hb⟩ := h.used c (mem_of_getElem? ht) q hq
        exact hstored b hb
      rw [ht] at hp
      cases c with
      | lookup i param =>
        obtain ⟨b, hb, rfl⟩ := mem_map.mp hp
        rcases mem_append.mp hb with hb | hb
        · exact hstored b (takeWhile_subset _ hb)
        · exact hstored b (mem_of_find?_eq_some (Option.mem_toList.mp hb))
      | check | map | create | finish =>
        rw [mem_singleton.mp hp]
        exact hused _ rfl
      | remove | unmap | put | done => exact absurd hp not_mem_nil
  | open_vchan | stop | close | get | release | arrive | hab_mem_import | hab_mem_unimport =>
    exact absurd hp not_mem_nil

lemma stored_of_sound (h : Sound s) (luck : Luck) (ht : s.calls[t]? = some c) {p : Option ℕ}
    (hexp : c.exp = some p) : Stored s p := by
  apply h (.go t luck)
  simp only [accesses, ht]
  cases c with
  | check | map | create | finish =>
    cases hexp
    exact mem_singleton_self _
  | lookup | remove | unmap | put | done => cases hexp

lemma Inv.not_sound (h : Inv s) (a : Act) (hcareless : ¬ Careful s a) : ¬ Sound (s.step a) := by
  intro hsound
  apply hcareless
  cases a with
  | go t luck =>
    cases ht : s.calls[t]? with
    | none => simp [Careful, ht]
    | some c =>
      have hlt := (List.getElem?_eq_some_iff.mp ht).1
      simp only [Careful, ht]
      simp only [World.step, ht] at hsound
      cases c with
      | lookup i param =>
        intro hnone
        obtain ⟨_, hhead, -⟩ := @stored_of_sound _ t _ hsound luck
          (getElem?_set_self hlt) none (by rw [hnone]; rfl)
        cases hhead
      | remove i exportid =>
        intro exp hfind d hd hexp
        obtain ⟨t', ht'⟩ := getElem?_of_mem hd
        have hne : t ≠ t' := by
          rintro rfl
          rw [ht] at ht'
          cases ht'
          cases hexp
        simp only [World.go, hfind] at hsound
        obtain ⟨b, hb, hin, -⟩ := @stored_of_sound _ t' d hsound luck
          ((getElem?_set_ne hne).trans ht') _ hexp
        cases hb
        exact h.nodup.not_mem_erase hin
      | check | map | create | finish | unmap | put | done => trivial
  | open_vchan | stop | close | get | release | arrive | hab_mem_import | hab_mem_unimport =>
    trivial

end Steps

/-- **Imports and live descriptors.** -/
theorem import_live_iff (l : List Act) :
    (∀ l', l' <+: l → Sound (exec World.step .start l')) ↔
      Ok World.step Careful .start l :=
  Run.prefix_good_iff (fun _ h => h.sound) (fun _ a h hc => h.step a hc)
    (fun _ a h hc => h.not_sound a hc) l inv_start

def one_page : Desc :=
  ⟨108, fun i => if i = 0 then 5 else if i = 84 then 1 else if i = 96 then 1
    else if i = 100 then 1 else 0⟩

def some_luck : Luck := ⟨smooth_import, one_page, 0⟩

def found : List Act :=
  [.open_vchan 1 0, .arrive 0 one_page, .hab_mem_import ⟨1, 5, 4096, 0, true⟩, .go 0 some_luck]

def not_found : List Act :=
  [.open_vchan 1 0, .arrive 0 one_page, .hab_mem_import ⟨1, 9, 4096, 0, true⟩, .go 0 some_luck]

def unimported : List Act :=
  [.hab_mem_unimport 1 5, .go 1 some_luck, .go 1 some_luck]

/-- **Not a descriptor, and one that has been freed.** -/
theorem import_touches_others :
    (let s := exec World.step .start not_found
     accesses s (.go 0 some_luck) = [none]) ∧
    (let s := exec World.step .start (found ++ unimported)
     accesses s (.go 0 some_luck) = [some 0] ∧ (s.heap.cell 0).isNone = true) ∧
    ¬ Sound (exec World.step .start not_found) ∧
    ¬ Sound (exec World.step .start (found ++ unimported)) := by
  refine ⟨by decide +kernel, by decide +kernel, ?_, ?_⟩
  · intro h
    have hhead : none ∈ accesses (exec World.step .start not_found) (.go 0 some_luck) := by
      decide +kernel
    obtain ⟨_, habsurd, -⟩ := h _ _ hhead
    cases habsurd
  · intro h
    have hfreed : some 0 ∈ accesses (exec World.step .start (found ++ unimported))
        (.go 0 some_luck) := by
      decide +kernel
    obtain ⟨a, ha, hin, -⟩ := h _ _ hfreed
    cases ha
    exact absurd hin (by decide +kernel)

end Warehouse

end KernelExtra.Hab
