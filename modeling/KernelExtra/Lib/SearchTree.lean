/-
Search trees whose balance is somebody else's business.

A tree is a bare binary tree, a descent is driven by a function that says at each node whether what
is looked for lies before it, at it or after it, and the library that rebalances is any `Balance`,
which keeps the in-order sequence. From that alone it is proved that a descent misses nothing, and
that a new node lands between those before it and those after it.
-/
import Mathlib

namespace KernelExtra

open List

/-- A binary tree. -/
inductive SearchTree (α : Type*) where
  | nil
  | node (left : SearchTree α) (entry : α) (right : SearchTree α)
  deriving Repr

namespace SearchTree

variable {α : Type*}

/-- The in-order sequence, the order of `rb_first` and `rb_next`. -/
def toList : SearchTree α → List α
  | nil => []
  | node l a r => l.toList ++ a :: r.toList

@[simp] lemma toList_nil : (nil : SearchTree α).toList = [] := rfl

@[simp] lemma toList_node (l r : SearchTree α) (a : α) :
    (node l a r).toList = l.toList ++ a :: r.toList := rfl

/-- Descend: `dir a` is `.lt` when what is looked for lies before `a`. -/
def find (dir : α → Ordering) : SearchTree α → Option α
  | nil => none
  | node l a r =>
    match dir a with
    | .lt => l.find dir
    | .gt => r.find dir
    | .eq => some a

/-- Descend to a null link and hang `a` there; `none` if the descent stops at a
node. -/
def link (dir : α → Ordering) (a : α) : SearchTree α → Option (SearchTree α)
  | nil => some (node nil a nil)
  | node l b r =>
    match dir b with
    | .lt => (l.link dir a).map fun l' => node l' b r
    | .gt => (r.link dir a).map fun r' => node l b r'
    | .eq => none

/-- The directions agree with the in-order sequence: what lies before a node lies
before all later ones, what lies after a node lies after all earlier ones. -/
def Directs (dir : α → Ordering) (l : List α) : Prop :=
  l.Pairwise fun a b => (dir a = .lt → dir b = .lt) ∧ (dir b = .gt → dir a = .gt)

variable {dir : α → Ordering}

lemma Directs.node {l r : SearchTree α} {a : α} (h : Directs dir (node l a r).toList) :
    Directs dir l.toList ∧ Directs dir r.toList ∧
      (dir a = .lt → ∀ b ∈ r.toList, dir b = .lt) ∧
      (dir a = .gt → ∀ b ∈ l.toList, dir b = .gt) := by
  rw [Directs, toList_node, pairwise_append, pairwise_cons] at h
  obtain ⟨hl, ⟨har, hr⟩, hla⟩ := h
  refine ⟨hl, hr, ?_, ?_⟩
  · intro ha b hb
    exact (har b hb).1 ha
  · intro ha b hb
    exact (hla b hb a mem_cons_self).2 ha

/-- **A descent misses nothing.** -/
theorem find_eq_none_iff {t : SearchTree α} (ht : Directs dir t.toList) :
    t.find dir = none ↔ ∀ a ∈ t.toList, dir a ≠ .eq := by
  induction t with
  | nil => simp [find]
  | node l b r ihl ihr =>
    obtain ⟨hl, hr, hlt, hgt⟩ := ht.node
    rw [toList_node]
    simp only [mem_append, mem_cons, or_imp, forall_and, forall_eq]
    unfold find
    split
    · -- before `b`: everything to the right lies after what is looked for
      rename_i hb
      rw [ihl hl]
      refine ⟨fun h => ⟨h, by simp [hb], ?_⟩, fun h => h.1⟩
      intro c hc
      simp [hlt hb c hc]
    · rename_i hb
      rw [ihr hr]
      refine ⟨fun h => ⟨?_, by simp [hb], h⟩, fun h => h.2.2⟩
      intro c hc
      simp [hgt hb c hc]
    · rename_i hb
      simp [hb]

lemma link_isSome_iff {t : SearchTree α} {a : α} : (t.link dir a).isSome ↔ t.find dir = none := by
  induction t with
  | nil => simp [link, find]
  | node l b r ihl ihr =>
    unfold link find
    split <;> simp [*]

/-- **A new node lands between those before it and those after it.** -/
theorem link_eq_some {t t' : SearchTree α} {a : α} (ht : Directs dir t.toList)
    (h : t.link dir a = some t') :
    ∃ l r, t.toList = l ++ r ∧ t'.toList = l ++ a :: r ∧
      (∀ b ∈ l, dir b = .gt) ∧ (∀ b ∈ r, dir b = .lt) := by
  induction t generalizing t' with
  | nil =>
    cases h
    exact ⟨[], [], by simp⟩
  | node l b r ihl ihr =>
    obtain ⟨hl, hr, hlt, hgt⟩ := ht.node
    unfold link at h
    split at h
    · rename_i hb
      obtain ⟨l', hl', rfl⟩ := Option.map_eq_some_iff.mp h
      obtain ⟨x, y, hxy, hxay, hx, hy⟩ := ihl hl hl'
      refine ⟨x, y ++ b :: r.toList, by simp [hxy], by simp [hxay], hx, ?_⟩
      simp only [mem_append, mem_cons, or_imp, forall_and, forall_eq]
      exact ⟨hy, hb, hlt hb⟩
    · rename_i hb
      obtain ⟨r', hr', rfl⟩ := Option.map_eq_some_iff.mp h
      obtain ⟨x, y, hxy, hxay, hx, hy⟩ := ihr hr hr'
      refine ⟨l.toList ++ b :: x, y, by simp [hxy], by simp [hxay], ?_, hy⟩
      simp only [mem_append, mem_cons, or_imp, forall_and, forall_eq]
      exact ⟨hgt hb, hb, hx⟩
    · simp at h

/-- What a balancing library owes its callers. -/
structure Balance (α : Type*) [DecidableEq α] where
  insert_color : SearchTree α → SearchTree α
  toList_insert_color : ∀ t, (insert_color t).toList = t.toList
  erase : α → SearchTree α → SearchTree α
  toList_erase : ∀ a t, (erase a t).toList = t.toList.erase a

def ofList : List α → SearchTree α
  | [] => nil
  | a :: l => node nil a (ofList l)

@[simp] lemma toList_ofList (l : List α) : (ofList l).toList = l := by
  induction l with
  | nil => rfl
  | cons a l ih => simp [ofList, ih]

def Balance.none [DecidableEq α] : Balance α where
  insert_color t := t
  toList_insert_color _ := rfl
  erase a t := ofList (t.toList.erase a)
  toList_erase _ _ := toList_ofList _

end SearchTree

end KernelExtra
