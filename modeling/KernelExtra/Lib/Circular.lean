/-
Copies into and out of a circular buffer.

A copy to or from a buffer of `n` bytes starts at an index and goes on at the front once it has come
to the end: two copies in C. The rules say what such a pair makes of the list of bytes that the
buffer holds, in terms of the rings of `Ring.lean`.
-/
import KernelExtra.Lib.Bytes
import KernelExtra.Lib.Ring

namespace KernelExtra.Bytes

open List Nat

def cells (mem : Mem) (first next : ℕ) : Ring UInt8 := ⟨fun i => some (mem i), first, next⟩

/-- A read in two pieces, before and after the end of the ring. -/
def wrapLoad (n : ℕ) (mem : Mem) (start count : ℕ) : List UInt8 :=
  let len := min count (n - start)
  load mem start len ++ load mem 0 (count - len)

/-- The write that goes with it. -/
def wrapStore (n : ℕ) (mem : Mem) (start : ℕ) (data : List UInt8) : Mem :=
  let len := min data.length (n - start)
  store (store mem start (data.take len)) 0 (data.drop len)

variable {n : ℕ} {mem : Mem}

@[simp] lemma length_wrapLoad (start count : ℕ) : (wrapLoad n mem start count).length = count := by
  simp only [wrapLoad, length_append, length_load]
  omega

variable {count : ℕ} {l data : List UInt8}

lemma getElem_wrapLoad {start i : ℕ} (hstart : start < n) (hcount : count ≤ n)
    (hi : i < (wrapLoad n mem start count).length) :
    (wrapLoad n mem start count)[i] = mem ((start + i) % n) := by
  rw [length_wrapLoad] at hi
  simp only [wrapLoad]
  rcases lt_or_ge i (min count (n - start)) with hlt | hge
  · rw [getElem_append_left (by rwa [length_load]), getElem_load,
      mod_eq_of_lt (show start + i < n by omega)]
  · have hwrap : (start + i) % n = 0 + (i - min count (n - start)) := by
      rw [mod_eq_sub_mod (by omega), mod_eq_of_lt (by omega)]
      omega
    rw [getElem_append_right (by rwa [length_load]), getElem_load, length_load, hwrap]

/-- **What is read** from a ring is the front of its list, as far as that goes. -/
theorem take_wrapLoad {first next k : ℕ}
    (h : Ring.Holds n (cells mem first next) l) (hcount : count ≤ n) (hk : k ≤ l.length)
    (hkc : k ≤ count) : (wrapLoad n mem first count).take k = l.take k := by
  apply ext_getElem
  · simp only [length_take, length_wrapLoad]
    omega
  · intro i hi _
    simp only [length_take, length_wrapLoad] at hi
    have hfirst : first < n := h.head_lt
    rw [getElem_take, getElem_take, getElem_wrapLoad hfirst hcount]
    exact Option.some.inj (h.slot i (by omega))

lemma wrapLoad_eq_take {first next : ℕ}
    (h : Ring.Holds n (cells mem first next) l) (hcount : count ≤ l.length) :
    wrapLoad n mem first count = l.take count := by
  have hroom := h.room
  have := take_wrapLoad h (show count ≤ n by omega) hcount (le_refl count)
  rwa [take_of_length_le (by rw [length_wrapLoad])] at this

/-- What was stored is there, and the rest as it was. -/
lemma wrapStore_new {start i : ℕ} (hstart : start < n)
    (hdata : data.length ≤ n) (hi : i < data.length) :
    wrapStore n mem start data ((start + i) % n) = data[i] := by
  simp only [wrapStore]
  rcases lt_or_ge (start + i) n with hlt | hge
  · -- before the end, and out of reach of the second copy
    rw [mod_eq_of_lt hlt, store_of_ge (by rw [length_drop]; omega),
      store_add (by rw [length_take]; omega), getElem_take]
  · have hwrap : (start + i) % n = 0 + (i - (n - start)) := by
      rw [mod_eq_sub_mod hge, mod_eq_of_lt (by omega)]
      omega
    rw [hwrap, store_add (by rw [length_drop]; omega), getElem_drop]
    congr 1
    omega

lemma wrapStore_old {start j : ℕ} (hstart : start < n)
    (hdata : data.length ≤ n) (hj : ∀ i < data.length, j ≠ (start + i) % n) :
    wrapStore n mem start data j = mem j := by
  have hfirst : ∀ i < data.length, start + i < n → j ≠ start + i := by
    intro i hi hlt
    have := hj i hi
    rwa [mod_eq_of_lt hlt] at this
  have hsecond : ∀ i < data.length, n ≤ start + i → j ≠ start + i - n := by
    intro i hi hge
    have := hj i hi
    rwa [mod_eq_sub_mod hge, mod_eq_of_lt (by omega)] at this
  simp only [wrapStore]
  rw [store_of_ge, store]
  · refine if_neg fun hin => ?_
    rw [length_take] at hin
    exact hfirst (j - start) (by omega) (by omega) (by omega)
  · rw [length_drop]
    by_contra hlt
    exact hsecond (j + (n - start)) (by omega) (by omega) (by omega)

/-- **What is written** behind the list of a ring is appended to it. -/
theorem holds_wrapStore {first next : ℕ}
    (h : Ring.Holds n (cells mem first next) l) (hroom : l.length + data.length < n) :
    Ring.Holds n (cells (wrapStore n mem next data) first ((next + data.length) % n))
      (l ++ data) := by
  have hnext : next < n := by
    rw [show next = (cells mem first next).tail from rfl, h.tail_eq]
    exact mod_lt _ (by omega)
  refine h.append hroom (fun i hi => ?_) fun j hj => ?_
  · exact congrArg some (wrapStore_new hnext (by omega) hi)
  · exact congrArg some (wrapStore_old hnext (by omega) hj)

/-! ## Buffers with free-running counters

Where the two ends count all bytes that have ever passed, a buffer of `n` bytes can be
filled to the last one. Byte `pos` of the stream stands at `pos % n`. -/

/-- `l` lies in the ring of `n` bytes from `pos` on. -/
structure At (n : ℕ) (mem : Mem) (pos : ℕ) (l : List UInt8) : Prop where
  room : l.length ≤ n
  byte : ∀ i (hi : i < l.length), mem ((pos + i) % n) = l[i]

lemma At.nil (n : ℕ) (mem : Mem) (pos : ℕ) : At n mem pos [] where
  room := zero_le n
  byte i hi := absurd hi (not_lt_zero i)

variable {pos : ℕ}

lemma At.load (h : At n mem pos l) (hcount : count ≤ l.length) :
    wrapLoad n mem (pos % n) count = l.take count := by
  have hroom := h.room
  apply ext_getElem
  · rw [length_wrapLoad, length_take, min_eq_left hcount]
  · intro i hi hi'
    rw [length_wrapLoad] at hi
    rw [getElem_wrapLoad (mod_lt _ (by omega)) (by omega), mod_add_mod, getElem_take]
    exact h.byte i (by omega)

lemma At.drop {l' : List UInt8} (h : At n mem pos (l ++ l')) : At n mem (pos + l.length) l' where
  room := by
    have := h.room
    rw [length_append] at this
    omega
  byte i hi := by
    rw [add_assoc, h.byte (l.length + i) (by rw [length_append]; omega),
      getElem_append_right (Nat.le_add_right ..)]
    congr 1
    omega

lemma at_mod (n : ℕ) (mem : Mem) (pos : ℕ) (l : List UInt8) :
    At n mem (pos % n) l ↔ At n mem pos l := by
  constructor
  · rintro ⟨hroom, hbyte⟩
    refine ⟨hroom, fun i hi => ?_⟩
    rw [← hbyte i hi, mod_add_mod]
  · rintro ⟨hroom, hbyte⟩
    refine ⟨hroom, fun i hi => ?_⟩
    rw [mod_add_mod, hbyte i hi]

/-- Bytes stored elsewhere leave them. -/
lemma At.keep {k : ℕ} (h : At n mem pos l) (hk : l.length ≤ k)
    (hroom : k + data.length ≤ n) : At n (wrapStore n mem ((pos + k) % n) data) pos l where
  room := h.room
  byte i hi := by
    rw [← h.byte i hi]
    apply wrapStore_old (mod_lt _ (by omega)) (by omega)
    intro j hj heq
    rw [mod_add_mod, add_assoc] at heq
    have := Ring.offset_inj (by omega) (by omega) heq
    omega

/-- Bytes stored behind others extend them. -/
lemma At.store (h : At n mem pos l) (hroom : l.length + data.length ≤ n) :
    At n (wrapStore n mem ((pos + l.length) % n) data) pos (l ++ data) where
  room := by rwa [length_append]
  byte i hi := by
    rw [length_append] at hi
    rcases lt_or_ge i l.length with hlt | hge
    · rw [getElem_append_left hlt]
      exact (h.keep (le_rfl) hroom).byte i hlt
    · have hstart : (pos + l.length) % n < n := mod_lt _ (by omega)
      have hnew := @wrapStore_new n mem data _ _ hstart (by omega)
        (show i - l.length < data.length by omega)
      rw [mod_add_mod, add_assoc, Nat.add_sub_cancel' hge] at hnew
      rw [getElem_append_right hge, hnew]

/-! ## Padded records

A stream of records, each followed by some bytes that are nobody's, so that the next one
starts where `pad` says. -/

section

variable {pad : ℕ → ℕ}

/-- The room that padded records take. -/
def extent (pad : ℕ → ℕ) (rs : List (List UInt8)) : ℕ := (rs.map fun r => pad r.length).sum

@[simp] lemma extent_nil : extent pad [] = 0 := rfl

@[simp] lemma extent_cons (r : List UInt8) (rs : List (List UInt8)) :
    extent pad (r :: rs) = pad r.length + extent pad rs := by
  rw [extent, map_cons, sum_cons, extent]

@[simp] lemma extent_append (rs rs' : List (List UInt8)) :
    extent pad (rs ++ rs') = extent pad rs + extent pad rs' := by
  rw [extent, map_append, sum_append_nat, extent, extent]

/-- From position `pos` of the stream on, the buffer holds these records. -/
def Records (pad : ℕ → ℕ) (n : ℕ) (mem : Mem) : ℕ → List (List UInt8) → Prop
  | _, [] => True
  | pos, r :: rs => At n mem pos r ∧ Records pad n mem (pos + pad r.length) rs

variable {rs : List (List UInt8)}

lemma records_mod {pos : ℕ} (h : Records pad n mem pos rs) : Records pad n mem (pos % n) rs := by
  -- only the sum of the position and an offset is ever reduced
  have hgen : ∀ (rs : List (List UInt8)) (p q : ℕ), p % n = q % n →
      Records pad n mem p rs → Records pad n mem q rs := by
    intro rs
    induction rs with
    | nil => exact fun _ _ _ _ => trivial
    | cons r rs ih =>
      rintro p q heq ⟨hr, hrs⟩
      refine ⟨?_, ih _ _ (Nat.ModEq.add_right _ heq) hrs⟩
      rw [← at_mod, ← heq, at_mod]
      exact hr
  exact hgen rs pos _ (mod_mod _ _).symm h

lemma records_snoc {pos : ℕ} {r : List UInt8} :
    Records pad n mem pos (rs ++ [r]) ↔
      Records pad n mem pos rs ∧ At n mem (pos + extent pad rs) r := by
  induction rs generalizing pos with
  | nil => simp only [nil_append, Records, extent_nil, add_zero, and_true, true_and]
  | cons r' rs ih =>
    rw [cons_append, Records, Records, ih, extent_cons, add_assoc, and_assoc]

lemma Records.keep (hpad : ∀ k, k ≤ pad k) {pos k : ℕ}
    {data : List UInt8} (h : Records pad n mem pos rs) (hk : extent pad rs ≤ k)
    (hroom : k + data.length ≤ n) :
    Records pad n (wrapStore n mem ((pos + k) % n) data) pos rs := by
  induction rs generalizing pos k with
  | nil => trivial
  | cons r rs ih =>
    rw [extent_cons] at hk
    have hr := hpad r.length
    refine ⟨h.1.keep (by omega) hroom, ?_⟩
    have := @ih _ (k - pad r.length) h.2 (by omega) (by omega)
    rwa [add_assoc, Nat.add_sub_cancel' (by omega)] at this

end

lemma toNat_sub_of_count {a b : UInt32} {m k : ℕ} (ha : a.toNat = m % 2 ^ 32)
    (hb : b.toNat = k % 2 ^ 32) (hle : k ≤ m) (hlt : m - k < 2 ^ 32) : (a - b).toNat = m - k := by
  rw [UInt32.toNat_sub, ha, hb]
  omega

lemma toNat_add_of_count {a b : UInt32} {m k : ℕ} (ha : a.toNat = m % 2 ^ 32)
    (hb : b.toNat = k) : (a + b).toNat = (m + k) % 2 ^ 32 := by
  rw [UInt32.toNat_add, ha, hb, mod_add_mod]

end KernelExtra.Bytes
