/-
The SLIMbus framework: channels, and the two arrays the scheduler works on, `slimbus.c` 1656-1910.

Channels that take part in the schedule are also listed in `chc1` or `chc3`, by the coefficient of
their rate, in the order in which they will be packed. `usedslots` is what they take up together.
Where a product or a sum of numbers can wrap, `u32` says so.
-/
import Mathlib

namespace KernelExtra.Slimbus

/-! ## Constants -/

def SLIM_SL_PER_SUPERFRAME : ℕ := 1536
def SLIM_CL_PER_SL : ℕ := 4
def SLIM_CL_PER_SUPERFRAME_DIV8 : ℕ := 768
def SLIM_FRM_SLOTS_PER_SUPERFRAME : ℕ := 16
def SLIM_GDE_SLOTS_PER_SUPERFRAME : ℕ := 2
def SLIM_MAX_CLK_GEAR : ℕ := 10
def SLIM_MAX_INTR_COEFF_1 : ℕ := 1536
def SLIM_MAX_INTR_COEFF_3 : ℕ := 512

def EIO : ℤ := 5
def ENXIO : ℤ := 6
def ENOMEM : ℤ := 12
def EINVAL : ℤ := 22
def EXFULL : ℤ := 54
def EPROTONOSUPPORT : ℤ := 93
def EISCONN : ℤ := 106
def ENOTCONN : ℤ := 107
def EDQUOT : ℤ := 122

def u32 (n : ℕ) : ℕ := n % 2 ^ 32

/-- An `int` stored in a `u32`. -/
def u32_of_int (n : ℤ) : ℕ := (n % 2 ^ 32).toNat

/-! ## Channels -/

inductive ChState
  | FREE | ALLOCATED | DEFINED | PENDING_ACTIVE | ACTIVE | SUSPENDED | PENDING_REMOVAL
  deriving DecidableEq

def ChState.rank : ChState → ℕ
  | .FREE => 0
  | .ALLOCATED => 1
  | .DEFINED => 2
  | .PENDING_ACTIVE => 3
  | .ACTIVE => 4
  | .SUSPENDED => 5
  | .PENDING_REMOVAL => 6

instance : LT ChState := ⟨fun a b => a.rank < b.rank⟩
instance : LE ChState := ⟨fun a b => a.rank ≤ b.rank⟩
instance (a b : ChState) : Decidable (a < b) := inferInstanceAs (Decidable (a.rank < b.rank))
instance (a b : ChState) : Decidable (a ≤ b) := inferInstanceAs (Decidable (a.rank ≤ b.rank))

@[simp] lemma ChState.not_lt {a b : ChState} : ¬ a < b ↔ b ≤ a := Nat.not_lt

inductive ChProto
  | HARD_ISO | AUTO_ISO | PUSH | PULL | ASYNC_SMPLX | ASYNC_HALF_DUP | EXT_SMPLX | EXT_HALF_DUP
  deriving DecidableEq

def ChProto.toNat : ChProto → ℕ
  | .HARD_ISO => 0
  | .AUTO_ISO => 1
  | .PUSH => 2
  | .PULL => 3
  | .ASYNC_SMPLX => 4
  | .ASYNC_HALF_DUP => 5
  | .EXT_SMPLX => 6
  | .EXT_HALF_DUP => 7

inductive ChRate
  | RATE_1HZ | RATE_4000HZ | RATE_11025HZ
  deriving DecidableEq

inductive Coeff
  | COEFF_1 | COEFF_3
  deriving DecidableEq

/-- What a client asks of a channel. -/
structure Ch where
  prot : ChProto
  baser : ChRate
  dataf : ℕ
  auxf : ℕ
  ratem : ℕ
  sampleszbits : ℕ
  deriving DecidableEq

/-- A channel of the controller. -/
structure Ich where
  prop : Ch
  coeff : Coeff
  state : ChState
  nextgrp : ℕ
  prrate : ℕ
  offset : ℕ
  newoff : ℕ
  interval : ℕ
  newintr : ℕ
  seglen : ℕ
  rootexp : ℕ
  srch : ℕ
  sinkh : List ℕ
  chan : ℕ
  ref : ℕ
  def_ : ℕ
  deriving DecidableEq

/-- The slots that the channel takes of a superframe. -/
def Ich.sl (slc : Ich) : UInt32 :=
  .ofNat (match slc.coeff with
    | .COEFF_1 => slc.seglen * 2 ^ slc.rootexp
    | .COEFF_3 => slc.seglen * 2 ^ slc.rootexp * 3)

/-! ## The controller -/

/-- `struct slim_controller`. `allocbw`: the controller has a scheduler of its own. `wrapped`
records that a subtraction from `usedslots` has gone below zero. -/
structure Ctrl where
  chans : ℕ → Ich
  chc1 : List ℕ
  chc3 : List ℕ
  usedslots : UInt32
  msgsl : UInt32
  pending_msgsl : UInt32
  subfrmcode : ℕ
  clkgear : ℕ
  min_cg : ℕ
  max_cg : ℕ
  allocbw : Bool
  rootfreq : ℕ
  superfreq : ℕ
  wrapped : Bool

def Ich.free : Ich where
  prop := ⟨.HARD_ISO, .RATE_1HZ, 0, 0, 0, 0⟩
  coeff := .COEFF_1
  state := .FREE
  nextgrp := 0
  prrate := 0
  offset := 0
  newoff := 0
  interval := 0
  newintr := 0
  seglen := 0
  rootexp := 0
  srch := 0
  sinkh := []
  chan := 0
  ref := 0
  def_ := 0

def Ctrl.registered : Ctrl where
  chans _ := .free
  chc1 := []
  chc3 := []
  usedslots := 0
  msgsl := 0
  pending_msgsl := 0
  subfrmcode := 0
  clkgear := 10
  min_cg := 1
  max_cg := 10
  allocbw := false
  rootfreq := 3072000
  superfreq := 4000
  wrapped := false

section

variable (ctrl : Ctrl)

/-- The array for a coefficient. -/
def Ctrl.arr : Coeff → List ℕ
  | .COEFF_1 => ctrl.chc1
  | .COEFF_3 => ctrl.chc3

def Ctrl.set_arr (coeff : Coeff) (l : List ℕ) : Ctrl :=
  match coeff with
  | .COEFF_1 => { ctrl with chc1 := l }
  | .COEFF_3 => { ctrl with chc3 := l }

def Ctrl.set_chan (c : ℕ) (slc : Ich) : Ctrl :=
  { ctrl with chans := Function.update ctrl.chans c slc }

def Ctrl.set_state (c : ℕ) (state : ChState) : Ctrl :=
  ctrl.set_chan c { ctrl.chans c with state := state }

def Ctrl.add_slots (sl : UInt32) : Ctrl :=
  if ctrl.allocbw then ctrl else { ctrl with usedslots := ctrl.usedslots + sl }

/-- Slots are taken off; the ghost flag remembers when there were fewer. -/
def Ctrl.sub_slots (sl : UInt32) : Ctrl :=
  if ctrl.allocbw then ctrl
  else { ctrl with
    usedslots := ctrl.usedslots - sl
    wrapped := ctrl.wrapped || decide (ctrl.usedslots < sl) }

end

/-! ## The arrays -/

/-- Does `slc` belong behind `x`? Primary key: exponent, low to high. Secondary key: segment
length, high to low. -/
def Ich.behind (slc x : Ich) : Bool :=
  decide (x.rootexp < slc.rootexp) ||
    (decide (slc.rootexp = x.rootexp) && decide (slc.seglen < x.seglen))

/-- `slim_add_ch` looks for the place of the channel. -/
def insert_ch (chans : ℕ → Ich) (c : ℕ) (arr : List ℕ) : List ℕ :=
  arr.takeWhile (fun x => (chans c).behind (chans x)) ++
    c :: arr.dropWhile (fun x => (chans c).behind (chans x))

def slim_add_ch (ctrl : Ctrl) (c : ℕ) : Ctrl :=
  let slc := ctrl.chans c
  if .ACTIVE ≤ slc.state then ctrl
  else
    (ctrl.set_arr slc.coeff (insert_ch ctrl.chans c (ctrl.arr slc.coeff))).add_slots slc.sl

/-- A channel that is taken off its array is as it was before it was defined, up to its
parameters. -/
def Ich.reset (slc : Ich) : Ich :=
  { slc with state := .ALLOCATED, def_ := 0, newintr := 0, newoff := 0, sinkh := [], srch := 0 }

/-- The channel is taken off its array and reset. -/
def slim_remove_ch (ctrl : Ctrl) (c : ℕ) : Ctrl × ℤ :=
  let slc := ctrl.chans c
  let arr := ctrl.arr slc.coeff
  if c ∈ arr then ((ctrl.set_arr slc.coeff (arr.erase c)).set_chan c slc.reset, 0)
  else (ctrl, -EXFULL)

/-! ## The parameters of a channel -/

/-- The loop that writes a rate as a coefficient, 1 or 3, and a power of two, rounding up. On zero
the loop of the source does not end. -/
def to_coeff_exp : ℕ → ℕ → ℕ → Bool → Option (ℕ × ℕ × Bool)
  | 0, _, _, _ => none
  | fuel + 1, coeff, exp, exact =>
    if coeff % 2 ≠ 1 then to_coeff_exp fuel (coeff / 2) (exp + 1) exact
    else if 3 < coeff then to_coeff_exp fuel (u32 (coeff + 1)) exp false
    else some (coeff, exp, exact)

def coeff_exp_fuel : ℕ := 128

/-- The presence rate, if there is one. -/
def slim_calc_prrate (prop : Ch) : Option ℕ :=
  if ChProto.ASYNC_SMPLX.toNat ≤ prop.prot.toNat then some 0
  else
    let rate4k := prop.ratem / 4000
    let rate11k := if u32 (rate4k * 4000) = prop.ratem then 0 else prop.ratem / 11025
    let (ratefam, rate, exact) : ChRate × ℕ × Bool :=
      match prop.baser with
      | .RATE_1HZ =>
        if u32 (rate4k * 4000) = prop.ratem then (.RATE_4000HZ, rate4k, true)
        else if u32 (rate11k * 11025) = prop.ratem then (.RATE_11025HZ, rate11k, true)
        else if u32 ((rate4k + 1) * 4000) < u32 ((rate11k + 1) * 11025) then
          (.RATE_4000HZ, rate4k + 1, false)
        else (.RATE_11025HZ, rate11k + 1, false)
      | baser => (baser, prop.ratem, true)
    match to_coeff_exp coeff_exp_fuel rate 0 exact with
    | none => none
    | some (rate, exp, exact) =>
      let (pr, exp) := match ratefam with
        | .RATE_4000HZ => if rate = 1 then (0x10, exp) else (0, exp + 1)
        | _ => (8, exp + 1)
      some (if exp ≤ 7 then (pr ||| exp) ||| (if exact then 0x80 else 0) else 0)

/-- `slim_nextdefine_ch`: segment length, coefficient and exponent. -/
def slim_nextdefine_ch (ctrl : Ctrl) (chan : ℕ) : Option (Ctrl × ℤ) :=
  let slc := ctrl.chans chan
  let prop := slc.prop
  match slim_calc_prrate prop with
  | none => none
  | some prrate =>
    let slc := { slc with prrate := prrate }
    let chrate := match prop.baser with
      | .RATE_4000HZ => u32 (4000 * prop.ratem)
      | .RATE_11025HZ => u32 (11025 * prop.ratem)
      | .RATE_1HZ => prop.ratem
    -- max allowed sample freq = 768 seg/frame
    if 3600000 < chrate then some (ctrl.set_chan chan slc, -EDQUOT)
    else
      let (coeff, exact) : ℕ × Bool :=
        if prop.baser = .RATE_4000HZ ∧ ctrl.superfreq = 4000 then (prop.ratem, true)
        else if prop.baser = .RATE_11025HZ ∧ ctrl.superfreq = 3675 then (u32 (3 * prop.ratem), true)
        else
          let tempr := u32 (chrate * SLIM_CL_PER_SUPERFRAME_DIV8)
          let coeff := tempr / ctrl.rootfreq
          if u32 (coeff * ctrl.rootfreq) ≠ tempr then (coeff + 1, false) else (coeff, true)
      match to_coeff_exp coeff_exp_fuel coeff 0 exact with
      | none => none
      | some (coeff, exp, exact) =>
        if prop.prot = .HARD_ISO ∧ exact = false then
          some (ctrl.set_chan chan slc, -EPROTONOSUPPORT)
        else
          let prop := if prop.prot = .AUTO_ISO then
              { prop with prot := if exact then .HARD_ISO else .PUSH }
            else prop
          let seglen := prop.sampleszbits / SLIM_CL_PER_SL
          let seglen := if prop.prot ≠ .HARD_ISO then seglen + 1 else seglen
          let seglen := if ChProto.EXT_SMPLX.toNat ≤ prop.prot.toNat then seglen + 1 else seglen
          let ret := if coeff = 1 then (if 9 < exp then - EIO else 0)
            else (if 8 < exp then - EIO else 0)
          some (ctrl.set_chan chan { slc with
            prop := prop
            rootexp := exp
            seglen := seglen
            coeff := if coeff = 1 then .COEFF_1 else .COEFF_3 }, ret)

end KernelExtra.Slimbus
