/-
The SLIMbus scheduler: `slimbus.c` 2133-2618 and 2695-2805.

Channels are packed level by level, from long intervals to short ones. At a level the interval
`curintr` is cut in two halves of `curmaxsl` slots, and two counters say how many slots at the
bottom of each half are still open. With channels of both coefficients there are six counters more.

Here the channels still to be packed are the rest of a list.
-/
import KernelExtra.Slimbus.State
import KernelExtra.Lib.Loop

namespace KernelExtra.Slimbus

open KernelExtra.Loop Function

/-! ## Control space -/

/-- `getsubfrmcoding`: the code of a subframe mode, with the control space cut down to a
width that has a code, and the slots for messages. -/
def getsubfrmcoding (ctrlw subfrml : ℕ) : ℕ × ℕ × ℕ × ℕ :=
  if ctrlw = subfrml then
    (0, 8, 8, SLIM_SL_PER_SUPERFRAME - SLIM_FRM_SLOTS_PER_SUPERFRAME
      - SLIM_GDE_SLOTS_PER_SUPERFRAME)
  else
    let (code, msgsl) :=
      if subfrml = 6 then (0, 256)
      else if subfrml = 8 then (1, 192)
      else if subfrml = 24 then (2, 64)
      else (3, 48)
    let (code, ctrlw) :=
      if ctrlw < 8 then
        if 6 ≤ ctrlw then (code ||| 0x14, 6)
        else
          let ctrlw := if ctrlw = 5 then 4 else ctrlw
          (code ||| (ctrlw <<< 2), ctrlw)
      else
        let code := u32 (code + 2 ^ 32 - 2)
        if 24 ≤ ctrlw then (code ||| 0x1e, 24)
        else if 16 ≤ ctrlw then (code ||| 0x1c, 16)
        else if 12 ≤ ctrlw then (code ||| 0x1a, 12)
        else (code ||| 0x18, 8)
    (code, ctrlw, subfrml, u32 (msgsl * ctrlw + 2 ^ 32 - SLIM_FRM_SLOTS_PER_SUPERFRAME
      - SLIM_GDE_SLOTS_PER_SUPERFRAME))

def Ich.shift (slc : Ich) (shft : ℕ) : Ich :=
  if slc.state = .PENDING_REMOVAL then slc
  else
    let newoff := u32 (slc.newoff + shft)
    { slc with newoff := if slc.newintr ≤ newoff then newoff - slc.newintr else newoff }

def shiftsegoffsets (chans : ℕ → Ich) (ach : List ℕ) (shft : ℕ) : ℕ → Ich :=
  ach.foldl (fun chans c => update chans c ((chans c).shift shft)) chans

/-! ## One channel in two halves -/

/-- The counters of the two halves, for an interval of half the size. -/
def halve (curmaxsl : ℕ) (open0 open1 : ℤ) : ℤ × ℤ :=
  let open1 := if open1 < open0 then open1 - curmaxsl else open0 - curmaxsl
  let open0 : ℤ := curmaxsl
  if open1 < 0 then (open0 + open1, 0) else (open0, open1)

/-- Where a channel goes, and what is open afterwards. `full` stands for `-EXFULL`. -/
structure Placed where
  newoff : ℕ
  open0 : ℤ
  open1 : ℤ
  full : Bool

/-- Where a channel of coefficient 1 goes, and what is left of the halves. -/
def place_4k (slc : Ich) (last : Bool) (curmaxsl : ℕ) (open0 open1 : ℤ) : Placed :=
  if open0 ≤ open1 ∨ (last = true ∧ open0 = curmaxsl) then
    let open1 := open1 - slc.seglen
    let newoff := u32_of_int (curmaxsl + open1)
    if open1 < 0 ∧ open0 = curmaxsl then ⟨newoff, open0 + open1, 0, decide (open0 + open1 < 0)⟩
    else ⟨newoff, open0, open1, false⟩
  else if open0 < slc.seglen then ⟨slc.newoff, open0, open1, true⟩
  else ⟨u32_of_int (open0 - slc.seglen), open0 - slc.seglen, open1, false⟩

/-- The same for coefficient 3. -/
def place_12k (slc : Ich) (last : Bool) (curmaxsl : ℕ) (open0 open1 : ℤ) : Placed :=
  if open0 ≤ open1 ∨ (last = true ∧ open0 = curmaxsl) then
    let open1 := open1 - slc.seglen
    let newoff := u32_of_int (curmaxsl + open1)
    let (open0, open1) :=
      if open1 < 0 ∧ open0 = curmaxsl then (open0 + open1, 0) else (open0, open1)
    ⟨newoff, open0, open1, decide (open0 < 0)⟩
  else if open0 < slc.seglen then ⟨slc.newoff, open0, open1, true⟩
  else ⟨u32_of_int (open0 - slc.seglen), open0 - slc.seglen, open1, false⟩

def Placed.write (r : Placed) (slc : Ich) (newintr : ℕ) : Ich :=
  if r.full then { slc with newoff := r.newoff }
  else { slc with newoff := r.newoff, newintr := newintr }

/-- The channel's turn at this level. -/
def Ich.due (slc : Ich) (expshft curexp : ℕ) : Bool := decide (curexp = slc.rootexp + expshft)

def Ich.removed (slc : Ich) : Bool := decide (slc.state = .PENDING_REMOVAL)

/-! ## Channels of coefficient 1 only -/

/-- Where the 4k family stands: the channels, what is open, and the result so far. -/
structure Pass where
  chans : ℕ → Ich
  open0 : ℤ
  open1 : ℤ
  ret : ℤ

/-- One channel of the 4k family. -/
def step_4k (curintr curmaxsl finalexp : ℕ) (p : Pass) (c : ℕ) : Pass :=
  let slc1 := p.chans c
  let last := decide (finalexp = slc1.rootexp) && decide (curintr ≤ 24)
  let r := place_4k slc1 last curmaxsl p.open0 p.open1
  { chans := update p.chans c (r.write slc1 curintr)
    open0 := r.open0
    open1 := r.open1
    ret := if r.full then -EXFULL else p.ret }

def slim_sched_4k_coeff1_chans (expshft curintr curmaxsl curexp finalexp : ℕ) :
    List ℕ → Pass → List ℕ × Pass :=
  walk (fun p c => (p.chans c).due expshft curexp) (fun p c => (p.chans c).removed)
    (fun p => decide (p.ret ≠ 0)) (step_4k curintr curmaxsl finalexp)

/-- The loop over the levels of one family. -/
structure Levels where
  pass : Pass
  rest : List ℕ
  curintr : ℕ
  curmaxsl : ℕ
  curexp : ℕ

/-- One level: the interval is halved, and its channels are placed. -/
def level_4k (expshft finalexp : ℕ) (r : Levels) : Levels :=
  let curintr := r.curintr / 2
  let curmaxsl := r.curmaxsl / 2
  let (open0, open1) := halve curmaxsl r.pass.open0 r.pass.open1
  let p := { r.pass with open0, open1 }
  if open0 ≤ 0 then ⟨{ p with ret := -EXFULL }, r.rest, curintr, curmaxsl, r.curexp⟩
  else
    let (rest, p) := slim_sched_4k_coeff1_chans expshft curintr curmaxsl r.curexp finalexp r.rest p
    ⟨p, rest, curintr, curmaxsl, r.curexp + 1⟩

def level_fuel : ℕ := 1537

def sched_4k_levels (expshft finalexp : ℕ) (r : Levels) : Option Levels :=
  whileLoop (fun r => decide (r.rest ≠ []) || decide (24 < r.curintr))
    (fun r => decide (r.pass.ret ≠ 0)) (level_4k expshft finalexp) level_fuel r

/-- What the scheduler returns. -/
structure Sched where
  chans : ℕ → Ich
  ctrlw : ℕ
  subfrml : ℕ
  ret : ℤ

/-- The channels that are to have a place. -/
def scheduled (chans : ℕ → Ich) (arr : List ℕ) : List ℕ :=
  arr.filter fun c => decide ((chans c).state ≠ .PENDING_REMOVAL)

def from_first (chans : ℕ → Ich) (arr : List ℕ) : List ℕ :=
  arr.dropWhile fun c => decide ((chans c).state = .PENDING_REMOVAL)

/-- The exponent of the last channel, where the schedule ends. -/
def last_exp (chans : ℕ → Ich) (arr : List ℕ) : Option ℕ :=
  (scheduled chans arr).getLast?.map fun c => (chans c).rootexp

/-- The subframe length and the room for control at its front. -/
def subframe_4k (curintr curmaxsl : ℕ) (open0 open1 : ℤ) : ℕ × ℤ :=
  let maxctrlw1 := if open0 = curmaxsl then open0 + open1 else open0
  if 24 ≤ curintr then (24, maxctrlw1)
  else if curintr = 12 then
    if open1 * 4 < maxctrlw1 then (24, maxctrlw1) else (6, open1)
  else (6, maxctrlw1)

def finish_4k (chc1 : List ℕ) (r : Levels) : Sched :=
  let chans := r.pass.chans
  let open0 := r.pass.open0
  let open1 := r.pass.open1
  if r.pass.ret ≠ 0 then ⟨chans, 0, 0, r.pass.ret⟩
  -- leave some slots for messaging space
  else if open1 ≤ 0 ∧ open0 ≤ 0 then ⟨chans, 0, 0, -EXFULL⟩
  else if open0 < open1 then
    let (subfrml, ctrlw) := subframe_4k r.curintr r.curmaxsl open1 open0
    ⟨shiftsegoffsets chans chc1 r.curmaxsl, u32_of_int ctrlw, subfrml, 0⟩
  else
    let (subfrml, ctrlw) := subframe_4k r.curintr r.curmaxsl open0 open1
    ⟨chans, u32_of_int ctrlw, subfrml, 0⟩

/-- The branch for channels of coefficient 1 only. -/
def sched_coeff1 (ctrl : Ctrl) (clkgear : ℕ) (finalexp : ℕ) : Sched :=
  let expshft := SLIM_MAX_CLK_GEAR - clkgear
  let curintr := (SLIM_MAX_INTR_COEFF_1 * 2) >>> expshft
  let curmaxsl := curintr >>> 1
  match sched_4k_levels expshft finalexp
    ⟨⟨ctrl.chans, curmaxsl, curmaxsl, 0⟩, from_first ctrl.chans ctrl.chc1, curintr, curmaxsl,
      expshft⟩ with
  | none => ⟨ctrl.chans, 0, 0, -EXFULL⟩
  | some r => finish_4k ctrl.chc1 r

/-! ## Channels of both coefficients -/

/-- Where both families stand: what is open modulo the interval of the 12k family, and in the six
halves. -/
structure Pass3 where
  chans : ℕ → Ich
  open3_0 : ℤ
  open3_1 : ℤ
  open1 : ℕ → ℤ
  open1valid : Bool
  ret : ℤ

/-- One channel of the 12k family, next to the other. -/
def step_12k (curintr curmaxsl finalexp : ℕ) (only3 : Bool) (p : Pass3) (c : ℕ) : Pass3 :=
  let slc3 := p.chans c
  let last := decide (finalexp = slc3.rootexp) && decide (curintr ≤ 32) && only3
  let r := place_12k slc3 last curmaxsl p.open3_0 p.open3_1
  { p with
    chans := update p.chans c (r.write slc3 curintr)
    open3_0 := r.open0
    open3_1 := r.open1
    open1valid := false
    ret := if r.full then -EXFULL else p.ret }

def sched_12k_chans (expshft curintr curmaxsl curexp finalexp : ℕ) (only3 : Bool) :
    List ℕ → Pass3 → List ℕ × Pass3 :=
  walk (fun p c => (p.chans c).due expshft curexp) (fun p c => (p.chans c).removed)
    (fun p => decide (p.ret ≠ 0)) (step_12k curintr curmaxsl finalexp only3)

/-- The halves at a new level: `2 * i + 1` and the half below it come from halves `i` and `i + 3`.
-/
def halve6 (curmaxsl : ℕ) (open1p : ℕ → ℤ) (j : ℕ) : ℤ :=
  let i := j / 2
  let open1 := (if open1p i < open1p (i + 3) then open1p i else open1p (i + 3)) - curmaxsl
  if j % 2 = 1 then (if open1 < 0 then 0 else open1)
  else if open1 < 0 then curmaxsl + open1 else curmaxsl

/-- The six counters of the 4k family at a level: halved, or copies of the two. -/
def open1_records (curmaxsl : ℕ) (p : Pass3) : Pass3 :=
  if p.open1valid then
    let open1 := halve6 curmaxsl p.open1
    if open1 0 < 0 ∨ open1 2 < 0 ∨ open1 4 < 0 then { p with open1, ret := -EXFULL }
    else { p with open1 }
  else { p with open1 := fun j => if j % 2 = 0 then p.open3_0 else p.open3_1 }

def max_open (open1 : ℕ → ℤ) : ℕ :=
  ([5, 2, 4, 1, 3, 0].foldl
    (fun (m : ℤ × ℕ) i => if m.1 < open1 i then (open1 i, i) else m) (0, 0)).2

/-- A channel of coefficient 1 goes where there is most room. -/
def place_6 (slc : Ich) (curmaxsl : ℕ) (p : Pass3) : Pass3 × ℕ :=
  let maxi := max_open p.open1
  let left := p.open1 maxi - slc.seglen
  let newoff := u32_of_int (curmaxsl * maxi + left)
  let open1 := update p.open1 maxi left
  if left < 0 ∧ maxi % 2 = 1 ∧ open1 (maxi - 1) = curmaxsl then
    let below := open1 (maxi - 1) + left
    ({ p with
        open1 := update (update open1 (maxi - 1) below) maxi 0
        open3_0 := if below < p.open3_0 then below else p.open3_0
        open3_1 := 0
        ret := if below < 0 then -EXFULL else p.ret }, newoff)
  else if left < 0 then ({ p with open1, ret := -EXFULL }, newoff)
  else if maxi % 2 = 1 then
    ({ p with open1, open3_1 := if left < p.open3_1 then left else p.open3_1 }, newoff)
  else ({ p with open1, open3_0 := if left < p.open3_0 then left else p.open3_0 }, newoff)

def step_6 (curintr curmaxsl : ℕ) (p : Pass3) (c : ℕ) : Pass3 :=
  let slc1 := p.chans c
  let (p, newoff) := place_6 slc1 curmaxsl { p with open1valid := true }
  let slc1 := { slc1 with newoff := newoff }
  let slc1 := if p.ret ≠ 0 then slc1 else { slc1 with newintr := curintr * 3 }
  { p with chans := update p.chans c slc1 }

def sched_4k_chans (expshft curintr curmaxsl curexp : ℕ) : List ℕ → Pass3 → List ℕ × Pass3 :=
  walk (fun p c => (p.chans c).due expshft curexp) (fun p c => (p.chans c).removed)
    (fun p => decide (p.ret ≠ 0)) (step_6 curintr curmaxsl)

/-- The loop over the levels of both families. -/
structure Levels3 where
  pass : Pass3
  rest1 : List ℕ
  rest3 : List ℕ
  curintr : ℕ
  curmaxsl : ℕ
  curexp : ℕ

/-- One level of both families. -/
def level_12k (expshft finalexp : ℕ) (only3 : Bool) (r : Levels3) : Levels3 :=
  let curintr := r.curintr / 2
  let curmaxsl := r.curmaxsl / 2
  let (open3_0, open3_1) := halve curmaxsl r.pass.open3_0 r.pass.open3_1
  let p := { r.pass with open3_0, open3_1 }
  if open3_0 ≤ 0 then
    ⟨{ p with ret := -EXFULL }, r.rest1, r.rest3, curintr, curmaxsl, r.curexp⟩
  else
    let (rest3, p) := sched_12k_chans expshft curintr curmaxsl r.curexp finalexp only3 r.rest3 p
    if p.ret ≠ 0 then ⟨p, r.rest1, rest3, curintr, curmaxsl, r.curexp⟩
    else
      let p := open1_records curmaxsl p
      if p.ret ≠ 0 then ⟨p, r.rest1, rest3, curintr, curmaxsl, r.curexp⟩
      else
        let (rest1, p) := sched_4k_chans expshft curintr curmaxsl r.curexp r.rest1 p
        ⟨p, rest1, rest3, curintr, curmaxsl, r.curexp + 1⟩

def sched_12k_levels (expshft finalexp : ℕ) (only3 : Bool) (r : Levels3) : Option Levels3 :=
  whileLoop (fun r => decide (r.rest1 ≠ []) || decide (r.rest3 ≠ []) || decide (32 < r.curintr))
    (fun r => decide (r.pass.ret ≠ 0)) (level_12k expshft finalexp only3) level_fuel r

def max_ctrlw1 (curmaxsl : ℕ) (open1 : ℕ → ℤ) : ℤ :=
  ([0, 1, 2, 3, 4].foldl
    (fun (m : ℤ × Bool) i =>
      if m.2 && decide (open1 i = curmaxsl) then (m.1 + open1 (i + 1), true) else (m.1, false))
    (open1 0, true)).1

def subframe_12k (curintr curmaxsl : ℕ) (open3_0 open3_1 : ℤ) (open1 : ℕ → ℤ) : ℕ × ℤ :=
  let maxctrlw3 := if open3_0 = curmaxsl then open3_0 + open3_1 else open3_0
  let maxctrlw1 := max_ctrlw1 curmaxsl open1
  if 32 ≤ curintr then (32, maxctrlw3)
  else if curintr = 16 then
    if open3_1 * 4 < maxctrlw3 then (32, maxctrlw3) else (8, open3_1)
  else if maxctrlw3 * 24 ≤ maxctrlw1 * 8 then (24, maxctrlw1)
  else (8, maxctrlw3)

/-- After the loop over the levels. Moving the better half to the front turns the six halves by one.
-/
def finish_12k (chc1 chc3 : List ℕ) (r : Levels3) : Sched :=
  let p := r.pass
  if p.ret ≠ 0 then ⟨p.chans, 0, 0, p.ret⟩
  -- leave some slots for messaging space
  else if p.open3_1 ≤ 0 ∧ p.open3_0 ≤ 0 then ⟨p.chans, 0, 0, -EXFULL⟩
  else if p.open3_0 < p.open3_1 then
    let open1 := fun j => if j = 0 then p.open1 5 else p.open1 (j - 1)
    let (subfrml, ctrlw) := subframe_12k r.curintr r.curmaxsl p.open3_1 p.open3_0 open1
    let chans := shiftsegoffsets (shiftsegoffsets p.chans chc1 r.curmaxsl) chc3 r.curmaxsl
    ⟨chans, u32_of_int ctrlw, subfrml, 0⟩
  else
    let (subfrml, ctrlw) := subframe_12k r.curintr r.curmaxsl p.open3_0 p.open3_1 p.open1
    ⟨p.chans, u32_of_int ctrlw, subfrml, 0⟩

/-- The branch of `slim_sched_chans` for channels of coefficient 3, with or without others. -/
def sched_coeff3 (ctrl : Ctrl) (clkgear : ℕ) (finalexp3 : ℕ) : Sched :=
  let expshft := SLIM_MAX_CLK_GEAR - clkgear
  let exp1 := last_exp ctrl.chans ctrl.chc1
  let finalexp := max finalexp3 (exp1.getD 0)
  let curintr := (SLIM_MAX_INTR_COEFF_3 * 2) >>> expshft
  let curmaxsl := curintr >>> 1
  match sched_12k_levels expshft finalexp exp1.isNone
    ⟨⟨ctrl.chans, curmaxsl, curmaxsl, fun _ => 0, false, 0⟩, from_first ctrl.chans ctrl.chc1,
      from_first ctrl.chans ctrl.chc3, curintr, curmaxsl, expshft⟩ with
  | none => ⟨ctrl.chans, 0, 0, -EXFULL⟩
  | some r => finish_12k ctrl.chc1 ctrl.chc3 r

/-- The scheduler: its branch depends on which coefficients there are. -/
def slim_sched_chans (ctrl : Ctrl) (clkgear : ℕ) : Sched :=
  match last_exp ctrl.chans ctrl.chc3, last_exp ctrl.chans ctrl.chc1 with
  | none, none => ⟨ctrl.chans, 8, 8, 0⟩
  | none, some finalexp => sched_coeff1 ctrl clkgear finalexp
  | some finalexp, _ => sched_coeff3 ctrl clkgear finalexp

/-! ## Groups -/

def SLIM_START_GRP : ℕ := 1 <<< 8
def SLIM_END_GRP : ℕ := 1 <<< 9

def SLIM_HDL_TO_CHIDX (hdl : ℕ) : ℕ := hdl &&& 0xFF

def SLIM_GRP_TO_NCHAN (hdl : ℕ) : ℕ := (hdl >>> 8) &&& 0xFF

def Ich.starts_grp (slc : Ich) : Bool := decide (slc.nextgrp &&& SLIM_START_GRP ≠ 0)
def Ich.ends_grp (slc : Ich) : Bool := decide (slc.nextgrp &&& SLIM_END_GRP ≠ 0)

/-- Two neighbours of a group swap their offsets if need be. -/
def order_newoff (chans : ℕ → Ich) (c1 c2 : ℕ) : ℕ → Ich :=
  if (chans c2).newoff < (chans c1).newoff then
    let off1 := (chans c1).newoff
    let off2 := (chans c2).newoff
    let chans := update chans c2 { chans c2 with newoff := off1 }
    update chans c1 { chans c1 with newoff := off2 }
  else chans

/-- One pass over a group, from `c1` on, for at most `last` steps: the channels, and `last`
afterwards. -/
def sort_pass (last : ℕ) : ℕ → ℕ → (ℕ → Ich) → (ℕ → Ich) × ℕ
  | 0, _, chans => (chans, last)
  | steps + 1, c1, chans =>
    let c2 := SLIM_HDL_TO_CHIDX (chans c1).nextgrp
    if (chans c2).state = .ACTIVE ∨ (chans c2).state = .PENDING_ACTIVE then
      let chans := order_newoff chans c1 c2
      if (chans c2).ends_grp then (chans, last - steps) else sort_pass last steps c2 chans
    else (chans, last)

def sort_passes (slc : ℕ) : ℕ → ℕ → (ℕ → Ich) → (ℕ → Ich)
  | 0, _, chans => chans
  | fuel + 1, last, chans =>
    if last = 0 then chans
    else
      let (chans, last) := sort_pass last last slc chans
      sort_passes slc fuel (last - 1) chans

def slim_sort_chan_grp (chans : ℕ → Ich) (slc : ℕ) : ℕ → Ich := sort_passes slc 255 255 chans

/-- The offsets within each group are sorted. -/
def sort_groups (chans : ℕ → Ich) (arr : List ℕ) : ℕ → Ich :=
  arr.foldl (fun chans c =>
    if (chans c).state = .PENDING_REMOVAL then chans
    else if (chans c).starts_grp && !(chans c).ends_grp then slim_sort_chan_grp chans c
    else chans) chans

/-! ## Clock gears -/

def lower_gear (min_cg : ℕ) : ℕ → ℕ → ℕ → ℕ
  | 0, _, clkgear => clkgear
  | fuel + 1, usedsl, clkgear =>
    if u32 (usedsl * 2) ≤ SLIM_SL_PER_SUPERFRAME - SLIM_FRM_SLOTS_PER_SUPERFRAME
        - SLIM_GDE_SLOTS_PER_SUPERFRAME ∧ min_cg < clkgear then
      lower_gear min_cg fuel (u32 (usedsl * 2)) (clkgear - 1)
    else clkgear

/-- What `slim_allocbw` returns: the schedule of the gear it stops at, with the width of the
control space after `getsubfrmcoding`. -/
structure Alloc where
  sched : Sched
  subfrmc : ℕ
  clkgear : ℕ

/-- The schedule is tried at one clock gear after the other. -/
def try_gears (ctrl : Ctrl) : ℕ → ℕ → (ℕ → Ich) → ℤ → Alloc
  | 0, clkgear, chans, ret => ⟨⟨chans, 0, 0, ret⟩, 0, clkgear⟩
  | fuel + 1, clkgear, chans, ret =>
    if clkgear ≤ ctrl.max_cg then
      let r := slim_sched_chans { ctrl with chans := chans } clkgear
      if r.ret = 0 then
        let (code, ctrlw, subfrml, msgsl) := getsubfrmcoding r.ctrlw r.subfrml
        if msgsl >>> (ctrl.max_cg - clkgear) < ctrl.pending_msgsl.toNat ∧ clkgear < ctrl.max_cg then
          try_gears ctrl fuel (clkgear + 1) r.chans r.ret
        else ⟨{ r with ctrlw := ctrlw, subfrml := subfrml }, code, clkgear⟩
      else try_gears ctrl fuel (clkgear + 1) r.chans r.ret
    else ⟨⟨chans, 0, 0, ret⟩, 0, clkgear⟩

/-- The clock gear that is enough for the slots, and then the schedule. -/
def slim_allocbw (ctrl : Ctrl) : Alloc :=
  let usedsl := (ctrl.usedslots + ctrl.pending_msgsl).toNat
  let clkgear := if ctrl.usedslots ≠ 0 then lower_gear ctrl.min_cg SLIM_MAX_CLK_GEAR usedsl
      SLIM_MAX_CLK_GEAR
    else SLIM_MAX_CLK_GEAR
  let r := try_gears ctrl (ctrl.max_cg + 1) clkgear ctrl.chans (- EIO)
  if r.sched.ret = 0 then
    { r with sched := { r.sched with
        chans := sort_groups (sort_groups r.sched.chans ctrl.chc1) ctrl.chc3 } }
  else r

/-! ## What a schedule leaves alone

A schedule writes `newoff` and `newintr` and nothing else, whether or not it succeeds. -/

/-- The channel without its place. -/
def Ich.core (slc : Ich) : Ich := { slc with newoff := 0, newintr := 0 }

lemma Ich.eq_of_core {slc slc' : Ich} (h : slc.core = slc'.core) :
    slc = { slc' with newoff := slc.newoff, newintr := slc.newintr } := by
  cases slc
  cases slc'
  simp_all [Ich.core]

/-- Nothing has changed but places. -/
structure SameCore (chans chans' : ℕ → Ich) : Prop where
  core : ∀ c, (chans' c).core = (chans c).core

variable (chans : ℕ → Ich)

lemma SameCore.refl : SameCore chans chans := ⟨fun _ => rfl⟩

lemma SameCore.trans {chans chans' chans'' : ℕ → Ich} (h : SameCore chans chans')
    (h' : SameCore chans' chans'') : SameCore chans chans'' :=
  ⟨fun c => (h'.core c).trans (h.core c)⟩

lemma SameCore.update {chans chans' : ℕ → Ich} (h : SameCore chans chans') {c : ℕ} {slc : Ich}
    (hslc : slc.core = (chans' c).core) : SameCore chans (update chans' c slc) := by
  refine ⟨fun x => ?_⟩
  rcases eq_or_ne x c with rfl | hx
  · rw [update_self, hslc, h.core x]
  · rw [update_of_ne hx, h.core x]

lemma SameCore.foldl {f : (ℕ → Ich) → ℕ → ℕ → Ich} (hf : ∀ chans c, SameCore chans (f chans c))
    (chans : ℕ → Ich) (l : List ℕ) : SameCore chans (l.foldl f chans) :=
  List.foldlRecOn l f (.refl chans) fun _ h c _ => h.trans (hf _ c)

section

variable {chans chans' : ℕ → Ich} (h : SameCore chans chans') (c : ℕ)
include h

lemma SameCore.state : (chans' c).state = (chans c).state := congrArg (·.state) (h.core c)
lemma SameCore.coeff : (chans' c).coeff = (chans c).coeff := congrArg (·.coeff) (h.core c)
lemma SameCore.seglen : (chans' c).seglen = (chans c).seglen := congrArg (·.seglen) (h.core c)
lemma SameCore.rootexp : (chans' c).rootexp = (chans c).rootexp := congrArg (·.rootexp) (h.core c)
lemma SameCore.nextgrp : (chans' c).nextgrp = (chans c).nextgrp := congrArg (·.nextgrp) (h.core c)

end

@[simp] lemma Placed.write_core (r : Placed) (slc : Ich) (newintr : ℕ) :
    (r.write slc newintr).core = slc.core := by
  unfold Placed.write
  split <;> rfl

@[simp] lemma Ich.shift_core (slc : Ich) (shft : ℕ) : (slc.shift shft).core = slc.core := by
  unfold Ich.shift
  split <;> rfl

lemma sameCore_shiftsegoffsets (ach : List ℕ) (shft : ℕ) :
    SameCore chans (shiftsegoffsets chans ach shft) :=
  .foldl (fun chans c => (SameCore.refl chans).update ((chans c).shift_core shft)) chans ach

lemma sameCore_level_4k (expshft finalexp : ℕ) (r : Levels) :
    SameCore r.pass.chans (level_4k expshft finalexp r).pass.chans := by
  unfold level_4k
  dsimp only
  split_ifs
  · exact .refl _
  · exact walk_all (I := fun q : Pass => SameCore r.pass.chans q.chans)
      (fun _ _ h => h.update (Placed.write_core ..)) r.rest (.refl r.pass.chans)

lemma sameCore_finish_4k (chc1 : List ℕ) (r : Levels) :
    SameCore r.pass.chans (finish_4k chc1 r).chans := by
  unfold finish_4k
  dsimp only
  split_ifs
  · exact .refl _
  · exact .refl _
  · exact sameCore_shiftsegoffsets ..
  · exact .refl _

lemma sameCore_sched_12k_chans (expshft curintr curmaxsl curexp finalexp : ℕ) (only3 : Bool)
    (l : List ℕ) (p : Pass3) :
    SameCore p.chans
      (sched_12k_chans expshft curintr curmaxsl curexp finalexp only3 l p).2.chans :=
  walk_all (I := fun q : Pass3 => SameCore p.chans q.chans)
    (fun _ _ h => h.update (Placed.write_core ..)) l (.refl p.chans)

@[simp] lemma open1_records_chans (curmaxsl : ℕ) (p : Pass3) :
    (open1_records curmaxsl p).chans = p.chans := by
  unfold open1_records
  dsimp only
  split_ifs <;> rfl

@[simp] lemma place_6_chans (slc : Ich) (curmaxsl : ℕ) (p : Pass3) :
    (place_6 slc curmaxsl p).1.chans = p.chans := by
  unfold place_6
  dsimp only
  split_ifs <;> rfl

lemma sameCore_step_6 (curintr curmaxsl : ℕ) (p : Pass3) (c : ℕ) :
    SameCore p.chans (step_6 curintr curmaxsl p c).chans := by
  unfold step_6
  dsimp only
  rw [place_6_chans]
  refine (SameCore.refl p.chans).update ?_
  split_ifs <;> rfl

lemma sameCore_sched_4k_chans (expshft curintr curmaxsl curexp : ℕ) (l : List ℕ) (p : Pass3) :
    SameCore p.chans (sched_4k_chans expshft curintr curmaxsl curexp l p).2.chans :=
  walk_all (I := fun q : Pass3 => SameCore p.chans q.chans)
    (fun _ _ h => h.trans (sameCore_step_6 ..)) l (.refl p.chans)

lemma sameCore_level_12k (expshft finalexp : ℕ) (only3 : Bool) (r : Levels3) :
    SameCore r.pass.chans (level_12k expshft finalexp only3 r).pass.chans := by
  unfold level_12k
  dsimp only
  have h3 := sameCore_sched_12k_chans expshft (r.curintr / 2) (r.curmaxsl / 2) r.curexp finalexp
    only3 r.rest3 { r.pass with
      open3_0 := (halve (r.curmaxsl / 2) r.pass.open3_0 r.pass.open3_1).1
      open3_1 := (halve (r.curmaxsl / 2) r.pass.open3_0 r.pass.open3_1).2 }
  split_ifs
  · exact .refl _
  · exact h3
  · simpa only [open1_records_chans] using h3
  · refine h3.trans ?_
    rw [← open1_records_chans]
    exact sameCore_sched_4k_chans ..

lemma sameCore_finish_12k (chc1 chc3 : List ℕ) (r : Levels3) :
    SameCore r.pass.chans (finish_12k chc1 chc3 r).chans := by
  unfold finish_12k
  dsimp only
  split_ifs
  · exact .refl _
  · exact .refl _
  · exact (sameCore_shiftsegoffsets ..).trans (sameCore_shiftsegoffsets ..)
  · exact .refl _

lemma sameCore_sched_chans (ctrl : Ctrl) (clkgear : ℕ) :
    SameCore ctrl.chans (slim_sched_chans ctrl clkgear).chans := by
  unfold slim_sched_chans
  split
  · exact .refl ctrl.chans
  · unfold sched_coeff1
    dsimp only
    split
    · exact .refl ctrl.chans
    · next h =>
      refine .trans ?_ (sameCore_finish_4k ..)
      exact whileLoop_all (I := fun q : Levels => SameCore ctrl.chans q.pass.chans)
        (fun _ h => h.trans (sameCore_level_4k ..)) _ (.refl ctrl.chans) h
  · unfold sched_coeff3
    dsimp only
    split
    · exact .refl ctrl.chans
    · next h =>
      refine .trans ?_ (sameCore_finish_12k ..)
      exact whileLoop_all (I := fun q : Levels3 => SameCore ctrl.chans q.pass.chans)
        (fun _ h => h.trans (sameCore_level_12k ..)) _ (.refl ctrl.chans) h

lemma sameCore_order_newoff (c1 c2 : ℕ) : SameCore chans (order_newoff chans c1 c2) := by
  unfold order_newoff
  split_ifs
  · exact .update (.update (.refl chans) (by rfl)) (by rfl)
  · exact .refl chans

lemma sameCore_sort_pass (last steps c1 : ℕ) (chans : ℕ → Ich) :
    SameCore chans (sort_pass last steps c1 chans).1 := by
  induction steps generalizing c1 chans with
  | zero => exact .refl chans
  | succ steps ih =>
    unfold sort_pass
    dsimp only
    split_ifs
    · exact sameCore_order_newoff ..
    · exact (sameCore_order_newoff ..).trans (ih ..)
    · exact .refl chans

lemma sameCore_sort_passes (slc fuel last : ℕ) (chans : ℕ → Ich) :
    SameCore chans (sort_passes slc fuel last chans) := by
  induction fuel generalizing last chans with
  | zero => exact .refl chans
  | succ fuel ih =>
    unfold sort_passes
    split_ifs
    · exact .refl chans
    · exact (sameCore_sort_pass ..).trans (ih ..)

lemma sameCore_sort_groups (arr : List ℕ) : SameCore chans (sort_groups chans arr) := by
  refine .foldl (fun chans c => ?_) chans arr
  split_ifs
  · exact .refl chans
  · exact sameCore_sort_passes ..
  · exact .refl chans

lemma sameCore_try_gears (ctrl : Ctrl) (fuel clkgear : ℕ) (chans : ℕ → Ich) (ret : ℤ) :
    SameCore chans (try_gears ctrl fuel clkgear chans ret).sched.chans := by
  induction fuel generalizing clkgear chans ret with
  | zero => exact .refl chans
  | succ fuel ih =>
    have h := sameCore_sched_chans { ctrl with chans := chans } clkgear
    unfold try_gears
    dsimp only
    split_ifs
    · exact h.trans (ih ..)
    · exact h
    · exact h.trans (ih ..)
    · exact .refl chans

/-- **A schedule writes places only.** -/
theorem sameCore_slim_allocbw (ctrl : Ctrl) :
    SameCore ctrl.chans (slim_allocbw ctrl).sched.chans := by
  have h := fun fuel clkgear ret => sameCore_try_gears ctrl fuel clkgear ctrl.chans ret
  unfold slim_allocbw
  dsimp only
  split_ifs
  all_goals first
    | exact ((h ..).trans (sameCore_sort_groups ..)).trans (sameCore_sort_groups ..)
    | exact h ..

end KernelExtra.Slimbus
