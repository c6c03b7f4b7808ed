/-
Reconfiguration: `slimbus.c` 2064-2132 and 2806-3312.

`slim_reconfigure_now` changes the framework's books, computes a schedule, announces it in a
sequence of messages, and ends with RECONFIGURE_NOW. When that fails, `slim_chan_changes` is to take
the books back.

`Env` is what becomes of each message, what a controller with a scheduler of its own answers, and
whether there is memory. Sending changes nothing in the framework, so the messages of a call are
written down first and then sent until one fails.
-/
import KernelExtra.Slimbus.Schedule

namespace KernelExtra.Slimbus

/-! ## Clients and their surroundings -/

/-- A client device, with what it has asked for and not yet committed. -/
structure Client where
  laddr : ℕ
  cur_msgsl : UInt32
  pending_msgsl : UInt32
  mark_define : List ℕ
  mark_removal : List ℕ
  mark_suspend : List ℕ
  deriving DecidableEq

/-- One call's surroundings: the results of its messages in order, the answer of the
controller's own scheduler with subframe mode and gear, and of the memory requests. -/
structure Env where
  processtxn : ℕ → ℤ
  allocbw : ℤ × ℕ × ℕ
  kmalloc : ℕ → Bool

def SLIM_HDL_TO_LA (hdl : ℕ) : ℕ := (hdl &&& 0xFF000000) >>> 24

/-! ## Messages -/

inductive Mc
  | BEGIN_RECONFIGURATION | NEXT_SUBFRAME_MODE | NEXT_CLOCK_GEAR | NEXT_DEFINE_CONTENT
  | NEXT_ACTIVATE_CHANNEL | NEXT_REMOVE_CHANNEL | NEXT_DEACTIVATE_CHANNEL | NEXT_DEFINE_CHANNEL
  | RECONFIGURE_NOW
  deriving DecidableEq

/-- A message to the bus. -/
structure Msg where
  mc : Mc
  wbuf : List ℕ
  deriving DecidableEq

def u8 (n : ℕ) : ℕ := n &&& 0xFF

/-- The messages that define and activate a channel. -/
def content_msgs (slc : Ich) : List Msg :=
  [⟨.NEXT_DEFINE_CONTENT, [slc.chan, u8 slc.prrate, u8 (slc.prop.dataf ||| (slc.prop.auxf <<< 4)),
      u8 (slc.prop.sampleszbits / SLIM_CL_PER_SL)]⟩,
    ⟨.NEXT_ACTIVATE_CHANNEL, [slc.chan]⟩]

/-- The schedule has given the channel another place. -/
def Ich.changed (slc : Ich) : Bool :=
  decide (slc.state < .ACTIVE) || decide (slc.def_ < slc.ref) ||
    decide (slc.newintr ≠ slc.interval) || decide (slc.newoff ≠ slc.offset)

def Ich.segdist (slc : Ich) (expshft : ℕ) : ℕ :=
  let curexp := slc.rootexp + expshft
  let segdist := (((slc.newoff <<< curexp) &&& 0x1FF) ||| 0x200) >>> curexp
  match slc.coeff with
  | .COEFF_1 => segdist ||| ((slc.newoff <<< (curexp + 1)) &&& 0xC00)
  | .COEFF_3 => segdist ||| 0xC00

def channel_msgs (slc : Ich) (expshft : ℕ) : List Msg :=
  if slc.state ≠ .PENDING_REMOVAL ∧ slc.changed then
    let segdist := slc.segdist expshft
    [⟨.NEXT_DEFINE_CHANNEL, [slc.chan, u8 segdist,
      u8 (((segdist &&& 0xF00) >>> 8) ||| (slc.prop.prot.toNat <<< 4)), u8 slc.seglen]⟩]
  else []

/-- All messages of a reconfiguration, in order. -/
def reconfig_msgs (ctrl : Ctrl) (sb : Client) (subframe clkgear : ℕ) : List Msg :=
  let expshft := SLIM_MAX_CLK_GEAR - clkgear
  [⟨.BEGIN_RECONFIGURATION, []⟩]
    ++ (if subframe ≠ ctrl.subfrmcode then [⟨.NEXT_SUBFRAME_MODE, [u8 subframe]⟩] else [])
    ++ (if clkgear ≠ ctrl.clkgear then [⟨.NEXT_CLOCK_GEAR, [u8 clkgear]⟩] else [])
    ++ sb.mark_define.flatMap (fun c => content_msgs (ctrl.chans c))
    ++ sb.mark_removal.map (fun c => ⟨.NEXT_REMOVE_CHANNEL, [(ctrl.chans c).chan]⟩)
    ++ sb.mark_suspend.map (fun c => ⟨.NEXT_DEACTIVATE_CHANNEL, [(ctrl.chans c).chan]⟩)
    ++ ctrl.chc1.flatMap (fun c => channel_msgs (ctrl.chans c) expshft)
    ++ ctrl.chc3.flatMap (fun c => channel_msgs (ctrl.chans c) expshft)
    ++ [⟨.RECONFIGURE_NOW, []⟩]

/-- They are sent until one fails. -/
def send (processtxn : ℕ → ℤ) : ℕ → List Msg → ℤ × List Msg
  | _, [] => (0, [])
  | n, m :: msgs =>
    if processtxn n ≠ 0 then (processtxn n, [])
    else
      let (ret, sent) := send processtxn (n + 1) msgs
      (ret, m :: sent)

/-! ## Committing and taking back -/

def Ich.settle (slc : Ich) : Ich :=
  if slc.state = .ACTIVE ∨ slc.state = .SUSPENDED then
    { slc with offset := slc.newoff, interval := slc.newintr }
  else slc

def slim_change_existing_chans (ctrl : Ctrl) (coeff : Coeff) : Ctrl :=
  (ctrl.arr coeff).foldl (fun ctrl c => ctrl.set_chan c (ctrl.chans c).settle) ctrl

/-- One round of `slim_chan_changes` over `mark_define`. -/
def changes_define (revert : Bool) (ctrl : Ctrl) (c : ℕ) : Ctrl :=
  let slc := ctrl.chans c
  if revert then
    if slc.state = .PENDING_ACTIVE then
      (slim_remove_ch (ctrl.sub_slots slc.sl) c).1.set_state c .DEFINED
    else ctrl
  else ctrl.set_chan c { slc with state := .ACTIVE, def_ := slc.def_ + 1 }

/-- One round over `mark_removal`. -/
def changes_removal (revert : Bool) (ctrl : Ctrl) (c : ℕ) : Ctrl :=
  let slc := ctrl.chans c
  if revert ∨ 0 < slc.def_ then
    (ctrl.add_slots slc.sl).set_chan c
      { slc with state := .ACTIVE, def_ := if revert then slc.def_ + 1 else slc.def_ }
  else (slim_remove_ch ctrl c).1

/-- One round over `mark_suspend`. -/
def changes_suspend (revert : Bool) (ctrl : Ctrl) (c : ℕ) : Ctrl :=
  if revert then ctrl.set_state c .ACTIVE else ctrl

def slim_chan_changes (ctrl : Ctrl) (sb : Client) (revert : Bool) : Ctrl :=
  let ctrl := sb.mark_define.foldl (changes_define revert) ctrl
  let ctrl := sb.mark_removal.foldl (changes_removal revert) ctrl
  let ctrl := sb.mark_suspend.foldl (changes_suspend revert) ctrl
  if revert then ctrl
  else slim_change_existing_chans (slim_change_existing_chans ctrl .COEFF_1) .COEFF_3

/-! ## One reconfiguration -/

def Client.removal_only (sb : Client) : Bool :=
  decide (sb.pending_msgsl = sb.cur_msgsl) && sb.mark_define.isEmpty && sb.mark_suspend.isEmpty

def Ich.release (slc : Ich) (laddr : ℕ) : Ich :=
  { slc with
    def_ := slc.def_ - 1
    srch := if SLIM_HDL_TO_LA slc.srch = laddr then 0 else slc.srch }

/-- The loop over a list of removals alone: channels that others still use go off the list,
unless the controller has a scheduler of its own. -/
def release_chans (laddr : ℕ) : List ℕ → Ctrl → Ctrl × List ℕ
  | [], ctrl => (ctrl, [])
  | c :: l, ctrl =>
    let slc := (ctrl.chans c).release laddr
    let (ctrl', l') := release_chans laddr l (ctrl.set_chan c slc)
    (ctrl', if slc.def_ ≠ 0 ∧ ctrl.allocbw = false then l' else c :: l')

def pend_define (ctrl : Ctrl) (c : ℕ) : Ctrl :=
  let ctrl := slim_add_ch ctrl c
  if (ctrl.chans c).state < .ACTIVE then ctrl.set_state c .PENDING_ACTIVE else ctrl

def pend_removal (ctrl : Ctrl) (c : ℕ) : Ctrl :=
  (ctrl.sub_slots (ctrl.chans c).sl).set_state c .PENDING_REMOVAL

def pend_suspend (ctrl : Ctrl) (c : ℕ) : Ctrl := ctrl.set_state c .SUSPENDED

/-- The three loops before the schedule. -/
def pend (ctrl : Ctrl) (sb : Client) : Ctrl :=
  let ctrl := { ctrl with pending_msgsl := ctrl.pending_msgsl + (sb.pending_msgsl - sb.cur_msgsl) }
  let ctrl := sb.mark_define.foldl pend_define ctrl
  let ctrl := sb.mark_removal.foldl pend_removal ctrl
  sb.mark_suspend.foldl pend_suspend ctrl

/-- The schedule, by the controller's own scheduler or by the framework's: the controller
with it, subframe mode, gear and result. -/
def allocate (env : Env) (ctrl : Ctrl) : Ctrl × ℕ × ℕ × ℤ :=
  if ctrl.allocbw then (ctrl, env.allocbw.2.1, env.allocbw.2.2, env.allocbw.1)
  else
    let r := slim_allocbw ctrl
    ({ ctrl with chans := r.sched.chans }, r.subfrmc, r.clkgear, r.sched.ret)

/-- What a call leaves behind: controller and client, what it returns, what it has sent. -/
structure Outcome where
  ctrl : Ctrl
  sb : Client
  ret : ℤ
  sent : List Msg

def Client.cleared (sb : Client) : Client :=
  { sb with mark_define := [], mark_removal := [], mark_suspend := [] }

/-- Schedule and messages; on an error the books are taken back. -/
def reconfigure (env : Env) (ctrl : Ctrl) (sb : Client) : Outcome :=
  let (ctrl, subframe, clkgear, ret) := allocate env (pend ctrl sb)
  let (ret, sent) :=
    if ret ≠ 0 then (ret, []) else send env.processtxn 0 (reconfig_msgs ctrl sb subframe clkgear)
  if ret = 0 then
    let ctrl := { ctrl with
      subfrmcode := subframe
      clkgear := clkgear
      msgsl := ctrl.pending_msgsl }
    ⟨slim_chan_changes ctrl sb false, { sb.cleared with cur_msgsl := sb.pending_msgsl }, 0, sent⟩
  else ⟨slim_chan_changes ctrl sb true, sb.cleared, ret, sent⟩

/-- A reconfiguration, or the short way for removals of shared channels. -/
def slim_reconfigure_now (env : Env) (ctrl : Ctrl) (sb : Client) : Outcome :=
  if sb.removal_only then
    let (ctrl, l) := release_chans sb.laddr sb.mark_removal ctrl
    let sb := { sb with mark_removal := l }
    if l = [] then ⟨ctrl, sb, 0, []⟩ else reconfigure env ctrl sb
  else reconfigure env ctrl sb

/-! ## The calls of a client -/

inductive ChControl
  | ACTIVATE | SUSPEND | REMOVE
  deriving DecidableEq

/-- Mark one channel on a client's lists. A removal of a channel that is still to be defined
takes it off that list. -/
def mark_ch (env : Env) (n : ℕ) (slc : Ich) (chan : ℕ) (chctrl : ChControl) (sb : Client) :
    Client × ℤ :=
  if slc.state < .DEFINED then (sb, -ENOTCONN)
  else match chctrl with
    | .SUSPEND =>
      if env.kmalloc n then ({ sb with mark_suspend := sb.mark_suspend ++ [chan] }, 0)
      else (sb, -ENOMEM)
    | .ACTIVATE =>
      if .ACTIVE < slc.state then (sb, -EISCONN)
      else if env.kmalloc n then ({ sb with mark_define := sb.mark_define ++ [chan] }, 0)
      else (sb, -ENOMEM)
    | .REMOVE =>
      if slc.state < .ACTIVE then (sb, -ENOTCONN)
      else if chan ∈ sb.mark_define then ({ sb with mark_define := sb.mark_define.erase chan }, 0)
      else if env.kmalloc n then ({ sb with mark_removal := sb.mark_removal ++ [chan] }, 0)
      else (sb, -ENOMEM)

def mark_chans (env : Env) (ctrl : Ctrl) (chctrl : ChControl) : ℕ → ℕ → ℕ → Client → Client × ℤ
  | left, n, chan, sb =>
    let slc := ctrl.chans chan
    let (sb, ret) := mark_ch env n slc chan chctrl sb
    if ret ≠ 0 then (sb, ret)
    else match left with
      | 0 => (sb, 0)
      | left + 1 => mark_chans env ctrl chctrl left (n + 1) (SLIM_HDL_TO_CHIDX slc.nextgrp) sb

/-- What `slim_control_ch` puts on the client's lists. -/
def control_marks (env : Env) (ctrl : Ctrl) (sb : Client) (chanh : ℕ) (chctrl : ChControl) :
    Client × ℤ :=
  let chan := SLIM_HDL_TO_CHIDX chanh
  if (ctrl.chans chan).starts_grp then
    mark_chans env ctrl chctrl (SLIM_GRP_TO_NCHAN chanh - 1) 0 chan sb
  else (sb, -EINVAL)

def slim_control_ch (env : Env) (ctrl : Ctrl) (sb : Client) (chanh : ℕ) (chctrl : ChControl)
    (commit : Bool) : Outcome :=
  let (sb, ret) := control_marks env ctrl sb chanh chctrl
  if ret = 0 ∧ commit then slim_reconfigure_now env ctrl sb else ⟨ctrl, sb, ret, []⟩

/-- The slots that a bandwidth for messages takes. -/
def msg_slots (ctrl : Ctrl) (bw_bps : ℕ) : ℕ :=
  if ctrl.rootfreq ≤ bw_bps >>> 3 then SLIM_SL_PER_SUPERFRAME
  else u32 (bw_bps * (SLIM_CL_PER_SUPERFRAME_DIV8 / SLIM_CL_PER_SL / 2)
    + (ctrl.rootfreq / 2 - 1)) / (ctrl.rootfreq / 2)

def slim_reservemsg_bw (env : Env) (ctrl : Ctrl) (sb : Client) (bw_bps : ℕ) (commit : Bool) :
    Outcome :=
  let sb := { sb with pending_msgsl := .ofNat (msg_slots ctrl bw_bps) }
  if commit then slim_reconfigure_now env ctrl sb else ⟨ctrl, sb, 0, []⟩

/-- Does a definition write the parameters of a channel, instead of comparing them or
turning it down? -/
def Ich.redefined (slc : Ich) : Bool :=
  decide (.ALLOCATED ≤ slc.state) && !(decide (.DEFINED ≤ slc.state) && decide (2 ≤ slc.ref)) &&
    !decide (.DEFINED < slc.state)

def define_params (ctrl : Ctrl) (prop : Ch) (chan : ℕ) : Option (Ctrl × ℤ) :=
  let slc := ctrl.chans chan
  if slc.state < .ALLOCATED then some (ctrl, - ENXIO)
  else if .DEFINED ≤ slc.state ∧ 2 ≤ slc.ref then
    if prop.ratem ≠ slc.prop.ratem ∨ prop.sampleszbits ≠ slc.prop.sampleszbits ∨
        prop.baser ≠ slc.prop.baser then some (ctrl, -EISCONN)
    else some (ctrl, 0)
  else if .DEFINED < slc.state then some (ctrl, -EISCONN)
  else slim_nextdefine_ch (ctrl.set_chan chan { slc with prop := prop }) chan

def define_group (ctrl : Ctrl) (chan : ℕ) (next : Option ℕ) (first : Bool) : Ctrl :=
  let nextgrp := next.getD (ctrl.chans chan).nextgrp
  let nextgrp := if first then nextgrp ||| SLIM_START_GRP else nextgrp
  let nextgrp := if next.isNone then nextgrp ||| SLIM_END_GRP else nextgrp
  ctrl.set_chan chan { ctrl.chans chan with nextgrp := nextgrp }

/-- The channels of a call of `slim_define_ch`, one by one. -/
def define_chans (prop : Ch) : List ℕ → Bool → Ctrl → Option (Ctrl × ℤ)
  | [], _, ctrl => some (ctrl, 0)
  | h :: chanh, first, ctrl =>
    let chan := SLIM_HDL_TO_CHIDX h
    match define_params ctrl prop chan with
    | none => none
    | some (ctrl, ret) =>
      if ret ≠ 0 then some (ctrl, ret)
      else define_chans prop chanh false (define_group ctrl chan chanh.head? first)

def define_done (ctrl : Ctrl) (h : ℕ) : Ctrl :=
  let chan := SLIM_HDL_TO_CHIDX h
  if (ctrl.chans chan).state = .ALLOCATED then ctrl.set_state chan .DEFINED else ctrl

/-- `slim_define_ch`: the controller, the result, and the handle of the group if one is
asked for. `none` stands for a call that does not return. -/
def slim_define_ch (ctrl : Ctrl) (prop : Ch) (chanh : List ℕ) (grp : Bool) :
    Option (Ctrl × ℤ × Option ℕ) :=
  match chanh with
  | [] => some (ctrl, -EINVAL, none)
  | h :: _ =>
    match define_chans prop chanh true ctrl with
    | none => none
    | some (ctrl, ret) =>
      if ret ≠ 0 then some (ctrl, ret, none)
      else
        let grph := (chanh.length <<< 8) ||| SLIM_HDL_TO_CHIDX h
        some (chanh.foldl define_done ctrl, 0, if grp then some grph else none)

end KernelExtra.Slimbus
