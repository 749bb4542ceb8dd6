import Mathlib.Data.List.Pairwise
import Tiny6410.Cs4270.Soc

/-!
# The mixer controls

`cs4270_snd_controls` declares nine ALSA controls through ASoC's control macros.
A write through one of them runs its put handler: ASoC's `snd_soc_put_volsw`
or `snd_soc_put_volsw_2r`, or, for the 'Master Playback Switch', the driver's
`cs4270_soc_put_mute`, which records the user's choice in `manual_mute` and
then calls `snd_soc_put_volsw`.

The two ASoC handlers are not under src/; they follow ASoC's soc-core.c of
Linux 3.2: each reads its register, clears its `val_mask` and sets the channel
values, `value & mask` taken from `max` when the control is inverted, through
`snd_soc_update_bits`, with what a failed write leaves taken from spec §7. The handlers compute in `unsigned int` and the cache keeps the low
byte; `&`, `|`, `<<` and unsigned subtraction all commute with taking the low
byte, so the model computes in `BitVec 8` from the start.

**The footprint law** (`SndKcontrolNew.write_agree`): a write through a control
of the table changes the cache only inside the control's own field
(`SndKcontrolNew.field`), and the fields of different controls are disjoint
(`sndControls_fields_disjoint`).
-/

namespace Cs4270

/-! ## Control records -/

/-- What a control macro records in `struct soc_mixer_control`. -/
structure SocMixerControl where
  reg : Reg
  rreg : Reg
  shift : Nat
  rshift : Nat
  max : Nat
  invert : Bool
  deriving DecidableEq, Repr

/-- The put handler a control names. -/
inductive PutHandler where
  | volsw
  | volsw2r
  | putMute
  deriving DecidableEq, Repr

/-- `struct snd_kcontrol_new`, as far as a write through it goes: its name, its
`private_value` and its put handler. -/
structure SndKcontrolNew where
  name : String
  mc : SocMixerControl
  put : PutHandler
  deriving DecidableEq, Repr

/-- `SOC_SINGLE(xname, reg, shift, max, invert)`. -/
def socSingle (name : String) (reg : Reg) (shift max : Nat) (invert : Bool) : SndKcontrolNew :=
  ⟨name, ⟨reg, reg, shift, shift, max, invert⟩, .volsw⟩

/-- `SOC_DOUBLE(xname, reg, shift_left, shift_right, max, invert)`. -/
def socDouble (name : String) (reg : Reg) (shiftLeft shiftRight max : Nat) (invert : Bool) :
    SndKcontrolNew :=
  ⟨name, ⟨reg, reg, shiftLeft, shiftRight, max, invert⟩, .volsw⟩

/-- `SOC_DOUBLE_R(xname, reg_left, reg_right, xshift, xmax, xinvert)`. -/
def socDoubleR (name : String) (regLeft regRight : Reg) (shift max : Nat) (invert : Bool) :
    SndKcontrolNew :=
  ⟨name, ⟨regLeft, regRight, shift, shift, max, invert⟩, .volsw2r⟩

/-- `SOC_DOUBLE_EXT(xname, reg, shift_left, shift_right, max, invert, get, put)`;
the get handler only reads and is not modelled. -/
def socDoubleExt (name : String) (reg : Reg) (shiftLeft shiftRight max : Nat) (invert : Bool)
    (put : PutHandler) : SndKcontrolNew :=
  ⟨name, ⟨reg, reg, shiftLeft, shiftRight, max, invert⟩, put⟩

/-! ## The ASoC put handlers -/

/-- `fls` on a 32-bit word: the 1-based index of its highest set bit, 0 for 0. -/
def fls (x : Nat) : Nat := go 32 x
where
  /-- At most `k` more bits to look at. -/
  go : Nat → Nat → Nat
    | 0, _ => 0
    | k + 1, x => if x = 0 then 0 else go k (x / 2) + 1

/-- The channel mask `(1 << fls(max)) - 1`. -/
def SocMixerControl.mask (mc : SocMixerControl) : BitVec 8 :=
  BitVec.ofNat 8 ((1 <<< fls mc.max) - 1)

/-- The value a handler computes for one channel from the user's `long`:
`value & mask`, or `max` minus that when the control is inverted. -/
def SocMixerControl.chanVal (mc : SocMixerControl) (v : Int) : BitVec 8 :=
  let val := BitVec.ofInt 8 v &&& mc.mask
  if mc.invert then BitVec.ofNat 8 mc.max - val else val

/-- `snd_soc_put_volsw` of ASoC's soc-core.c. One read-modify-write of `reg`:
the left value at `shift`, and the right one at `rshift` when the two differ. -/
def sndSocPutVolsw (s : Codec) (mc : SocMixerControl) (v0 v1 : Int) (x : Status) :
    Codec × Except Errno Bool :=
  let valMask := mc.mask <<< mc.shift
  let val := mc.chanVal v0 <<< mc.shift
  if mc.shift ≠ mc.rshift then
    sndSocUpdateBits s mc.reg (valMask ||| mc.mask <<< mc.rshift)
      (val ||| mc.chanVal v1 <<< mc.rshift) x
  else sndSocUpdateBits s mc.reg valMask val x

/-- `snd_soc_put_volsw_2r` of ASoC's soc-core.c. The left value into `reg`,
then, unless that failed, the right value into `rreg`. -/
def sndSocPutVolsw2r (s : Codec) (mc : SocMixerControl) (v0 v1 : Int) (x0 x1 : Status) :
    Codec × Except Errno Bool :=
  let valMask := mc.mask <<< mc.shift
  match sndSocUpdateBits s mc.reg valMask (mc.chanVal v0 <<< mc.shift) x0 with
  | (s, .error e) => (s, .error e)
  | (s, .ok _) => sndSocUpdateBits s mc.rreg valMask (mc.chanVal v1 <<< mc.shift) x1

/-! ## The driver's controls -/

/-- The `manual_mute` word `cs4270_soc_put_mute` builds from the channels the
user muted: `(left ? CS4270_MUTE_DAC_A : 0) | (right ? CS4270_MUTE_DAC_B : 0)`. -/
def ManualMute.of (left right : Bool) : ManualMute :=
  ⟨(if left then muteDacA else 0) ||| (if right then muteDacB else 0), by
    cases left <;> cases right <;> decide⟩

/-- `cs4270_soc_put_mute`: a channel counts as muted when its value is zero
(`!value`); the write itself goes through `snd_soc_put_volsw`. -/
def socPutMute (s : Codec) (mc : SocMixerControl) (v0 v1 : Int) (x : Status) :
    Codec × Except Errno Bool :=
  let left := v0 == 0
  let right := v1 == 0
  sndSocPutVolsw { s with manualMute := ManualMute.of left right } mc v0 v1 x

/-- `cs4270_snd_controls`: the non-DAPM controls, in the driver's order. -/
def sndControls : List SndKcontrolNew :=
  [socDoubleR "Master Playback Volume" Reg.vola Reg.volb 0 0xFF true,
   socSingle "Digital Sidetone Switch" Reg.format 5 1 false,
   socSingle "Soft Ramp Switch" Reg.trans 6 1 false,
   socSingle "Zero Cross Switch" Reg.trans 5 1 false,
   socSingle "De-emphasis filter" Reg.trans 0 1 false,
   socSingle "Popguard Switch" Reg.mode 0 1 true,
   socSingle "Auto-Mute Switch" Reg.mute 5 1 false,
   socDouble "Master Capture Switch" Reg.mute 3 4 1 true,
   socDoubleExt "Master Playback Switch" Reg.mute 0 1 1 true .putMute]

/-- The 'Master Playback Switch', the one control whose bits `cs4270_dai_mute`
also writes. -/
def masterPlaybackSwitch : SndKcontrolNew :=
  socDoubleExt "Master Playback Switch" Reg.mute 0 1 1 true .putMute

/-- A write through control `k` (`snd_ctl_elem_write`): the control's put
handler, with the user's two channel values and the answers of at most two
register writes. -/
def SndKcontrolNew.write (k : SndKcontrolNew) (s : Codec) (v0 v1 : Int) (x0 x1 : Status) :
    Codec × Except Errno Bool :=
  match k.put with
  | .volsw => sndSocPutVolsw s k.mc v0 v1 x0
  | .volsw2r => sndSocPutVolsw2r s k.mc v0 v1 x0 x1
  | .putMute => socPutMute s k.mc v0 v1 x0

/-! ## Footprints of the controls -/

/-- The bits of register `r` a write through `k` may change: the `val_mask` its
handler hands to `snd_soc_update_bits` for `r`. -/
def SndKcontrolNew.field (k : SndKcontrolNew) (r : Reg) : BitVec 8 :=
  match k.put with
  | .volsw2r => footAt k.mc.reg (k.mc.mask <<< k.mc.shift) r |||
      footAt k.mc.rreg (k.mc.mask <<< k.mc.shift) r
  | _ => footAt k.mc.reg (k.mc.mask <<< k.mc.shift ||| k.mc.mask <<< k.mc.rshift) r

/-- What a write through `k` whose register writes succeed leaves in register
`r`'s part of the control's field: each channel's handler value at its shift. -/
def SndKcontrolNew.stored (k : SndKcontrolNew) (v0 v1 : Int) (r : Reg) : BitVec 8 :=
  match k.put with
  | .volsw2r =>
    (if r = k.mc.reg then k.mc.chanVal v0 <<< k.mc.shift else 0) |||
      (if r = k.mc.rreg then k.mc.chanVal v1 <<< k.mc.shift else 0)
  | _ =>
    if r = k.mc.reg then
      if k.mc.shift ≠ k.mc.rshift then
        k.mc.chanVal v0 <<< k.mc.shift ||| k.mc.chanVal v1 <<< k.mc.rshift
      else k.mc.chanVal v0 <<< k.mc.shift
    else 0

/-- The table's controls live in cached registers, and the two-register control
has two different ones. -/
theorem sndControls_regs : ∀ k ∈ sndControls, Reg.pwrctl ≤ k.mc.reg ∧ Reg.pwrctl ≤ k.mc.rreg ∧
    (k.put = .volsw2r → k.mc.reg ≠ k.mc.rreg) := by
  decide

/-- Every control of the table has `max = mask`, so even an inverted value stays
inside the mask. -/
theorem sndControls_max_eq_mask : ∀ k ∈ sndControls, BitVec.ofNat 8 k.mc.max = k.mc.mask := by
  decide

/-- The fields of two different controls of the table never share a bit. -/
theorem sndControls_fields_disjoint :
    ∀ k ∈ sndControls, ∀ k' ∈ sndControls, k ≠ k' → ∀ r, k.field r &&& k'.field r = 0 := by
  have pairs : sndControls.Pairwise (fun k k' => ∀ r, k.field r &&& k'.field r = 0) := by decide
  refine pairs.forall ?_
  intro k k' h r
  rw [BitVec.and_comm, h r]

/-- The 'Master Playback Switch' is the table's one control with the driver's
own put handler. -/
theorem sndControls_putMute : ∀ k ∈ sndControls, k.put = .putMute → k = masterPlaybackSwitch := by
  decide

/-- A channel value stays inside the channel mask when `max` is the mask. -/
theorem chanVal_sub {mc : SocMixerControl} (hmax : BitVec.ofNat 8 mc.max = mc.mask) (v : Int) :
    mc.chanVal v &&& ~~~mc.mask = 0 := by
  unfold SocMixerControl.chanVal
  split
  · rw [hmax, sub_and_self]
    ext i; simp only [BitVec.getLsbD_and, BitVec.getLsbD_not, BitVec.getLsbD_zero]
    cases mc.mask.getLsbD i <;> simp
  · ext i; simp only [BitVec.getLsbD_and, BitVec.getLsbD_not, BitVec.getLsbD_zero]
    cases mc.mask.getLsbD i <;> simp

/-- Two values inside two masks stay inside the union of the masks. -/
theorem or_sub_or {a b m n : BitVec 8} (ha : a &&& ~~~m = 0) (hb : b &&& ~~~n = 0) :
    (a ||| b) &&& ~~~(m ||| n) = 0 := by
  ext i
  have h1 := congrArg (BitVec.getLsbD · i) ha
  have h2 := congrArg (BitVec.getLsbD · i) hb
  simp only [BitVec.getLsbD_and, BitVec.getLsbD_or, BitVec.getLsbD_not, BitVec.getLsbD_zero,
    i.isLt, decide_True, Bool.true_and] at h1 h2 ⊢
  revert h1 h2
  cases a.getLsbD i <;> cases b.getLsbD i <;> cases m.getLsbD i <;> cases n.getLsbD i <;> simp

section Puts

variable {s : Codec} {mc : SocMixerControl} {v0 v1 : Int} {x x0 x1 : Status}

/-- `snd_soc_put_volsw` changes the bits of its one or two channels and nothing else. -/
theorem sndSocPutVolsw_frame (hmax : BitVec.ofNat 8 mc.max = mc.mask) :
    CacheFrame (footAt mc.reg (mc.mask <<< mc.shift ||| mc.mask <<< mc.rshift))
      (sndSocPutVolsw s mc v0 v1 x).1 s := by
  have h0 := shiftLeft_sub (chanVal_sub hmax v0) mc.shift
  unfold sndSocPutVolsw
  split
  · exact sndSocUpdateBits_frame (or_sub_or h0 (shiftLeft_sub (chanVal_sub hmax v1) mc.rshift))
  · rename_i h; rw [not_not] at h; rw [← h, BitVec.or_self]
    exact sndSocUpdateBits_frame h0

/-- `snd_soc_put_volsw_2r` changes the channel bits of its two registers and
nothing else, however far it gets. -/
theorem sndSocPutVolsw2r_frame (hmax : BitVec.ofNat 8 mc.max = mc.mask) :
    CacheFrame (fun r => footAt mc.reg (mc.mask <<< mc.shift) r |||
        footAt mc.rreg (mc.mask <<< mc.shift) r)
      (sndSocPutVolsw2r s mc v0 v1 x0 x1).1 s := by
  have h0 := sndSocUpdateBits_frame (s := s) (a := mc.reg) (x := x0)
    (shiftLeft_sub (chanVal_sub hmax v0) mc.shift)
  dsimp only [sndSocPutVolsw2r]
  split <;> rename_i heq <;> rw [heq] at h0
  · exact h0.mono fun r => by ext i; simp; cases (footAt mc.reg _ r).getLsbD i <;> simp
  · refine (sndSocUpdateBits_frame (shiftLeft_sub (chanVal_sub hmax v1) mc.shift)).trans_le h0
      (fun r => ?_) (fun r => ?_) <;> ext i <;> simp <;>
      cases (footAt mc.reg _ r).getLsbD i <;> simp

/-- A `snd_soc_put_volsw` whose write succeeds leaves its channel values in its
bits, whatever the register held. -/
theorem sndSocPutVolsw_field (hmax : BitVec.ofNat 8 mc.max = mc.mask) (ha : Reg.pwrctl ≤ mc.reg)
    (r : Reg) :
    (sndSocPutVolsw s mc v0 v1 (.ok ())).1.cache r &&&
        footAt mc.reg (mc.mask <<< mc.shift ||| mc.mask <<< mc.rshift) r =
      if r = mc.reg then
        if mc.shift ≠ mc.rshift then mc.chanVal v0 <<< mc.shift ||| mc.chanVal v1 <<< mc.rshift
        else mc.chanVal v0 <<< mc.shift
      else 0 := by
  have h0 := shiftLeft_sub (chanVal_sub hmax v0) mc.shift
  unfold sndSocPutVolsw
  split
  · rename_i hne
    rw [sndSocUpdateBits_ok_store rfl,
      store_rmw_field ha (or_sub_or h0 (shiftLeft_sub (chanVal_sub hmax v1) mc.rshift))]
  · rename_i h; rw [not_not] at h
    rw [← h, BitVec.or_self, sndSocUpdateBits_ok_store rfl, store_rmw_field ha h0]

/-- A `snd_soc_put_volsw_2r` whose two writes succeed leaves each channel's value
in its register's bits. -/
theorem sndSocPutVolsw2r_field (hmax : BitVec.ofNat 8 mc.max = mc.mask) (ha : Reg.pwrctl ≤ mc.reg)
    (hb : Reg.pwrctl ≤ mc.rreg) (hne : mc.reg ≠ mc.rreg) (r : Reg) :
    (sndSocPutVolsw2r s mc v0 v1 (.ok ()) (.ok ())).1.cache r &&&
        (footAt mc.reg (mc.mask <<< mc.shift) r ||| footAt mc.rreg (mc.mask <<< mc.shift) r) =
      (if r = mc.reg then mc.chanVal v0 <<< mc.shift else 0) |||
        (if r = mc.rreg then mc.chanVal v1 <<< mc.shift else 0) := by
  have h0 := shiftLeft_sub (chanVal_sub hmax v0) mc.shift
  have h1 := shiftLeft_sub (chanVal_sub hmax v1) mc.shift
  have or0 : ∀ y : BitVec 8, y ||| 0 = y := fun _ => BitVec.or_zero
  have zor : ∀ y : BitVec 8, 0 ||| y = y := fun _ => BitVec.zero_or
  obtain ⟨b, hb0⟩ := sndSocUpdateBits_ok (s := s) (a := mc.reg) (m := mc.mask <<< mc.shift)
    (v := mc.chanVal v0 <<< mc.shift)
  dsimp only [sndSocPutVolsw2r]
  rw [hb0]
  dsimp only
  rw [sndSocUpdateBits_ok_store rfl]
  by_cases hr : r = mc.reg
  · subst hr
    rw [store_cache_of_ne hne, store_cache ha, Function.update_same]
    simp only [footAt, if_pos, if_neg hne, or0, rmw_and_self h0]
  · by_cases hr' : r = mc.rreg
    · subst hr'
      rw [store_cache hb, Function.update_same]
      simp only [footAt, if_pos, if_neg hr, zor, rmw_and_self h1]
    · simp only [footAt, if_neg hr, if_neg hr', or0]
      exact BitVec.and_zero

end Puts

namespace SndKcontrolNew

variable {k : SndKcontrolNew} {s : Codec} {v0 v1 : Int} {x0 x1 : Status}

/-- A write through a control of the table changes the cache only inside the
control's field. -/
theorem write_agree (hk : k ∈ sndControls) :
    AgreeOutside k.field (k.write s v0 v1 x0 x1).1.cache s.cache := by
  have hmax := sndControls_max_eq_mask k hk
  obtain ⟨name, mc, put⟩ := k
  cases put
  · exact (sndSocPutVolsw_frame hmax).agree
  · exact (sndSocPutVolsw2r_frame hmax).agree
  · exact (sndSocPutVolsw_frame (s := { s with manualMute := _ }) hmax).agree

/-- A write through a control changes nothing but the cache and, for the
'Master Playback Switch' alone, `manual_mute`, where it records which channels
the user set to zero. -/
theorem write_eq_with (hk : k ∈ sndControls) :
    (k.write s v0 v1 x0 x1).1 =
      { s with cache := (k.write s v0 v1 x0 x1).1.cache,
               manualMute := if k.put = .putMute then ManualMute.of (v0 == 0) (v1 == 0)
                 else s.manualMute } := by
  have hmax := sndControls_max_eq_mask k hk
  obtain ⟨name, mc, put⟩ := k
  cases put
  · exact (sndSocPutVolsw_frame hmax).eq_with
  · exact (sndSocPutVolsw2r_frame hmax).eq_with
  · exact (sndSocPutVolsw_frame (s := { s with manualMute := _ }) hmax).eq_with

/-- **What a control write stores.** A write through a control of the table whose
register writes succeed leaves the handler's channel values in the control's
field, whatever the cache held before. -/
theorem write_field (hk : k ∈ sndControls) (r : Reg) :
    (k.write s v0 v1 (.ok ()) (.ok ())).1.cache r &&& k.field r = k.stored v0 v1 r := by
  have hmax := sndControls_max_eq_mask k hk
  obtain ⟨ha, hb, hne⟩ := sndControls_regs k hk
  obtain ⟨name, mc, put⟩ := k
  cases put
  · exact sndSocPutVolsw_field hmax ha r
  · exact sndSocPutVolsw2r_field hmax ha hb (hne rfl) r
  · exact sndSocPutVolsw_field (s := { s with manualMute := _ }) hmax ha r

end SndKcontrolNew

end Cs4270
