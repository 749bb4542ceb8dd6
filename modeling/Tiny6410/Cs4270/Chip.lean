import Mathlib.Data.Fin.VecNotation

/-!
# The CS4270's register file, as `cs4270.c` declares it

Register addresses, the bit fields the driver touches, the power-on defaults
(`cs4270_default_reg_cache`), the volatility callbacks, and the MCLK/LRCK ratio
table (`cs4270_mode_ratios`) with its `CONFIG_SND_SOC_CS4270_VD33_ERRATA` entry.

Registers are bytes: the driver asks ASoC for 8-bit addresses and 8-bit data
(`snd_soc_codec_set_cache_io(codec, 8, 8, ...)`) and declares
`reg_word_size = sizeof(u8)`, so every value below is a `BitVec 8`.

The bit masks the driver defines but no modelled function reads (the freeze,
loopback, inversion and polarity bits, `CS4270_CHIPID_*`, `CS4270_I2C_INCR`)
are left out. The two read-modify-write lemmas at the end are the whole of
the bit reasoning the laws need: a cleared-and-set register keeps every bit
outside the cleared mask, and shows the set value inside it.
-/

namespace Cs4270

/-! ## Addresses -/

/-- A register address of the cache: `0 .. CS4270_LASTREG`. ASoC sizes the cache
`CS4270_LASTREG + 1` and the driver keeps address 0, which the chip does not have. -/
abbrev Reg := Fin 9

/-- `CS4270_FIRSTREG`. -/
def firstreg : Reg := 1
/-- `CS4270_LASTREG`. -/
def lastreg : Reg := 8

namespace Reg
/-- `CS4270_CHIPID`: chip ID and revision. -/
def chipid : Reg := 1
/-- `CS4270_PWRCTL`: power control. -/
def pwrctl : Reg := 2
/-- `CS4270_MODE`: mode control. -/
def mode : Reg := 3
/-- `CS4270_FORMAT`: serial format, ADC/DAC control. -/
def format : Reg := 4
/-- `CS4270_TRANS`: transition control. -/
def trans : Reg := 5
/-- `CS4270_MUTE`: mute control. -/
def mute : Reg := 6
/-- `CS4270_VOLA`: DAC channel A volume. -/
def vola : Reg := 7
/-- `CS4270_VOLB`: DAC channel B volume. -/
def volb : Reg := 8
end Reg

/-! ## Bit fields -/

/-- `CS4270_PWRCTL_PDN_ALL`: `PDN_ADC | PDN_DAC | PDN`. -/
def pwrctlPdnAll : BitVec 8 := 0x20 ||| 0x02 ||| 0x01

/-- `CS4270_MODE_SPEED_MASK`. -/
def modeSpeedMask : BitVec 8 := 0x30
/-- `CS4270_MODE_1X`: single speed. -/
def mode1x : BitVec 8 := 0x00
/-- `CS4270_MODE_2X`: double speed. -/
def mode2x : BitVec 8 := 0x10
/-- `CS4270_MODE_4X`: quad speed. -/
def mode4x : BitVec 8 := 0x20
/-- `CS4270_MODE_SLAVE`: the speed field's slave setting. -/
def modeSlave : BitVec 8 := 0x30
/-- `CS4270_MODE_DIV_MASK`. -/
def modeDivMask : BitVec 8 := 0x0E
/-- `CS4270_MODE_DIV1`. -/
def modeDiv1 : BitVec 8 := 0x00
/-- `CS4270_MODE_DIV15`: divide by 1.5. -/
def modeDiv15 : BitVec 8 := 0x02
/-- `CS4270_MODE_DIV2`. -/
def modeDiv2 : BitVec 8 := 0x04
/-- `CS4270_MODE_DIV3`. -/
def modeDiv3 : BitVec 8 := 0x06
/-- `CS4270_MODE_DIV4`. -/
def modeDiv4 : BitVec 8 := 0x08

/-- `CS4270_FORMAT_DAC_MASK`. -/
def formatDacMask : BitVec 8 := 0x18
/-- `CS4270_FORMAT_DAC_LJ`. -/
def formatDacLj : BitVec 8 := 0x00
/-- `CS4270_FORMAT_DAC_I2S`. -/
def formatDacI2s : BitVec 8 := 0x08
/-- `CS4270_FORMAT_ADC_MASK`. -/
def formatAdcMask : BitVec 8 := 0x01
/-- `CS4270_FORMAT_ADC_LJ`. -/
def formatAdcLj : BitVec 8 := 0x00
/-- `CS4270_FORMAT_ADC_I2S`. -/
def formatAdcI2s : BitVec 8 := 0x01

/-- `CS4270_TRANS_SOFT`: soft ramp. -/
def transSoft : BitVec 8 := 0x40
/-- `CS4270_TRANS_ZERO`: zero-cross. -/
def transZero : BitVec 8 := 0x20

/-- `CS4270_MUTE_AUTO`. -/
def muteAuto : BitVec 8 := 0x20
/-- `CS4270_MUTE_DAC_A`. -/
def muteDacA : BitVec 8 := 0x01
/-- `CS4270_MUTE_DAC_B`. -/
def muteDacB : BitVec 8 := 0x02

/-! ## Defaults and volatility -/

/-- `cs4270_default_reg_cache`: the power-on values, address 0 included. -/
def defaultRegCache : Reg → BitVec 8 :=
  ![0x00, 0x00, 0x00, 0x30, 0x00, 0x60, 0x20, 0x00, 0x00]

/-- `cs4270_reg_is_readable`. -/
def regIsReadable (reg : Reg) : Bool :=
  firstreg ≤ reg && reg ≤ lastreg

/-- `cs4270_reg_is_volatile`: unreadable registers, and the chip ID, whose low
nibble is the hardware revision. -/
def regIsVolatile (reg : Reg) : Bool :=
  if reg < firstreg || reg > lastreg then true else reg == Reg.chipid

/-- Of the registers the driver writes, none is volatile: ASoC caches all of them. -/
theorem regIsVolatile_eq_false {reg : Reg} (h : Reg.pwrctl ≤ reg) :
    regIsVolatile reg = false := by
  revert reg; decide

/-! ## The MCLK/LRCK ratio table -/

/-- `struct cs4270_mode_ratios`: a ratio of MCLK to the sample rate, with the
Speed Mode and Ratio Select bits it is programmed with. -/
structure ModeRatio where
  ratio : Nat
  speedMode : BitVec 8
  mclk : BitVec 8
  deriving DecidableEq, Repr

/-- `cs4270_mode_ratios[]`. The divide-by-1.5 entry is compiled out when
`CONFIG_SND_SOC_CS4270_VD33_ERRATA` is set (`vd33Errata`). -/
def modeRatios (vd33Errata : Bool) : List ModeRatio :=
  ⟨64, mode4x, modeDiv1⟩ ::
  (if vd33Errata then [] else [⟨96, mode4x, modeDiv15⟩]) ++
  [⟨128, mode2x, modeDiv1⟩,
   ⟨192, mode4x, modeDiv3⟩,
   ⟨256, mode1x, modeDiv1⟩,
   ⟨384, mode2x, modeDiv3⟩,
   ⟨512, mode1x, modeDiv2⟩,
   ⟨768, mode1x, modeDiv3⟩,
   ⟨1024, mode1x, modeDiv4⟩]

/-- Every entry's bits stay inside the speed and divider fields that
`cs4270_hw_params` clears, with the entry's speed or with the slave setting. -/
theorem modeRatios_fields (vd33Errata : Bool) :
    ∀ r ∈ modeRatios vd33Errata,
      (r.mclk ||| r.speedMode) &&& ~~~(modeSpeedMask ||| modeDivMask) = 0 ∧
      (r.mclk ||| modeSlave) &&& ~~~(modeSpeedMask ||| modeDivMask) = 0 := by
  cases vd33Errata <;> decide

/-- The speed field of an entry's Mode Control bits is the entry's speed, or the
slave setting when that is set instead, and no entry's speed is the slave one. -/
theorem modeRatios_speed (vd33Errata : Bool) :
    ∀ r ∈ modeRatios vd33Errata,
      (r.mclk ||| r.speedMode) &&& modeSpeedMask = r.speedMode ∧
      (r.mclk ||| modeSlave) &&& modeSpeedMask = modeSlave ∧ r.speedMode ≠ modeSlave := by
  cases vd33Errata <;> decide

/-! ## Read-modify-write -/

section Rmw

variable {w : Nat} {x m v f : BitVec w}

/-- Inside the cleared mask only the set value shows. -/
theorem rmw_and_of_sub (hf : f &&& ~~~m = 0) :
    ((x &&& ~~~m) ||| v) &&& f = v &&& f := by
  ext i
  have h1 := congrArg (BitVec.getLsbD · i) hf
  simp only [BitVec.getLsbD_and, BitVec.getLsbD_or, BitVec.getLsbD_not,
    BitVec.getLsbD_zero, i.isLt, decide_True, Bool.true_and] at h1 ⊢
  revert h1
  cases x.getLsbD i <;> cases m.getLsbD i <;> cases v.getLsbD i <;>
    cases f.getLsbD i <;> simp

/-- The cleared mask shows exactly the set value, when that stays inside it. -/
theorem rmw_and_self (hv : v &&& ~~~m = 0) : ((x &&& ~~~m) ||| v) &&& m = v := by
  ext i
  have h1 := congrArg (BitVec.getLsbD · i) hv
  simp only [BitVec.getLsbD_and, BitVec.getLsbD_or, BitVec.getLsbD_not,
    BitVec.getLsbD_zero, i.isLt, decide_True, Bool.true_and] at h1 ⊢
  revert h1
  cases x.getLsbD i <;> cases m.getLsbD i <;> cases v.getLsbD i <;> simp

/-- Setting a mask is a read-modify-write that clears it first. -/
theorem or_eq_rmw (x m : BitVec w) : x ||| m = (x &&& ~~~m) ||| m := by
  ext i
  simp only [BitVec.getLsbD_and, BitVec.getLsbD_or, BitVec.getLsbD_not, i.isLt, decide_True,
    Bool.true_and]
  cases x.getLsbD i <;> cases m.getLsbD i <;> simp

/-- Clearing a mask after setting it is clearing it. -/
theorem or_and_not_self (x m : BitVec w) : (x ||| m) &&& ~~~m = x &&& ~~~m := by
  ext i
  simp only [BitVec.getLsbD_and, BitVec.getLsbD_or, BitVec.getLsbD_not, i.isLt, decide_True,
    Bool.true_and]
  cases x.getLsbD i <;> cases m.getLsbD i <;> simp

/-- A cleared mask has none of its bits left. -/
theorem and_not_and_self (x m : BitVec w) : (x &&& ~~~m) &&& m = 0 := by
  ext i
  simp only [BitVec.getLsbD_and, BitVec.getLsbD_not, BitVec.getLsbD_zero]
  cases x.getLsbD i <;> cases m.getLsbD i <;> simp

/-- Clearing bits that are already clear changes nothing. -/
theorem and_not_of_and_eq_zero (h : x &&& m = 0) : x &&& ~~~m = x := by
  ext i
  have h1 := congrArg (BitVec.getLsbD · i) h
  simp only [BitVec.getLsbD_and, BitVec.getLsbD_not, BitVec.getLsbD_zero, i.isLt, decide_True,
    Bool.true_and] at h1 ⊢
  revert h1
  cases x.getLsbD i <;> cases m.getLsbD i <;> simp

/-- `m` minus a part of itself takes that part's bits away, with no borrow. -/
theorem sub_and_self (m b : BitVec w) : m - (b &&& m) = m &&& ~~~b := by
  have hd : (m &&& ~~~b) &&& (b &&& m) = 0 := by
    ext i; simp only [BitVec.getLsbD_and, BitVec.getLsbD_not, BitVec.getLsbD_zero]
    cases m.getLsbD i <;> cases b.getLsbD i <;> simp
  have hm : (m &&& ~~~b) ||| (b &&& m) = m := by
    ext i; simp only [BitVec.getLsbD_and, BitVec.getLsbD_or, BitVec.getLsbD_not, i.isLt,
      decide_True, Bool.true_and]
    cases m.getLsbD i <;> cases b.getLsbD i <;> simp
  calc m - (b &&& m) = (m &&& ~~~b) + (b &&& m) - (b &&& m) := by
        rw [BitVec.add_eq_or_of_and_eq_zero _ _ hd, hm]
    _ = m &&& ~~~b := BitVec.add_sub_cancel _ _

/-- Shifting a value and its mask together keeps the value inside the mask. -/
theorem shiftLeft_sub (h : v &&& ~~~m = 0) (n : Nat) : (v <<< n) &&& ~~~(m <<< n) = 0 := by
  ext i
  have h1 := congrArg (BitVec.getLsbD · (i - n)) h
  simp only [BitVec.getLsbD_and, BitVec.getLsbD_not, BitVec.getLsbD_shiftLeft,
    BitVec.getLsbD_zero, i.isLt, decide_True, Bool.true_and] at h1 ⊢
  by_cases hn : (i : Nat) < n
  · simp [hn]
  · have : (i : Nat) - n < w := by omega
    simp only [hn, this, decide_True, decide_False, Bool.not_false, Bool.true_and] at h1 ⊢
    revert h1; cases v.getLsbD (i - n) <;> cases m.getLsbD (i - n) <;> simp

end Rmw

/-! ## Footprints

What an operation may change is stated as a footprint: for every register, the
bits it may flip. Two caches that agree outside a footprint agree on every
field disjoint from it, which is how the laws read a frame condition. -/

/-- The footprint of one register's field `m`. -/
def footAt (reg : Reg) (m : BitVec 8) : Reg → BitVec 8 := fun r => if r = reg then m else 0

/-- Two caches agree outside the footprint `F`: every bit of every register not
in `F` is the same in both. -/
def AgreeOutside (F : Reg → BitVec 8) (c d : Reg → BitVec 8) : Prop :=
  ∀ r, c r &&& ~~~F r = d r &&& ~~~F r

namespace AgreeOutside

variable {F G : Reg → BitVec 8} {c d e : Reg → BitVec 8}

theorem refl (F : Reg → BitVec 8) (c : Reg → BitVec 8) : AgreeOutside F c c := fun _ => rfl

/-- A cache that changed only inside `F` and then only inside `G` changed only
inside `F ||| G`. -/
theorem trans (h1 : AgreeOutside F c d) (h2 : AgreeOutside G d e) :
    AgreeOutside (fun r => F r ||| G r) c e := by
  intro r
  have key : ∀ y : BitVec 8, y &&& ~~~(F r ||| G r) = (y &&& ~~~F r) &&& ~~~G r := by
    intro y; ext i
    simp only [BitVec.getLsbD_and, BitVec.getLsbD_or, BitVec.getLsbD_not, i.isLt,
      decide_True, Bool.true_and]
    cases y.getLsbD i <;> cases F r |>.getLsbD i <;> cases G r |>.getLsbD i <;> simp
  have key' : ∀ y : BitVec 8, y &&& ~~~(F r ||| G r) = (y &&& ~~~G r) &&& ~~~F r := by
    intro y; rw [key, BitVec.and_assoc, BitVec.and_assoc, BitVec.and_comm (~~~F r)]
  rw [key, h1 r, ← key, key', h2 r, ← key']

/-- A footprint can always be widened. -/
theorem mono (h : AgreeOutside F c d) (hFG : ∀ r, F r &&& ~~~G r = 0) :
    AgreeOutside G c d := by
  intro r
  have hr := congrArg (· &&& ~~~G r) (h r)
  have key : ∀ y : BitVec 8, (y &&& ~~~F r) &&& ~~~G r = y &&& ~~~G r := by
    intro y; ext i
    have h1 := congrArg (BitVec.getLsbD · i) (hFG r)
    simp only [BitVec.getLsbD_and, BitVec.getLsbD_not, BitVec.getLsbD_zero, i.isLt,
      decide_True, Bool.true_and] at h1 ⊢
    revert h1; cases y.getLsbD i <;> cases F r |>.getLsbD i <;> cases G r |>.getLsbD i <;> simp
  simpa only [key] using hr

/-- Caches that agree outside `F` agree on every field disjoint from `F`. -/
theorem field (h : AgreeOutside F c d) {r : Reg} {f : BitVec 8} (hf : f &&& F r = 0) :
    c r &&& f = d r &&& f := by
  have key : ∀ y : BitVec 8, y &&& f = (y &&& ~~~F r) &&& f := by
    intro y; ext i
    have h1 := congrArg (BitVec.getLsbD · i) hf
    simp only [BitVec.getLsbD_and, BitVec.getLsbD_not, BitVec.getLsbD_zero, i.isLt,
      decide_True, Bool.true_and] at h1 ⊢
    revert h1; cases y.getLsbD i <;> cases F r |>.getLsbD i <;> cases f.getLsbD i <;> simp
  rw [key, h r, ← key]

/-- A read-modify-write of one register that keeps its value inside the cleared
mask changes only that mask. -/
theorem update_rmw {reg : Reg} {m v : BitVec 8} (hv : v &&& ~~~m = 0) :
    AgreeOutside (footAt reg m) (Function.update c reg ((c reg &&& ~~~m) ||| v)) c := by
  intro r
  by_cases hr : r = reg
  · subst hr
    rw [show footAt r m r = m from if_pos rfl, Function.update_same]
    ext i
    have h1 := congrArg (BitVec.getLsbD · i) hv
    simp only [BitVec.getLsbD_and, BitVec.getLsbD_or, BitVec.getLsbD_not, BitVec.getLsbD_zero,
      i.isLt, decide_True, Bool.true_and] at h1 ⊢
    revert h1
    cases (c r).getLsbD i <;> cases m.getLsbD i <;> cases v.getLsbD i <;> simp
  · simp [Function.update_noteq hr]

end AgreeOutside

end Cs4270
