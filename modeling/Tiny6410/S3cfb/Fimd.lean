import Mathlib.Data.BitVec

/-!
# The display controller's timing setup, as `s3c_mini6410.c` computes it

`s3cfb_set_fimd_info` fills the framebuffer driver's `s3cfb_fimd` record from the
panel that `mini210_get_lcd` describes: the VIDCON1 polarity bits, the VIDTCON0–2
timing registers, the corners of the two OSD windows, and the counts the
framebuffer layer reads (resolution, margins, sync lengths, pixel clock). The
`CONFIG_FB_S3C_EXT_MINI6410` build takes the panel at run time (`s3cfbSetFimdInfo`);
the others pack the same registers from the panel macros of `s3c_mini6410.h`
(`PanelMacros.s3cfbSetFimdInfo`).

The bit and field macros of `mach/regs-lcd.h` and the panel and record types of
`mach/s3cfb.h` are not under src/ either. The macros are parameters
(`RegsLcd`): a polarity bit is a register value, and a field macro is a field
of the 32-bit register, `S3C_X(x) = (x & (2^width - 1)) << shift` (`Field`).
The panel's numbers are C `int`s; the record's fields are 32-bit unsigned.

The field lemmas at the end (`Field.get_put`, `Field.get_put_of_disjoint`,
`Field.get_or`) read a field back out of a packed register: it holds its value
cut to its width, and a field at other bits does not reach it.
-/

namespace S3cfb

/-! ## Register fields -/

/-- A field of a 32-bit controller register, as a field macro places it. -/
structure Field where
  shift : Nat
  width : Nat
  deriving DecidableEq, Repr

/-- The field's low mask, `2^width - 1`. -/
def Field.mask (f : Field) : BitVec 32 := BitVec.ofNat 32 (2 ^ f.width - 1)

/-- The field macro: the value's low `width` bits, at `shift`. -/
def Field.put (f : Field) (x : BitVec 32) : BitVec 32 := (x &&& f.mask) <<< f.shift

/-- The field read back out of a register. -/
def Field.get (f : Field) (r : BitVec 32) : BitVec 32 := (r >>> f.shift) &&& f.mask

/-- The field lies inside the 32-bit register. -/
abbrev Field.Fits (f : Field) : Prop := f.shift + f.width ≤ 32

/-- Two fields share no bit. -/
abbrev Field.Disjoint (f g : Field) : Prop :=
  f.shift + f.width ≤ g.shift ∨ g.shift + g.width ≤ f.shift

/-! ## The macros of `mach/regs-lcd.h` -/

/-- The VIDCON1 bits and the VIDTCON and VIDOSD field macros
`s3cfb_set_fimd_info` uses. -/
structure RegsLcd where
  /-- `S3C_VIDCON1_IVCLK_RISE_EDGE` -/
  ivclkRiseEdge : BitVec 32
  /-- `S3C_VIDCON1_IHSYNC_INVERT` -/
  ihsyncInvert : BitVec 32
  /-- `S3C_VIDCON1_IVSYNC_INVERT` -/
  ivsyncInvert : BitVec 32
  /-- `S3C_VIDCON1_IVDEN_INVERT` -/
  ivdenInvert : BitVec 32
  /-- `S3C_VIDTCON0_VBPD`, `_VFPD`, `_VSPW` -/
  vbpd : Field
  vfpd : Field
  vspw : Field
  /-- `S3C_VIDTCON1_HBPD`, `_HFPD`, `_HSPW` -/
  hbpd : Field
  hfpd : Field
  hspw : Field
  /-- `S3C_VIDTCON2_LINEVAL`, `_HOZVAL` -/
  lineval : Field
  hozval : Field
  /-- `S3C_VIDOSDxA_OSD_LTX_F`, `_LTY_F` -/
  osdLtxF : Field
  osdLtyF : Field
  /-- `S3C_VIDOSDxB_OSD_RBX_F`, `_RBY_F` -/
  osdRbxF : Field
  osdRbyF : Field

/-- Every field fits the register, and the fields of one register are disjoint. -/
abbrev RegsLcd.WellFormed (R : RegsLcd) : Prop :=
  (R.vbpd.Fits ∧ R.vfpd.Fits ∧ R.vspw.Fits ∧ R.hbpd.Fits ∧ R.hfpd.Fits ∧ R.hspw.Fits ∧
    R.lineval.Fits ∧ R.hozval.Fits ∧ R.osdLtxF.Fits ∧ R.osdLtyF.Fits ∧ R.osdRbxF.Fits ∧
    R.osdRbyF.Fits) ∧
  (R.vbpd.Disjoint R.vfpd ∧ R.vbpd.Disjoint R.vspw ∧ R.vfpd.Disjoint R.vspw) ∧
  (R.hbpd.Disjoint R.hfpd ∧ R.hbpd.Disjoint R.hspw ∧ R.hfpd.Disjoint R.hspw) ∧
  R.lineval.Disjoint R.hozval ∧ R.osdLtxF.Disjoint R.osdLtyF ∧ R.osdRbxF.Disjoint R.osdRbyF

/-! ## The panel and the record -/

/-- `struct s3cfb_lcd_timing`: porches and sync widths, in clocks and lines. -/
structure S3cfbLcdTiming where
  hFp : Int
  hBp : Int
  hSw : Int
  vFp : Int
  vBp : Int
  vSw : Int
  deriving DecidableEq, Repr

/-- `struct s3cfb_lcd_polarity`: each a C truth value. -/
structure S3cfbLcdPolarity where
  riseVclk : Int
  invHsync : Int
  invVsync : Int
  invVden : Int
  deriving DecidableEq, Repr

/-- `struct s3cfb_lcd`, as far as `s3cfb_set_fimd_info` reads it. -/
structure S3cfbLcd where
  width : Int
  height : Int
  pWidth : Int
  pHeight : Int
  freq : Int
  timing : S3cfbLcdTiming
  polarity : S3cfbLcdPolarity
  deriving DecidableEq, Repr

/-- The fields of `s3cfb_fimd` that `s3cfb_set_fimd_info` writes. -/
structure S3cfbFimd where
  vidcon1 : BitVec 32
  vidtcon0 : BitVec 32
  vidtcon1 : BitVec 32
  vidtcon2 : BitVec 32
  vidosd0a : BitVec 32
  vidosd0b : BitVec 32
  vidosd1a : BitVec 32
  vidosd1b : BitVec 32
  width : BitVec 32
  height : BitVec 32
  xres : BitVec 32
  yres : BitVec 32
  xresVirtual : BitVec 32
  yresVirtual : BitVec 32
  osdWidth : BitVec 32
  osdHeight : BitVec 32
  osdXres : BitVec 32
  osdYres : BitVec 32
  osdXresVirtual : BitVec 32
  osdYresVirtual : BitVec 32
  pixclock : BitVec 32
  hsyncLen : BitVec 32
  vsyncLen : BitVec 32
  leftMargin : BitVec 32
  upperMargin : BitVec 32
  rightMargin : BitVec 32
  lowerMargin : BitVec 32
  deriving DecidableEq, Repr

/-! ## `s3cfb_set_fimd_info` -/

/-- A C `int` stored into, or handed as, a 32-bit unsigned value. -/
def u32 (x : Int) : BitVec 32 := BitVec.ofInt 32 x

/-- `s3cfb_set_fimd_info` of the `CONFIG_FB_S3C_EXT_MINI6410` build, for the panel
`lcd` that `mini210_get_lcd` returns. -/
def s3cfbSetFimdInfo (R : RegsLcd) (lcd : S3cfbLcd) : S3cfbFimd :=
  let val : BitVec 32 := 0
  let val := if lcd.polarity.riseVclk ≠ 0 then val ||| R.ivclkRiseEdge else val
  let val := if lcd.polarity.invHsync ≠ 0 then val ||| R.ihsyncInvert else val
  let val := if lcd.polarity.invVsync ≠ 0 then val ||| R.ivsyncInvert else val
  let val := if lcd.polarity.invVden ≠ 0 then val ||| R.ivdenInvert else val
  { vidcon1 := val
    vidtcon0 := R.vbpd.put (u32 (lcd.timing.vBp - 1)) ||| R.vfpd.put (u32 (lcd.timing.vFp - 1)) |||
      R.vspw.put (u32 (lcd.timing.vSw - 1))
    vidtcon1 := R.hbpd.put (u32 (lcd.timing.hBp - 1)) ||| R.hfpd.put (u32 (lcd.timing.hFp - 1)) |||
      R.hspw.put (u32 (lcd.timing.hSw - 1))
    vidtcon2 := R.lineval.put (u32 (lcd.height - 1)) ||| R.hozval.put (u32 (lcd.width - 1))
    vidosd0a := R.osdLtxF.put 0 ||| R.osdLtyF.put 0
    vidosd0b := R.osdRbxF.put (u32 (lcd.width - 1)) ||| R.osdRbyF.put (u32 (lcd.height - 1))
    vidosd1a := R.osdLtxF.put 0 ||| R.osdLtyF.put 0
    vidosd1b := R.osdRbxF.put (u32 (lcd.width - 1)) ||| R.osdRbyF.put (u32 (lcd.height - 1))
    width := u32 lcd.pWidth
    height := u32 lcd.pHeight
    xres := u32 lcd.width
    yres := u32 lcd.height
    xresVirtual := u32 lcd.width
    yresVirtual := u32 lcd.height
    osdWidth := u32 lcd.pWidth
    osdHeight := u32 lcd.pHeight
    osdXres := u32 lcd.width
    osdYres := u32 lcd.height
    osdXresVirtual := u32 lcd.width
    osdYresVirtual := u32 lcd.height
    pixclock := u32 lcd.freq
    hsyncLen := u32 lcd.timing.hSw
    vsyncLen := u32 lcd.timing.vSw
    leftMargin := u32 lcd.timing.hBp
    upperMargin := u32 lcd.timing.vBp
    rightMargin := u32 lcd.timing.hFp
    lowerMargin := u32 lcd.timing.vFp }

/-! ## The build with the panel compiled in

Without `CONFIG_FB_S3C_EXT_MINI6410`, `s3cfb_set_fimd_info` packs the same registers from
the panel macros of `s3c_mini6410.h`, which is not under src/; they are a parameter
(`PanelMacros`). The file itself defines the virtual and OSD sizes as `S3CFB_HRES` and
`S3CFB_VRES` and the pixel clock as `S3CFB_CLKVAL`, so `CONFIG_FB_S3C_EXT_VIRTUAL_SCREEN`
picks between two equal values. -/

/-- The panel macros of `s3c_mini6410.h`. -/
structure PanelMacros where
  /-- `S3CFB_HFP`, `S3CFB_HSW`, `S3CFB_HBP` -/
  hfp : Int
  hsw : Int
  hbp : Int
  /-- `S3CFB_VFP`, `S3CFB_VSW`, `S3CFB_VBP` -/
  vfp : Int
  vsw : Int
  vbp : Int
  /-- `S3CFB_HRES`, `S3CFB_VRES` -/
  hres : Int
  vres : Int
  /-- `S3CFB_CLKVAL` -/
  clkval : Int
  /-- `S3CFB_VIDCON1`, when the header defines it -/
  vidcon1 : Option (BitVec 32)
  deriving DecidableEq, Repr

/-- `s3cfb_set_fimd_info` of the builds without `CONFIG_FB_S3C_EXT_MINI6410`, for the
panel macros `M`. `ivdenNormal` is `S3C_VIDCON1_IVDEN_NORMAL` of `mach/regs-lcd.h`;
`vga` is set when one of `CONFIG_FB_S3C_EXT_VGA1024768`, `_VGA640480` and
`_VGA800600` is. -/
def PanelMacros.s3cfbSetFimdInfo (M : PanelMacros) (R : RegsLcd) (ivdenNormal : BitVec 32)
    (vga : Bool) : S3cfbFimd :=
  let vidcon1 :=
    match M.vidcon1 with
    | some v => v
    | none => R.ihsyncInvert ||| R.ivsyncInvert ||| ivdenNormal
  { vidcon1 := if vga then 0 else vidcon1
    vidtcon0 := R.vbpd.put (u32 (M.vbp - 1)) ||| R.vfpd.put (u32 (M.vfp - 1)) |||
      R.vspw.put (u32 (M.vsw - 1))
    vidtcon1 := R.hbpd.put (u32 (M.hbp - 1)) ||| R.hfpd.put (u32 (M.hfp - 1)) |||
      R.hspw.put (u32 (M.hsw - 1))
    vidtcon2 := R.lineval.put (u32 (M.vres - 1)) ||| R.hozval.put (u32 (M.hres - 1))
    vidosd0a := R.osdLtxF.put 0 ||| R.osdLtyF.put 0
    vidosd0b := R.osdRbxF.put (u32 (M.hres - 1)) ||| R.osdRbyF.put (u32 (M.vres - 1))
    vidosd1a := R.osdLtxF.put 0 ||| R.osdLtyF.put 0
    vidosd1b := R.osdRbxF.put (u32 (M.hres - 1)) ||| R.osdRbyF.put (u32 (M.vres - 1))
    width := u32 M.hres
    height := u32 M.vres
    xres := u32 M.hres
    yres := u32 M.vres
    xresVirtual := u32 M.hres
    yresVirtual := u32 M.vres
    osdWidth := u32 M.hres
    osdHeight := u32 M.vres
    osdXres := u32 M.hres
    osdYres := u32 M.vres
    osdXresVirtual := u32 M.hres
    osdYresVirtual := u32 M.vres
    pixclock := u32 M.clkval
    hsyncLen := u32 M.hsw
    vsyncLen := u32 M.vsw
    leftMargin := u32 M.hbp
    upperMargin := u32 M.vbp
    rightMargin := u32 M.hfp
    lowerMargin := u32 M.vfp }

/-! ## Reading a field back -/

section Fields

variable (f g : Field)

theorem Field.getLsbD_mask (i : Nat) :
    f.mask.getLsbD i = (decide (i < 32) && decide (i < f.width)) := by
  simp [Field.mask, BitVec.getLsbD_ofNat]

/-- A field reads back its value, cut to its width. -/
theorem Field.get_put (hf : f.Fits) (x : BitVec 32) : f.get (f.put x) = x &&& f.mask := by
  ext i
  simp only [Field.get, Field.put, BitVec.getLsbD_and, BitVec.getLsbD_ushiftRight,
    BitVec.getLsbD_shiftLeft, Field.getLsbD_mask]
  by_cases hi : (i : Nat) < f.width
  · have : f.shift + i < 32 := by omega
    simp [hi, this]
  · simp [hi]

/-- A field at other bits does not reach this one. -/
theorem Field.get_put_of_disjoint (hfg : f.Disjoint g) (x : BitVec 32) : g.get (f.put x) = 0 := by
  ext i
  simp only [Field.get, Field.put, BitVec.getLsbD_and, BitVec.getLsbD_ushiftRight,
    BitVec.getLsbD_shiftLeft, Field.getLsbD_mask, BitVec.getLsbD_zero]
  by_cases hi : (i : Nat) < g.width
  · by_cases h2 : g.shift + i < f.shift
    · simp [h2]
    · have : ¬ g.shift + i - f.shift < f.width := by omega
      simp [this]
  · simp [hi]

/-- Reading a field distributes over the register's parts. -/
theorem Field.get_or (a b : BitVec 32) : f.get (a ||| b) = f.get a ||| f.get b := by
  ext i
  simp only [Field.get, BitVec.getLsbD_and, BitVec.getLsbD_or, BitVec.getLsbD_ushiftRight]
  cases a.getLsbD (f.shift + i) <;> cases b.getLsbD (f.shift + i) <;> simp

theorem Field.Disjoint.symm {f g : Field} (h : f.Disjoint g) : g.Disjoint f := Or.symm h

end Fields

end S3cfb
