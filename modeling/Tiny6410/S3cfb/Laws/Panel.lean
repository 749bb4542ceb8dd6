import Tiny6410.S3cfb.Fimd

/-!
# The panel the controller is programmed with

`s3cfb_set_fimd_info` writes each number of the panel into a field of a VIDTCON or
VIDOSD register, minus one: the controller counts a field's value plus one
(`Field.count`). Read back out of the registers, the record describes a panel of its
own (`S3cfbFimd.programmedTiming`, `S3cfbFimd.programmedSize`, `RegsLcd.osdWindow`).

- **Every panel** (`s3cfbSetFimdInfo_cuts_panel`): over every register layout whose
  fields fit and do not overlap, each field programs the panel's number minus one cut
  to the field's width, plus one (`Field.wrap`). The code checks no range: a porch of 0
  programs the field's largest count.
- **Panels in range** (`s3cfbSetFimdInfo_programs_panel`): when every number lies in
  `1 .. 2^width` of its fields, the controller is programmed with exactly the panel's
  timing and size, and both OSD windows span the screen from the origin.
-/

namespace S3cfb

/-! ## What the registers program -/

/-- The count a field programs: its value plus one. -/
def Field.count (f : Field) (r : BitVec 32) : Int := (f.get r).toNat + 1

/-- The count a field programs for the C value `t` written minus one: `t - 1` cut to the
field's width, plus one. -/
def Field.wrap (f : Field) (t : Int) : Int := (t - 1) % 2 ^ f.width + 1

/-- The count `t` fits the field, stored minus one. -/
abbrev Field.Holds (f : Field) (t : Int) : Prop := 1 ≤ t ∧ t ≤ 2 ^ f.width

/-- The porches and sync widths the controller runs, read from VIDTCON0 and VIDTCON1. -/
def S3cfbFimd.programmedTiming (R : RegsLcd) (fimd : S3cfbFimd) : S3cfbLcdTiming where
  hFp := R.hfpd.count fimd.vidtcon1
  hBp := R.hbpd.count fimd.vidtcon1
  hSw := R.hspw.count fimd.vidtcon1
  vFp := R.vfpd.count fimd.vidtcon0
  vBp := R.vbpd.count fimd.vidtcon0
  vSw := R.vspw.count fimd.vidtcon0

/-- The screen the controller scans, HOZVAL + 1 pixels by LINEVAL + 1 lines. -/
def S3cfbFimd.programmedSize (R : RegsLcd) (fimd : S3cfbFimd) : Int × Int :=
  (R.hozval.count fimd.vidtcon2, R.lineval.count fimd.vidtcon2)

/-- An OSD window's left-top and right-bottom corners, from its VIDOSDxA and VIDOSDxB. -/
def RegsLcd.osdWindow (R : RegsLcd) (a b : BitVec 32) : (Int × Int) × (Int × Int) :=
  (((R.osdLtxF.get a).toNat, (R.osdLtyF.get a).toNat),
    ((R.osdRbxF.get b).toNat, (R.osdRbyF.get b).toNat))

/-- The timing each field can carry for `t`. -/
def S3cfbLcdTiming.cut (R : RegsLcd) (t : S3cfbLcdTiming) : S3cfbLcdTiming where
  hFp := R.hfpd.wrap t.hFp
  hBp := R.hbpd.wrap t.hBp
  hSw := R.hspw.wrap t.hSw
  vFp := R.vfpd.wrap t.vFp
  vBp := R.vbpd.wrap t.vBp
  vSw := R.vspw.wrap t.vSw

/-- Every number of the panel fits the fields it is written to. -/
abbrev S3cfbLcd.InRange (lcd : S3cfbLcd) (R : RegsLcd) : Prop :=
  R.hfpd.Holds lcd.timing.hFp ∧ R.hbpd.Holds lcd.timing.hBp ∧ R.hspw.Holds lcd.timing.hSw ∧
  R.vfpd.Holds lcd.timing.vFp ∧ R.vbpd.Holds lcd.timing.vBp ∧ R.vspw.Holds lcd.timing.vSw ∧
  R.hozval.Holds lcd.width ∧ R.osdRbxF.Holds lcd.width ∧
  R.lineval.Holds lcd.height ∧ R.osdRbyF.Holds lcd.height

/-! ## One field -/

section Fields

variable (f g : Field)

theorem Field.toNat_mask (hw : f.width ≤ 32) : f.mask.toNat = 2 ^ f.width - 1 := by
  have : 2 ^ f.width ≤ 2 ^ 32 := Nat.pow_le_pow_right (by decide) hw
  simp only [Field.mask, BitVec.toNat_ofNat]
  exact Nat.mod_eq_of_lt (by omega)

/-- A C `int` packed into a field reads back as its residue modulo `2^width`. -/
theorem Field.toNat_get_put_u32 (hf : f.Fits) (t : Int) :
    (f.get (f.put (u32 t))).toNat = (t % 2 ^ f.width).toNat := by
  have hdvd : (2 : Int) ^ f.width ∣ 4294967296 := pow_dvd_pow 2 (show f.width ≤ 32 by omega)
  rw [Field.get_put f hf]
  simp only [BitVec.toNat_and, Field.toNat_mask f (by omega), Nat.and_pow_two_sub_one_eq_mod, u32,
    BitVec.toNat_ofInt]
  refine Int.ofNat_inj.mp ?_
  push_cast
  rw [Int.toNat_of_nonneg (Int.emod_nonneg _ (by decide)),
    Int.toNat_of_nonneg (Int.emod_nonneg _ (pow_ne_zero _ (by decide))), Int.emod_emod_of_dvd t hdvd]

theorem Field.count_put_pred (hf : f.Fits) (t : Int) : f.count (f.put (u32 (t - 1))) = f.wrap t := by
  rw [Field.count, Field.toNat_get_put_u32 f hf,
    Int.toNat_of_nonneg (Int.emod_nonneg _ (pow_ne_zero _ (by decide))), Field.wrap]

theorem Field.wrap_of_holds {t : Int} (h : f.Holds t) : f.wrap t = t := by
  rw [Field.wrap, Int.emod_eq_of_lt (by omega) (by omega)]
  omega

/-- The field at other bits of the register does not reach this one. -/
theorem Field.get_or_put (hgf : g.Disjoint f) (r x : BitVec 32) : f.get (r ||| g.put x) = f.get r := by
  rw [Field.get_or, Field.get_put_of_disjoint g f hgf]
  exact BitVec.or_zero

theorem Field.get_put_or (hgf : g.Disjoint f) (r x : BitVec 32) : f.get (g.put x ||| r) = f.get r := by
  rw [Field.get_or, Field.get_put_of_disjoint g f hgf]
  exact BitVec.zero_or

theorem Field.toNat_get_put_zero (hf : f.Fits) : (f.get (f.put 0)).toNat = 0 := by
  simp [Field.get_put f hf]

end Fields

/-! ## One register -/

section Registers

variable {f g h : Field}

theorem Field.count_or_put (hgf : g.Disjoint f) (r x : BitVec 32) :
    f.count (r ||| g.put x) = f.count r := by
  rw [Field.count, Field.count, Field.get_or_put f g hgf]

theorem Field.count_put_or (hgf : g.Disjoint f) (r x : BitVec 32) :
    f.count (g.put x ||| r) = f.count r := by
  rw [Field.count, Field.count, Field.get_put_or f g hgf]

/-- Each field of a register packed from two disjoint fields counts its own number. -/
theorem Field.count_put2 (hf : f.Fits) (hg : g.Fits) (hfg : f.Disjoint g) (a b : Int) :
    f.count (f.put (u32 (a - 1)) ||| g.put (u32 (b - 1))) = f.wrap a ∧
      g.count (f.put (u32 (a - 1)) ||| g.put (u32 (b - 1))) = g.wrap b :=
  ⟨by rw [Field.count_or_put hfg.symm, Field.count_put_pred f hf],
    by rw [Field.count_put_or hfg, Field.count_put_pred g hg]⟩

/-- Each field of a register packed from three pairwise disjoint fields counts its own number. -/
theorem Field.count_put3 (hf : f.Fits) (hg : g.Fits) (hh : h.Fits)
    (hfg : f.Disjoint g) (hfh : f.Disjoint h) (hgh : g.Disjoint h) (a b c : Int) :
    let r := f.put (u32 (a - 1)) ||| g.put (u32 (b - 1)) ||| h.put (u32 (c - 1))
    f.count r = f.wrap a ∧ g.count r = g.wrap b ∧ h.count r = h.wrap c := by
  refine ⟨?_, ?_, ?_⟩
  · rw [Field.count_or_put hfh.symm]
    exact (Field.count_put2 hf hg hfg a b).1
  · rw [Field.count_or_put hgh.symm]
    exact (Field.count_put2 hf hg hfg a b).2
  · rw [BitVec.or_assoc, Field.count_put_or hfh]
    exact (Field.count_put2 hg hh hgh b c).2

end Registers

/-! ## A sample layout and panel -/

/-- A register layout with 8-bit porch and sync fields at bits 16, 8 and 0 and 11-bit size
and corner fields at bits 11 and 0. -/
def sampleRegsLcd : RegsLcd where
  ivclkRiseEdge := 1 <<< 7
  ihsyncInvert := 1 <<< 6
  ivsyncInvert := 1 <<< 5
  ivdenInvert := 1 <<< 4
  vbpd := ⟨16, 8⟩
  vfpd := ⟨8, 8⟩
  vspw := ⟨0, 8⟩
  hbpd := ⟨16, 8⟩
  hfpd := ⟨8, 8⟩
  hspw := ⟨0, 8⟩
  lineval := ⟨11, 11⟩
  hozval := ⟨0, 11⟩
  osdLtxF := ⟨11, 11⟩
  osdLtyF := ⟨0, 11⟩
  osdRbxF := ⟨11, 11⟩
  osdRbyF := ⟨0, 11⟩

/-- A 480 × 272 panel. -/
def samplePanel : S3cfbLcd where
  width := 480
  height := 272
  pWidth := 95
  pHeight := 54
  freq := 9000000
  timing := ⟨2, 2, 41, 2, 2, 10⟩
  polarity := ⟨0, 1, 1, 0⟩

/-- The same panel with no vertical back porch. -/
def zeroPorchPanel : S3cfbLcd := { samplePanel with timing := { samplePanel.timing with vBp := 0 } }

/-! ## The record -/

section Record

variable {R : RegsLcd}

theorem s3cfbSetFimdInfo_timing (hR : R.WellFormed) (lcd : S3cfbLcd) :
    (s3cfbSetFimdInfo R lcd).programmedTiming R = lcd.timing.cut R := by
  obtain ⟨⟨hvbpd, hvfpd, hvspw, hhbpd, hhfpd, hhspw, -⟩, ⟨v1, v2, v3⟩, ⟨h1, h2, h3⟩, -⟩ := hR
  obtain ⟨vbp, vfp, vsw⟩ := Field.count_put3 hvbpd hvfpd hvspw v1 v2 v3
    lcd.timing.vBp lcd.timing.vFp lcd.timing.vSw
  obtain ⟨hbp, hfp, hsw⟩ := Field.count_put3 hhbpd hhfpd hhspw h1 h2 h3
    lcd.timing.hBp lcd.timing.hFp lcd.timing.hSw
  simp only [S3cfbFimd.programmedTiming, S3cfbLcdTiming.cut, s3cfbSetFimdInfo, vbp, vfp, vsw, hbp,
    hfp, hsw]

theorem s3cfbSetFimdInfo_size (hR : R.WellFormed) (lcd : S3cfbLcd) :
    (s3cfbSetFimdInfo R lcd).programmedSize R = (R.hozval.wrap lcd.width, R.lineval.wrap lcd.height) := by
  obtain ⟨⟨-, -, -, -, -, -, hl, hh, -⟩, -, -, hlh, -⟩ := hR
  obtain ⟨lines, pixels⟩ := Field.count_put2 hl hh hlh lcd.height lcd.width
  simp only [S3cfbFimd.programmedSize, s3cfbSetFimdInfo, lines, pixels]

/-- Both OSD windows start at the origin and end at the panel's last pixel and line, as
the right and bottom fields carry them. -/
theorem s3cfbSetFimdInfo_osd (hR : R.WellFormed) (lcd : S3cfbLcd) :
    let fimd := s3cfbSetFimdInfo R lcd
    R.osdWindow fimd.vidosd0a fimd.vidosd0b =
        ((0, 0), (R.osdRbxF.wrap lcd.width - 1, R.osdRbyF.wrap lcd.height - 1)) ∧
      R.osdWindow fimd.vidosd1a fimd.vidosd1b = R.osdWindow fimd.vidosd0a fimd.vidosd0b := by
  obtain ⟨⟨-, -, -, -, -, -, -, -, hx, hy, hbx, hby⟩, -, -, -, hxy, hbxy⟩ := hR
  obtain ⟨right, bottom⟩ := Field.count_put2 hbx hby hbxy lcd.width lcd.height
  simp only [Field.count] at right bottom
  refine ⟨?_, rfl⟩
  simp only [RegsLcd.osdWindow, s3cfbSetFimdInfo, Field.get_or_put _ _ hxy.symm,
    Field.get_put_or _ _ hxy, Field.toNat_get_put_zero _ hx, Field.toNat_get_put_zero _ hy,
    Prod.mk.injEq]
  omega

theorem S3cfbLcdTiming.cut_of_inRange {lcd : S3cfbLcd} (hl : lcd.InRange R) :
    lcd.timing.cut R = lcd.timing := by
  obtain ⟨hfp, hbp, hsw, vfp, vbp, vsw, -⟩ := hl
  simp only [S3cfbLcdTiming.cut, Field.wrap_of_holds _ hfp, Field.wrap_of_holds _ hbp,
    Field.wrap_of_holds _ hsw, Field.wrap_of_holds _ vfp, Field.wrap_of_holds _ vbp,
    Field.wrap_of_holds _ vsw]

/-- For every panel, each field programs the panel's number minus one, cut to the field's
width, plus one; both OSD windows are the same and start at the origin. -/
theorem s3cfbSetFimdInfo_cuts_panel (hR : R.WellFormed) (lcd : S3cfbLcd) :
    let fimd := s3cfbSetFimdInfo R lcd
    fimd.programmedTiming R = lcd.timing.cut R ∧
      fimd.programmedSize R = (R.hozval.wrap lcd.width, R.lineval.wrap lcd.height) ∧
      R.osdWindow fimd.vidosd0a fimd.vidosd0b =
        ((0, 0), (R.osdRbxF.wrap lcd.width - 1, R.osdRbyF.wrap lcd.height - 1)) ∧
      R.osdWindow fimd.vidosd1a fimd.vidosd1b = R.osdWindow fimd.vidosd0a fimd.vidosd0b :=
  ⟨s3cfbSetFimdInfo_timing hR lcd, s3cfbSetFimdInfo_size hR lcd, s3cfbSetFimdInfo_osd hR lcd⟩

theorem zero_porch_cut :
    let fimd := s3cfbSetFimdInfo sampleRegsLcd zeroPorchPanel
    fimd.programmedTiming sampleRegsLcd = zeroPorchPanel.timing.cut sampleRegsLcd ∧
      fimd.programmedSize sampleRegsLcd =
        (sampleRegsLcd.hozval.wrap zeroPorchPanel.width, sampleRegsLcd.lineval.wrap zeroPorchPanel.height) ∧
      sampleRegsLcd.osdWindow fimd.vidosd0a fimd.vidosd0b =
        ((0, 0), (sampleRegsLcd.osdRbxF.wrap zeroPorchPanel.width - 1,
          sampleRegsLcd.osdRbyF.wrap zeroPorchPanel.height - 1)) ∧
      sampleRegsLcd.osdWindow fimd.vidosd1a fimd.vidosd1b =
        sampleRegsLcd.osdWindow fimd.vidosd0a fimd.vidosd0b :=
  s3cfbSetFimdInfo_cuts_panel (by decide) zeroPorchPanel

example : (zeroPorchPanel.timing.cut sampleRegsLcd).vBp = 256 := by decide

/-- What a panel whose numbers fit their fields programs: its timing, its size, and both
OSD windows spanning it from the origin. -/
theorem S3cfbLcd.programmed_of_inRange (hR : R.WellFormed) {lcd : S3cfbLcd} (hl : lcd.InRange R) :
    let fimd := s3cfbSetFimdInfo R lcd
    fimd.programmedTiming R = lcd.timing ∧
      fimd.programmedSize R = (lcd.width, lcd.height) ∧
      R.osdWindow fimd.vidosd0a fimd.vidosd0b = ((0, 0), (lcd.width - 1, lcd.height - 1)) ∧
      R.osdWindow fimd.vidosd1a fimd.vidosd1b = ((0, 0), (lcd.width - 1, lcd.height - 1)) := by
  have timing := (s3cfbSetFimdInfo_timing hR lcd).trans (S3cfbLcdTiming.cut_of_inRange hl)
  obtain ⟨-, -, -, -, -, -, hx, hbx, hy, hby⟩ := hl
  obtain ⟨osd0, osd1⟩ := s3cfbSetFimdInfo_osd hR lcd
  rw [Field.wrap_of_holds _ hbx, Field.wrap_of_holds _ hby] at osd0
  refine ⟨timing, ?_, osd0, osd1.trans osd0⟩
  rw [s3cfbSetFimdInfo_size hR lcd, Field.wrap_of_holds _ hx, Field.wrap_of_holds _ hy]

/-- A panel whose numbers fit their fields is programmed as it is: its timing, its size,
and both OSD windows spanning it from the origin. -/
theorem s3cfbSetFimdInfo_programs_panel (hR : R.WellFormed) {lcd : S3cfbLcd} (hl : lcd.InRange R) :
    let fimd := s3cfbSetFimdInfo R lcd
    fimd.programmedTiming R = lcd.timing ∧
      fimd.programmedSize R = (lcd.width, lcd.height) ∧
      R.osdWindow fimd.vidosd0a fimd.vidosd0b = ((0, 0), (lcd.width - 1, lcd.height - 1)) ∧
      R.osdWindow fimd.vidosd1a fimd.vidosd1b = ((0, 0), (lcd.width - 1, lcd.height - 1)) :=
  S3cfbLcd.programmed_of_inRange hR hl

theorem sample_panel_programmed :
    let fimd := s3cfbSetFimdInfo sampleRegsLcd samplePanel
    fimd.programmedTiming sampleRegsLcd = samplePanel.timing ∧
      fimd.programmedSize sampleRegsLcd = (480, 272) ∧
      sampleRegsLcd.osdWindow fimd.vidosd0a fimd.vidosd0b = ((0, 0), (480 - 1, 272 - 1)) ∧
      sampleRegsLcd.osdWindow fimd.vidosd1a fimd.vidosd1b = ((0, 0), (480 - 1, 272 - 1)) :=
  s3cfbSetFimdInfo_programs_panel (by decide) (by decide)

example : (s3cfbSetFimdInfo sampleRegsLcd samplePanel).vidtcon0 = 0x010109 := by decide

end Record

end S3cfb
