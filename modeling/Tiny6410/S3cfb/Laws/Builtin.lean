import Tiny6410.S3cfb.Laws.Panel

/-!
# The build with the panel compiled in

Without `CONFIG_FB_S3C_EXT_MINI6410`, `s3cfb_set_fimd_info` packs VIDTCON0–2 and the
OSD corners from the panel macros of `s3c_mini6410.h` instead of the record
`mini210_get_lcd` returns. The macros describe a panel of the EXT build's kind
(`PanelMacros.lcd`), and the two builds pack the same record for it, VIDCON1 apart
(`PanelMacros.s3cfbSetFimdInfo_eq`).

## What is proved

- **The panel is programmed** (`PanelMacros.programs_panel`): over every register layout
  whose fields fit and do not overlap, when the macros' numbers fit their fields, the
  controller runs the macros' porches and sync widths on an `S3CFB_HRES` × `S3CFB_VRES`
  screen, with both OSD windows spanning it from the origin, and the record's physical
  width and height are `S3CFB_HRES` and `S3CFB_VRES`, a size in pixels.

## What differs from the EXT build

The record's `width` and `height`, which the EXT build fills with the panel's physical
size (`p_width`, `p_height`), here hold the resolution in pixels. VIDCON1 is a
compile-time constant of each build and is left to its definition.
-/

namespace S3cfb

/-- The panel the macros describe, as a `struct s3cfb_lcd`: its physical size given as
its resolution, its polarity flags clear. -/
def PanelMacros.lcd (M : PanelMacros) : S3cfbLcd where
  width := M.hres
  height := M.vres
  pWidth := M.hres
  pHeight := M.vres
  freq := M.clkval
  timing := ⟨M.hfp, M.hbp, M.hsw, M.vfp, M.vbp, M.vsw⟩
  polarity := ⟨0, 0, 0, 0⟩

/-- The two builds pack the same record for the same panel, VIDCON1 apart. -/
theorem PanelMacros.s3cfbSetFimdInfo_eq (M : PanelMacros) (R : RegsLcd) (n : BitVec 32)
    (vga : Bool) :
    M.s3cfbSetFimdInfo R n vga =
      { S3cfb.s3cfbSetFimdInfo R M.lcd with vidcon1 := (M.s3cfbSetFimdInfo R n vga).vidcon1 } :=
  rfl

variable {R : RegsLcd}

/-- **The build with the panel compiled in programs that panel**, when its numbers fit
their fields: the macros' porches and sync widths, an `S3CFB_HRES` × `S3CFB_VRES`
screen, both OSD windows spanning it from the origin, and `S3CFB_HRES` × `S3CFB_VRES`
stored as the panel's physical width and height. -/
theorem PanelMacros.programs_panel (hR : R.WellFormed) {M : PanelMacros} (hM : M.lcd.InRange R)
    (n : BitVec 32) (vga : Bool) :
    let fimd := M.s3cfbSetFimdInfo R n vga
    fimd.programmedTiming R = ⟨M.hfp, M.hbp, M.hsw, M.vfp, M.vbp, M.vsw⟩ ∧
      fimd.programmedSize R = (M.hres, M.vres) ∧
      R.osdWindow fimd.vidosd0a fimd.vidosd0b = ((0, 0), (M.hres - 1, M.vres - 1)) ∧
      R.osdWindow fimd.vidosd1a fimd.vidosd1b = ((0, 0), (M.hres - 1, M.vres - 1)) ∧
      fimd.width = u32 M.hres ∧ fimd.height = u32 M.vres := by
  rw [PanelMacros.s3cfbSetFimdInfo_eq]
  obtain ⟨timing, size, osd0, osd1⟩ := S3cfbLcd.programmed_of_inRange hR hM
  exact ⟨timing, size, osd0, osd1, rfl, rfl⟩

/-- A 480 × 272 panel compiled in. -/
def sampleMacros : PanelMacros := ⟨2, 41, 2, 2, 10, 2, 480, 272, 9000000, none⟩

theorem sample_macros_programmed :
    sampleRegsLcd.WellFormed ∧ sampleMacros.lcd.InRange sampleRegsLcd ∧
    let fimd := sampleMacros.s3cfbSetFimdInfo sampleRegsLcd 0 false
    fimd.programmedTiming sampleRegsLcd = ⟨2, 2, 41, 2, 2, 10⟩ ∧
      fimd.programmedSize sampleRegsLcd = (480, 272) ∧
      sampleRegsLcd.osdWindow fimd.vidosd0a fimd.vidosd0b = ((0, 0), (480 - 1, 272 - 1)) ∧
      sampleRegsLcd.osdWindow fimd.vidosd1a fimd.vidosd1b = ((0, 0), (480 - 1, 272 - 1)) ∧
      fimd.width = u32 480 ∧ fimd.height = u32 272 :=
  ⟨by decide, by decide, PanelMacros.programs_panel (by decide) (by decide) 0 false⟩

end S3cfb
