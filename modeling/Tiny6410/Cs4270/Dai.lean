import Tiny6410.Cs4270.Controls

/-!
# The DAI operations

`cs4270_dai_ops`: `set_sysclk`, `set_fmt`, `hw_params` and `digital_mute`, as
`cs4270_set_dai_sysclk`, `cs4270_set_dai_fmt`, `cs4270_hw_params` and
`cs4270_dai_mute` compute them.

The `SND_SOC_DAIFMT_*` constants live in `include/sound/soc-dai.h`, which is not
under src/; they are a parameter (`SocDaiFmt`), and every statement holds for
every choice of them. The ratio table depends on the
`CONFIG_SND_SOC_CS4270_VD33_ERRATA` build option (`vd33Errata`).

Each operation gets its spec lemmas here: what it may change (`hwParams_frame`,
`daiMute_frame`), and an inversion of its results (`setDaiFmt_cases`,
`hwParams_ok_iff`). The laws cite these and never unfold the operations.
-/

namespace Cs4270

/-- The `SND_SOC_DAIFMT_*` constants the driver reads: a format word's serial
format part with the two formats the driver supports, and its clock-master part
with the two roles it supports. -/
structure SocDaiFmt where
  formatMask : Nat
  i2s : Nat
  leftJ : Nat
  masterMask : Nat
  cbmCfm : Nat
  cbsCfs : Nat

/-- The values `include/sound/soc-dai.h` gives them in this kernel. -/
def SocDaiFmt.linux : SocDaiFmt := ⟨0x000f, 1, 3, 0xf000, 1 <<< 12, 4 <<< 12⟩

section Ops

variable (D : SocDaiFmt) (vd33Errata : Bool)

/-- `cs4270_set_dai_sysclk`: records the MCLK frequency; the clock id and
direction are ignored. -/
def setDaiSysclk (s : Codec) (freq : Nat) : Codec × Status :=
  ({ s with mclk := freq }, .ok ())

/-- `cs4270_set_dai_fmt`: the serial format first, then the clock-master role.
A supported format with an unsupported role is refused after `mode` was set. -/
def setDaiFmt (s : Codec) (format : Nat) : Codec × Status :=
  let fmt := format &&& D.formatMask
  if fmt = D.i2s ∨ fmt = D.leftJ then
    let s := { s with mode := fmt }
    let role := format &&& D.masterMask
    if role = D.cbsCfs then ({ s with slaveMode := 1 }, .ok ())
    else if role = D.cbmCfm then ({ s with slaveMode := 0 }, .ok ())
    else (s, .error .EINVAL)
  else (s, .error .EINVAL)

/-- The Mode Control value `cs4270_hw_params` writes for table entry `r`: speed
and divider fields cleared, then the entry's divider and either the slave
setting or the entry's speed. -/
def modeValue (s : Codec) (r : ModeRatio) : BitVec 8 :=
  (s.cache Reg.mode &&& ~~~(modeSpeedMask ||| modeDivMask)) ||| r.mclk |||
    (if s.slaveMode ≠ 0 then modeSlave else r.speedMode)

/-- The Serial Format value `cs4270_hw_params` writes for `cs4270->mode`: DAC
and ADC fields cleared, then set for I2S or left-justified; `none` for a mode
its `switch` does not know. -/
def formatValue (s : Codec) : Option (BitVec 8) :=
  let reg := s.cache Reg.format &&& ~~~(formatDacMask ||| formatAdcMask)
  if s.mode = D.i2s then some (reg ||| formatDacI2s ||| formatAdcI2s)
  else if s.mode = D.leftJ then some (reg ||| formatDacLj ||| formatAdcLj)
  else none

/-- The first entry of the ratio table whose ratio is `ratio` (the `for` loop of
`cs4270_hw_params`). -/
def findRatio (ratio : Nat) : Option ModeRatio :=
  (modeRatios vd33Errata).find? (·.ratio == ratio)

/-- `cs4270_hw_params`: look the MCLK/LRCK ratio up in the table, program the
Mode Control register, then the serial format from `cs4270->mode`. -/
def hwParams (s : Codec) (rate : Nat) (xMode xFormat : Status) : Codec × Status :=
  match findRatio vd33Errata (s.mclk / rate) with
  | none => (s, .error .EINVAL)
  | some r =>
    match sndSocWrite s Reg.mode (modeValue s r) xMode with
    | (s, .error e) => (s, .error e)
    | (s, .ok ()) =>
      match formatValue D s with
      | none => (s, .error .EINVAL)
      | some reg => sndSocWrite s Reg.format reg xFormat

/-- `cs4270_dai_mute`: mute sets both DAC mute bits; unmute clears them and then
puts back the ones the user muted by hand (`manual_mute`). -/
def daiMute (s : Codec) (mute : Int) (x : Status) : Codec × Status :=
  let reg6 := s.cache Reg.mute
  let reg6 :=
    if mute ≠ 0 then reg6 ||| muteDacA ||| muteDacB
    else (reg6 &&& ~~~(muteDacA ||| muteDacB)) ||| s.manualMute.bits
  sndSocWrite s Reg.mute reg6 x

end Ops

/-! ## What each operation may change -/

section Specs

variable {D : SocDaiFmt} {vd33Errata : Bool} {s : Codec}

/-- **What `cs4270_set_dai_fmt` can do.** Accept a supported format and role;
refuse an unsupported role after setting `mode`; or refuse an unsupported
format with nothing changed. Nothing but `mode` and `slave_mode` ever moves. -/
theorem setDaiFmt_cases (s : Codec) (format : Nat) :
    ((format &&& D.formatMask = D.i2s ∨ format &&& D.formatMask = D.leftJ) ∧
        format &&& D.masterMask = D.cbsCfs ∧
        setDaiFmt D s format = ({ s with mode := format &&& D.formatMask, slaveMode := 1 }, .ok ())) ∨
    ((format &&& D.formatMask = D.i2s ∨ format &&& D.formatMask = D.leftJ) ∧
        format &&& D.masterMask ≠ D.cbsCfs ∧ format &&& D.masterMask = D.cbmCfm ∧
        setDaiFmt D s format = ({ s with mode := format &&& D.formatMask, slaveMode := 0 }, .ok ())) ∨
    ((format &&& D.formatMask = D.i2s ∨ format &&& D.formatMask = D.leftJ) ∧
        format &&& D.masterMask ≠ D.cbsCfs ∧ format &&& D.masterMask ≠ D.cbmCfm ∧
        setDaiFmt D s format = ({ s with mode := format &&& D.formatMask }, .error .EINVAL)) ∨
    (¬ (format &&& D.formatMask = D.i2s ∨ format &&& D.formatMask = D.leftJ) ∧
        setDaiFmt D s format = (s, .error .EINVAL)) := by
  by_cases hf : format &&& D.formatMask = D.i2s ∨ format &&& D.formatMask = D.leftJ
  · by_cases hs : format &&& D.masterMask = D.cbsCfs
    · exact .inl ⟨hf, hs, by simp only [setDaiFmt, if_pos hf, if_pos hs]⟩
    · by_cases hm : format &&& D.masterMask = D.cbmCfm
      · exact .inr (.inl ⟨hf, hs, hm, by simp only [setDaiFmt, if_pos hf, if_neg hs, if_pos hm]⟩)
      · exact .inr (.inr (.inl ⟨hf, hs, hm, by simp only [setDaiFmt, if_pos hf, if_neg hs, if_neg hm]⟩))
  · exact .inr (.inr (.inr ⟨hf, by simp only [setDaiFmt, if_neg hf]⟩))

/-- The bits `cs4270_hw_params` may change: the speed and divider fields of
Mode Control and the DAC and ADC format fields of Serial Format. -/
def hwParamsFoot : Reg → BitVec 8 := fun r =>
  footAt Reg.mode (modeSpeedMask ||| modeDivMask) r ||| footAt Reg.format (formatDacMask ||| formatAdcMask) r

/-- The bits `cs4270_dai_mute` may change: the two DAC mute bits. -/
def daiMuteFoot : Reg → BitVec 8 := footAt Reg.mute (muteDacA ||| muteDacB)

theorem findRatio_mem {ratio : Nat} {r : ModeRatio} (h : findRatio vd33Errata ratio = some r) :
    r ∈ modeRatios vd33Errata ∧ r.ratio = ratio := by
  unfold findRatio at h
  exact ⟨List.mem_of_find?_eq_some h, by simpa using List.find?_some h⟩

/-- The Mode Control value, read as a read-modify-write of the speed and
divider fields. -/
theorem modeValue_rmw (r : ModeRatio) :
    modeValue s r = (s.cache Reg.mode &&& ~~~(modeSpeedMask ||| modeDivMask)) |||
      (r.mclk ||| if s.slaveMode ≠ 0 then modeSlave else r.speedMode) := by
  rw [modeValue, BitVec.or_assoc]

/-- A table entry's bits stay inside the fields `cs4270_hw_params` clears. -/
theorem modeBits_sub {r : ModeRatio} (hr : r ∈ modeRatios vd33Errata) :
    (r.mclk ||| if s.slaveMode ≠ 0 then modeSlave else r.speedMode) &&&
      ~~~(modeSpeedMask ||| modeDivMask) = 0 := by
  have h := modeRatios_fields vd33Errata r hr
  split
  · exact h.2
  · exact h.1

/-- The Serial Format value is a read-modify-write of the DAC and ADC fields. -/
theorem formatValue_rmw {v : BitVec 8} (h : formatValue D s = some v) :
    ∃ b, v = (s.cache Reg.format &&& ~~~(formatDacMask ||| formatAdcMask)) ||| b ∧
      b &&& ~~~(formatDacMask ||| formatAdcMask) = 0 := by
  unfold formatValue at h
  split at h
  · exact ⟨_, (Option.some.inj h).symm.trans (BitVec.or_assoc _ _ _), by decide⟩
  · split at h
    · exact ⟨_, (Option.some.inj h).symm.trans (BitVec.or_assoc _ _ _), by decide⟩
    · cases h

/-- Programming Mode Control does not change what the format step computes. -/
theorem formatValue_store_mode {v : BitVec 8} :
    formatValue D (s.store Reg.mode v) = formatValue D s := by
  simp [formatValue, store_cache_of_ne (show Reg.format ≠ Reg.mode by decide)]

/-- **What `cs4270_hw_params` can do.** Refuse an unknown ratio with nothing
changed; fail the Mode Control write with nothing changed; or program Mode
Control and then either refuse an unknown `mode` or write Serial Format. -/
theorem hwParams_cases (rate : Nat) (xMode xFormat : Status) :
    (findRatio vd33Errata (s.mclk / rate) = none ∧
        hwParams D vd33Errata s rate xMode xFormat = (s, .error .EINVAL)) ∨
    (∃ r e, findRatio vd33Errata (s.mclk / rate) = some r ∧ xMode = .error e ∧
        hwParams D vd33Errata s rate xMode xFormat = (s, .error e)) ∨
    (∃ r, findRatio vd33Errata (s.mclk / rate) = some r ∧ xMode = .ok () ∧
        formatValue D s = none ∧
        hwParams D vd33Errata s rate xMode xFormat =
          (s.store Reg.mode (modeValue s r), .error .EINVAL)) ∨
    (∃ r v, findRatio vd33Errata (s.mclk / rate) = some r ∧ xMode = .ok () ∧
        formatValue D s = some v ∧
        hwParams D vd33Errata s rate xMode xFormat =
          sndSocWrite (s.store Reg.mode (modeValue s r)) Reg.format v xFormat) := by
  cases hr : findRatio vd33Errata (s.mclk / rate) with
  | none => exact .inl ⟨rfl, by simp only [hwParams, hr]⟩
  | some r =>
    cases xMode with
    | error e => exact .inr (.inl ⟨r, e, rfl, rfl, by simp only [hwParams, hr, sndSocWrite_error]⟩)
    | ok u =>
      cases u
      have h : hwParams D vd33Errata s rate (.ok ()) xFormat =
          match formatValue D s with
          | none => (s.store Reg.mode (modeValue s r), .error .EINVAL)
          | some reg => sndSocWrite (s.store Reg.mode (modeValue s r)) Reg.format reg xFormat := by
        simp only [hwParams, hr, sndSocWrite_ok, formatValue_store_mode]
      cases hf : formatValue D s with
      | none => exact .inr (.inr (.inl ⟨r, rfl, rfl, rfl, by rw [h, hf]⟩))
      | some v => exact .inr (.inr (.inr ⟨r, v, rfl, rfl, rfl, by rw [h, hf]⟩))

/-- A successful `cs4270_hw_params` found a ratio and a format value and wrote
both. -/
theorem hwParams_ok {s' : Codec} {rate : Nat} {xMode xFormat : Status}
    (h : hwParams D vd33Errata s rate xMode xFormat = (s', .ok ())) :
    ∃ r v, findRatio vd33Errata (s.mclk / rate) = some r ∧ formatValue D s = some v ∧
      s' = (s.store Reg.mode (modeValue s r)).store Reg.format v := by
  rcases hwParams_cases (D := D) (s := s) rate xMode xFormat with
    ⟨-, h'⟩ | ⟨r, e, -, -, h'⟩ | ⟨r, -, -, -, h'⟩ | ⟨r, v, hr, -, hv, h'⟩ <;> rw [h'] at h
  · cases h
  · cases h
  · cases h
  · cases xFormat with
    | error e => cases h
    | ok u => cases h; exact ⟨r, v, hr, hv, rfl⟩

/-- What a successful `cs4270_hw_params` programs: the DAC and ADC fields for
`mode`, and the slave setting in the speed field exactly when `slave_mode` is
set. -/
theorem hwParams_ok_fields {s' : Codec} {rate : Nat} {xMode xFormat : Status}
    (h : hwParams D vd33Errata s rate xMode xFormat = (s', .ok ())) :
    s'.cache Reg.format &&& (formatDacMask ||| formatAdcMask) =
      (if s.mode = D.i2s then formatDacI2s ||| formatAdcI2s else formatDacLj ||| formatAdcLj) ∧
    (s'.cache Reg.mode &&& modeSpeedMask = modeSlave ↔ s.slaveMode ≠ 0) := by
  obtain ⟨r, v, hr, hv, rfl⟩ := hwParams_ok h
  obtain ⟨hmaster, hslave, hne⟩ := modeRatios_speed vd33Errata r (findRatio_mem hr).1
  constructor
  · rw [store_cache (by decide), Function.update_same]
    unfold formatValue at hv
    split at hv
    · cases hv; rw [if_pos ‹_›, BitVec.or_assoc, rmw_and_of_sub (by decide)]; decide
    · split at hv
      · cases hv; rw [if_neg ‹_›, BitVec.or_assoc, rmw_and_of_sub (by decide)]; decide
      · cases hv
  · rw [store_cache_of_ne (by decide), store_cache (by decide), Function.update_same,
      modeValue_rmw, rmw_and_of_sub (by decide)]
    split
    · simp [hslave, *]
    · simp [hmaster, hne, *]

/-- `cs4270_hw_params` changes only the speed, divider and format fields, and
nothing but the cache. -/
theorem hwParams_frame (rate : Nat) (xMode xFormat : Status) :
    CacheFrame hwParamsFoot (hwParams D vd33Errata s rate xMode xFormat).1 s := by
  have wide : ∀ r, footAt Reg.mode (modeSpeedMask ||| modeDivMask) r &&& ~~~hwParamsFoot r = 0 ∧
      footAt Reg.format (formatDacMask ||| formatAdcMask) r &&& ~~~hwParamsFoot r = 0 := by
    decide
  have hmode : ∀ r, findRatio vd33Errata (s.mclk / rate) = some r →
      CacheFrame (footAt Reg.mode (modeSpeedMask ||| modeDivMask))
        (s.store Reg.mode (modeValue s r)) s := fun r hr => by
    rw [modeValue_rmw]; exact store_frame (modeBits_sub (findRatio_mem hr).1)
  rcases hwParams_cases (D := D) (s := s) rate xMode xFormat with
    ⟨-, h⟩ | ⟨r, e, -, -, h⟩ | ⟨r, hr, -, -, h⟩ | ⟨r, v, hr, -, hv, h⟩ <;> rw [h]
  · exact CacheFrame.refl _ _
  · exact CacheFrame.refl _ _
  · exact (hmode r hr).mono fun r => (wide r).1
  · obtain ⟨b, rfl, hb⟩ := formatValue_rmw hv
    have hfmt := store_frame (s := s.store Reg.mode (modeValue s r)) (a := Reg.format) hb
    rw [store_cache_of_ne (show Reg.format ≠ Reg.mode by decide)] at hfmt
    cases xFormat with
    | error e => exact (hmode r hr).mono fun r => (wide r).1
    | ok u => exact hfmt.trans_le (hmode r hr) (fun r => (wide r).2) (fun r => (wide r).1)

/-- `cs4270_dai_mute` changes only the two DAC mute bits, and nothing but the
cache: what it ORs in from `manual_mute` stays inside them. -/
theorem daiMute_frame (mute : Int) (x : Status) : CacheFrame daiMuteFoot (daiMute s mute x).1 s := by
  have hset : ∀ y : BitVec 8, y ||| muteDacA ||| muteDacB =
      (y &&& ~~~(muteDacA ||| muteDacB)) ||| (muteDacA ||| muteDacB) := fun y => by
    rw [BitVec.or_assoc, or_eq_rmw]
  unfold daiMute
  cases x with
  | error e => exact CacheFrame.refl _ _
  | ok u =>
    simp only [sndSocWrite_ok]
    split
    · rw [hset]; exact store_frame (by decide)
    · exact store_frame s.manualMute.sub

end Specs

end Cs4270
