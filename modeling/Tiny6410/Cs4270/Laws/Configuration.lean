import Tiny6410.Cs4270.Host

/-!
# The configuration registers hold configurations the driver supports

`cs4270_hw_params` is the one call that writes Mode Control's speed and divider
fields and Serial Format's DAC and ADC fields; no other call's footprint reaches
them. So a property of those fields that `cs4270_hw_params` keeps and that probe's
power-on values have holds along every run (`run_hwParams_field`).

**Mode Control** (`mode_from_table`). The speed and divider fields hold an entry of
`cs4270_mode_ratios`: the entry's divider, with its speed or, for a slave codec, the
slave setting (`modeValue_fields`). The power-on value, the slave setting with no
divider, is of that form. In the `CONFIG_SND_SOC_CS4270_VD33_ERRATA` build the table
has no divide-by-1.5 entry, so the chip is never programmed to divide by 1.5, the
setting the errata is about.

**Serial Format** (`dac_adc_formats_agree`). The DAC and ADC fields always hold the
same format, I2S or left-justified: `cs4270_hw_params` sets both from one
`cs4270->mode`, as the driver's comment on ASoC's single format for playback and
record has it, and the DAC is never set to right-justified.
-/

namespace Cs4270

section

variable {D : SocDaiFmt} {vd33Errata : Bool}

/-- A property of register `r` that depends only on the bits `F`, which no call but
`cs4270_hw_params` reaches and which `cs4270_hw_params` keeps, holds along every run. -/
theorem run_hwParams_field {P : BitVec 8 → Prop} {r : Reg} {F : BitVec 8}
    (hP : ∀ m m', m' &&& F = m &&& F → P m → P m')
    (hfoot : ∀ op : Op, (∀ rate xMode xFormat, op ≠ .hwParams rate xMode xFormat) →
      F &&& op.foot r = 0)
    (hhw : ∀ s rate xMode xFormat, P (s.cache r) →
      P ((hwParams D vd33Errata s rate xMode xFormat).1.cache r))
    (ops : List Op) (σ : Host) (h : P (σ.codec.cache r)) :
    P ((run D vd33Errata σ ops).codec.cache r) := by
  refine run_induction D vd33Errata (P := fun τ => P (τ.codec.cache r)) (Q := fun _ => True)
    (fun σ op _ h => ?_) ops σ (fun _ _ => trivial) h
  by_cases hop : ∃ rate xMode xFormat, op = .hwParams rate xMode xFormat
  · obtain ⟨rate, xMode, xFormat, rfl⟩ := hop
    simp only [step, Host.call]
    split
    · exact hhw _ rate xMode xFormat h
    · exact h
  · push_neg at hop
    exact hP _ _ ((step_agree D vd33Errata σ op).field (hfoot op hop)) h

/-- The footprints of the calls that are not `cs4270_hw_params` at register `r`. -/
theorem foot_of_ne_hwParams {F : BitVec 8} {r : Reg}
    (hk : ∀ k ∈ sndControls, F &&& k.field r = 0) (hmute : F &&& daiMuteFoot r = 0)
    (hpwr : F &&& footAt Reg.pwrctl pwrctlPdnAll r = 0) {op : Op}
    (hop : ∀ rate xMode xFormat, op ≠ .hwParams rate xMode xFormat) : F &&& op.foot r = 0 := by
  cases op with
  | hwParams rate xMode xFormat => exact absurd rfl (hop rate xMode xFormat)
  | digitalMute => exact hmute
  | put k =>
    simp only [Op.foot]; split
    · exact hk k ‹_›
    · exact BitVec.and_zero
  | suspend => exact hpwr
  | resume => exact hpwr
  | setDaiSysclk => exact BitVec.and_zero
  | setDaiFmt => exact BitVec.and_zero
  | remove => exact BitVec.and_zero

/-- After `cs4270_hw_params`, register `r` holds what it held or a value the call
stored there. -/
theorem hwParams_stored (s : Codec) (rate : Nat) (xMode xFormat : Status) (r : Reg) :
    (hwParams D vd33Errata s rate xMode xFormat).1.cache r = s.cache r ∨
      ∃ m, findRatio vd33Errata (s.mclk / rate) = some m ∧
        ((hwParams D vd33Errata s rate xMode xFormat).1.cache r =
            (s.store Reg.mode (modeValue s m)).cache r ∨
          ∃ v, formatValue D s = some v ∧ (hwParams D vd33Errata s rate xMode xFormat).1.cache r =
            ((s.store Reg.mode (modeValue s m)).store Reg.format v).cache r) := by
  rcases hwParams_cases (D := D) (s := s) rate xMode xFormat with
    ⟨-, h⟩ | ⟨_, _, -, -, h⟩ | ⟨m, hm, -, -, h⟩ | ⟨m, v, hm, -, hv, h⟩ <;> rw [h]
  · exact .inl rfl
  · exact .inl rfl
  · exact .inr ⟨m, hm, .inl rfl⟩
  · rcases (sndSocWrite_cases (s := s.store Reg.mode (modeValue s m)) (a := Reg.format) (v := v)
      (x := xFormat)).2 with h' | h' <;> rw [h']
    · exact .inr ⟨m, hm, .inr ⟨v, hv, rfl⟩⟩
    · exact .inr ⟨m, hm, .inl rfl⟩

end

/-! ## Mode Control -/

/-- Mode Control's speed and divider fields hold entry `r`'s divider, with its speed
or the slave setting. -/
def ModeFields (m : BitVec 8) (r : ModeRatio) : Prop :=
  m &&& modeDivMask = r.mclk ∧ (m &&& modeSpeedMask = r.speedMode ∨ m &&& modeSpeedMask = modeSlave)

/-- Mode Control's fields hold some entry of the table. -/
def ModeFromTable (vd33Errata : Bool) (m : BitVec 8) : Prop :=
  ∃ r ∈ modeRatios vd33Errata, ModeFields m r

/-- The divider field of an entry's Mode Control bits is the entry's divider, with
its speed or with the slave setting. -/
theorem modeRatios_div (vd33Errata : Bool) :
    ∀ r ∈ modeRatios vd33Errata, (r.mclk ||| r.speedMode) &&& modeDivMask = r.mclk ∧
      (r.mclk ||| modeSlave) &&& modeDivMask = r.mclk := by
  cases vd33Errata <;> decide

/-- The errata build's table never divides by 1.5. -/
theorem modeRatios_errata : ∀ r ∈ modeRatios true, r.mclk ≠ modeDiv15 := by
  decide

section Mode

variable {D : SocDaiFmt} {vd33Errata : Bool}

/-- The value `cs4270_hw_params` writes for an entry of the table holds that entry. -/
theorem modeValue_fields {s : Codec} {r : ModeRatio} (hr : r ∈ modeRatios vd33Errata) :
    ModeFields (modeValue s r) r := by
  obtain ⟨hmaster, hslave, -⟩ := modeRatios_speed vd33Errata r hr
  obtain ⟨dmaster, dslave⟩ := modeRatios_div vd33Errata r hr
  rw [ModeFields, modeValue_rmw, rmw_and_of_sub (by decide), rmw_and_of_sub (by decide)]
  split
  · exact ⟨dslave, .inr hslave⟩
  · exact ⟨dmaster, .inl hmaster⟩

/-- Whether Mode Control holds an entry depends on its speed and divider fields only. -/
theorem ModeFromTable.of_fields {m m' : BitVec 8}
    (hm : m' &&& (modeSpeedMask ||| modeDivMask) = m &&& (modeSpeedMask ||| modeDivMask))
    (h : ModeFromTable vd33Errata m) : ModeFromTable vd33Errata m' := by
  have field : ∀ f : BitVec 8, (modeSpeedMask ||| modeDivMask) &&& f = f →
      m' &&& f = m &&& f := fun f hf => by
    rw [← hf, ← BitVec.and_assoc, hm, BitVec.and_assoc]
  obtain ⟨r, hr, hd, hs⟩ := h
  exact ⟨r, hr, (field _ (by decide)).trans hd, field modeSpeedMask (by decide) ▸ hs⟩

theorem hwParams_modeFromTable (s : Codec) (rate : Nat) (xMode xFormat : Status)
    (h : ModeFromTable vd33Errata (s.cache Reg.mode)) :
    ModeFromTable vd33Errata ((hwParams D vd33Errata s rate xMode xFormat).1.cache Reg.mode) := by
  have written : ∀ v : BitVec 8, (s.store Reg.mode v).cache Reg.mode = v := fun v => by
    rw [store_cache (by decide), Function.update_same]
  rcases hwParams_stored (D := D) s rate xMode xFormat Reg.mode with h' | ⟨m, hm, h' | ⟨v, -, h'⟩⟩ <;>
    rw [h']
  · exact h
  · rw [written]; exact ⟨m, (findRatio_mem hm).1, modeValue_fields (findRatio_mem hm).1⟩
  · rw [store_cache_of_ne (by decide), written]
    exact ⟨m, (findRatio_mem hm).1, modeValue_fields (findRatio_mem hm).1⟩

/-- Probe leaves Mode Control's power-on value, the slave setting with no divider: the
first entry's divider, with the slave setting. -/
theorem bound_modeFromTable : ModeFromTable vd33Errata (Host.bound.codec.cache Reg.mode) :=
  ⟨⟨64, mode4x, modeDiv1⟩, by cases vd33Errata <;> decide, by decide, .inr (by decide)⟩

end Mode

/-- **Mode Control.** Along every run, whatever the host answers, Mode Control's speed
and divider fields hold an entry of the table, and in the errata build they never
divide by 1.5. -/
theorem mode_from_table (D : SocDaiFmt) (vd33Errata : Bool) (ops : List Op) :
    let m := (run D vd33Errata Host.bound ops).codec.cache Reg.mode
    ModeFromTable vd33Errata m ∧ (vd33Errata = true → m &&& modeDivMask ≠ modeDiv15) := by
  have h : ModeFromTable vd33Errata ((run D vd33Errata Host.bound ops).codec.cache Reg.mode) :=
    run_hwParams_field (fun _ _ hm => ModeFromTable.of_fields hm)
      (fun _ => foot_of_ne_hwParams (by decide) (by decide) (by decide))
      (fun s rate xMode xFormat => hwParams_modeFromTable s rate xMode xFormat) ops Host.bound
      bound_modeFromTable
  refine ⟨h, ?_⟩
  rintro rfl
  obtain ⟨r, hr, hd, -⟩ := h
  rw [hd]
  exact modeRatios_errata r hr

/-- Without the errata option, 18.432 MHz at 192 kHz programs divide-by-1.5. -/
example : (hwParams SocDaiFmt.linux false { postProbe with mclk := 18432000, mode := 1 } 192000
    (.ok ()) (.ok ())).1.cache Reg.mode &&& modeDivMask = modeDiv15 := by
  decide

/-! ## Serial Format -/

/-- Serial Format's DAC and ADC fields hold one format for both: I2S, or
left-justified. -/
def FormatsAgree (m : BitVec 8) : Prop :=
  m &&& (formatDacMask ||| formatAdcMask) = formatDacI2s ||| formatAdcI2s ∨
    m &&& (formatDacMask ||| formatAdcMask) = formatDacLj ||| formatAdcLj

section Format

variable {D : SocDaiFmt} {vd33Errata : Bool}

theorem FormatsAgree.of_fields {m m' : BitVec 8}
    (hm : m' &&& (formatDacMask ||| formatAdcMask) = m &&& (formatDacMask ||| formatAdcMask))
    (h : FormatsAgree m) : FormatsAgree m' := by
  rwa [FormatsAgree, hm]

/-- The Serial Format value `cs4270_hw_params` computes sets both fields alike. -/
theorem formatValue_agree {s : Codec} {v : BitVec 8} (h : formatValue D s = some v) :
    FormatsAgree v := by
  unfold formatValue at h
  split at h
  · cases h
    exact .inl (by rw [BitVec.or_assoc, rmw_and_of_sub (by decide)]; decide)
  · split at h
    · cases h
      exact .inr (by rw [BitVec.or_assoc, rmw_and_of_sub (by decide)]; decide)
    · cases h

theorem hwParams_formatsAgree (s : Codec) (rate : Nat) (xMode xFormat : Status)
    (h : FormatsAgree (s.cache Reg.format)) :
    FormatsAgree ((hwParams D vd33Errata s rate xMode xFormat).1.cache Reg.format) := by
  rcases hwParams_stored (D := D) s rate xMode xFormat Reg.format with
    h' | ⟨m, -, h' | ⟨v, hv, h'⟩⟩ <;> rw [h']
  · exact h
  · rwa [store_cache_of_ne (by decide)]
  · rw [store_cache (by decide), Function.update_same]
    exact formatValue_agree hv

end Format

/-- **Serial Format.** Along every run, whatever the host answers, Serial Format's DAC
and ADC fields hold the same format, I2S or left-justified. -/
theorem dac_adc_formats_agree (D : SocDaiFmt) (vd33Errata : Bool) (ops : List Op) :
    FormatsAgree ((run D vd33Errata Host.bound ops).codec.cache Reg.format) :=
  run_hwParams_field (fun _ _ hm => FormatsAgree.of_fields hm)
    (fun _ => foot_of_ne_hwParams (by decide) (by decide) (by decide))
    (fun s rate xMode xFormat => hwParams_formatsAgree s rate xMode xFormat) ops Host.bound
    (.inr (by decide))

end Cs4270
