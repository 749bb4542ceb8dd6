import Tiny6410.Cs4270.Host

/-!
# What `cs4270_set_dai_fmt` leaves for `cs4270_hw_params`

`cs4270_hw_params` programs the serial format from `cs4270->mode` and the speed
field from `slave_mode`, and only `cs4270_set_dai_fmt` writes these two.

**The law** (`dai_format_state`): along every run from the post-probe state,
`mode` is the serial format of the most recent `cs4270_set_dai_fmt` call whose
serial format was I2S or left-justified, whether that call returned 0 or not,
and `slave_mode` is the role of the most recent call that returned 0.

The two differ because `cs4270_set_dai_fmt` stores the serial format before it
looks at the clock-master role: a call with a known format and an unsupported
role returns -EINVAL with `mode` already changed, and the next `hw_params`
programs that format although the most recent accepted call asked for another
(`refused_format_reaches_hw_params`). A call with an unknown serial format
changes nothing.

**What `hw_params` programs** (`hw_params_follows_dai_format`): after every run,
a successful `cs4270_hw_params` writes the serial format the law gives `mode`
and the slave setting exactly when the law's `slave_mode` is set.
-/

namespace Cs4270

/-! ## The most recent format calls -/

section History

variable (D : SocDaiFmt)

/-- The format word of the most recent `cs4270_set_dai_fmt` call with a known
serial format, after call `op`. -/
def Op.formatAfter : Op → Option Nat → Option Nat
  | .setDaiFmt format, last =>
    if format &&& D.formatMask = D.i2s ∨ format &&& D.formatMask = D.leftJ then some format
    else last
  | _, last => last

/-- The format word of the most recent `cs4270_set_dai_fmt` call that returned
0 (a known serial format and a supported role), after call `op`. -/
def Op.acceptedAfter : Op → Option Nat → Option Nat
  | .setDaiFmt format, last =>
    if (format &&& D.formatMask = D.i2s ∨ format &&& D.formatMask = D.leftJ) ∧
        (format &&& D.masterMask = D.cbsCfs ∨ format &&& D.masterMask = D.cbmCfm) then
      some format
    else last
  | _, last => last

/-- The most recent format word with a known serial format, in a history. -/
def lastFormat (h : List Op) : Option Nat := h.foldl (fun last op => op.formatAfter D last) none

/-- The most recent accepted format word, in a history. -/
def lastAccepted (h : List Op) : Option Nat :=
  h.foldl (fun last op => op.acceptedAfter D last) none

@[simp] theorem lastFormat_append (h : List Op) (op : Op) :
    lastFormat D (h ++ [op]) = op.formatAfter D (lastFormat D h) := by
  simp [lastFormat]

@[simp] theorem lastAccepted_append (h : List Op) (op : Op) :
    lastAccepted D (h ++ [op]) = op.acceptedAfter D (lastAccepted D h) := by
  simp [lastAccepted]

/-- What the law says `mode` and `slave_mode` hold after a history. -/
def FormatState (σ : Host) (h : List Op) : Prop :=
  σ.codec.mode = ((lastFormat D h).map (· &&& D.formatMask)).getD 0 ∧
    σ.codec.slaveMode =
      ((lastAccepted D h).map fun f => if f &&& D.masterMask = D.cbsCfs then 1 else 0).getD 0

end History

/-- Every admitted call keeps `mode` and `slave_mode` as the law says. -/
theorem step_formatState (D : SocDaiFmt) (vd33Errata : Bool) (σ : Host) (h : List Op) (op : Op)
    (ha : σ.admits op) (hinv : FormatState D σ h) :
    FormatState D (step D vd33Errata σ op) (h ++ [op]) := by
  obtain ⟨hmode, hslave⟩ := hinv
  have other : (∀ format, op ≠ .setDaiFmt format) →
      FormatState D (step D vd33Errata σ op) (h ++ [op]) := fun hop => by
    obtain ⟨h1, h2⟩ := step_mode_slaveMode D vd33Errata σ hop
    have hf : ∀ last, op.formatAfter D last = last := by
      intro last; unfold Op.formatAfter; split
      · exact absurd rfl (hop _)
      · rfl
    have hac : ∀ last, op.acceptedAfter D last = last := by
      intro last; unfold Op.acceptedAfter; split
      · exact absurd rfl (hop _)
      · rfl
    exact ⟨by rw [h1, lastFormat_append, hf]; exact hmode,
      by rw [h2, lastAccepted_append, hac]; exact hslave⟩
  cases op with
  | setDaiFmt format =>
    simp only [Host.admits, beq_iff_eq] at ha
    simp only [FormatState, lastFormat_append, lastAccepted_append, Op.formatAfter,
      Op.acceptedAfter, step, Host.call, if_pos ha]
    rcases setDaiFmt_cases (D := D) σ.codec format with
      ⟨hf, hs, e⟩ | ⟨hf, hs, hm, e⟩ | ⟨hf, hs, hm, e⟩ | ⟨hf, e⟩ <;> rw [e]
    · simp [hf, hs]
    · simp [hf, hm, hm ▸ hs]
    · simp [hf, hs, hm, hslave]
    · simp [hf, hmode, hslave]
  | _ => exact other (by simp)

/-- The invariant after every run from the post-probe state. -/
theorem run_formatState (D : SocDaiFmt) (vd33Errata : Bool) (ops : List Op) :
    FormatState D (run D vd33Errata Host.bound ops) (delivered D vd33Errata Host.bound ops) := by
  have h := run_induction_delivered D vd33Errata (P := FormatState D) (Q := fun _ => True)
    (fun σ h op _ => step_formatState D vd33Errata σ h op) ops Host.bound [] (fun _ _ => trivial)
    ⟨rfl, rfl⟩
  rwa [List.nil_append] at h

/-- **DAI format state.** Along every run from the post-probe state, `mode` is
the serial format of the most recent `cs4270_set_dai_fmt` call with a known
serial format, accepted or refused, and `slave_mode` is 1 exactly when the
most recent accepted call made the codec clock slave (0 when there was none). -/
theorem dai_format_state (D : SocDaiFmt) (vd33Errata : Bool) (ops : List Op) :
    (run D vd33Errata Host.bound ops).codec.mode =
      ((lastFormat D (delivered D vd33Errata Host.bound ops)).map (· &&& D.formatMask)).getD 0 ∧
    (run D vd33Errata Host.bound ops).codec.slaveMode =
      ((lastAccepted D (delivered D vd33Errata Host.bound ops)).map fun f =>
        if f &&& D.masterMask = D.cbsCfs then 1 else 0).getD 0 :=
  run_formatState D vd33Errata ops

/-- `slave_mode` as the law gives it is set exactly when the most recent
accepted call asked for the codec as clock slave. -/
theorem slaveMode_ne_zero_iff (D : SocDaiFmt) (last : Option Nat) :
    ((last.map fun f => if f &&& D.masterMask = D.cbsCfs then 1 else 0).getD 0 ≠ 0) ↔
      ∃ f, last = some f ∧ f &&& D.masterMask = D.cbsCfs := by
  cases last with
  | none => simp
  | some f => by_cases h : f &&& D.masterMask = D.cbsCfs <;> simp [h]

/-- **What `hw_params` programs.** After every run from the post-probe state, a
successful `cs4270_hw_params` writes the DAC and ADC fields for I2S exactly when
the serial format of the most recent `cs4270_set_dai_fmt` call with a known
format, accepted or refused, was I2S (left-justified otherwise), and writes the
slave setting into the speed field exactly when the most recent accepted call
made the codec clock slave. -/
theorem hw_params_follows_dai_format (D : SocDaiFmt) (vd33Errata : Bool) (ops : List Op)
    {rate : Nat} {xMode xFormat : Status} {s' : Codec}
    (h : hwParams D vd33Errata (run D vd33Errata Host.bound ops).codec rate xMode xFormat =
      (s', .ok ())) :
    s'.cache Reg.format &&& (formatDacMask ||| formatAdcMask) =
      (if ((lastFormat D (delivered D vd33Errata Host.bound ops)).map
          (· &&& D.formatMask)).getD 0 = D.i2s
        then formatDacI2s ||| formatAdcI2s else formatDacLj ||| formatAdcLj) ∧
    (s'.cache Reg.mode &&& modeSpeedMask = modeSlave ↔
      ∃ f, lastAccepted D (delivered D vd33Errata Host.bound ops) = some f ∧
        f &&& D.masterMask = D.cbsCfs) := by
  obtain ⟨hmode, hslave⟩ := run_formatState D vd33Errata ops
  obtain ⟨hfmt, hspeed⟩ := hwParams_ok_fields h
  rw [hmode] at hfmt
  rw [hspeed, hslave, slaveMode_ne_zero_iff]
  exact ⟨hfmt, Iff.rfl⟩

/-- I2S with the codec as clock master, then 48 kHz from a 12.288 MHz MCLK. -/
theorem hw_params_follows_i2s_master :
    hwParams SocDaiFmt.linux false
        (run SocDaiFmt.linux false Host.bound [.setDaiSysclk 12288000, .setDaiFmt 0x1001]).codec
        48000 (.ok ()) (.ok ()) =
      ((hwParams SocDaiFmt.linux false
        (run SocDaiFmt.linux false Host.bound [.setDaiSysclk 12288000, .setDaiFmt 0x1001]).codec
        48000 (.ok ()) (.ok ())).1, .ok ()) ∧
    ((hwParams SocDaiFmt.linux false
        (run SocDaiFmt.linux false Host.bound [.setDaiSysclk 12288000, .setDaiFmt 0x1001]).codec
        48000 (.ok ()) (.ok ())).1.cache Reg.format &&& (formatDacMask ||| formatAdcMask) =
      (if ((lastFormat SocDaiFmt.linux (delivered SocDaiFmt.linux false Host.bound
          [.setDaiSysclk 12288000, .setDaiFmt 0x1001])).map
          (· &&& SocDaiFmt.linux.formatMask)).getD 0 = SocDaiFmt.linux.i2s
        then formatDacI2s ||| formatAdcI2s else formatDacLj ||| formatAdcLj) ∧
    ((hwParams SocDaiFmt.linux false
        (run SocDaiFmt.linux false Host.bound [.setDaiSysclk 12288000, .setDaiFmt 0x1001]).codec
        48000 (.ok ()) (.ok ())).1.cache Reg.mode &&& modeSpeedMask = modeSlave ↔
      ∃ f, lastAccepted SocDaiFmt.linux (delivered SocDaiFmt.linux false Host.bound
          [.setDaiSysclk 12288000, .setDaiFmt 0x1001]) = some f ∧
        f &&& SocDaiFmt.linux.masterMask = SocDaiFmt.linux.cbsCfs)) :=
  ⟨rfl, @hw_params_follows_dai_format SocDaiFmt.linux false _ 48000 (.ok ()) (.ok ()) _ rfl⟩

/-- I2S with the codec as clock master is accepted; left-justified with an
unsupported role is then refused, yet the next `hw_params`, which succeeds,
programs left-justified where the accepted call asked for I2S. -/
theorem refused_format_reaches_hw_params :
    (setDaiFmt SocDaiFmt.linux
      (run SocDaiFmt.linux false Host.bound [.setDaiSysclk 12288000]).codec 0x1001).2 = .ok () ∧
    (setDaiFmt SocDaiFmt.linux
      (run SocDaiFmt.linux false Host.bound
        [.setDaiSysclk 12288000, .setDaiFmt 0x1001]).codec 0x2003).2 = .error .EINVAL ∧
    (run SocDaiFmt.linux false Host.bound
      [.setDaiSysclk 12288000, .setDaiFmt 0x1001, .hwParams 48000 (.ok ()) (.ok ())]).codec.cache
        Reg.format = 0x09 ∧
    (hwParams SocDaiFmt.linux false
      (run SocDaiFmt.linux false Host.bound
        [.setDaiSysclk 12288000, .setDaiFmt 0x1001, .setDaiFmt 0x2003]).codec
      48000 (.ok ()) (.ok ())).2 = .ok () ∧
    (run SocDaiFmt.linux false Host.bound
      [.setDaiSysclk 12288000, .setDaiFmt 0x1001, .setDaiFmt 0x2003,
        .hwParams 48000 (.ok ()) (.ok ())]).codec.cache Reg.format = 0x00 :=
  ⟨rfl, rfl, by decide, rfl, by decide⟩

end Cs4270
