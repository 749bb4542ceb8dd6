import Tiny6410.Cs4270.Host

/-!
# Every control owns its field

Each mixer control of `cs4270_snd_controls` read-modify-writes one field: the
VOLA and VOLB bytes, FORMAT bit 5, TRANS bits 6, 5 and 0, MODE bit 0, MUTE bit 5,
MUTE bits 3 and 4, and MUTE bits 0 and 1.

**The law** (`control_field_last_write`): along every run from the state
`cs4270_probe` leaves, the field of every control other than the 'Master
Playback Switch' holds what it held right after the most recent write through
that control, or its post-probe value if there was none. No DAI operation,
mute, suspend, resume or other control ever changes one of its bits.

The proof is a footprint argument. Each call changes the cache only inside its
footprint (`step_agree`), and every footprint a call other than a write through
the control can have is disjoint from the control's field (`foot_disjoint`):
the clear-masks and set-values of `cs4270_hw_params`, the DAC bits
`cs4270_dai_mute` sets or clears (`manual_mute` included, which never leaves
them), suspend and resume's power-down bits, and the other controls' fields.

**What the field holds** (`control_holds_last_value`): when that most recent
write went through, the field holds the handler's channel values
(`SndKcontrolNew.stored`), whatever came before it.

The 'Master Playback Switch' is left out because `cs4270_dai_mute` writes the
same two bits; what those bits hold is `Tiny6410.Cs4270.Laws.ManualMute`'s business.
-/

namespace Cs4270

/-- The footprints of the DAI operations and of suspend and resume miss the
fields of every control but the 'Master Playback Switch'. -/
theorem sndControls_fields_outside :
    ∀ k ∈ sndControls, k ≠ masterPlaybackSwitch → ∀ r,
      k.field r &&& hwParamsFoot r = 0 ∧ k.field r &&& daiMuteFoot r = 0 ∧
      k.field r &&& footAt Reg.pwrctl pwrctlPdnAll r = 0 := by
  decide

/-- A call that is not a write through `k` has a footprint disjoint from `k`'s
field. -/
theorem foot_disjoint {k : SndKcontrolNew} (hk : k ∈ sndControls)
    (hmps : k ≠ masterPlaybackSwitch) {op : Op} (hop : op.control? ≠ some k) (r : Reg) :
    k.field r &&& op.foot r = 0 := by
  have h := sndControls_fields_outside k hk hmps r
  cases op with
  | hwParams => exact h.1
  | digitalMute => exact h.2.1
  | put k' =>
    simp only [Op.foot]
    split
    · exact sndControls_fields_disjoint k hk k' ‹_› (fun e => hop (by rw [e]; rfl)) r
    · exact BitVec.and_zero
  | suspend => exact h.2.2
  | resume => exact h.2.2
  | setDaiSysclk => exact BitVec.and_zero
  | setDaiFmt => exact BitVec.and_zero
  | remove => exact BitVec.and_zero

/-- A run with no write through `k` leaves `k`'s field as it found it, from any
state. -/
theorem run_keeps_field (D : SocDaiFmt) (vd33Errata : Bool) {k : SndKcontrolNew}
    (hk : k ∈ sndControls) (hmps : k ≠ masterPlaybackSwitch) (r : Reg) :
    ∀ (ops : List Op) (σ : Host), (∀ op ∈ ops, op.control? ≠ some k) →
      (run D vd33Errata σ ops).codec.cache r &&& k.field r = σ.codec.cache r &&& k.field r := by
  intro ops
  induction ops with
  | nil => intro σ _; rfl
  | cons op ops ih =>
    intro σ hops
    rw [run_cons, ih _ (fun o ho => hops o (List.mem_cons_of_mem _ ho))]
    exact (step_agree D vd33Errata σ op).field
      (foot_disjoint hk hmps (hops op (List.mem_cons_self _ _)) r)

/-- **Every control owns its field.** Split a run from the post-probe state
after the most recent write through a control `k` other than the 'Master
Playback Switch' (or at its start, when there was none): whatever follows
leaves every bit of `k`'s field as that write left it. -/
theorem control_field_last_write (D : SocDaiFmt) (vd33Errata : Bool) (pre post : List Op)
    {k : SndKcontrolNew} (hk : k ∈ sndControls) (hmps : k ≠ masterPlaybackSwitch)
    (hpost : ∀ op ∈ post, op.control? ≠ some k) (r : Reg) :
    (run D vd33Errata Host.bound (pre ++ post)).codec.cache r &&& k.field r =
      (run D vd33Errata Host.bound pre).codec.cache r &&& k.field r := by
  rw [run_append]
  exact run_keeps_field D vd33Errata hk hmps r post _ hpost

/-- The 'Popguard Switch' set to off, then a stream configured, muted and
suspended: its bit is still what the switch wrote. -/
theorem popguard_kept_by_stream :
    (socSingle "Popguard Switch" Reg.mode 0 1 true ∈ sndControls ∧
      socSingle "Popguard Switch" Reg.mode 0 1 true ≠ masterPlaybackSwitch ∧
      ∀ op ∈ [Op.setDaiSysclk 12288000, .hwParams 48000 (.ok ()) (.ok ()),
          .digitalMute 1 (.ok ()), .suspend (.ok ())],
        op.control? ≠ some (socSingle "Popguard Switch" Reg.mode 0 1 true)) ∧
    (run SocDaiFmt.linux false Host.bound
        ([.put (socSingle "Popguard Switch" Reg.mode 0 1 true) 0 0 (.ok ()) (.ok ())] ++
          [.setDaiSysclk 12288000, .hwParams 48000 (.ok ()) (.ok ()),
            .digitalMute 1 (.ok ()), .suspend (.ok ())])).codec.cache Reg.mode &&&
        (socSingle "Popguard Switch" Reg.mode 0 1 true).field Reg.mode =
      (run SocDaiFmt.linux false Host.bound
        [.put (socSingle "Popguard Switch" Reg.mode 0 1 true) 0 0 (.ok ()) (.ok ())]).codec.cache
          Reg.mode &&& (socSingle "Popguard Switch" Reg.mode 0 1 true).field Reg.mode :=
  ⟨⟨by decide, by decide, by simp [Op.control?]⟩,
    control_field_last_write _ _ _ _ (by decide) (by decide) (by simp [Op.control?]) _⟩

/-- **What a control's field holds.** After a write through a control `k` of the
table other than the 'Master Playback Switch', made while the codec is awake and
with its register writes going through, and any calls but writes through `k`
after it, `k`'s field holds the handler's channel values of that write. -/
theorem control_holds_last_value (D : SocDaiFmt) (vd33Errata : Bool) (pre post : List Op)
    {k : SndKcontrolNew} (hk : k ∈ sndControls) (hmps : k ≠ masterPlaybackSwitch)
    (hawake : (run D vd33Errata Host.bound pre).phase = .awake) (v0 v1 : Int)
    (hpost : ∀ op ∈ post, op.control? ≠ some k) (r : Reg) :
    (run D vd33Errata Host.bound (pre ++ .put k v0 v1 (.ok ()) (.ok ()) :: post)).codec.cache r &&&
        k.field r = k.stored v0 v1 r := by
  rw [run_append, run_cons, run_keeps_field D vd33Errata hk hmps r post _ hpost]
  simp only [step, if_pos hk, Host.call, if_pos hawake]
  exact SndKcontrolNew.write_field hk r

/-- The volume set to 10 and 20, then a stream configured and suspended: VOLB
still holds what the write stored. -/
theorem volume_held_through_stream :
    (socDoubleR "Master Playback Volume" Reg.vola Reg.volb 0 0xFF true ∈ sndControls ∧
      socDoubleR "Master Playback Volume" Reg.vola Reg.volb 0 0xFF true ≠ masterPlaybackSwitch ∧
      (run SocDaiFmt.linux false Host.bound []).phase = .awake ∧
      ∀ op ∈ [Op.setDaiSysclk 12288000, .hwParams 48000 (.ok ()) (.ok ()), .suspend (.ok ())],
        op.control? ≠ some (socDoubleR "Master Playback Volume" Reg.vola Reg.volb 0 0xFF true)) ∧
    (run SocDaiFmt.linux false Host.bound
        ([] ++ .put (socDoubleR "Master Playback Volume" Reg.vola Reg.volb 0 0xFF true) 10 20
          (.ok ()) (.ok ()) ::
          [.setDaiSysclk 12288000, .hwParams 48000 (.ok ()) (.ok ()), .suspend (.ok ())])).codec.cache
        Reg.volb &&&
      (socDoubleR "Master Playback Volume" Reg.vola Reg.volb 0 0xFF true).field Reg.volb =
      (socDoubleR "Master Playback Volume" Reg.vola Reg.volb 0 0xFF true).stored 10 20 Reg.volb :=
  ⟨⟨by decide, by decide, rfl, by simp [Op.control?]⟩,
    control_holds_last_value SocDaiFmt.linux false []
      [.setDaiSysclk 12288000, .hwParams 48000 (.ok ()) (.ok ()), .suspend (.ok ())]
      (by decide) (by decide) rfl 10 20 (by simp [Op.control?]) Reg.volb⟩

end Cs4270
