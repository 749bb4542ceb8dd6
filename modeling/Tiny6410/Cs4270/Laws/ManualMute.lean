import Tiny6410.Cs4270.Host

/-!
# The user's channel mutes and `cs4270_dai_mute`

The 'Master Playback Switch' records the channels the user muted in
`manual_mute`, so that `cs4270_dai_mute(0)` at stream start can unmute the DACs
without unmuting a channel the user muted.

**The law** (`manual_mute_respected`): along every run from the post-probe state
in which every switch write carries channel values in the range the control
advertises (0 or 1) and every write of the MUTE register by the switch or by
`cs4270_dai_mute` goes through, the cached DAC mute bits equal `manual_mute`
whenever no `cs4270_dai_mute` call has been made or the most recent one had
`mute = 0`.

Both conditions are needed. `cs4270_soc_put_mute` counts a channel as muted when
its value is zero (`!value`), while `snd_soc_put_volsw` stores `max - (value &
mask)` for the inverted switch, which is 1, muted, for every even value: a value
of 2 mutes the DAC and records it as unmuted, and the next `cs4270_dai_mute(0)`
unmutes it (`even_switch_value_unmuted_by_dai_mute`). And `manual_mute` is
recorded before the switch's write, so a failed write leaves the two apart.

The proof runs over the state and the history of calls made
(`run_induction_delivered`): an unmute writes `manual_mute` into the DAC bits,
a switch write in range writes both the same way, and every other call keeps
both, its footprint missing the DAC bits.
-/

namespace Cs4270

/-! ## The most recent mute call -/

/-- The argument of the most recent `cs4270_dai_mute` call, after call `op`. -/
def Op.muteAfter : Op → Option Int → Option Int
  | .digitalMute mute _, _ => some mute
  | _, last => last

/-- The argument of the most recent `cs4270_dai_mute` call of a history. -/
def lastMute (h : List Op) : Option Int :=
  h.foldl (fun last op => op.muteAfter last) none

@[simp] theorem lastMute_append (h : List Op) (op : Op) :
    lastMute (h ++ [op]) = op.muteAfter (lastMute h) := by
  simp [lastMute]

theorem muteAfter_of_ne {op : Op} (hop : ∀ mute x, op ≠ .digitalMute mute x) (last : Option Int) :
    op.muteAfter last = last := by
  unfold Op.muteAfter; split
  · exact absurd rfl (hop _ _)
  · rfl

/-! ## What each call does to the DAC bits -/

/-- `manual_mute` holds DAC bits only. -/
theorem ManualMute.and_dac (m : ManualMute) : m.bits &&& (muteDacA ||| muteDacB) = m.bits := by
  have h := m.sub
  ext i
  have h1 := congrArg (BitVec.getLsbD · i) h
  simp only [BitVec.getLsbD_and, BitVec.getLsbD_not, BitVec.getLsbD_zero, i.isLt, decide_True,
    Bool.true_and] at h1 ⊢
  revert h1
  cases m.bits.getLsbD i <;> cases (muteDacA ||| muteDacB).getLsbD i <;> simp

/-- An unmute writes `manual_mute` into the DAC bits. -/
theorem daiMute_unmute_dac (s : Codec) :
    (daiMute s 0 (.ok ())).1.cache Reg.mute &&& (muteDacA ||| muteDacB) = s.manualMute.bits := by
  simp only [daiMute, ne_eq, not_true_eq_false, if_false, sndSocWrite_ok]
  rw [store_cache (by decide), Function.update_same, rmw_and_of_sub (by decide), ManualMute.and_dac]

/-- A switch write in range, whose write goes through, leaves in the DAC bits
the channels it records as muted. -/
theorem masterPlaybackSwitch_write_dac (s : Codec) {v0 v1 : Int} (hv0 : v0 = 0 ∨ v0 = 1)
    (hv1 : v1 = 0 ∨ v1 = 1) (x1 : Status) :
    (masterPlaybackSwitch.write s v0 v1 (.ok ()) x1).1.cache Reg.mute &&& (muteDacA ||| muteDacB) =
      (ManualMute.of (v0 == 0) (v1 == 0)).bits := by
  simp only [SndKcontrolNew.write, masterPlaybackSwitch, socDoubleExt, socPutMute, sndSocPutVolsw]
  rw [if_pos (by decide), sndSocUpdateBits_ok_store rfl, store_cache (by decide),
    Function.update_same, rmw_and_of_sub (by decide)]
  rcases hv0 with rfl | rfl <;> rcases hv1 with rfl | rfl <;> decide

/-- No call but a mute and a switch write reaches a DAC bit. -/
theorem foot_mute_dac {op : Op} (hop : op.control? ≠ some masterPlaybackSwitch)
    (hm : ∀ mute x, op ≠ .digitalMute mute x) :
    (muteDacA ||| muteDacB) &&& op.foot Reg.mute = 0 := by
  have hk : ∀ k ∈ sndControls, k ≠ masterPlaybackSwitch →
      (muteDacA ||| muteDacB) &&& k.field Reg.mute = 0 := by decide
  cases op with
  | hwParams => simp only [Op.foot]; decide
  | digitalMute mute x => exact absurd rfl (hm mute x)
  | put k =>
    simp only [Op.foot]; split
    · exact hk k ‹_› fun e => hop (by rw [e]; rfl)
    · exact BitVec.and_zero
  | suspend | resume => simp only [Op.foot]; decide
  | _ => exact BitVec.and_zero

/-! ## The law over runs -/

/-- A switch write with both channels in range whose write goes through; a
`cs4270_dai_mute` whose write goes through; any other call. -/
def Op.SwitchOk : Op → Prop
  | .put k v0 v1 x0 _ =>
    k = masterPlaybackSwitch → (v0 = 0 ∨ v0 = 1) ∧ (v1 = 0 ∨ v1 = 1) ∧ x0 = .ok ()
  | .digitalMute _ x => x = .ok ()
  | _ => True

/-- With no mute in force, the DAC bits are the user's: the invariant over the
state and the history of calls made. -/
def MuteMatchesUser (σ : Host) (h : List Op) : Prop :=
  lastMute h = none ∨ lastMute h = some 0 →
    σ.codec.cache Reg.mute &&& (muteDacA ||| muteDacB) = σ.codec.manualMute.bits

/-- Every admitted call keeps the invariant. -/
theorem step_muteMatchesUser (D : SocDaiFmt) (vd33Errata : Bool) (σ : Host) (h : List Op)
    (op : Op) (hop : op.SwitchOk) (ha : σ.admits op) (hinv : MuteMatchesUser σ h) :
    MuteMatchesUser (step D vd33Errata σ op) (h ++ [op]) := by
  have other : op.control? ≠ some masterPlaybackSwitch → (∀ mute x, op ≠ .digitalMute mute x) →
      MuteMatchesUser (step D vd33Errata σ op) (h ++ [op]) := fun hc hm hl => by
    rw [(step_agree D vd33Errata σ op).field (foot_mute_dac hc hm), step_manualMute D vd33Errata σ hc]
    exact hinv (by rwa [lastMute_append, muteAfter_of_ne hm] at hl)
  cases op with
  | digitalMute mute x =>
    simp only [Op.SwitchOk] at hop; subst hop
    intro hl
    obtain rfl : mute = 0 := by simpa [Op.muteAfter] using hl
    simp only [Host.admits, beq_iff_eq] at ha
    rw [step_manualMute D vd33Errata σ (by simp [Op.control?])]
    simp only [step, Host.call, if_pos ha]
    exact daiMute_unmute_dac _
  | put k v0 v1 x0 x1 =>
    by_cases hk : k = masterPlaybackSwitch
    · subst hk
      obtain ⟨hv0, hv1, rfl⟩ := hop rfl
      simp only [Host.admits, Bool.and_eq_true, decide_eq_true_eq, beq_iff_eq] at ha
      intro _
      simp only [step, if_pos ha.1, Host.call, if_pos ha.2]
      rw [SndKcontrolNew.write_eq_with ha.1]
      simp only [if_pos rfl]
      exact masterPlaybackSwitch_write_dac _ hv0 hv1 x1
    · exact other (by simpa [Op.control?]) (by simp)
  | _ => exact other (by simp [Op.control?]) (by simp)

/-- **Manual mute respected.** Along every run from the post-probe state whose
switch writes are in range and whose MUTE writes go through, whenever no
`cs4270_dai_mute` call has been made or the most recent one unmuted, the DAC
mute bits of the cached MUTE register are `manual_mute`. -/
theorem manual_mute_respected (D : SocDaiFmt) (vd33Errata : Bool) (ops : List Op)
    (hops : ∀ op ∈ ops, op.SwitchOk)
    (hlast : lastMute (delivered D vd33Errata Host.bound ops) = none ∨
      lastMute (delivered D vd33Errata Host.bound ops) = some 0) :
    (run D vd33Errata Host.bound ops).codec.cache Reg.mute &&& (muteDacA ||| muteDacB) =
      (run D vd33Errata Host.bound ops).codec.manualMute.bits := by
  have h := run_induction_delivered D vd33Errata (step_muteMatchesUser D vd33Errata) ops
    Host.bound [] hops fun _ => by decide
  rw [List.nil_append] at h
  exact h hlast

/-- The user mutes the right channel, a stream mutes and unmutes: the right
channel stays muted, the left one plays. -/
theorem manual_mute_respected_after_unmute :
    (∀ op ∈ [Op.put masterPlaybackSwitch 1 0 (.ok ()) (.ok ()), .digitalMute 1 (.ok ()),
        .digitalMute 0 (.ok ())], op.SwitchOk) ∧
    (lastMute (delivered SocDaiFmt.linux false Host.bound
        [.put masterPlaybackSwitch 1 0 (.ok ()) (.ok ()), .digitalMute 1 (.ok ()),
          .digitalMute 0 (.ok ())]) = none ∨
      lastMute (delivered SocDaiFmt.linux false Host.bound
        [.put masterPlaybackSwitch 1 0 (.ok ()) (.ok ()), .digitalMute 1 (.ok ()),
          .digitalMute 0 (.ok ())]) = some 0) ∧
    (run SocDaiFmt.linux false Host.bound
        [.put masterPlaybackSwitch 1 0 (.ok ()) (.ok ()), .digitalMute 1 (.ok ()),
          .digitalMute 0 (.ok ())]).codec.cache Reg.mute &&& (muteDacA ||| muteDacB) =
      (run SocDaiFmt.linux false Host.bound
        [.put masterPlaybackSwitch 1 0 (.ok ()) (.ok ()), .digitalMute 1 (.ok ()),
          .digitalMute 0 (.ok ())]).codec.manualMute.bits :=
  ⟨by simp [Op.SwitchOk], .inr (by decide),
    manual_mute_respected SocDaiFmt.linux false _ (by simp [Op.SwitchOk]) (.inr (by decide))⟩

/-- The switch written with 2 and 1: the DAC of the left channel is muted while
`manual_mute` records no channel, and the next unmute clears it. -/
theorem even_switch_value_unmuted_by_dai_mute :
    (run SocDaiFmt.linux false Host.bound
      [.put masterPlaybackSwitch 2 1 (.ok ()) (.ok ())]).codec.cache Reg.mute &&&
        (muteDacA ||| muteDacB) = muteDacA ∧
    (run SocDaiFmt.linux false Host.bound
      [.put masterPlaybackSwitch 2 1 (.ok ()) (.ok ())]).codec.manualMute.bits = 0 ∧
    (run SocDaiFmt.linux false Host.bound
      [.put masterPlaybackSwitch 2 1 (.ok ()) (.ok ()), .digitalMute 0 (.ok ())]).codec.cache
        Reg.mute &&& (muteDacA ||| muteDacB) = 0 := by
  decide

end Cs4270
