import Tiny6410.Cs4270.Dai

/-!
# Binding, probe, remove, suspend and resume

`cs4270_i2c_probe` finds the chip and registers the codec; ASoC then calls
`cs4270_probe`, and later `cs4270_soc_suspend`, `cs4270_soc_resume` and
`cs4270_remove`. Each host call these make (`snd_soc_codec_set_cache_io`,
`snd_soc_add_controls`, `regulator_bulk_get`, the register writes, the
regulator enables) is handed its answer, so every pattern of failures is one
choice of arguments. `CONFIG_PM` is taken as set: without it ASoC has no
suspend or resume to call.

The spec lemmas: `probe_ok` (a successful probe leaves exactly `postProbe`),
`socSuspend_cases`, and `socResume_eq` (resume's cache sync is invisible in
the cache, so resume is its regulator enable followed by one PWRCTL write).
-/

namespace Cs4270

/-- `cs4270_i2c_probe`: read the chip ID over SMBus (`chipid`), check that its top
four bits are 1100, allocate the zeroed private data (`kzalloc`, answered by
`xAlloc`) and register the codec (`xRegister`). -/
def i2cProbe (chipid : Except Errno Nat) (xAlloc xRegister : Status) : Except Errno Codec :=
  match chipid with
  | .error e => .error e
  | .ok ret =>
    if ret &&& 0xF0 ≠ 0xC0 then .error .ENODEV
    else
      match xAlloc with
      | .error _ => .error .ENOMEM
      | .ok () =>
        match xRegister with
        | .error e => .error e
        | .ok () => .ok Codec.init

/-- `cs4270_probe`. Disables auto-mute and the soft-ramp and zero-cross
transitions, adds the controls, gets and enables the supplies; the first
failure ends it, releasing the supplies if only the enable failed. -/
def probe (s : Codec) (xCacheIo xMute xTrans xControls xGet xEnable : Status) :
    Codec × Status :=
  match xCacheIo with
  | .error e => (s, .error e)
  | .ok () =>
    match sndSocUpdateBits s Reg.mute muteAuto 0 xMute with
    | (s, .error e) => (s, .error e)
    | (s, .ok _) =>
      match sndSocUpdateBits s Reg.trans (transSoft ||| transZero) 0 xTrans with
      | (s, .error e) => (s, .error e)
      | (s, .ok _) =>
        match xControls with
        | .error e => (s, .error e)
        | .ok () =>
          match xGet with
          | .error e => (s, .error e)
          | .ok () => regulatorBulkEnable s xEnable

/-- `cs4270_remove`: disable and free the supplies. -/
def remove (s : Codec) : Codec × Status :=
  (regulatorBulkDisable s, .ok ())

/-- `cs4270_soc_suspend`: set the power-down bits, then disable the supplies. The
`reg < 0` test after the read never fires: a cached byte OR-ed with a byte is
not negative. -/
def socSuspend (s : Codec) (x : Status) : Codec × Status :=
  let reg := s.cache Reg.pwrctl ||| pwrctlPdnAll
  match sndSocWrite s Reg.pwrctl reg x with
  | (s, .error e) => (s, .error e)
  | (s, .ok ()) => (regulatorBulkDisable s, .ok ())

/-- `cs4270_soc_resume`: enable the supplies (the answer is not looked at),
write the whole cache back (nor is this one), then clear the power-down bits. -/
def socResume (s : Codec) (xEnable : Status) (xSync : Reg → Status) (x : Status) :
    Codec × Status :=
  let s := (regulatorBulkEnable s xEnable).1
  let s := (sndSocCacheSync s xSync).1
  let reg := s.cache Reg.pwrctl &&& ~~~pwrctlPdnAll
  sndSocWrite s Reg.pwrctl reg x

/-! ## Spec lemmas -/

/-- The state a successful `cs4270_probe` leaves: the default cache with
auto-mute, soft ramp and zero-cross cleared, zeroed private data, and the
supplies enabled once. -/
def postProbe : Codec :=
  { Codec.init with
    cache := Function.update (Function.update defaultRegCache Reg.mute 0x00) Reg.trans 0x00
    supplies := 1 }

/-- A successful probe of the registered codec leaves exactly `postProbe`. -/
theorem probe_ok {s : Codec} {xCacheIo xMute xTrans xControls xGet xEnable : Status}
    (h : probe Codec.init xCacheIo xMute xTrans xControls xGet xEnable = (s, .ok ())) :
    s = postProbe := by
  rcases xCacheIo with _ | ⟨⟨⟩⟩ <;> rcases xMute with _ | ⟨⟨⟩⟩ <;> rcases xTrans with _ | ⟨⟨⟩⟩ <;>
    rcases xControls with _ | ⟨⟨⟩⟩ <;> rcases xGet with _ | ⟨⟨⟩⟩ <;>
    rcases xEnable with _ | ⟨⟨⟩⟩ <;> cases h
  rfl

/-- **What `cs4270_soc_suspend` can do.** Fail the PWRCTL write with nothing
changed, or set the power-down bits and count one disable. -/
theorem socSuspend_cases (s : Codec) (x : Status) :
    (∃ e, x = .error e ∧ socSuspend s x = (s, .error e)) ∨
    (x = .ok () ∧ socSuspend s x =
      (regulatorBulkDisable (s.store Reg.pwrctl (s.cache Reg.pwrctl ||| pwrctlPdnAll)), .ok ())) := by
  cases x with
  | error e => exact .inl ⟨e, rfl, rfl⟩
  | ok u => cases u; exact .inr ⟨rfl, rfl⟩

/-- `cs4270_soc_resume` is its regulator enable followed by one PWRCTL write
that clears the power-down bits: the cache sync in between changes nothing. -/
theorem socResume_eq (s : Codec) (xEnable : Status) (xSync : Reg → Status) (x : Status) :
    socResume s xEnable xSync x =
      sndSocWrite (regulatorBulkEnable s xEnable).1 Reg.pwrctl
        (s.cache Reg.pwrctl &&& ~~~pwrctlPdnAll) x := by
  simp only [socResume, cacheSync_fst, regulatorBulkEnable_cache]

/-- A suspend whose write succeeds counts one disable. -/
@[simp] theorem socSuspend_ok_supplies (s : Codec) :
    (socSuspend s (.ok ())).1.supplies = s.supplies - 1 := by
  simp [socSuspend, regulatorBulkDisable]

/-- A resume whose enable succeeds counts one enable, whatever its writes do. -/
@[simp] theorem socResume_enabled_supplies (s : Codec) (xSync : Reg → Status) (x : Status) :
    (socResume s (.ok ()) xSync x).1.supplies = s.supplies + 1 := by
  rw [socResume_eq]; cases x <;> simp [regulatorBulkEnable]

/-- Suspend changes the cache and the supplies, nothing else. -/
theorem socSuspend_eq_with (s : Codec) (x : Status) :
    (socSuspend s x).1 =
      { s with cache := (socSuspend s x).1.cache, supplies := (socSuspend s x).1.supplies } := by
  cases x <;> rfl

/-- Resume changes the cache and the supplies, nothing else. -/
theorem socResume_eq_with (s : Codec) (xEnable : Status) (xSync : Reg → Status) (x : Status) :
    (socResume s xEnable xSync x).1 =
      { s with cache := (socResume s xEnable xSync x).1.cache
               supplies := (socResume s xEnable xSync x).1.supplies } := by
  rw [socResume_eq]; cases x <;> cases xEnable <;> rfl

@[simp] theorem remove_supplies (s : Codec) : (remove s).1.supplies = s.supplies - 1 := rfl

/-- Suspend changes only the power-down bits of PWRCTL in the cache. -/
theorem socSuspend_agree (s : Codec) (x : Status) :
    AgreeOutside (footAt Reg.pwrctl pwrctlPdnAll) (socSuspend s x).1.cache s.cache := by
  rcases socSuspend_cases s x with ⟨e, -, h⟩ | ⟨-, h⟩ <;> rw [h]
  · exact AgreeOutside.refl _ _
  · rw [regulatorBulkDisable_cache, or_eq_rmw]
    exact store_rmw_agree (by decide)

/-- Resume changes only the power-down bits of PWRCTL in the cache. -/
theorem socResume_agree (s : Codec) (xEnable : Status) (xSync : Reg → Status) (x : Status) :
    AgreeOutside (footAt Reg.pwrctl pwrctlPdnAll) (socResume s xEnable xSync x).1.cache s.cache := by
  have key := store_rmw_agree (s := (regulatorBulkEnable s xEnable).1) (a := Reg.pwrctl)
    (m := pwrctlPdnAll) (v := 0#8) (by decide)
  rw [BitVec.or_zero, regulatorBulkEnable_cache] at key
  rw [socResume_eq]
  cases x with
  | error e => simpa using AgreeOutside.refl _ s.cache
  | ok u => simpa using key

end Cs4270
