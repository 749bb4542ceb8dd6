import Tiny6410.Cs4270.Host

/-!
# The chip behind the cache

ASoC answers the driver's register reads from its cache; the chip itself sees only the
bus writes. Each driver call gets its bus side here: the register writes the chip
acknowledged, in bus order (`Writes`), which `patch` applies to a register file.

**The cache moves as the chip does** (`step_cache_patch`): every call's effect on the
cache is its acknowledged writes applied to the cache, and a write the bus refuses
reaches neither the chip nor the cache (spec §7). The one call that writes without
changing the cache is the cache sync of `cs4270_soc_resume`, which writes cached values
back (`syncWrites_value`).

The bus sides follow the calls' code: `snd_soc_update_bits` writes only when the
register changes, `cs4270_hw_params` stops after a refused Mode Control write, the
sync loop skips registers that hold their default and stops at its first refused
write, and `cs4270_soc_resume` writes PWRCTL whatever the sync answered.
-/

namespace Cs4270

/-- Register writes the chip acknowledged, in bus order. -/
abbrev Writes := List (Reg × BitVec 8)

/-- A register file after the writes `ws`, applied in order. -/
def patch (regs : Reg → BitVec 8) : Writes → Reg → BitVec 8
  | [] => regs
  | (r, v) :: ws => patch (Function.update regs r v) ws

/-- What one bus write leaves on the chip: the write, when the chip acknowledged it. -/
def busWrite (reg : Reg) (value : BitVec 8) : Status → Writes
  | .ok () => [(reg, value)]
  | .error _ => []

/-! ## The bus side of each call -/

/-- `snd_soc_update_bits` on the bus: one write, and only when the register changes. -/
def sndSocUpdateBitsWrites (s : Codec) (reg : Reg) (mask value : BitVec 8) (x : Status) :
    Writes :=
  let old := s.cache reg
  let new := (old &&& ~~~mask) ||| value
  if old ≠ new then busWrite reg new x else []

/-- `snd_soc_put_volsw` on the bus. -/
def sndSocPutVolswWrites (s : Codec) (mc : SocMixerControl) (v0 v1 : Int) (x : Status) :
    Writes :=
  let valMask := mc.mask <<< mc.shift
  let val := mc.chanVal v0 <<< mc.shift
  if mc.shift ≠ mc.rshift then
    sndSocUpdateBitsWrites s mc.reg (valMask ||| mc.mask <<< mc.rshift)
      (val ||| mc.chanVal v1 <<< mc.rshift) x
  else sndSocUpdateBitsWrites s mc.reg valMask val x

/-- `snd_soc_put_volsw_2r` on the bus: the right register is written only after the
left one was. -/
def sndSocPutVolsw2rWrites (s : Codec) (mc : SocMixerControl) (v0 v1 : Int) (x0 x1 : Status) :
    Writes :=
  let valMask := mc.mask <<< mc.shift
  sndSocUpdateBitsWrites s mc.reg valMask (mc.chanVal v0 <<< mc.shift) x0 ++
    match sndSocUpdateBits s mc.reg valMask (mc.chanVal v0 <<< mc.shift) x0 with
    | (_, .error _) => []
    | (s, .ok _) => sndSocUpdateBitsWrites s mc.rreg valMask (mc.chanVal v1 <<< mc.shift) x1

/-- A write through control `k` on the bus. `cs4270_soc_put_mute` changes only
`manual_mute` before its `snd_soc_put_volsw`, so its writes are that handler's. -/
def SndKcontrolNew.writes (k : SndKcontrolNew) (s : Codec) (v0 v1 : Int) (x0 x1 : Status) :
    Writes :=
  match k.put with
  | .volsw => sndSocPutVolswWrites s k.mc v0 v1 x0
  | .volsw2r => sndSocPutVolsw2rWrites s k.mc v0 v1 x0 x1
  | .putMute => sndSocPutVolswWrites s k.mc v0 v1 x0

/-- The MUTE value `cs4270_dai_mute` writes. -/
def daiMuteValue (s : Codec) (mute : Int) : BitVec 8 :=
  if mute ≠ 0 then s.cache Reg.mute ||| muteDacA ||| muteDacB
  else (s.cache Reg.mute &&& ~~~(muteDacA ||| muteDacB)) ||| s.manualMute.bits

/-- `cs4270_soc_suspend` on the bus: PWRCTL with the power-down bits set. -/
def socSuspendWrites (s : Codec) (x : Status) : Writes :=
  busWrite Reg.pwrctl (s.cache Reg.pwrctl ||| pwrctlPdnAll) x

/-- The sync loop of `snd_soc_cache_sync` on the bus: each register whose cached value
is not its default, in address order, up to the first refused write. The loop writes
cached values, so the cache it reads stays `s`. -/
def syncWrites (x : Reg → Status) : List Reg → Codec → Writes
  | [], _ => []
  | reg :: regs, s =>
    if s.cache reg = defaultRegCache reg then syncWrites x regs s
    else
      busWrite reg (s.cache reg) (x reg) ++
        match x reg with
        | .ok () => syncWrites x regs s
        | .error _ => []

/-- `cs4270_soc_resume` on the bus: the cache sync, then PWRCTL with the power-down bits
cleared, whatever the sync answered. The regulator enable leaves the cache as it is. -/
def socResumeWrites (s : Codec) (xSync : Reg → Status) (x : Status) : Writes :=
  syncWrites xSync (List.finRange 9) s ++
    busWrite Reg.pwrctl (s.cache Reg.pwrctl &&& ~~~pwrctlPdnAll) x

/-- `cs4270_probe` on the bus: the auto-mute and transition updates; the rest of probe
does not touch the chip. -/
def probeWrites (s : Codec) (xCacheIo xMute xTrans : Status) : Writes :=
  match xCacheIo with
  | .error _ => []
  | .ok () =>
    sndSocUpdateBitsWrites s Reg.mute muteAuto 0 xMute ++
      match sndSocUpdateBits s Reg.mute muteAuto 0 xMute with
      | (_, .error _) => []
      | (s, .ok _) => sndSocUpdateBitsWrites s Reg.trans (transSoft ||| transZero) 0 xTrans

section Ops

variable (D : SocDaiFmt) (vd33Errata : Bool)

/-- `cs4270_hw_params` on the bus: Mode Control, then, if the chip took it and
`cs4270->mode` is known, Serial Format. -/
def hwParamsWrites (s : Codec) (rate : Nat) (xMode xFormat : Status) : Writes :=
  match findRatio vd33Errata (s.mclk / rate) with
  | none => []
  | some r =>
    busWrite Reg.mode (modeValue s r) xMode ++
      match xMode with
      | .error _ => []
      | .ok () =>
        match formatValue D (s.store Reg.mode (modeValue s r)) with
        | none => []
        | some reg => busWrite Reg.format reg xFormat

/-- A driver call on the bus. -/
def callWrites (s : Codec) : Op → Writes
  | .hwParams rate xMode xFormat => hwParamsWrites D vd33Errata s rate xMode xFormat
  | .digitalMute mute x => busWrite Reg.mute (daiMuteValue s mute) x
  | .put k v0 v1 x0 x1 => k.writes s v0 v1 x0 x1
  | .suspend x => socSuspendWrites s x
  | .resume _ xSync x => socResumeWrites s xSync x
  | _ => []

/-- A call on the bus, as ASoC gates it: a call ASoC does not make writes nothing. -/
def opWrites (σ : Host) (op : Op) : Writes :=
  if σ.admits op then callWrites D vd33Errata σ.codec op else []

end Ops

/-! ## Patches -/

section Patch

variable {c d : Reg → BitVec 8} {ws ws' : Writes} {r : Reg}

@[simp] theorem patch_nil : patch c [] = c := rfl

theorem patch_append : patch c (ws ++ ws') = patch (patch c ws) ws' := by
  induction ws generalizing c with
  | nil => rfl
  | cons w ws ih => exact ih

/-- Writes of the values a register file `c` holds leave any file holding `c`'s
values where they wrote, and its own elsewhere. -/
theorem patch_of_values_apply (h : ∀ w ∈ ws, w.2 = c w.1) :
    patch d ws r = if r ∈ ws.map Prod.fst then c r else d r := by
  induction ws generalizing d with
  | nil => rfl
  | cons w ws ih =>
    obtain ⟨r', v⟩ := w
    have hv : v = c r' := h (r', v) (List.mem_cons_self _ _)
    rw [patch, ih fun w hw => h w (List.mem_cons_of_mem _ hw)]
    by_cases hr : r = r'
    · subst hr; simp [hv]
    · simp [hr, Function.update_noteq hr]

/-- Writes of the values a register file holds leave it as it is. -/
theorem patch_of_values (h : ∀ w ∈ ws, w.2 = c w.1) : patch c ws = c := by
  funext r; rw [patch_of_values_apply h]; split <;> rfl

/-- Two register files that agree on the registers `P` picks still agree there
after the same writes. -/
theorem patch_agree {P : Reg → Prop} (h : ∀ r, P r → d r = c r) :
    ∀ r, P r → patch d ws r = patch c ws r := by
  induction ws generalizing c d with
  | nil => exact h
  | cons w ws ih =>
    refine ih fun r hr => ?_
    by_cases he : r = w.1
    · subst he; simp
    · simp [Function.update_noteq he, h r hr]

end Patch

/-! ## The cache moves as the chip does -/

section Cache

variable {s : Codec} {a : Reg} {m v : BitVec 8} {x : Status}

theorem sndSocWrite_cache_patch (ha : Reg.pwrctl ≤ a) :
    (sndSocWrite s a v x).1.cache = patch s.cache (busWrite a v x) := by
  rcases x with e | ⟨⟨⟩⟩
  · rfl
  · exact store_cache ha

theorem sndSocUpdateBits_cache_patch (ha : Reg.pwrctl ≤ a) :
    (sndSocUpdateBits s a m v x).1.cache = patch s.cache (sndSocUpdateBitsWrites s a m v x) := by
  dsimp only [sndSocUpdateBits, sndSocUpdateBitsWrites]
  split_ifs
  · rcases x with e | ⟨⟨⟩⟩
    · rfl
    · exact store_cache ha
  · rfl

theorem sndSocPutVolsw_cache_patch {mc : SocMixerControl} {v0 v1 : Int} (ha : Reg.pwrctl ≤ mc.reg) :
    (sndSocPutVolsw s mc v0 v1 x).1.cache = patch s.cache (sndSocPutVolswWrites s mc v0 v1 x) := by
  dsimp only [sndSocPutVolsw, sndSocPutVolswWrites]
  split <;> exact sndSocUpdateBits_cache_patch ha

theorem sndSocPutVolsw2r_cache_patch {mc : SocMixerControl} {v0 v1 : Int} {x0 x1 : Status}
    (ha : Reg.pwrctl ≤ mc.reg) (hb : Reg.pwrctl ≤ mc.rreg) :
    (sndSocPutVolsw2r s mc v0 v1 x0 x1).1.cache =
      patch s.cache (sndSocPutVolsw2rWrites s mc v0 v1 x0 x1) := by
  dsimp only [sndSocPutVolsw2r, sndSocPutVolsw2rWrites]
  rw [patch_append, ← sndSocUpdateBits_cache_patch ha]
  rcases sndSocUpdateBits s mc.reg (mc.mask <<< mc.shift) (mc.chanVal v0 <<< mc.shift) x0
    with ⟨s', e | b⟩
  · rfl
  · exact sndSocUpdateBits_cache_patch hb

theorem SndKcontrolNew.write_cache_patch {k : SndKcontrolNew} {v0 v1 : Int} {x0 x1 : Status}
    (hk : k ∈ sndControls) :
    (k.write s v0 v1 x0 x1).1.cache = patch s.cache (k.writes s v0 v1 x0 x1) := by
  obtain ⟨ha, hb, -⟩ := sndControls_regs k hk
  obtain ⟨name, mc, put⟩ := k
  cases put
  · exact sndSocPutVolsw_cache_patch ha
  · exact sndSocPutVolsw2r_cache_patch ha hb
  · exact sndSocPutVolsw_cache_patch (s := { s with manualMute := _ }) ha

theorem hwParams_cache_patch {D : SocDaiFmt} {vd33Errata : Bool} {rate : Nat}
    {xMode xFormat : Status} :
    (hwParams D vd33Errata s rate xMode xFormat).1.cache =
      patch s.cache (hwParamsWrites D vd33Errata s rate xMode xFormat) := by
  dsimp only [hwParams, hwParamsWrites]
  rcases findRatio vd33Errata (s.mclk / rate) with _ | r
  · rfl
  · rcases xMode with e | ⟨⟨⟩⟩
    · rfl
    · dsimp only [sndSocWrite_ok]
      rw [busWrite, List.singleton_append, patch,
        ← store_cache (show Reg.pwrctl ≤ Reg.mode by decide)]
      rcases formatValue D (s.store Reg.mode (modeValue s r)) with _ | reg
      · rfl
      · exact sndSocWrite_cache_patch (by decide)

theorem daiMute_cache_patch {mute : Int} :
    (daiMute s mute x).1.cache = patch s.cache (busWrite Reg.mute (daiMuteValue s mute) x) :=
  sndSocWrite_cache_patch (by decide)

theorem socSuspend_cache_patch :
    (socSuspend s x).1.cache = patch s.cache (socSuspendWrites s x) := by
  rcases x with e | ⟨⟨⟩⟩
  · rfl
  · exact store_cache (by decide)

/-- The sync loop writes cached values back. -/
theorem syncWrites_value {xs : Reg → Status} {regs : List Reg} {w : Reg × BitVec 8}
    (hw : w ∈ syncWrites xs regs s) : w.2 = s.cache w.1 := by
  induction regs with
  | nil => cases hw
  | cons reg regs ih =>
    simp only [syncWrites] at hw
    split at hw
    · exact ih hw
    · cases h : xs reg <;>
        simp only [h, busWrite, List.nil_append, List.singleton_append, List.mem_cons,
          List.not_mem_nil] at hw
      exact hw.elim (by rintro rfl; rfl) ih

theorem socResume_cache_patch {xEnable : Status} {xSync : Reg → Status} :
    (socResume s xEnable xSync x).1.cache = patch s.cache (socResumeWrites s xSync x) := by
  rw [socResume_eq, socResumeWrites, patch_append, patch_of_values fun _ hw => syncWrites_value hw,
    ← regulatorBulkEnable_cache s xEnable]
  exact sndSocWrite_cache_patch (by decide)

theorem probe_cache_patch (s : Codec) (xCacheIo xMute xTrans xControls xGet xEnable : Status) :
    (probe s xCacheIo xMute xTrans xControls xGet xEnable).1.cache =
      patch s.cache (probeWrites s xCacheIo xMute xTrans) := by
  dsimp only [probe, probeWrites]
  rcases xCacheIo with e | ⟨⟨⟩⟩
  · rfl
  · rw [patch_append, ← sndSocUpdateBits_cache_patch (by decide)]
    rcases sndSocUpdateBits s Reg.mute muteAuto 0 xMute with ⟨s', e | b⟩
    · rfl
    · dsimp only
      rw [← sndSocUpdateBits_cache_patch (by decide)]
      rcases sndSocUpdateBits s' Reg.trans (transSoft ||| transZero) 0 xTrans with ⟨s'', e | b'⟩
      · rfl
      · rcases xControls with e | ⟨⟨⟩⟩ <;> rcases xGet with e | ⟨⟨⟩⟩ <;>
          first | rfl | exact regulatorBulkEnable_cache _ _

end Cache

theorem Host.call_codec_of_awake {σ : Host} {f : Codec → Codec} (h : σ.phase = .awake) :
    (σ.call f).codec = f σ.codec := by
  simp [Host.call, h]

/-- **Every call moves the cache by the writes the chip acknowledged.** -/
theorem step_cache_patch (D : SocDaiFmt) (vd33Errata : Bool) (σ : Host) (op : Op) :
    (step D vd33Errata σ op).codec.cache = patch σ.codec.cache (opWrites D vd33Errata σ op) := by
  unfold opWrites
  cases ha : σ.admits op with
  | false => rw [step_of_admits_eq_false D vd33Errata ha]; rfl
  | true =>
    rw [if_pos rfl]
    cases op <;> simp only [Host.admits, beq_iff_eq, Bool.and_eq_true, decide_eq_true_eq] at ha
    case setDaiSysclk freq => simp only [step, Host.call_codec_of_awake ha]; rfl
    case setDaiFmt format =>
      simp only [step, Host.call_codec_of_awake ha]
      rcases setDaiFmt_cases (D := D) σ.codec format with
        ⟨-, -, h⟩ | ⟨-, -, -, h⟩ | ⟨-, -, -, h⟩ | ⟨-, h⟩ <;> rw [h] <;> rfl
    case hwParams => simp only [step, Host.call_codec_of_awake ha]; exact hwParams_cache_patch
    case digitalMute => simp only [step, Host.call_codec_of_awake ha]; exact daiMute_cache_patch
    case put k v0 v1 x0 x1 =>
      simp only [step, if_pos ha.1, Host.call_codec_of_awake ha.2]
      exact SndKcontrolNew.write_cache_patch ha.1
    case suspend => simp only [step, if_pos ha]; exact socSuspend_cache_patch
    case resume => simp only [step, if_pos ha]; exact socResume_cache_patch
    case remove => simp only [step, if_pos ha]; rfl

end Cs4270
