import Tiny6410.Cs4270.Chip
import Mathlib.Data.List.FinRange

/-!
# The host side: the codec's state, cache I/O and supplies

ASoC owns the register cache and the regulator framework owns the supplies;
neither is under src/. What the driver relies on of them follows their Linux 3.2
code (ASoC's soc-core.c and flat cache, the regulator core), except for what a
failed register write leaves, which is spec §7's; each such definition names
its source:

* a register read of a cached register is the cache entry (every register the
  driver reads is cached), so the driver's `snd_soc_read` is `s.cache reg`;
* a register write either succeeds, updating the cache, or fails with an error
  and leaves the cache as it was (spec §7);
* `snd_soc_update_bits` writes only when the register changes;
* `snd_soc_cache_sync` writes back every register that differs from its default;
* each successful `regulator_bulk_enable` counts one enable and each
  `regulator_bulk_disable` one disable.

The bus is not modelled beyond its answers: every host call is handed the
answer it gets (a `Status`), so a statement over all answers is a statement over
every pattern of failures.

`cacheSync_fst` is the one loop fact here: writing the cache back to the chip
never changes the cache, whichever writes fail.
-/

namespace Cs4270

/-- An error the driver returns: one of its own (`-EINVAL`, and `-ENODEV`,
`-ENOMEM` from the I2C probe), or the code a bus transaction or a regulator call
failed with, passed on as it came. -/
inductive Errno where
  | EINVAL
  | ENODEV
  | ENOMEM
  | other (code : Nat)
  deriving DecidableEq, Repr

/-- What a kernel call returns: 0, or a negative error. The answers the host
gives the driver's calls and the driver's own returns both have this shape. -/
abbrev Status := Except Errno Unit

/-- `cs4270->manual_mute`: the DAC mute bits the user asked for through the
'Master Playback Switch'. Its only writer, `cs4270_soc_put_mute`, ORs together
at most `CS4270_MUTE_DAC_A` and `CS4270_MUTE_DAC_B`, which `sub` records. -/
structure ManualMute where
  bits : BitVec 8
  sub : bits &&& ~~~(muteDacA ||| muteDacB) = 0

/-- `manual_mute` as `kzalloc` leaves it. -/
def ManualMute.zero : ManualMute := ⟨0, by decide⟩

/-- The codec as the driver sees it: ASoC's register cache, the driver's
private data (`struct cs4270_private`: `mclk`, `mode`, `slave_mode`,
`manual_mute`), and the net enable count of its supplies. -/
structure Codec where
  cache : Reg → BitVec 8
  mclk : Nat
  mode : Nat
  slaveMode : Nat
  manualMute : ManualMute
  supplies : Int

/-- The codec `cs4270_i2c_probe` registers: ASoC fills the cache from
`cs4270_default_reg_cache`, `kzalloc` zeroes the private data, and no supply is
enabled yet. -/
def Codec.init : Codec :=
  ⟨defaultRegCache, 0, 0, 0, ManualMute.zero, 0⟩

/-! ## Register writes -/

/-- The cache after `reg` takes `value`: volatile registers are not cached. -/
def Codec.store (s : Codec) (reg : Reg) (value : BitVec 8) : Codec :=
  if regIsVolatile reg then s else { s with cache := Function.update s.cache reg value }

/-- `snd_soc_write`, as spec §7 states it: each register write is all-or-nothing. A
write the bus accepts is stored in the cache; a failed one returns its error and
leaves the cache as it was. -/
def sndSocWrite (s : Codec) (reg : Reg) (value : BitVec 8) (x : Status) : Codec × Status :=
  match x with
  | .ok () => (s.store reg value, .ok ())
  | .error e => (s, .error e)

/-- `snd_soc_update_bits` of ASoC's soc-core.c: clears `mask`, sets `value`, and
writes only when that changes the register; answers whether it did. Only what a
failed write leaves comes from spec §7, through `sndSocWrite`. -/
def sndSocUpdateBits (s : Codec) (reg : Reg) (mask value : BitVec 8) (x : Status) :
    Codec × Except Errno Bool :=
  let old := s.cache reg
  let new := (old &&& ~~~mask) ||| value
  if old ≠ new then
    match sndSocWrite s reg new x with
    | (s, .ok ()) => (s, .ok true)
    | (s, .error e) => (s, .error e)
  else (s, .ok false)

section Lemmas

variable {s : Codec} {a r : Reg} {v m : BitVec 8} {x : Status}

@[simp] theorem store_mclk : (s.store a v).mclk = s.mclk := by
  unfold Codec.store; split <;> rfl
@[simp] theorem store_mode : (s.store a v).mode = s.mode := by
  unfold Codec.store; split <;> rfl
@[simp] theorem store_slaveMode : (s.store a v).slaveMode = s.slaveMode := by
  unfold Codec.store; split <;> rfl
@[simp] theorem store_manualMute : (s.store a v).manualMute = s.manualMute := by
  unfold Codec.store; split <;> rfl
@[simp] theorem store_supplies : (s.store a v).supplies = s.supplies := by
  unfold Codec.store; split <;> rfl

/-- A store into a register the driver writes is a plain cache update. -/
theorem store_cache (h : Reg.pwrctl ≤ a) :
    (s.store a v).cache = Function.update s.cache a v := by
  simp [Codec.store, regIsVolatile_eq_false h]

/-- Storing the cached value changes nothing. -/
@[simp] theorem store_self : s.store a (s.cache a) = s := by
  unfold Codec.store; split <;> simp

/-- A store leaves every other register. -/
theorem store_cache_of_ne (h : r ≠ a) : (s.store a v).cache r = s.cache r := by
  unfold Codec.store; split <;> simp [Function.update_noteq h]

@[simp] theorem sndSocWrite_ok {u : Unit} :
    sndSocWrite s a v (.ok u) = (s.store a v, .ok u) := rfl
@[simp] theorem sndSocWrite_error {e : Errno} :
    sndSocWrite s a v (.error e) = (s, .error e) := rfl

/-- Every write answers what the bus answered, and changes the state at most by
the store it was asked for. -/
theorem sndSocWrite_cases :
    (sndSocWrite s a v x).2 = x ∧
      ((sndSocWrite s a v x).1 = s.store a v ∨ (sndSocWrite s a v x).1 = s) := by
  cases x <;> simp

/-- `snd_soc_update_bits` either leaves the state, or stores the cleared-and-set
value; in both cases that value is what the register now holds or held. -/
theorem sndSocUpdateBits_fst :
    (sndSocUpdateBits s a m v x).1 = s ∨
      (sndSocUpdateBits s a m v x).1 =
        s.store a ((s.cache a &&& ~~~m) ||| v) := by
  dsimp only [sndSocUpdateBits]
  split
  · cases x <;> simp
  · simp

/-- An update whose write succeeds (or is not needed) leaves the register holding
the cleared-and-set value, and reports success. -/
theorem sndSocUpdateBits_ok :
    ∃ b, sndSocUpdateBits s a m v (.ok ()) = (s.store a ((s.cache a &&& ~~~m) ||| v), .ok b) := by
  dsimp only [sndSocUpdateBits]
  split
  · exact ⟨true, rfl⟩
  · rename_i h; rw [not_not] at h; exact ⟨false, by rw [← h, store_self]⟩

theorem sndSocUpdateBits_ok_store (hx : x = .ok ()) :
    (sndSocUpdateBits s a m v x).1 =
      s.store a ((s.cache a &&& ~~~m) ||| v) := by
  subst hx
  obtain ⟨b, h⟩ := sndSocUpdateBits_ok (s := s) (a := a) (m := m) (v := v)
  rw [h]

/-- A store keeps the driver's private data and the supplies: only the cache moves. -/
theorem store_eq_with : s.store a v = { s with cache := (s.store a v).cache } := by
  unfold Codec.store; split <;> rfl

/-- A read-modify-write store changes the cache only inside the cleared mask. -/
theorem store_rmw_agree (hv : v &&& ~~~m = 0) :
    AgreeOutside (footAt a m)
      (s.store a ((s.cache a &&& ~~~m) ||| v)).cache s.cache := by
  unfold Codec.store; split
  · exact AgreeOutside.refl _ _
  · exact AgreeOutside.update_rmw hv

/-- After a read-modify-write store, the cleared mask holds the set value. -/
theorem store_rmw_field (ha : Reg.pwrctl ≤ a) (hv : v &&& ~~~m = 0) (r : Reg) :
    (s.store a ((s.cache a &&& ~~~m) ||| v)).cache r &&& footAt a m r =
      if r = a then v else 0 := by
  by_cases hr : r = a
  · subst hr
    rw [store_cache ha, Function.update_same, if_pos rfl, show footAt r m r = m from if_pos rfl,
      rmw_and_self hv]
  · rw [if_neg hr, show footAt a m r = 0 from if_neg hr]; exact BitVec.and_zero

end Lemmas

/-! ## Frames

Most operations change nothing but cache bits inside a footprint; `CacheFrame`
says so once, and composes along an operation's steps. -/

/-- `t` is `s` with only cache bits inside the footprint `F` changed. -/
structure CacheFrame (F : Reg → BitVec 8) (t s : Codec) : Prop where
  agree : AgreeOutside F t.cache s.cache
  eq_with : t = { s with cache := t.cache }

namespace CacheFrame

variable {F G : Reg → BitVec 8} {s t u : Codec}

theorem refl (F : Reg → BitVec 8) (s : Codec) : CacheFrame F s s :=
  ⟨AgreeOutside.refl F s.cache, rfl⟩

theorem trans (h2 : CacheFrame G u t) (h1 : CacheFrame F t s) :
    CacheFrame (fun r => G r ||| F r) u s := by
  refine ⟨h2.agree.trans h1.agree, ?_⟩
  rw [h2.eq_with, h1.eq_with]

theorem mono (h : CacheFrame F t s) (hFG : ∀ r, F r &&& ~~~G r = 0) : CacheFrame G t s :=
  ⟨h.agree.mono hFG, h.eq_with⟩

/-- Frames only ever widen to a footprint that covers both parts. -/
theorem trans_le (h2 : CacheFrame G u t) (h1 : CacheFrame F t s) {H : Reg → BitVec 8}
    (hG : ∀ r, G r &&& ~~~H r = 0) (hF : ∀ r, F r &&& ~~~H r = 0) : CacheFrame H u s := by
  refine (h2.trans h1).mono fun r => ?_
  ext i
  have h1 := congrArg (BitVec.getLsbD · i) (hG r)
  have h2 := congrArg (BitVec.getLsbD · i) (hF r)
  simp only [BitVec.getLsbD_and, BitVec.getLsbD_or, BitVec.getLsbD_not, BitVec.getLsbD_zero,
    i.isLt, decide_True, Bool.true_and] at h1 h2 ⊢
  revert h1 h2
  cases (G r).getLsbD i <;> cases (F r).getLsbD i <;> cases (H r).getLsbD i <;> simp

end CacheFrame

/-- A store is a frame of its register's whole byte. -/
theorem store_frame {s : Codec} {a : Reg} {v m : BitVec 8}
    (hv : v &&& ~~~m = 0) :
    CacheFrame (footAt a m) (s.store a ((s.cache a &&& ~~~m) ||| v)) s :=
  ⟨store_rmw_agree hv, store_eq_with⟩

/-- `snd_soc_update_bits` changes only the bits of its mask, when its value
stays inside the mask. -/
theorem sndSocUpdateBits_frame {s : Codec} {a : Reg} {v m : BitVec 8} {x : Status}
    (hv : v &&& ~~~m = 0) :
    CacheFrame (footAt a m) (sndSocUpdateBits s a m v x).1 s := by
  rcases sndSocUpdateBits_fst (s := s) (a := a) (m := m) (v := v) (x := x)
    with h | h <;> rw [h]
  · exact CacheFrame.refl _ _
  · exact store_frame hv


/-! ## Writing the cache back -/

/-- `snd_soc_cache_sync` with ASoC's flat-cache sync, the step of
`cs4270_soc_resume` that "restores the entire register cache". Every register
whose cached value differs from its default is written back, in address order;
the first failed write ends the sync. Only what a failed write leaves comes from
spec §7, through `sndSocWrite`. `x reg` answers the write of `reg`. -/
def sndSocCacheSync (s : Codec) (x : Reg → Status) : Codec × Status :=
  syncFrom x (List.finRange 9) s
where
  /-- The sync loop over the registers still to visit. -/
  syncFrom (x : Reg → Status) : List Reg → Codec → Codec × Status
    | [], s => (s, .ok ())
    | reg :: regs, s =>
      if s.cache reg = defaultRegCache reg then syncFrom x regs s
      else
        match sndSocWrite s reg (s.cache reg) (x reg) with
        | (s, .ok ()) => syncFrom x regs s
        | (s, .error e) => (s, .error e)

/-- One visit of the sync loop writes back the value the cache already holds. -/
theorem sndSocWrite_self {s : Codec} {reg : Reg} {x : Status} :
    sndSocWrite s reg (s.cache reg) x = (s, x) := by
  cases x <;> simp

/-- The sync loop leaves the state as it found it, whichever writes fail. -/
theorem syncFrom_fst (x : Reg → Status) (regs : List Reg) (s : Codec) :
    (sndSocCacheSync.syncFrom x regs s).1 = s := by
  induction regs with
  | nil => rfl
  | cons reg regs ih =>
    simp only [sndSocCacheSync.syncFrom, sndSocWrite_self]
    split
    · exact ih
    · cases x reg <;> simp [ih]

/-- Writing the cache back never changes it. -/
@[simp] theorem cacheSync_fst (s : Codec) (x : Reg → Status) : (sndSocCacheSync s x).1 = s :=
  syncFrom_fst x _ s

/-! ## Supplies -/

/-- `regulator_bulk_enable` of the codec's supplies, as the regulator core does it: a
successful call counts one enable; a failed one releases what it enabled. -/
def regulatorBulkEnable (s : Codec) (x : Status) : Codec × Status :=
  match x with
  | .ok () => ({ s with supplies := s.supplies + 1 }, .ok ())
  | .error e => (s, .error e)

/-- `regulator_bulk_disable` of the regulator core, counted as one disable. -/
def regulatorBulkDisable (s : Codec) : Codec := { s with supplies := s.supplies - 1 }

@[simp] theorem regulatorBulkEnable_cache (s : Codec) (x : Status) :
    (regulatorBulkEnable s x).1.cache = s.cache := by
  cases x <;> rfl

@[simp] theorem regulatorBulkDisable_cache (s : Codec) :
    (regulatorBulkDisable s).cache = s.cache := rfl

end Cs4270
