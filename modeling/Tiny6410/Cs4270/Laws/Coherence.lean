import Tiny6410.Cs4270.Bus

/-!
# The chip follows the cache across a power loss

The comment above `cs4270_soc_resume` says the suspend/resume pair "can handle both - a
simple standby where the codec remains powered, and a full suspend, where the voltage
domain the codec is connected to is teared down", because resume writes all registers
back from the cache. This module puts the chip beside the bound codec (`Board`) and
checks the full suspend over whole runs.

A board event is a driver call, as ASoC gates it, or a power loss while the codec is
suspended or removed; after one, every cached register of the chip is back at its
power-on value (`powerCycle`). The chip takes each call's acknowledged writes
(`opWrites`), so by `step_cache_patch` chip and cache move together, whatever the host
answers (`Board.step_call_coherent`).

**Full suspend** (`chip_follows_cache_across_power_loss`). Power losses included, the
chip holds the cache whenever the codec is awake, as long as the chip acknowledges every
write of each resume's cache sync (`Board.Tracks` is the invariant). The hypothesis is
needed: `cs4270_soc_resume` ignores what `snd_soc_cache_sync` returns, so a resume
whose sync write fails still wakes the codec.

Assumed, and not in src/: the chip's power-on values are `cs4270_default_reg_cache`
(the values `snd_soc_cache_sync` skips), the chip holds them when the driver binds, and
a write the bus refuses does not reach the chip (spec §7).
-/

namespace Cs4270

/-- The chip holds the cache in every register ASoC caches. -/
def Coherent (cache chip : Reg → BitVec 8) : Prop :=
  ∀ r, regIsVolatile r = false → chip r = cache r

/-- Every register ASoC caches holds its power-on value. -/
def PowerOn (chip : Reg → BitVec 8) : Prop :=
  ∀ r, regIsVolatile r = false → chip r = defaultRegCache r

/-- The chip once its supply is back: the cached registers at their power-on values,
the chip ID as the part reads it. -/
def powerCycle (chip : Reg → BitVec 8) : Reg → BitVec 8 :=
  fun r => if regIsVolatile r then chip r else defaultRegCache r

/-- The bound codec and the chip it drives. -/
structure Board where
  host : Host
  chip : Reg → BitVec 8

/-- What happens to a board: ASoC makes a call, or the codec's voltage domain goes
down. -/
inductive Event where
  | call (op : Op)
  | powerLoss

/-- A resume whose cache sync the chip acknowledges write by write; any other event. -/
def Event.SyncAcked : Event → Prop
  | .call (.resume _ xSync _) => ∀ r, xSync r = .ok ()
  | _ => True

section Run

variable (D : SocDaiFmt) (vd33Errata : Bool)

/-- One event. A call moves the host by `step` and the chip by the call's acknowledged
writes; power is lost only while the codec is not awake. -/
def Board.step (b : Board) : Event → Board
  | .call op =>
    ⟨Cs4270.step D vd33Errata b.host op, patch b.chip (opWrites D vd33Errata b.host op)⟩
  | .powerLoss => if b.host.phase = .awake then b else { b with chip := powerCycle b.chip }

/-- A finite sequence of events. -/
def Board.run (b : Board) : List Event → Board
  | [] => b
  | e :: es => (b.step D vd33Errata e).run es

/-- An invariant every allowed event keeps holds after every run of allowed events. -/
theorem Board.run_induction {P : Board → Prop} {Q : Event → Prop}
    (hstep : ∀ b e, Q e → P b → P (b.step D vd33Errata e)) :
    ∀ (es : List Event) (b : Board), (∀ e ∈ es, Q e) → P b → P (b.run D vd33Errata es) := by
  intro es
  induction es with
  | nil => intro b _ h; exact h
  | cons e es ih =>
    intro b hes h
    exact ih _ (fun e' he' => hes e' (List.mem_cons_of_mem _ he'))
      (hstep b e (hes e (List.mem_cons_self _ _)) h)

/-- The host of a board runs as `run` over the board's calls: the chip beside it
changes nothing the driver sees. -/
theorem Board.run_host (es : List Event) (b : Board) :
    (b.run D vd33Errata es).host =
      Cs4270.run D vd33Errata b.host
        (es.filterMap fun | .call op => some op | .powerLoss => none) := by
  induction es generalizing b with
  | nil => rfl
  | cons e es ih =>
    cases e with
    | call op => exact ih _
    | powerLoss =>
      have keep : (b.step D vd33Errata .powerLoss).host = b.host := by
        simp only [Board.step]; split_ifs <;> rfl
      rw [Board.run, ih, keep]; rfl

end Run

/-- The board a successful `cs4270_probe` leaves on a chip: both its updates were
acknowledged. -/
def Board.bound (chip : Reg → BitVec 8) : Board :=
  ⟨Host.bound, patch chip (probeWrites Codec.init (.ok ()) (.ok ()) (.ok ()))⟩

/-! ## One event -/

section Step

variable {c d : Reg → BitVec 8}

/-- The same writes keep a chip holding the cache. -/
theorem Coherent.patch (h : Coherent c d) (ws : Writes) : Coherent (patch c ws) (patch d ws) :=
  patch_agree h

theorem powerCycle_powerOn (chip : Reg → BitVec 8) : PowerOn (powerCycle chip) := by
  intro r hr; simp [powerCycle, hr]

/-- With every write acknowledged, the sync loop writes every register it visits whose
cached value is not its power-on value. -/
theorem mem_syncWrites {xs : Reg → Status} (hx : ∀ r, xs r = .ok ()) {s : Codec} {r : Reg} :
    ∀ {regs : List Reg}, r ∈ regs → s.cache r ≠ defaultRegCache r →
      r ∈ (syncWrites xs regs s).map Prod.fst
  | reg :: regs, hr, hne => by
    rw [syncWrites]
    split_ifs with hd
    · have hr' : r ∈ regs := (List.mem_cons.mp hr).resolve_left fun e => hne (e ▸ hd)
      exact mem_syncWrites hx hr' hne
    · rw [hx reg]
      rcases List.mem_cons.mp hr with rfl | hr'
      · simp [busWrite]
      · simp [busWrite, mem_syncWrites hx hr' hne]

/-- **The sync restores a chip at its power-on values**, when every write is
acknowledged: registers at their defaults need no write, and the others get one. -/
theorem syncWrites_restore {xs : Reg → Status} (hx : ∀ r, xs r = .ok ()) {s : Codec}
    (h : PowerOn d) : Coherent s.cache (patch d (syncWrites xs (List.finRange 9) s)) := by
  intro r hr
  rw [patch_of_values_apply fun _ hw => syncWrites_value hw]
  split_ifs with hm
  · rfl
  · have hd : s.cache r = defaultRegCache r :=
      not_not.mp fun hne => hm (mem_syncWrites hx (List.mem_finRange r) hne)
    rw [h r hr, hd]

/-- A resume from a chip at its power-on values leaves the chip holding the cache
when its sync is acknowledged, whether or not the PWRCTL write goes through. -/
theorem socResume_restores {s : Codec} {xEnable : Status} {xSync : Reg → Status} {x : Status}
    (hx : ∀ r, xSync r = .ok ()) (h : PowerOn d) :
    Coherent (socResume s xEnable xSync x).1.cache (patch d (socResumeWrites s xSync x)) := by
  rw [socResume_cache_patch, socResumeWrites, patch_append, patch_append,
    patch_of_values fun _ hw => syncWrites_value hw]
  exact (syncWrites_restore hx h).patch _

variable (D : SocDaiFmt) (vd33Errata : Bool) {b : Board}

/-- A call keeps a chip holding the cache, whatever the host answers. -/
theorem Board.step_call_coherent (op : Op) (h : Coherent b.host.codec.cache b.chip) :
    Coherent (b.step D vd33Errata (.call op)).host.codec.cache (b.step D vd33Errata (.call op)).chip := by
  simp only [Board.step]
  rw [step_cache_patch]
  exact h.patch _

/-- A call ASoC does not make leaves the board as it is. -/
theorem Board.step_call_of_admits_eq_false {op : Op} (ha : b.host.admits op = false) :
    b.step D vd33Errata (.call op) = b := by
  simp [Board.step, step_of_admits_eq_false D vd33Errata ha, opWrites, ha]

/-- The only call ASoC makes into a codec that is not awake is resume. -/
theorem Host.admits_resume {σ : Host} {op : Op} (hp : σ.phase ≠ .awake) (ha : σ.admits op = true) :
    σ.phase = .suspended ∧ ∃ xEnable xSync x, op = .resume xEnable xSync x := by
  cases op with
  | resume xEnable xSync x => exact ⟨by simpa [Host.admits] using ha, _, _, _, rfl⟩
  | _ => simp [Host.admits, hp] at ha

/-- What a board keeps: the chip holds the cache, or the codec is not awake and the
chip is at its power-on values. -/
def Board.Tracks (b : Board) : Prop :=
  Coherent b.host.codec.cache b.chip ∨ (b.host.phase ≠ .awake ∧ PowerOn b.chip)

/-- Every event keeps a board tracking, a resume once its sync is acknowledged. -/
theorem Board.step_tracks (e : Event) (he : e.SyncAcked) (h : b.Tracks) :
    (b.step D vd33Errata e).Tracks := by
  cases e with
  | powerLoss =>
    unfold Board.step
    split_ifs with hp
    · exact h
    · exact .inr ⟨hp, powerCycle_powerOn _⟩
  | call op =>
    rcases h with hc | ⟨hp, hpo⟩
    · exact .inl (Board.step_call_coherent D vd33Errata op hc)
    · cases ha : b.host.admits op with
      | false => rw [Board.step_call_of_admits_eq_false D vd33Errata ha]; exact .inr ⟨hp, hpo⟩
      | true =>
        obtain ⟨hs, xEnable, xSync, x, rfl⟩ := Host.admits_resume hp ha
        refine .inl ?_
        simp only [Board.step, Cs4270.step, if_pos hs, opWrites, ha, if_true, callWrites]
        exact socResume_restores he hpo

end Step

/-! ## Whole runs -/

/-- The board a successful probe leaves on a chip at its power-on values holds the
cache. -/
theorem Board.bound_coherent {chip : Reg → BitVec 8} (h : PowerOn chip) :
    Coherent (Board.bound chip).host.codec.cache (Board.bound chip).chip := by
  have hprobe : postProbe.cache =
      patch Codec.init.cache (probeWrites Codec.init (.ok ()) (.ok ()) (.ok ())) :=
    probe_cache_patch Codec.init (.ok ()) (.ok ()) (.ok ()) (.ok ()) (.ok ()) (.ok ())
  exact hprobe ▸ Coherent.patch (c := Codec.init.cache) h _

/-- **Full suspend.** Along every run of calls and power losses from the board a
successful probe leaves on a chip at its power-on values, in which the chip acknowledges
every write of each resume's cache sync, the chip holds the cache in every cached
register whenever the codec is awake. -/
theorem chip_follows_cache_across_power_loss (D : SocDaiFmt) (vd33Errata : Bool)
    (chip : Reg → BitVec 8) (hchip : PowerOn chip) (es : List Event)
    (hsync : ∀ e ∈ es, e.SyncAcked) :
    ((Board.bound chip).run D vd33Errata es).host.phase = .awake →
      Coherent ((Board.bound chip).run D vd33Errata es).host.codec.cache
        ((Board.bound chip).run D vd33Errata es).chip := by
  have hrun : ((Board.bound chip).run D vd33Errata es).Tracks :=
    Board.run_induction D vd33Errata (fun b e he h => Board.step_tracks D vd33Errata e he h) es _
      hsync (.inl (Board.bound_coherent hchip))
  exact fun hawake => hrun.resolve_right fun h => h.1 hawake

/-- Suspend, power loss and resume with every write acknowledged: the chip is back in
step with the cache. -/
theorem chip_restored_after_power_loss :
    PowerOn defaultRegCache ∧
    (∀ e ∈ [Event.call (.suspend (.ok ())), .powerLoss,
        .call (.resume (.ok ()) (fun _ => .ok ()) (.ok ()))], e.SyncAcked) ∧
    (((Board.bound defaultRegCache).run SocDaiFmt.linux false
        [.call (.suspend (.ok ())), .powerLoss,
          .call (.resume (.ok ()) (fun _ => .ok ()) (.ok ()))]).host.phase = .awake →
      Coherent ((Board.bound defaultRegCache).run SocDaiFmt.linux false
          [.call (.suspend (.ok ())), .powerLoss,
            .call (.resume (.ok ()) (fun _ => .ok ()) (.ok ()))]).host.codec.cache
        ((Board.bound defaultRegCache).run SocDaiFmt.linux false
          [.call (.suspend (.ok ())), .powerLoss,
            .call (.resume (.ok ()) (fun _ => .ok ()) (.ok ()))]).chip) :=
  ⟨fun _ _ => rfl, by simp [Event.SyncAcked],
    chip_follows_cache_across_power_loss _ _ _ (fun _ _ => rfl) _ (by simp [Event.SyncAcked])⟩

end Cs4270
