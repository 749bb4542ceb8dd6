import Tiny6410.Cs4270.Host

/-!
# Suspend and resume: the register cache and the supplies

**Round trip** (`suspend_resume_restores_cache`). `cs4270_soc_suspend` sets the
power-down bits of PWRCTL and `cs4270_soc_resume` clears them; it does not put
back the PWRCTL value it found. From every awake state a successful suspend and
resume give back the cache with PWRCTL's power-down bits cleared and every other
bit as it was (`suspend_resume_cache`), which is the cache itself exactly when
those bits were clear. They are in every awake state whose most recent resume
could write PWRCTL, a law of the run's history (`run_powerUp`). A resume whose
last write failed leaves an awake codec with them set, and the next successful
round trip clears them (`failed_resume_breaks_round_trip`).

**Supplies** (`supplies_balanced`). When every suspend writes PWRCTL and every
resume enables its supplies, the net enable count is 1 while the codec is
awake and 0 otherwise. Resume enables without looking at the answer, and
suspend returns before disabling when its write fails, while ASoC resumes
whatever suspend returned; either failure unbalances the count
(`power_failures_unbalance_supplies`).
-/

namespace Cs4270

/-! ## One round trip -/

/-- A successful suspend and resume give back the cache with PWRCTL's
power-down bits cleared, whatever the state. -/
theorem suspend_resume_cache (c : Codec) (xEnable : Status) (xSync : Reg → Status) :
    (socResume (socSuspend c (.ok ())).1 xEnable xSync (.ok ())).1.cache =
      Function.update c.cache Reg.pwrctl (c.cache Reg.pwrctl &&& ~~~pwrctlPdnAll) := by
  have hp : Reg.pwrctl ≤ Reg.pwrctl := by decide
  rw [socResume_eq, sndSocWrite_ok]
  simp only [socSuspend, sndSocWrite_ok, store_cache hp, regulatorBulkEnable_cache,
    regulatorBulkDisable_cache, Function.update_same, or_and_not_self, Function.update_idem]

/-! ## The power-down bits over runs -/

/-- Whether the most recent resume wrote PWRCTL, after call `op`. -/
def Op.resumeOkAfter : Op → Bool → Bool
  | .resume _ _ x, _ => x.isOk
  | _, ok => ok

/-- Whether the most recent resume of a history wrote PWRCTL; true before any. -/
def lastResumeOk (h : List Op) : Bool := h.foldl (fun ok op => op.resumeOkAfter ok) true

@[simp] theorem lastResumeOk_append (h : List Op) (op : Op) :
    lastResumeOk (h ++ [op]) = op.resumeOkAfter (lastResumeOk h) := by
  simp [lastResumeOk]

/-- An awake codec whose most recent resume wrote PWRCTL has PWRCTL's power-down
bits clear in its cache. -/
def PowerUp (σ : Host) (h : List Op) : Prop :=
  σ.phase = .awake → lastResumeOk h = true → σ.codec.cache Reg.pwrctl &&& pwrctlPdnAll = 0

/-- No call but suspend and resume reaches PWRCTL. -/
theorem foot_pwrctl {op : Op} (hop : op.isPower = false) : op.foot Reg.pwrctl = 0 := by
  have hk : ∀ k ∈ sndControls, k.field Reg.pwrctl = 0 := by decide
  cases op with
  | put k =>
    simp only [Op.foot]; split
    · exact hk k ‹_›
    · rfl
  | suspend | resume | remove => cases hop
  | _ => rfl

/-- Every admitted call keeps the invariant: suspend and remove put the codec to
sleep, a resume that writes PWRCTL clears the bits, and one that does not is the
most recent resume no longer able to. -/
theorem step_powerUp (D : SocDaiFmt) (vd33Errata : Bool) (σ : Host) (h : List Op) (op : Op)
    (ha : σ.admits op) (hinv : PowerUp σ h) : PowerUp (step D vd33Errata σ op) (h ++ [op]) := by
  intro hawake hok
  rw [lastResumeOk_append] at hok
  cases hp : op.isPower with
  | false =>
    have hflag : op.resumeOkAfter (lastResumeOk h) = lastResumeOk h := by
      cases op <;> first | rfl | cases hp
    obtain ⟨hphase, -⟩ := step_phase_supplies D vd33Errata σ hp
    rw [(step_agree D vd33Errata σ op).field (by rw [foot_pwrctl hp]; exact BitVec.and_zero)]
    exact hinv (hphase ▸ hawake) (hflag ▸ hok)
  | true =>
    cases op with
    | resume xEnable xSync x =>
      simp only [Host.admits, beq_iff_eq] at ha
      rcases x with e | ⟨⟨⟩⟩
      · cases hok
      · rw [step, if_pos ha, socResume_eq, sndSocWrite_ok, store_cache (by decide),
          Function.update_same]
        exact and_not_and_self _ _
    | suspend | remove =>
      simp only [Host.admits, beq_iff_eq] at ha
      simp [step, ha] at hawake
    | _ => cases hp

/-- The invariant along every run from the post-probe state, over the calls that
reached the driver. -/
theorem run_powerUp (D : SocDaiFmt) (vd33Errata : Bool) (ops : List Op) :
    PowerUp (run D vd33Errata Host.bound ops) (delivered D vd33Errata Host.bound ops) := by
  have h := run_induction_delivered D vd33Errata (P := PowerUp) (Q := fun _ => True)
    (fun σ h op _ => step_powerUp D vd33Errata σ h op) ops Host.bound [] (fun _ _ => trivial)
    fun _ _ => by decide
  rwa [List.nil_append] at h

/-- **Round trip.** From every awake state a run reaches, a suspend whose write
succeeds followed by a resume whose write succeeds (the two calls return 0 exactly
then) gives back the register cache with only PWRCTL's power-down bits cleared;
when the run's most recent resume wrote PWRCTL, or there was none, that is the
cache itself, register for register. -/
theorem suspend_resume_restores_cache (D : SocDaiFmt) (vd33Errata : Bool) (ops : List Op)
    (hawake : (run D vd33Errata Host.bound ops).phase = .awake)
    (xEnable : Status) (xSync : Reg → Status) :
    let c := (run D vd33Errata Host.bound ops).codec.cache
    let c' := (run D vd33Errata Host.bound
      (ops ++ [.suspend (.ok ()), .resume xEnable xSync (.ok ())])).codec.cache
    c' = Function.update c Reg.pwrctl (c Reg.pwrctl &&& ~~~pwrctlPdnAll) ∧
      (lastResumeOk (delivered D vd33Errata Host.bound ops) = true → c' = c) := by
  intro c c'
  have hround : c' = Function.update c Reg.pwrctl (c Reg.pwrctl &&& ~~~pwrctlPdnAll) := by
    simp only [c', c, run_append, run_cons, run_nil, step, hawake, if_true, if_pos,
      suspend_resume_cache]
  refine ⟨hround, fun hok => ?_⟩
  rw [hround, and_not_of_and_eq_zero (run_powerUp D vd33Errata ops hawake hok),
    Function.update_eq_self]

/-- A resume whose PWRCTL write failed, then a suspend and a resume that succeed:
the codec is awake, its most recent resume wrote PWRCTL, and the next round trip
gives the cache back. -/
theorem round_trip_after_recovered_resume :
    (run SocDaiFmt.linux false Host.bound
      [.suspend (.ok ()), .resume (.ok ()) (fun _ => .ok ()) (.error (.other 5)),
        .suspend (.ok ()), .resume (.ok ()) (fun _ => .ok ()) (.ok ())]).phase = .awake ∧
    lastResumeOk (delivered SocDaiFmt.linux false Host.bound
      [.suspend (.ok ()), .resume (.ok ()) (fun _ => .ok ()) (.error (.other 5)),
        .suspend (.ok ()), .resume (.ok ()) (fun _ => .ok ()) (.ok ())]) = true ∧
    let c := (run SocDaiFmt.linux false Host.bound
      [.suspend (.ok ()), .resume (.ok ()) (fun _ => .ok ()) (.error (.other 5)),
        .suspend (.ok ()), .resume (.ok ()) (fun _ => .ok ()) (.ok ())]).codec.cache
    let c' := (run SocDaiFmt.linux false Host.bound
      ([.suspend (.ok ()), .resume (.ok ()) (fun _ => .ok ()) (.error (.other 5)),
        .suspend (.ok ()), .resume (.ok ()) (fun _ => .ok ()) (.ok ())] ++
        [.suspend (.ok ()), .resume (.ok ()) (fun _ => .ok ()) (.ok ())])).codec.cache
    c' = Function.update c Reg.pwrctl (c Reg.pwrctl &&& ~~~pwrctlPdnAll) ∧
      (lastResumeOk (delivered SocDaiFmt.linux false Host.bound
        [.suspend (.ok ()), .resume (.ok ()) (fun _ => .ok ()) (.error (.other 5)),
          .suspend (.ok ()), .resume (.ok ()) (fun _ => .ok ()) (.ok ())]) = true → c' = c) :=
  ⟨rfl, rfl, suspend_resume_restores_cache SocDaiFmt.linux false
    [.suspend (.ok ()), .resume (.ok ()) (fun _ => .ok ()) (.error (.other 5)),
      .suspend (.ok ()), .resume (.ok ()) (fun _ => .ok ()) (.ok ())] rfl (.ok ()) fun _ => .ok ()⟩

/-- A resume whose PWRCTL write fails leaves the codec awake and powered down
in the cache; the next suspend and resume, both successful, then give back a
different PWRCTL. -/
theorem failed_resume_breaks_round_trip :
    (run SocDaiFmt.linux false Host.bound
      [.suspend (.ok ()), .resume (.ok ()) (fun _ => .ok ()) (.error (.other 5))]).phase =
      .awake ∧
    (run SocDaiFmt.linux false Host.bound
      [.suspend (.ok ()), .resume (.ok ()) (fun _ => .ok ()) (.error (.other 5))]).codec.cache
      Reg.pwrctl = 0x23 ∧
    (run SocDaiFmt.linux false Host.bound
      ([.suspend (.ok ()), .resume (.ok ()) (fun _ => .ok ()) (.error (.other 5))] ++
        [.suspend (.ok ()), .resume (.ok ()) (fun _ => .ok ()) (.ok ())])).codec.cache
      Reg.pwrctl = 0x00 := by
  decide

/-! ## The supplies over runs -/

/-- A suspend whose PWRCTL write succeeds, a resume whose supplies come up; any
other call. -/
def Op.PowerOk : Op → Prop
  | .suspend x => x = .ok ()
  | .resume xEnable _ _ => xEnable = .ok ()
  | _ => True

/-- The supplies are enabled once while the codec is awake, and not at all
while it is suspended or removed. -/
def SuppliesBalanced (σ : Host) : Prop :=
  σ.codec.supplies = if σ.phase = .awake then 1 else 0

/-- Every call keeps the count balanced, except a suspend whose write fails and
a resume whose enable fails. -/
theorem step_suppliesBalanced (D : SocDaiFmt) (vd33Errata : Bool) (σ : Host) (op : Op)
    (hop : op.PowerOk) (h : SuppliesBalanced σ) : SuppliesBalanced (step D vd33Errata σ op) := by
  cases hp : op.isPower with
  | false =>
    obtain ⟨hphase, hsup⟩ := step_phase_supplies D vd33Errata σ hp
    rw [SuppliesBalanced, hphase, hsup]; exact h
  | true =>
    cases op with
    | suspend x =>
      simp only [Op.PowerOk] at hop; subst hop
      simp only [step]; split
      · rename_i hawake; simp only [SuppliesBalanced, hawake, if_true] at h
        simp [SuppliesBalanced, h]
      · exact h
    | resume xEnable xSync x =>
      simp only [Op.PowerOk] at hop; subst hop
      simp only [step]; split
      · rename_i hs; simp only [SuppliesBalanced, hs] at h
        simp [SuppliesBalanced, h]
      · exact h
    | remove =>
      simp only [step]; split
      · rename_i hawake; simp only [SuppliesBalanced, hawake, if_true] at h
        simp [SuppliesBalanced, h]
      · exact h
    | _ => cases hp

/-- **Supplies balanced.** Along every run from the post-probe state in which
every suspend wrote PWRCTL and every resume enabled its supplies, the net
enable count is 1 while the codec is awake and 0 while it is suspended or
removed. -/
theorem supplies_balanced (D : SocDaiFmt) (vd33Errata : Bool) (ops : List Op)
    (hops : ∀ op ∈ ops, op.PowerOk) :
    (run D vd33Errata Host.bound ops).codec.supplies =
      if (run D vd33Errata Host.bound ops).phase = .awake then 1 else 0 :=
  run_induction D vd33Errata (step_suppliesBalanced D vd33Errata) ops _ hops rfl

/-- Suspend, resume and remove, all answered: the supplies end disabled. -/
theorem supplies_balanced_after_remove :
    (∀ op ∈ [Op.suspend (.ok ()), .resume (.ok ()) (fun _ => .ok ()) (.ok ()), .remove],
      op.PowerOk) ∧
    (run SocDaiFmt.linux false Host.bound
      [.suspend (.ok ()), .resume (.ok ()) (fun _ => .ok ()) (.ok ()), .remove]).codec.supplies =
      if (run SocDaiFmt.linux false Host.bound
        [.suspend (.ok ()), .resume (.ok ()) (fun _ => .ok ()) (.ok ()), .remove]).phase = .awake
      then 1 else 0 :=
  ⟨by simp [Op.PowerOk], supplies_balanced _ _ _ (by simp [Op.PowerOk])⟩

/-- A resume whose regulator enable fails leaves the codec awake with no supply
enabled, and remove then takes the count to -1; a suspend whose write fails
skips its disable, and the resume ASoC makes anyway takes the count to 2. -/
theorem power_failures_unbalance_supplies :
    (run SocDaiFmt.linux false Host.bound
      [.suspend (.ok ()), .resume (.error (.other 5)) (fun _ => .ok ()) (.ok ())]).phase =
      .awake ∧
    (run SocDaiFmt.linux false Host.bound
      [.suspend (.ok ()), .resume (.error (.other 5)) (fun _ => .ok ()) (.ok ())]).codec.supplies =
      0 ∧
    (run SocDaiFmt.linux false Host.bound
      [.suspend (.ok ()), .resume (.error (.other 5)) (fun _ => .ok ()) (.ok ()),
        .remove]).codec.supplies = -1 ∧
    (run SocDaiFmt.linux false Host.bound
      [.suspend (.error (.other 5)), .resume (.ok ()) (fun _ => .ok ()) (.ok ())]).codec.supplies =
      2 := by
  decide

end Cs4270
