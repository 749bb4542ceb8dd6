import Tiny6410.Cs4270.Power

/-!
# The bound codec under its host

After a successful `cs4270_probe` ASoC drives the codec by calls the driver does
not control: the DAI operations, writes through the mixer controls, suspend,
resume and remove. `step` is one such call as ASoC gates it, and `run` a finite
sequence of them. Everything nondeterministic (the user's values, the host's
answers) is in the call itself, so a run is a function of its calls, and a
statement over all call lists is a statement over every interleaving and
every pattern of failures.

ASoC's gates, from `snd_soc_suspend` and `snd_soc_resume`: it suspends an awake
codec and marks it suspended whatever suspend returned, and resumes only a
suspended one. DAI operations and control writes reach an awake codec only, and
a control write only a control the driver registered.

The run lemmas: `run_append`, and `run_induction`, which turns an invariant every
admitted step keeps into one every run keeps. `step_agree` gives each call's
footprint (`Op.foot`), the cache bits it may change.
-/

namespace Cs4270

/-- Where ASoC has the codec. -/
inductive Phase where
  | awake
  | suspended
  | removed
  deriving DecidableEq, Repr

/-- The bound codec as its host sees it. -/
structure Host where
  codec : Codec
  phase : Phase

/-- The state `cs4270_probe` leaves when it succeeds. -/
def Host.bound : Host := ⟨postProbe, .awake⟩

/-- A call ASoC makes into the bound driver, with what the user passed and what
the host calls it makes in turn will answer. -/
inductive Op where
  | setDaiSysclk (freq : Nat)
  | setDaiFmt (format : Nat)
  | hwParams (rate : Nat) (xMode xFormat : Status)
  | digitalMute (mute : Int) (x : Status)
  | put (k : SndKcontrolNew) (v0 v1 : Int) (x0 x1 : Status)
  | suspend (x : Status)
  | resume (xEnable : Status) (xSync : Reg → Status) (x : Status)
  | remove

/-- Run a driver operation on an awake codec; ASoC makes no such call otherwise. -/
def Host.call (σ : Host) (f : Codec → Codec) : Host :=
  if σ.phase = .awake then { σ with codec := f σ.codec } else σ

/-- Whether ASoC makes call `op` in state `σ`: the gates of `step`. -/
def Host.admits (σ : Host) : Op → Bool
  | .put k .. => decide (k ∈ sndControls) && σ.phase == .awake
  | .resume .. => σ.phase == .suspended
  | _ => σ.phase == .awake

section Run

variable (D : SocDaiFmt) (vd33Errata : Bool)

/-- One call, as ASoC gates it. -/
def step (σ : Host) : Op → Host
  | .setDaiSysclk freq => σ.call fun s => (setDaiSysclk s freq).1
  | .setDaiFmt format => σ.call fun s => (setDaiFmt D s format).1
  | .hwParams rate xMode xFormat => σ.call fun s => (hwParams D vd33Errata s rate xMode xFormat).1
  | .digitalMute mute x => σ.call fun s => (daiMute s mute x).1
  | .put k v0 v1 x0 x1 =>
    if k ∈ sndControls then σ.call fun s => (k.write s v0 v1 x0 x1).1 else σ
  | .suspend x => if σ.phase = .awake then ⟨(socSuspend σ.codec x).1, .suspended⟩ else σ
  | .resume xEnable xSync x =>
    if σ.phase = .suspended then ⟨(socResume σ.codec xEnable xSync x).1, .awake⟩ else σ
  | .remove => if σ.phase = .awake then ⟨(remove σ.codec).1, .removed⟩ else σ

/-- A finite sequence of calls. -/
def run (σ : Host) : List Op → Host
  | [] => σ
  | op :: ops => run (step D vd33Errata σ op) ops

@[simp] theorem run_nil (σ : Host) : run D vd33Errata σ [] = σ := rfl

@[simp] theorem run_cons (σ : Host) (op : Op) (ops : List Op) :
    run D vd33Errata σ (op :: ops) = run D vd33Errata (step D vd33Errata σ op) ops := rfl

theorem run_append (σ : Host) (ops ops' : List Op) :
    run D vd33Errata σ (ops ++ ops') = run D vd33Errata (run D vd33Errata σ ops) ops' := by
  induction ops generalizing σ with
  | nil => rfl
  | cons op ops ih => exact ih _

/-- An invariant that every admitted call keeps holds after every run of
admitted calls. -/
theorem run_induction {P : Host → Prop} {Q : Op → Prop}
    (hstep : ∀ σ op, Q op → P σ → P (step D vd33Errata σ op)) :
    ∀ (ops : List Op) (σ : Host), (∀ op ∈ ops, Q op) → P σ → P (run D vd33Errata σ ops) := by
  intro ops
  induction ops with
  | nil => intro σ _ h; exact h
  | cons op ops ih =>
    intro σ hops h
    exact ih _ (fun o ho => hops o (List.mem_cons_of_mem _ ho))
      (hstep σ op (hops op (List.mem_cons_self _ _)) h)

/-- A call ASoC does not make changes nothing. -/
theorem step_of_admits_eq_false {σ : Host} {op : Op} (h : σ.admits op = false) :
    step D vd33Errata σ op = σ := by
  cases op <;> simp_all [Host.admits, step, Host.call]

/-- The calls of a run that reached the driver, in order: the run's history. -/
def delivered (σ : Host) : List Op → List Op
  | [] => []
  | op :: ops => (if σ.admits op then [op] else []) ++ delivered (step D vd33Errata σ op) ops

/-- An invariant of the state and the history of calls made so far, kept by every
admitted call that ASoC makes, holds after every run of admitted calls. -/
theorem run_induction_delivered {P : Host → List Op → Prop} {Q : Op → Prop}
    (hstep : ∀ σ h op, Q op → σ.admits op → P σ h → P (step D vd33Errata σ op) (h ++ [op])) :
    ∀ (ops : List Op) (σ : Host) (h : List Op), (∀ op ∈ ops, Q op) → P σ h →
      P (run D vd33Errata σ ops) (h ++ delivered D vd33Errata σ ops) := by
  intro ops
  induction ops with
  | nil => intro σ h _ hp; simpa [delivered] using hp
  | cons op ops ih =>
    intro σ h hops hp
    have next : P (step D vd33Errata σ op) (h ++ if σ.admits op then [op] else []) := by
      cases ha : σ.admits op
      · simpa [step_of_admits_eq_false D vd33Errata ha] using hp
      · simpa using hstep σ h op (hops op (List.mem_cons_self _ _)) ha hp
    rw [run_cons, delivered, ← List.append_assoc]
    exact ih _ _ (fun o ho => hops o (List.mem_cons_of_mem _ ho)) next

end Run

/-- Suspend, resume and remove: the calls that move the phase and the supplies. -/
def Op.isPower : Op → Bool
  | .suspend _ | .resume .. | .remove => true
  | _ => false

/-- The control a call writes through, if it is a control write. -/
def Op.control? : Op → Option SndKcontrolNew
  | .put k .. => some k
  | _ => none

@[simp] theorem Host.call_phase (σ : Host) (f : Codec → Codec) : (σ.call f).phase = σ.phase := by
  unfold Host.call; split <;> rfl

/-- A call keeps what its operation keeps. -/
theorem Host.call_keeps {α : Type} (p : Codec → α) {σ : Host} {f : Codec → Codec}
    (hf : p (f σ.codec) = p σ.codec) : p (σ.call f).codec = p σ.codec := by
  unfold Host.call; split
  · exact hf
  · rfl

/-- Every other call keeps the phase and the supplies. -/
theorem step_phase_supplies (D : SocDaiFmt) (vd33Errata : Bool) (σ : Host) {op : Op}
    (hop : op.isPower = false) :
    (step D vd33Errata σ op).phase = σ.phase ∧
      (step D vd33Errata σ op).codec.supplies = σ.codec.supplies := by
  have keep : ∀ f : Codec → Codec, (f σ.codec).supplies = σ.codec.supplies →
      (σ.call f).phase = σ.phase ∧ (σ.call f).codec.supplies = σ.codec.supplies :=
    fun f hf => ⟨Host.call_phase σ f, Host.call_keeps Codec.supplies hf⟩
  cases op with
  | setDaiSysclk freq => exact keep _ rfl
  | setDaiFmt format =>
    refine keep _ ?_
    rcases setDaiFmt_cases (D := D) σ.codec format with
      ⟨-, -, h⟩ | ⟨-, -, -, h⟩ | ⟨-, -, -, h⟩ | ⟨-, h⟩ <;> rw [h]
  | hwParams rate xMode xFormat =>
    exact keep _ (by rw [(hwParams_frame rate xMode xFormat).eq_with])
  | digitalMute mute x => exact keep _ (by rw [(daiMute_frame mute x).eq_with])
  | put k v0 v1 x0 x1 =>
    simp only [step]; split
    · exact keep _ (by rw [SndKcontrolNew.write_eq_with ‹_›])
    · exact ⟨rfl, rfl⟩
  | suspend => cases hop
  | resume => cases hop
  | remove => cases hop

/-- Only a write through the 'Master Playback Switch' changes `manual_mute`. -/
theorem step_manualMute (D : SocDaiFmt) (vd33Errata : Bool) (σ : Host) {op : Op}
    (hop : op.control? ≠ some masterPlaybackSwitch) :
    (step D vd33Errata σ op).codec.manualMute = σ.codec.manualMute := by
  cases op with
  | setDaiSysclk freq => exact Host.call_keeps Codec.manualMute rfl
  | setDaiFmt format =>
    refine Host.call_keeps Codec.manualMute ?_
    rcases setDaiFmt_cases (D := D) σ.codec format with
      ⟨-, -, h⟩ | ⟨-, -, -, h⟩ | ⟨-, -, -, h⟩ | ⟨-, h⟩ <;> rw [h]
  | hwParams rate xMode xFormat =>
    exact Host.call_keeps Codec.manualMute (by rw [(hwParams_frame rate xMode xFormat).eq_with])
  | digitalMute mute x =>
    exact Host.call_keeps Codec.manualMute (by rw [(daiMute_frame mute x).eq_with])
  | put k v0 v1 x0 x1 =>
    have hk : k ≠ masterPlaybackSwitch := fun e => hop (by rw [e]; rfl)
    simp only [step]; split
    · refine Host.call_keeps Codec.manualMute ?_
      rw [SndKcontrolNew.write_eq_with ‹_›, if_neg (mt (sndControls_putMute k ‹_›) hk)]
    · rfl
  | suspend x =>
    simp only [step]; split
    · rw [socSuspend_eq_with]
    · rfl
  | resume xEnable xSync x =>
    simp only [step]; split
    · rw [socResume_eq_with]
    · rfl
  | remove => simp only [step]; split <;> rfl

/-- Only `cs4270_set_dai_fmt` changes `cs4270->mode` and `slave_mode`. -/
theorem step_mode_slaveMode (D : SocDaiFmt) (vd33Errata : Bool) (σ : Host) {op : Op}
    (hop : ∀ format, op ≠ .setDaiFmt format) :
    (step D vd33Errata σ op).codec.mode = σ.codec.mode ∧
      (step D vd33Errata σ op).codec.slaveMode = σ.codec.slaveMode := by
  have keep : ∀ f : Codec → Codec, (f σ.codec).mode = σ.codec.mode →
      (f σ.codec).slaveMode = σ.codec.slaveMode →
      (σ.call f).codec.mode = σ.codec.mode ∧ (σ.call f).codec.slaveMode = σ.codec.slaveMode :=
    fun f h1 h2 => ⟨Host.call_keeps Codec.mode h1, Host.call_keeps Codec.slaveMode h2⟩
  cases op with
  | setDaiSysclk freq => exact keep _ rfl rfl
  | setDaiFmt format => exact absurd rfl (hop format)
  | hwParams rate xMode xFormat =>
    exact keep _ (by rw [(hwParams_frame rate xMode xFormat).eq_with])
      (by rw [(hwParams_frame rate xMode xFormat).eq_with])
  | digitalMute mute x =>
    have h := (daiMute_frame (s := σ.codec) mute x).eq_with
    exact keep _ (by rw [h]) (by rw [h])
  | put k v0 v1 x0 x1 =>
    simp only [step]; split
    · exact keep _ (by rw [SndKcontrolNew.write_eq_with ‹_›])
        (by rw [SndKcontrolNew.write_eq_with ‹_›])
    · exact ⟨rfl, rfl⟩
  | suspend x =>
    simp only [step]; split
    · exact ⟨by rw [socSuspend_eq_with], by rw [socSuspend_eq_with]⟩
    · exact ⟨rfl, rfl⟩
  | resume xEnable xSync x =>
    simp only [step]; split
    · exact ⟨by rw [socResume_eq_with], by rw [socResume_eq_with]⟩
    · exact ⟨rfl, rfl⟩
  | remove => simp only [step]; split <;> exact ⟨rfl, rfl⟩

/-! ## Footprints of the calls -/

/-- The cache bits one call may change. -/
def Op.foot : Op → Reg → BitVec 8
  | .hwParams .. => hwParamsFoot
  | .digitalMute .. => daiMuteFoot
  | .put k .. => if k ∈ sndControls then k.field else fun _ => 0
  | .suspend _ => footAt Reg.pwrctl pwrctlPdnAll
  | .resume .. => footAt Reg.pwrctl pwrctlPdnAll
  | _ => fun _ => 0

theorem Host.call_agree {σ : Host} {f : Codec → Codec} {F : Reg → BitVec 8}
    (h : AgreeOutside F (f σ.codec).cache σ.codec.cache) :
    AgreeOutside F (σ.call f).codec.cache σ.codec.cache := by
  unfold Host.call; split
  · exact h
  · exact AgreeOutside.refl _ _

/-- **Each call changes the cache only inside its footprint.** -/
theorem step_agree (D : SocDaiFmt) (vd33Errata : Bool) (σ : Host) (op : Op) :
    AgreeOutside op.foot (step D vd33Errata σ op).codec.cache σ.codec.cache := by
  cases op with
  | setDaiSysclk freq => exact Host.call_agree (AgreeOutside.refl _ _)
  | setDaiFmt format =>
    refine Host.call_agree ?_
    rcases setDaiFmt_cases (D := D) σ.codec format with
      ⟨-, -, h⟩ | ⟨-, -, -, h⟩ | ⟨-, -, -, h⟩ | ⟨-, h⟩ <;> rw [h] <;> exact AgreeOutside.refl _ _
  | hwParams rate xMode xFormat => exact Host.call_agree (hwParams_frame rate xMode xFormat).agree
  | digitalMute mute x => exact Host.call_agree (daiMute_frame mute x).agree
  | put k v0 v1 x0 x1 =>
    simp only [step, Op.foot]
    split
    · exact Host.call_agree (SndKcontrolNew.write_agree ‹_›)
    · exact AgreeOutside.refl _ _
  | suspend x =>
    simp only [step]; split
    · exact socSuspend_agree _ _
    · exact AgreeOutside.refl _ _
  | resume xEnable xSync x =>
    simp only [step]; split
    · exact socResume_agree _ _ _ _
    · exact AgreeOutside.refl _ _
  | remove =>
    simp only [step]; split
    · exact AgreeOutside.refl _ _
    · exact AgreeOutside.refl _ _

end Cs4270
