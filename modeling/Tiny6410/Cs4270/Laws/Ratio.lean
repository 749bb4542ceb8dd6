import Tiny6410.Cs4270.Host
import Mathlib.Tactic.NormNum

/-!
# `cs4270_hw_params`: the ratio it selects, and what a failure leaves behind

**Rate law** (`hwParams_ratio`). At every positive rate (the C code divides by
it), as clock master, with a serial format set and both writes accepted, `cs4270_hw_params` succeeds exactly when the truncated
quotient `mclk / rate` is a ratio of `cs4270_mode_ratios`, and the speed and
divider fields it writes then select that ratio: base(speed) · div(divider) is
the quotient. The lookup compares the truncated quotient, so an MCLK up to one
`rate` above an exact multiple is accepted too (`hwParams_accepts_inexact_mclk`);
the codec then runs at `mclk / ratio`, not at `rate`.

**Failure law** (`hwParams_error_frame`). A failing call never changes Serial
Format, nor any register but Mode Control, nor the private data; when it fails
before its Mode Control write took effect (no ratio, or that write failed) it
changes nothing, and when it fails after that write (no Serial Format value for
`cs4270->mode`, or a failed Serial Format write) Mode Control holds the new value
(`hwParams_format_failure_keeps_mode`).

`mclkRatio` is the reading of the Mode Control register the rate law is stated
in: 256, 128 or 64 for single, double and quad speed, times the divider.
-/

namespace Cs4270

/-- The base MCLK/LRCK ratio of a speed setting: 256 at single speed, 128 at
double, 64 at quad; none for the slave setting. -/
def speedBase (speed : BitVec 8) : Option ℚ :=
  if speed = mode1x then some 256 else if speed = mode2x then some 128
  else if speed = mode4x then some 64 else none

/-- The MCLK divider a Ratio Select setting stands for. -/
def divFactor (div : BitVec 8) : Option ℚ :=
  if div = modeDiv1 then some 1 else if div = modeDiv15 then some (3 / 2)
  else if div = modeDiv2 then some 2 else if div = modeDiv3 then some 3
  else if div = modeDiv4 then some 4 else none

/-- The MCLK/LRCK ratio a Mode Control value selects in master mode:
base(speed) · div(divider). -/
def mclkRatio (mode : BitVec 8) : Option ℚ :=
  (speedBase (mode &&& modeSpeedMask)).bind fun b =>
    (divFactor (mode &&& modeDivMask)).map fun d => b * d

/-- Each entry of the table selects its own ratio. -/
theorem modeRatios_mclkRatio (vd33Errata : Bool) :
    ∀ r ∈ modeRatios vd33Errata, mclkRatio (r.mclk ||| r.speedMode) = some (r.ratio : ℚ) := by
  cases vd33Errata <;>
    simp [modeRatios, mclkRatio, speedBase, divFactor, mode1x, mode2x, mode4x, modeDiv1,
      modeDiv15, modeDiv2, modeDiv3, modeDiv4, modeSpeedMask, modeDivMask] <;> norm_num

/-- `mclkRatio` reads only the speed and divider fields. -/
theorem mclkRatio_rmw (x v : BitVec 8) :
    mclkRatio ((x &&& ~~~(modeSpeedMask ||| modeDivMask)) ||| v) = mclkRatio v := by
  unfold mclkRatio
  rw [rmw_and_of_sub (by decide), rmw_and_of_sub (by decide)]

section Lookup

variable {vd33Errata : Bool} {ratio : Nat}

theorem findRatio_eq_none_iff :
    findRatio vd33Errata ratio = none ↔ ∀ r ∈ modeRatios vd33Errata, r.ratio ≠ ratio := by
  simp [findRatio, List.find?_eq_none]

theorem findRatio_isSome_iff :
    (findRatio vd33Errata ratio).isSome ↔ ∃ r ∈ modeRatios vd33Errata, ratio = r.ratio := by
  rw [← not_iff_not, Option.not_isSome_iff_eq_none, findRatio_eq_none_iff]
  simp [eq_comm]

/-- 12.288 MHz at 48 kHz: ratio 256, single speed, no divider. -/
example : findRatio false (12288000 / 48000) = some ⟨256, mode1x, modeDiv1⟩ := by decide

/-- 18.432 MHz at 192 kHz: ratio 96, the divide-by-1.5 entry, which the errata
build leaves out. -/
example : findRatio false (18432000 / 192000) = some ⟨96, mode4x, modeDiv15⟩ ∧
    findRatio true (18432000 / 192000) = none := by decide

end Lookup

section HwParams

variable {D : SocDaiFmt} {vd33Errata : Bool} {s : Codec} {rate : Nat}

/-- A mode `cs4270_set_dai_fmt` accepted always has a Serial Format value. -/
theorem formatValue_isSome (hmode : s.mode = D.i2s ∨ s.mode = D.leftJ) :
    (formatValue D s).isSome := by
  unfold formatValue
  rcases hmode with h | h
  · simp [h]
  · by_cases h' : D.leftJ = D.i2s <;> simp [h, h']

@[simp] theorem store_mode_cache_mode (s : Codec) (v : BitVec 8) :
    (s.store Reg.mode v).cache Reg.mode = v := by
  rw [store_cache (show Reg.pwrctl ≤ Reg.mode by decide), Function.update_same]

/-- After a successful call, Mode Control holds the value computed for the
entry found. -/
theorem hwParams_ok_mode {s' : Codec} {xMode xFormat : Status}
    (h : hwParams D vd33Errata s rate xMode xFormat = (s', .ok ())) :
    ∃ r, findRatio vd33Errata (s.mclk / rate) = some r ∧ s'.cache Reg.mode = modeValue s r := by
  obtain ⟨r, v, hr, -, rfl⟩ := hwParams_ok h
  refine ⟨r, hr, ?_⟩
  rw [store_cache_of_ne (show Reg.mode ≠ Reg.format by decide), store_mode_cache_mode]

/-- **Rate law.** At a positive rate, as clock master with a format set and both
writes accepted,
`cs4270_hw_params` succeeds exactly when `mclk / rate` (truncated) is a ratio
of the table, and then the fields it writes select that very ratio:
base(speed) · div(divider) = `r`, with `r · rate ≤ mclk < (r + 1) · rate`. -/
theorem hwParams_ratio (D : SocDaiFmt) (vd33Errata : Bool) (s : Codec) (rate : Nat)
    (hrate : 0 < rate) (hslave : s.slaveMode = 0) (hmode : s.mode = D.i2s ∨ s.mode = D.leftJ) :
    ((hwParams D vd33Errata s rate (.ok ()) (.ok ())).2 = .ok () ↔
        ∃ r ∈ modeRatios vd33Errata, s.mclk / rate = r.ratio) ∧
    ∀ s', hwParams D vd33Errata s rate (.ok ()) (.ok ()) = (s', .ok ()) →
      ∃ r ∈ modeRatios vd33Errata, mclkRatio (s'.cache Reg.mode) = some (r.ratio : ℚ) ∧
        r.ratio * rate ≤ s.mclk ∧ s.mclk < (r.ratio + 1) * rate := by
  obtain ⟨v, hv⟩ := Option.isSome_iff_exists.mp (formatValue_isSome (D := D) hmode)
  refine ⟨⟨fun h => ?_, fun ⟨r, hr, he⟩ => ?_⟩, fun s' h => ?_⟩
  · obtain ⟨s', hs'⟩ : ∃ s', hwParams D vd33Errata s rate (.ok ()) (.ok ()) = (s', .ok ()) :=
      ⟨_, Prod.ext rfl h⟩
    obtain ⟨r, hr, -⟩ := hwParams_ok_mode hs'
    obtain ⟨hmem, hratio⟩ := findRatio_mem hr
    exact ⟨r, hmem, hratio.symm⟩
  · obtain ⟨r', hr'⟩ := Option.isSome_iff_exists.mp (findRatio_isSome_iff.mpr ⟨r, hr, he⟩)
    rcases hwParams_cases (D := D) (s := s) rate (.ok ()) (.ok ()) with
      ⟨h', -⟩ | ⟨_, e, -, he', -⟩ | ⟨_, -, -, hf, -⟩ | ⟨r, v, -, -, -, h'⟩
    · rw [hr'] at h'; cases h'
    · cases he'
    · rw [hv] at hf; cases hf
    · rw [h']; rfl
  · obtain ⟨r, hr, hm⟩ := hwParams_ok_mode h
    obtain ⟨hmem, hratio⟩ := findRatio_mem hr
    refine ⟨r, hmem, ?_, ?_, ?_⟩
    · rw [hm, modeValue_rmw, mclkRatio_rmw, hslave, if_neg (by decide)]
      exact modeRatios_mclkRatio vd33Errata r hmem
    · rw [hratio]; exact Nat.div_mul_le_self _ _
    · exact (Nat.div_lt_iff_lt_mul hrate).mp (by omega)

/-- Clock master at 48 kHz from a 12.288 MHz MCLK, I2S: ratio 256. -/
theorem hwParams_ratio_48k :
    0 < 48000 ∧ ({ postProbe with mclk := 12288000, mode := 1 } : Codec).slaveMode = 0 ∧
    (({ postProbe with mclk := 12288000, mode := 1 } : Codec).mode = SocDaiFmt.linux.i2s ∨
      ({ postProbe with mclk := 12288000, mode := 1 } : Codec).mode = SocDaiFmt.linux.leftJ) ∧
    (((hwParams SocDaiFmt.linux false { postProbe with mclk := 12288000, mode := 1 } 48000
        (.ok ()) (.ok ())).2 = .ok () ↔
      ∃ r ∈ modeRatios false, 12288000 / 48000 = r.ratio) ∧
    ∀ s', hwParams SocDaiFmt.linux false { postProbe with mclk := 12288000, mode := 1 } 48000
        (.ok ()) (.ok ()) = (s', .ok ()) →
      ∃ r ∈ modeRatios false, mclkRatio (s'.cache Reg.mode) = some (r.ratio : ℚ) ∧
        r.ratio * 48000 ≤ 12288000 ∧ 12288000 < (r.ratio + 1) * 48000) :=
  ⟨by decide, rfl, .inl rfl, hwParams_ratio _ _ _ _ (by decide) rfl (.inl rfl)⟩

/-- An MCLK one hertz above 256 · 48 kHz is accepted, as ratio 256, although no
ratio of the table times 48 kHz is that clock. -/
theorem hwParams_accepts_inexact_mclk :
    (hwParams SocDaiFmt.linux false { postProbe with mclk := 12288001, mode := 1 } 48000
        (.ok ()) (.ok ())).2 = .ok () ∧
      ¬ ∃ r ∈ modeRatios false, 12288001 = r.ratio * 48000 :=
  ⟨rfl, by decide⟩

/-- A failing call leaves the codec as it was, when it failed before its Mode Control
write took effect, or with only the new Mode Control value stored. -/
theorem hwParams_error_cases {xMode xFormat : Status} {s' : Codec} {e : Errno}
    (h : hwParams D vd33Errata s rate xMode xFormat = (s', .error e)) :
    ((findRatio vd33Errata (s.mclk / rate) = none ∨ xMode ≠ .ok ()) ∧ s' = s) ∨
      ∃ r, findRatio vd33Errata (s.mclk / rate) = some r ∧ xMode = .ok () ∧
        s' = s.store Reg.mode (modeValue s r) := by
  rcases hwParams_cases (D := D) (s := s) rate xMode xFormat with
    ⟨hn, h'⟩ | ⟨r, e, -, hx, h'⟩ | ⟨r, hr, hx, -, h'⟩ | ⟨r, v, hr, hx, -, h'⟩ <;> rw [h'] at h
  · cases h; exact .inl ⟨.inl hn, rfl⟩
  · cases h; exact .inl ⟨.inr (by rw [hx]; nofun), rfl⟩
  · cases h; exact .inr ⟨r, hr, hx, rfl⟩
  · cases xFormat with
    | error e' => cases h; exact .inr ⟨r, hr, hx, rfl⟩
    | ok u => cases h

/-- **Failure law.** A failing `cs4270_hw_params` changes nothing but the cache,
and no register but Mode Control; a call that fails before its Mode Control
write took effect changes nothing at all, and one that fails after it leaves
the Mode Control value it computed. -/
theorem hwParams_error_frame (D : SocDaiFmt) (vd33Errata : Bool) (s : Codec) (rate : Nat)
    (xMode xFormat : Status) {s' : Codec} {e : Errno}
    (h : hwParams D vd33Errata s rate xMode xFormat = (s', .error e)) :
    s' = { s with cache := s'.cache } ∧ (∀ r, r ≠ Reg.mode → s'.cache r = s.cache r) ∧
      (findRatio vd33Errata (s.mclk / rate) = none ∨ xMode ≠ .ok () → s' = s) ∧
      (∀ r, findRatio vd33Errata (s.mclk / rate) = some r → xMode = .ok () →
        s'.cache Reg.mode = modeValue s r) := by
  rcases hwParams_error_cases h with ⟨hpre, rfl⟩ | ⟨r, hr, rfl, rfl⟩
  · exact ⟨rfl, fun _ _ => rfl, fun _ => rfl, fun r hr hx =>
      hpre.elim (fun hn => Option.noConfusion (hn.symm.trans hr)) (absurd hx)⟩
  · refine ⟨store_eq_with, fun _ hne => store_cache_of_ne hne,
      fun hpre => hpre.elim (fun hn => Option.noConfusion (hn.symm.trans hr)) (absurd rfl),
      fun r' hr' _ => ?_⟩
    cases hr.symm.trans hr'
    exact store_mode_cache_mode s _

/-- The failure law at a failed Serial Format write. -/
theorem hwParams_error_frame_at_format_failure :
    hwParams SocDaiFmt.linux false { postProbe with mclk := 12288000, mode := 1 } 48000
        (.ok ()) (.error (.other 5)) =
      ((hwParams SocDaiFmt.linux false { postProbe with mclk := 12288000, mode := 1 } 48000
        (.ok ()) (.error (.other 5))).1, .error (.other 5)) ∧
    ((hwParams SocDaiFmt.linux false { postProbe with mclk := 12288000, mode := 1 } 48000
        (.ok ()) (.error (.other 5))).1 =
      { ({ postProbe with mclk := 12288000, mode := 1 } : Codec) with
        cache := (hwParams SocDaiFmt.linux false { postProbe with mclk := 12288000, mode := 1 }
          48000 (.ok ()) (.error (.other 5))).1.cache } ∧
      (∀ r, r ≠ Reg.mode → (hwParams SocDaiFmt.linux false
          { postProbe with mclk := 12288000, mode := 1 } 48000 (.ok ())
          (.error (.other 5))).1.cache r = postProbe.cache r) ∧
      (findRatio false (12288000 / 48000) = none ∨ (.ok () : Status) ≠ .ok () →
        (hwParams SocDaiFmt.linux false { postProbe with mclk := 12288000, mode := 1 } 48000
          (.ok ()) (.error (.other 5))).1 = { postProbe with mclk := 12288000, mode := 1 }) ∧
      (∀ r, findRatio false (12288000 / 48000) = some r → (.ok () : Status) = .ok () →
        (hwParams SocDaiFmt.linux false { postProbe with mclk := 12288000, mode := 1 } 48000
          (.ok ()) (.error (.other 5))).1.cache Reg.mode =
          modeValue { postProbe with mclk := 12288000, mode := 1 } r)) :=
  ⟨rfl, hwParams_error_frame SocDaiFmt.linux false _ 48000 (.ok ()) (.error (.other 5)) rfl⟩

/-- A Serial Format write that fails (here with `-EIO`) after Mode Control was
programmed leaves the new Mode Control value behind. -/
theorem hwParams_format_failure_keeps_mode :
    (hwParams SocDaiFmt.linux false { postProbe with mclk := 12288000, mode := 1 } 48000
        (.ok ()) (.error (.other 5))).2 = .error (.other 5) ∧
    (hwParams SocDaiFmt.linux false { postProbe with mclk := 12288000, mode := 1 } 48000
        (.ok ()) (.error (.other 5))).1.cache Reg.mode ≠ postProbe.cache Reg.mode :=
  ⟨rfl, by decide⟩

end HwParams

end Cs4270
