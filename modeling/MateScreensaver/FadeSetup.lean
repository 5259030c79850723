import MateScreensaver.Fade

/-!
Capturing the gamma (gs-fade.c) while CRTCs come and go: a fade is set up with the CRTCs of
one moment and scales those of later ones. Then the set-up by the VidMode extension, which
captures the gamma of the screen as a whole.
-/

namespace MateScreensaver
open Runs

abbrev CrtcId := ℕ

/- A CRTC as libmate-desktop lists it, and whether its ramp can be read. -/
structure Crtc where
  id : CrtcId
  currentMode : Bool
  readable : Bool
  gamma : Ramp
deriving DecidableEq

/- A place of the array, which starts as zero, and the CRTC whose ramp was put there. -/
structure GammaPlace where
  ramp : Ramp := []
  source : Option CrtcId := none
deriving DecidableEq

/- GSFadeScreenPrivate, with the list of CRTCs that there was when the array was made. -/
structure FadeScreen where
  numRamps : ℕ := 0
  info : Option (List GammaPlace) := none
  setupCrtcs : List Crtc := []
deriving DecidableEq

/- One turn of the loop of gs-fade.c:561: the index used, the CRTC, and what is there in the
array; beyond its end nothing is known. -/
structure Access where
  index : ℕ
  crtc : CrtcId
  place : Option GammaPlace
deriving DecidableEq

/- The second loop of gs-fade.c:464. -/
def fillInfo : List Crtc → List GammaPlace × Bool
  | [] => ([], true)
  | crtc :: rest =>
    if !crtc.currentMode then ({} :: (fillInfo rest).1, (fillInfo rest).2)
    else if crtc.readable then (⟨crtc.gamma, some crtc.id⟩ :: (fillInfo rest).1, (fillInfo rest).2)
    else ({} :: rest.map fun _ => {}, false)

/- The loop of gs-fade.c:561, from the k-th place on. -/
def accessesFrom (info : List GammaPlace) : ℕ → List Crtc → List Access
  | _, [] => []
  | k, crtc :: rest => ⟨k, crtc.id, info[k]?⟩ :: accessesFrom info (k + 1) rest

def whackCrtcs (alpha : WithBot ℚ) : List GammaPlace → List Crtc → List Crtc
  | place :: info, crtc :: rest =>
    { crtc with gamma := xrandrCrtcWhackGamma alpha crtc.gamma place.ramp } :: whackCrtcs alpha info rest
  | _, crtcs => crtcs

namespace FadeScreen

/- gs-fade.c:464, with the CRTCs there are after the refresh. -/
def xrandrFadeSetup (crtcs : List Crtc) (s : FadeScreen) : FadeScreen × Bool :=
  match s.info with
  | some _ => (s, true)
  | none =>
    ({ numRamps := crtcs.length, info := if crtcs = [] then none else some (fillInfo crtcs).1, setupCrtcs := crtcs },
      (fillInfo crtcs).2)

/- gs-fade.c:374 -/
def screenFadeFinish (s : FadeScreen) : FadeScreen :=
  if s.info.isSome then { s with info := none, numRamps := 0 } else s

/- gs-fade.c:561, with the CRTCs there are now. -/
def xrandrFadeSetAlphaGamma (alpha : WithBot ℚ) (crtcs : List Crtc) (s : FadeScreen) :
    List Access × List Crtc × Bool :=
  match s.info with
  | none => ([], crtcs, false)
  | some info => (accessesFrom info 0 crtcs, whackCrtcs alpha info crtcs, true)

inductive Call
  | setup (crtcs : List Crtc)
  | setAlpha (alpha : WithBot ℚ) (crtcs : List Crtc)
  | finish

def next (s : FadeScreen) : Call → FadeScreen
  | .setup crtcs => (s.xrandrFadeSetup crtcs).1
  | .setAlpha _ _ => s
  | .finish => s.screenFadeFinish

/- Every sequence of calls, each with the list of CRTCs of its moment. -/
def fadeScreen : System FadeScreen Call := ⟨fun s => s = {}, fun s e => some (s.next e)⟩

/-- A set-up that succeeds has the ramp of every active CRTC, one that fails leaves nothing. -/
def AllOrNothing (s : FadeScreen) : Call → Prop
  | .setup crtcs =>
    let (t, res) := s.xrandrFadeSetup crtcs
    (res = true → ∀ c ∈ crtcs, c.currentMode = true →
      ∃ info, t.info = some info ∧ ∃ place ∈ info, place.source = some c.id) ∧
    (res = false → t.info = none)
  | _ => True

/-- The ramp of every active CRTC can be read when there is no array, and no other CRTC is
active when there is one. -/
def CanCapture (s : FadeScreen) : Call → Prop
  | .setup crtcs =>
    if s.info.isSome then
      ∀ c ∈ crtcs, c.currentMode = true → ∃ c' ∈ s.setupCrtcs, c'.id = c.id ∧ c'.currentMode = true
    else ∀ c ∈ crtcs, c.currentMode = true → c.readable = true
  | _ => True

/-- The places that are read are in the array, and a ramp found there goes to its own CRTC. -/
def SafeAccess (s : FadeScreen) : Call → Prop
  | .setAlpha alpha crtcs => ∀ a ∈ (s.xrandrFadeSetAlphaGamma alpha crtcs).1,
    a.index < s.numRamps ∧ ∀ place, a.place = some place → place.ramp ≠ [] → place.source = some a.crtc
  | _ => True

/- The set-up with these CRTCs captured a ramp at this place, and did not fail before it. -/
def CapturedAt (crtcs : List Crtc) (i : ℕ) (c : Crtc) : Prop :=
  crtcs[i]? = some c ∧ c.currentMode = true ∧ c.gamma ≠ [] ∧
    ∀ d ∈ crtcs.take (i + 1), d.currentMode = true → d.readable = true

/-- There are no more CRTCs than at the set-up, and where that captured a ramp there is the
same CRTC. -/
def SamePlaces (s : FadeScreen) : Call → Prop
  | .setAlpha _ crtcs => s.info.isSome = true → crtcs.length ≤ s.setupCrtcs.length ∧
    ∀ i c c', CapturedAt s.setupCrtcs i c → crtcs[i]? = some c' → c'.id = c.id
  | _ => True

end FadeScreen

/-! ### The array -/

theorem fillInfo_length (crtcs : List Crtc) : (fillInfo crtcs).1.length = crtcs.length := by
  induction crtcs with
  | nil => rfl
  | cons crtc rest ih =>
    rw [fillInfo]
    split
    · simp [ih]
    · split <;> simp [ih]

/- A ramp in the array is that of the CRTC at its place, captured before any failure. -/
theorem fillInfo_ramp {crtcs : List Crtc} {i : ℕ} {place : GammaPlace} :
    (fillInfo crtcs).1[i]? = some place ∧ place.ramp ≠ [] ↔
      ∃ c, FadeScreen.CapturedAt crtcs i c ∧ place = ⟨c.gamma, some c.id⟩ := by
  induction crtcs generalizing i with
  | nil => simp [fillInfo, FadeScreen.CapturedAt]
  | cons crtc rest ih =>
    rw [fillInfo]
    cases hmode : crtc.currentMode with
    | false =>
      cases i with
      | zero =>
        simp only [Bool.not_false, if_true, List.getElem?_cons_zero, FadeScreen.CapturedAt]
        constructor
        · rintro ⟨⟨⟩, h⟩
          exact absurd rfl h
        · rintro ⟨_, ⟨⟨⟩, h, -⟩, -⟩
          simp [hmode] at h
      | succ i => simpa [FadeScreen.CapturedAt, hmode] using ih
    | true =>
      cases hread : crtc.readable with
      | false =>
        -- the places from here on are zero, and nothing after it is captured
        have hzero : ∀ p ∈ ({} : GammaPlace) :: rest.map fun _ => {}, p.ramp = [] := by simp
        simp only [Bool.not_true, Bool.false_eq_true, if_false]
        constructor
        · rintro ⟨h, hne⟩
          exact absurd (hzero place (List.mem_of_getElem? h)) hne
        · rintro ⟨_, ⟨-, -, -, h⟩, -⟩
          simp [hmode, hread] at h
      | true =>
        cases i with
        | zero =>
          constructor
          · rintro ⟨⟨⟩, h⟩
            exact ⟨crtc, ⟨rfl, hmode, h, by simp [hread]⟩, rfl⟩
          · rintro ⟨_, ⟨⟨⟩, -, h, -⟩, rfl⟩
            exact ⟨rfl, h⟩
        | succ i => simpa [FadeScreen.CapturedAt, hmode, hread] using ih

theorem fillInfo_all {crtcs : List Crtc} :
    (fillInfo crtcs).2 = true ↔ ∀ c ∈ crtcs, c.currentMode = true → c.readable = true := by
  induction crtcs with
  | nil => simp [fillInfo]
  | cons crtc rest ih =>
    rw [fillInfo, List.forall_mem_cons]
    cases hmode : crtc.currentMode with
    | false => simp [ih]
    | true => cases hread : crtc.readable <;> simp [ih]

/- When all of it was filled, just the active CRTCs are in it. -/
theorem fillInfo_captured {crtcs : List Crtc} (h : (fillInfo crtcs).2 = true) (id : CrtcId) :
    (∃ place ∈ (fillInfo crtcs).1, place.source = some id) ↔ ∃ c ∈ crtcs, c.id = id ∧ c.currentMode = true := by
  induction crtcs with
  | nil => simp [fillInfo]
  | cons crtc rest ih =>
    rw [fillInfo] at h ⊢
    cases hmode : crtc.currentMode with
    | false =>
      simp only [hmode, Bool.not_false, if_true] at h ⊢
      simp [ih h, hmode]
    | true =>
      cases hread : crtc.readable with
      | false => simp [hmode, hread] at h
      | true =>
        simp only [hmode, hread, Bool.not_true, if_true, if_false, Bool.false_eq_true] at h ⊢
        simp [ih h, hmode]

theorem mem_accessesFrom {info : List GammaPlace} {k : ℕ} {crtcs : List Crtc} {a : Access} :
    a ∈ accessesFrom info k crtcs ↔ ∃ i c, crtcs[i]? = some c ∧ a = ⟨k + i, c.id, info[k + i]?⟩ := by
  induction crtcs generalizing k with
  | nil => simp [accessesFrom]
  | cons crtc rest ih =>
    rw [accessesFrom, List.mem_cons, ih]
    constructor
    · rintro (rfl | ⟨i, c, hc, rfl⟩)
      · exact ⟨0, crtc, rfl, rfl⟩
      · refine ⟨i + 1, c, hc, ?_⟩
        rw [Nat.add_right_comm, Nat.add_assoc]
    · rintro ⟨i, c, hc, rfl⟩
      cases i with
      | zero =>
        cases hc
        exact .inl rfl
      | succ i =>
        refine .inr ⟨i, c, hc, ?_⟩
        rw [Nat.add_right_comm, Nat.add_assoc]

/-! ### One fade with the CRTCs of one moment -/

def Crtc.answer (c : Crtc) : CrtcAnswer :=
  if !c.currentMode then .noMode else if c.readable then .gamma else .unreadable

/- The ramps in the array are those that are put back by a reset. -/
theorem captureFrom_fillInfo {crtc : ℕ → CrtcAnswer} {k : ℕ} {crtcs : List Crtc}
    (h : ∀ i c, crtcs[i]? = some c → crtc (k + i) = c.answer) :
    captureFrom crtc k (crtcs.map Crtc.gamma) = ((fillInfo crtcs).1.map GammaPlace.ramp, (fillInfo crtcs).2) := by
  induction crtcs generalizing k with
  | nil => rfl
  | cons c rest ih =>
    have hc : crtc k = c.answer := h 0 c rfl
    have hrest := @ih (k + 1) fun i d hd => by
      have := h (i + 1) d hd
      rwa [show k + 1 + i = k + (i + 1) by omega]
    rw [List.map_cons, captureFrom, fillInfo, hc, hrest, Crtc.answer]
    cases c.currentMode with
    | false => rfl
    | true =>
      cases c.readable with
      | true => rfl
      | false => simp [Function.comp_def]

theorem whackCrtcs_gamma (alpha : WithBot ℚ) {info : List GammaPlace} {crtcs : List Crtc}
    (h : info.length = crtcs.length) :
    (whackCrtcs alpha info crtcs).map Crtc.gamma =
      whackGammas alpha (crtcs.map Crtc.gamma) (info.map GammaPlace.ramp) := by
  induction info generalizing crtcs with
  | nil =>
    obtain rfl := List.eq_nil_of_length_eq_zero h.symm
    rfl
  | cons place info ih =>
    cases crtcs with
    | nil => cases h
    | cons crtc rest =>
      have htail := ih (Nat.succ.inj h)
      simp only [whackGammas] at htail
      simp [whackCrtcs, whackGammas, htail]

/- A set-up, and then a step of the fade, as with a list of CRTCs that does not change. -/
theorem FadeScreen.setup_setAlpha {f : FadeState} {crtc : ℕ → CrtcAnswer} {crtcs : List Crtc} (alpha : WithBot ℚ)
    (htype : f.fade.fadeType = .xrandr) (hnone : f.fade.info = none) (hgamma : f.gamma = crtcs.map Crtc.gamma)
    (h : ∀ i c, crtcs[i]? = some c → crtc i = c.answer) :
    let s := (FadeScreen.xrandrFadeSetup crtcs {}).1
    (f.xrandrFadeSetup crtc).2 = (FadeScreen.xrandrFadeSetup crtcs {}).2 ∧
      ((f.xrandrFadeSetup crtc).1.gsFadeSetAlpha alpha).1.gamma =
        (s.xrandrFadeSetAlphaGamma alpha crtcs).2.1.map Crtc.gamma := by
  have hfill := captureFrom_fillInfo (k := 0) (fun i c hc => by rw [Nat.zero_add]; exact h i c hc)
  simp only [FadeState.xrandrFadeSetup, hnone, hgamma, hfill, FadeScreen.xrandrFadeSetup, true_and]
  by_cases hempty : crtcs = []
  · simp [hempty, FadeState.gsFadeSetAlpha, FadeScreen.xrandrFadeSetAlphaGamma]
  · have hlen := fillInfo_length crtcs
    simp [hempty, htype, FadeState.gsFadeSetAlpha, FadeScreen.xrandrFadeSetAlphaGamma, whackCrtcs_gamma alpha hlen]

namespace FadeScreen
variable {s t : FadeScreen} {e : Call}

/- An array is what the list of CRTCs at the set-up made of it. -/
def Recorded (s : FadeScreen) : Prop :=
  s.info = none ∨ s.info = some (fillInfo s.setupCrtcs).1 ∧ s.numRamps = s.setupCrtcs.length

theorem next_recorded (h : s.Recorded) (e : Call) : (s.next e).Recorded := by
  cases e with
  | setup crtcs =>
    rw [next, xrandrFadeSetup]
    cases hinfo : s.info with
    | some info => exact h
    | none =>
      by_cases hempty : crtcs = []
      · exact .inl (if_pos hempty)
      · exact .inr ⟨if_neg hempty, rfl⟩
  | setAlpha alpha crtcs => exact h
  | finish =>
    rw [next, screenFadeFinish]
    split
    · exact .inl rfl
    · exact h

/- One traversal stays in the array, and gives each CRTC its own ramp. -/
theorem safeAccess_iff (h : s.Recorded) (e : Call) : s.SafeAccess e ↔ s.SamePlaces e := by
  cases e with
  | setup | finish => exact Iff.rfl
  | setAlpha alpha crtcs =>
    simp only [SafeAccess, SamePlaces, xrandrFadeSetAlphaGamma]
    obtain hinfo | ⟨hinfo, hnum⟩ := h
    · simp [hinfo]
    simp only [hinfo, hnum, Option.isSome_some, forall_const]
    constructor
    · intro h
      have hat : ∀ {i c}, crtcs[i]? = some c → i < s.setupCrtcs.length ∧ ∀ place,
          (fillInfo s.setupCrtcs).1[i]? = some place → place.ramp ≠ [] → place.source = some c.id := by
        intro i c hc
        simpa using h _ (mem_accessesFrom.2 ⟨i, c, hc, rfl⟩)
      constructor
      · by_contra hlen
        have hc := List.getElem?_eq_getElem (Nat.lt_of_not_le hlen)
        exact absurd (hat hc).1 (Nat.lt_irrefl _)
      · intro i c c' hcap hc'
        obtain ⟨hplace, hramp⟩ := fillInfo_ramp.2 ⟨c, hcap, rfl⟩
        have hsource := (hat hc').2 _ hplace hramp
        exact (Option.some.inj hsource).symm
    · rintro ⟨hlen, hsame⟩ a ha
      obtain ⟨i, c, hc, rfl⟩ := mem_accessesFrom.1 ha
      have hi : i < crtcs.length := (List.getElem?_eq_some_iff.1 hc).1
      simp only [Nat.zero_add]
      refine ⟨by omega, fun place hplace hramp => ?_⟩
      obtain ⟨c', hcap, rfl⟩ := fillInfo_ramp.1 ⟨hplace, hramp⟩
      rw [hsame i c' c hcap hc]

/-- A traversal is in bounds and gives each captured ramp to its own CRTC, in every run, if and
only if each finds no more CRTCs than the set-up and the captured ones at their places. -/
theorem fade_indexing_iff (es : List Call) :
    fadeScreen.Each (fun s e _ => s.SafeAccess e) {} es ↔ fadeScreen.Meets SamePlaces {} es := by
  refine System.each_iff_meets (I := Recorded) (fun s e t h _ => safeAccess_iff h e) ?_ (.inl rfl) es
  rintro s e t h ⟨⟩ -
  exact next_recorded h e

/- A second CRTC is there by the time of the first tick. -/
theorem fade_indexing_plugged :
    let panel : Crtc := ⟨63, true, true, [⟨0, 300, 65535⟩]⟩
    let plugged : Crtc := ⟨64, true, true, [⟨0, 300, 65535⟩]⟩
    ¬ fadeScreen.Each (fun s e _ => s.SafeAccess e) {} [.setup [panel], .setAlpha 1 [panel, plugged]] := by
  intro panel plugged h
  have hsafe := ((h _ rfl).2 _ rfl).1 ⟨1, 64, none⟩ (by decide)
  exact absurd hsafe.1 (by decide)

/- All of what there was at the set-up has been captured, when there is an array. -/
def Complete (s : FadeScreen) : Prop :=
  s.Recorded ∧ (s.info.isSome = true → (fillInfo s.setupCrtcs).2 = true)

theorem allOrNothing_iff (h : s.Complete) (e : Call) : s.AllOrNothing e ↔ s.CanCapture e := by
  cases e with
  | setAlpha | finish => exact Iff.rfl
  | setup crtcs =>
    simp only [AllOrNothing, CanCapture, xrandrFadeSetup]
    cases hinfo : s.info with
    | some info =>
      obtain ⟨hrec, hall⟩ := h
      have hfill : info = (fillInfo s.setupCrtcs).1 := by
        obtain hnone | ⟨hsome, -⟩ := hrec
        · rw [hinfo] at hnone
          cases hnone
        · exact Option.some.inj (hinfo.symm.trans hsome)
      have hcap := fillInfo_captured (hall (by rw [hinfo]; rfl))
      subst hfill
      simp [hinfo, hcap]
    | none =>
      simp only [Option.isSome_none, Bool.false_eq_true, if_false, ← fillInfo_all]
      by_cases hempty : crtcs = []
      · simp [hempty, fillInfo]
      · cases hres : (fillInfo crtcs).2 with
        | false => simp [hempty]
        | true =>
          simp only [hempty, if_false, forall_const, Bool.true_eq_false, false_implies, and_true, iff_true]
          intro c hc hmode
          exact ⟨_, rfl, (fillInfo_captured hres c.id).2 ⟨c, hc, rfl, hmode⟩⟩

theorem next_complete (h : s.Complete) (hcan : s.CanCapture e) : (s.next e).Complete := by
  refine ⟨next_recorded h.1 e, ?_⟩
  cases e with
  | setAlpha => exact h.2
  | finish =>
    rw [next, screenFadeFinish]
    split
    · intro hsome
      cases hsome
    · exact h.2
  | setup crtcs =>
    rw [next, xrandrFadeSetup]
    cases hinfo : s.info with
    | some info => exact fun _ => h.2 (by rw [hinfo]; rfl)
    | none =>
      intro _
      simp only [CanCapture, hinfo, Option.isSome_none, Bool.false_eq_true, if_false] at hcan
      exact fillInfo_all.2 hcan

theorem setup_allOrNothing_iff (es : List Call) :
    fadeScreen.Each (fun s e _ => s.AllOrNothing e) {} es ↔ fadeScreen.Meets CanCapture {} es := by
  refine System.each_iff_meets (I := Complete) (fun s e t h _ => allOrNothing_iff h e) ?_
    ⟨.inl rfl, by simp⟩ es
  rintro s e t h ⟨⟩ hcan
  exact next_complete h hcan

end FadeScreen
/-! ### The VidMode extension -/

inductive VidFadeType
  | none
  | gammaNumber
  | gammaRamp
deriving DecidableEq

/- The GSGammaInfo that gs-fade.c:280 makes. -/
structure VidInfo where
  size : ℕ := 0
  ramp : Ramp := []
deriving DecidableEq

structure VidGamma where
  red : ℚ
  green : ℚ
  blue : ℚ
deriving DecidableEq

/- GSFadeScreenPrivate, and whether the ramp and the gamma number of the screen were read
since the last screen_fade_finish. -/
structure VidScreen where
  fadeType : VidFadeType
  numRamps : ℕ := 0
  info : Option VidInfo := none
  vmg : VidGamma := ⟨0, 0, 0⟩
  rampRead : Bool := false
  numberRead : Bool := false
deriving DecidableEq

/- What the server answers to XF86VidModeGetGammaRampSize, GetGammaRamp and GetGamma. -/
structure VidAnswers where
  rampSize : Option ℕ
  ramp : Option Ramp
  number : Option VidGamma

/- A size is given and it is not zero. -/
def VidAnswers.sized (a : VidAnswers) : Bool := a.rampSize.any (0 < ·)

namespace VidScreen

/- gs-fade.c:280 between #ifdef HAVE_XF86VMODE_GAMMA_RAMP and its end, for the ramp type. -/
def readRamp (a : VidAnswers) (s : VidScreen) : VidScreen :=
  if !a.sized then { s with fadeType := .gammaNumber }
  else
    let size := a.rampSize.getD 0
    match a.ramp with
    | none => { s with info := some ⟨size, List.replicate size ⟨0, 0, 0⟩⟩, fadeType := .gammaNumber }
    | some ramp => { s with info := some ⟨size, ramp⟩, rampRead := true }

/- gs-fade.c:280 from the label test_number on. -/
def testNumber (a : VidAnswers) (s : VidScreen) : VidScreen × Bool :=
  match s.fadeType with
  | .gammaRamp => (s, true)
  | .none => (s, false)
  | .gammaNumber =>
    match a.number with
    | some vmg => ({ s with vmg := vmg, numberRead := true }, true)
    | none => ({ s with fadeType := .none }, false)

/- gs-fade.c:280; haveRamp is HAVE_XF86VMODE_GAMMA_RAMP. -/
def gammaFadeSetup (haveRamp : Bool) (a : VidAnswers) (s : VidScreen) : VidScreen × Bool :=
  if s.info.isSome then (s, true)
  else if haveRamp then
    let s := { s with info := some {}, numRamps := 1 }
    (if s.fadeType = .gammaRamp then s.readRamp a else s).testNumber a
  else (if s.fadeType = .gammaRamp then { s with fadeType := .gammaNumber } else s).testNumber a

/- gs-fade.c:374 -/
def screenFadeFinish (s : VidScreen) : VidScreen :=
  let s := { s with rampRead := false, numberRead := false }
  if s.info.isSome then { s with info := none, numRamps := 0 } else s

inductive Call
  | setup (a : VidAnswers)
  | finish

def next (haveRamp : Bool) (s : VidScreen) : Call → VidScreen
  | .setup a => (s.gammaFadeSetup haveRamp a).1
  | .finish => s.screenFadeFinish

/- Whatever check_gamma_extension found, and every sequence of calls, in one of the builds. -/
def vidScreen (haveRamp : Bool) : System VidScreen Call where
  init s := ∃ fadeType, s = { fadeType := fadeType }
  next s e := some (s.next haveRamp e)

/- What xf86_whack_gamma would scale has been read from the screen. -/
def Captured (s : VidScreen) : Prop :=
  match s.info with
  | some info => if info.size = 0 then s.numberRead = true else s.rampRead = true
  | none => s.numberRead = true

/-- A set-up that succeeds has the gamma that a fade scales, one that fails leaves nothing. -/
def AllOrNothing (haveRamp : Bool) (s : VidScreen) : Call → Prop
  | .setup a =>
    let (t, res) := s.gammaFadeSetup haveRamp a
    (res = true → t.Captured) ∧ (res = false → t.info = none)
  | .finish => True

/-- With ramps in the build, a set-up that makes the array can read the ramp whose size it
was given, else the gamma number, and the type is not already none. -/
def CanRead (haveRamp : Bool) (s : VidScreen) : Call → Prop
  | .setup a => haveRamp = true → s.info = none →
    s.fadeType ≠ .none ∧
      if s.fadeType = .gammaRamp ∧ a.sized = true then a.ramp.isSome = true else a.number.isSome = true
  | .finish => True

/- What there is has been read, and in the build with ramps nothing has been read else. -/
def Complete (haveRamp : Bool) (s : VidScreen) : Prop :=
  (s.info.isSome = true → s.Captured) ∧ (haveRamp = true → s.info = none → s.rampRead = false)

variable {haveRamp : Bool} {s t : VidScreen} {e : Call}

/- From the label on: the number is read, unless there is a ramp or nothing. -/
theorem testNumber_res (a : VidAnswers) :
    (s.testNumber a).2 = true ↔
      s.fadeType = .gammaRamp ∨ s.fadeType = .gammaNumber ∧ a.number.isSome = true := by
  rw [testNumber]
  cases s.fadeType with
  | none => simp
  | gammaRamp => simp
  | gammaNumber => cases a.number <;> simp

theorem testNumber_info (a : VidAnswers) : (s.testNumber a).1.info = s.info := by
  rw [testNumber]
  cases s.fadeType with
  | none => rfl
  | gammaRamp => rfl
  | gammaNumber => cases a.number <;> rfl

theorem testNumber_numberRead (a : VidAnswers) (htype : s.fadeType = .gammaNumber)
    (h : (s.testNumber a).2 = true) : (s.testNumber a).1.numberRead = true := by
  rw [testNumber, htype] at h ⊢
  cases hnumber : a.number with
  | none => simp [hnumber] at h
  | some vmg => rfl

/- Without ramps in the build no array is made, and the number is read each time. -/
theorem setup_withoutRamp (a : VidAnswers) (h : s.info = none) :
    (s.gammaFadeSetup false a).1.info = none ∧
      ((s.gammaFadeSetup false a).2 = true → (s.gammaFadeSetup false a).1.Captured) := by
  have hinfo : (s.gammaFadeSetup false a).1.info = none := by
    simp only [gammaFadeSetup, h, Option.isSome_none, Bool.false_eq_true, if_false, testNumber_info]
    split
    · rfl
    · exact h
  refine ⟨hinfo, fun hres => ?_⟩
  rw [Captured, hinfo]
  simp only [gammaFadeSetup, h, Option.isSome_none, Bool.false_eq_true, if_false] at hres ⊢
  by_cases htype : s.fadeType = .gammaRamp
  · rw [if_pos htype] at hres ⊢
    exact testNumber_numberRead a rfl hres
  · rw [if_neg htype] at hres ⊢
    obtain hramp | ⟨hnumber, -⟩ := (testNumber_res a).1 hres
    · exact absurd hramp htype
    · exact testNumber_numberRead a hnumber hres

/- With ramps in the build the array is made before anything is read. -/
theorem setup_withRamp (a : VidAnswers) (h : s.info = none) (hread : s.rampRead = false) :
    (s.gammaFadeSetup true a).1.info.isSome = true ∧
      ((s.gammaFadeSetup true a).2 = true ∧ (s.gammaFadeSetup true a).1.Captured ↔ CanRead true s (.setup a)) := by
  simp only [gammaFadeSetup, h, Option.isSome_none, Bool.false_eq_true, if_false, if_true, CanRead, forall_const]
  cases htype : s.fadeType with
  | none => simp [testNumber]
  | gammaNumber => cases hnumber : a.number <;> simp [testNumber, hnumber, Captured]
  | gammaRamp =>
    cases hsized : a.sized with
    | false => cases hnumber : a.number <;> simp [readRamp, hsized, testNumber, hnumber, Captured]
    | true =>
      obtain ⟨size, hsize, hpos⟩ := (Option.any_eq_true _ _).1 hsized
      have hne : size ≠ 0 := by simpa [Nat.pos_iff_ne_zero] using hpos
      cases hramp : a.ramp with
      | none =>
        -- the places of the array are all zero, whether or not there is a number
        cases hnumber : a.number <;>
          simp [readRamp, hsized, hsize, hramp, testNumber, hnumber, Captured, hne, hread]
      | some ramp => simp [readRamp, hsized, hsize, hramp, testNumber, Captured, hne]

theorem allOrNothing_iff (h : s.Complete haveRamp) (e : Call) : s.AllOrNothing haveRamp e ↔ s.CanRead haveRamp e := by
  cases e with
  | finish => exact Iff.rfl
  | setup a =>
    cases hinfo : s.info with
    | some info =>
      have hcap : s.Captured := h.1 (by rw [hinfo]; rfl)
      simp [AllOrNothing, CanRead, gammaFadeSetup, hinfo, hcap]
    | none =>
      cases haveRamp with
      | false =>
        obtain ⟨hnone, hcap⟩ := setup_withoutRamp a hinfo
        simp only [AllOrNothing, CanRead, Bool.false_eq_true, false_implies, iff_true]
        exact ⟨hcap, fun _ => hnone⟩
      | true =>
        obtain ⟨hsome, hiff⟩ := setup_withRamp a hinfo (h.2 rfl hinfo)
        rw [← hiff]
        simp only [AllOrNothing]
        constructor
        · rintro ⟨hcap, hnone⟩
          cases hres : (s.gammaFadeSetup true a).2 with
          | false => simp [hnone hres] at hsome
          | true => exact ⟨rfl, hcap hres⟩
        · rintro ⟨hres, hcap⟩
          simp [hres, hcap]

theorem next_complete (h : s.Complete haveRamp) (hcan : s.CanRead haveRamp e) :
    (s.next haveRamp e).Complete haveRamp := by
  cases e with
  | finish =>
    rw [next, screenFadeFinish]
    cases s.info <;> simp [Complete]
  | setup a =>
    cases hinfo : s.info with
    | some info => simpa [next, gammaFadeSetup, hinfo] using h
    | none =>
      cases haveRamp with
      | false =>
        have hnone := (setup_withoutRamp a hinfo).1
        simp [Complete, next, hnone]
      | true =>
        obtain ⟨hsome, hiff⟩ := setup_withRamp a hinfo (h.2 rfl hinfo)
        have hcap := (hiff.2 hcan).2
        refine ⟨fun _ => hcap, fun _ hnone => ?_⟩
        rw [next] at hnone
        simp [hnone] at hsome

theorem setup_allOrNothing_iff (haveRamp : Bool) (fadeType : VidFadeType) (es : List Call) :
    (vidScreen haveRamp).Each (fun s e _ => s.AllOrNothing haveRamp e) { fadeType := fadeType } es ↔
      (vidScreen haveRamp).Meets (CanRead haveRamp) { fadeType := fadeType } es := by
  refine System.each_iff_meets (I := Complete haveRamp) (fun s e t h _ => allOrNothing_iff h e) ?_
    ⟨by simp, by simp⟩ es
  rintro s e t h ⟨⟩ hcan
  exact next_complete h hcan

end VidScreen

/-! ### Both set-ups -/

/-- Under either extension the set-up captures all or nothing, in every run, if and only if every
set-up that has no array can read all it asks for, and one that has finds nothing new. -/
theorem fadeSetup_allOrNothing_iff (xrandr : List FadeScreen.Call) (haveRamp : Bool) (fadeType : VidFadeType)
    (vidMode : List VidScreen.Call) :
    (FadeScreen.fadeScreen.Each (fun s e _ => s.AllOrNothing e) {} xrandr ↔
      FadeScreen.fadeScreen.Meets FadeScreen.CanCapture {} xrandr) ∧
    ((VidScreen.vidScreen haveRamp).Each (fun s e _ => s.AllOrNothing haveRamp e) { fadeType := fadeType } vidMode ↔
      (VidScreen.vidScreen haveRamp).Meets (VidScreen.CanRead haveRamp) { fadeType := fadeType } vidMode) :=
  ⟨FadeScreen.setup_allOrNothing_iff xrandr, VidScreen.setup_allOrNothing_iff haveRamp fadeType vidMode⟩

/- The ramp of the second CRTC cannot be read: the call fails, and the next one succeeds. -/
theorem fadeSetup_allOrNothing_retry :
    let panel : Crtc := ⟨63, true, true, [⟨0, 300, 65535⟩]⟩
    let broken : Crtc := ⟨64, true, false, [⟨0, 300, 65535⟩]⟩
    ¬ FadeScreen.fadeScreen.Each (fun s e _ => s.AllOrNothing e) {}
      [.setup [panel, broken], .setup [panel, broken]] := by
  intro panel broken h
  have hnone := (h _ rfl).1.2 (by decide)
  exact absurd hnone (by decide)

end MateScreensaver
