import MateScreensaver.RegistryRefinement
import MateScreensaver.Roster

/-!
Saver jobs against the dialog and the throttle. A job that the dialog stopped
and the throttle then kept from going on is not taken up again when the throttle
is lifted.
-/

namespace MateScreensaver
open Runs System

/-- A job as it may be while the dialog is up or down and the manager is throttled
or not. Only under `g` no stopped job has been forgotten. -/
structure GSJob.Fits (g : Prop) (up throttled : Bool) (j : GSJob) : Prop where
  idle : j.pid = 0 → j.status ≠ .running ∧ j.status ≠ .stopped
  running : j.status = .running → up = false ∧ throttled = false
  stopped : g → j.status = .stopped → up = true ∨ throttled = true

namespace GSJob

variable {g : Prop} {up throttled : Bool} {j : GSJob}

/- A job that neither runs nor is stopped fits anywhere. -/
theorem Fits.of_idle (hs : j.status ≠ .running ∧ j.status ≠ .stopped) : j.Fits g up throttled :=
  ⟨fun _ => hs, fun h => absurd h hs.1, fun _ h => absurd h hs.2⟩

theorem Fits.new (j : GSJob) (hs : j.status = .invalid) : j.Fits g up throttled := by
  refine .of_idle ⟨?_, ?_⟩
  · rw [hs]
    decide
  · rw [hs]
    decide

theorem died_status (h : j.pid = 0 → j.status ≠ .running ∧ j.status ≠ .stopped) :
    j.died.status ≠ .running ∧ j.died.status ≠ .stopped := by
  by_cases hp : j.pid = 0
  · simp only [GSJob.died, hp, Nat.lt_irrefl, if_false]
    exact h hp
  · have hpos : 0 < j.pid := Nat.pos_of_ne_zero hp
    simp only [GSJob.died, hpos, if_true]
    exact ⟨by decide, by decide⟩

theorem Fits.died {up' throttled' : Bool} (h : j.Fits g up throttled) : j.died.Fits g up' throttled' :=
  .of_idle (died_status h.idle)

theorem Fits.stop {up' throttled' : Bool} (h : j.Fits g up throttled) : j.stop.Fits g up' throttled' := by
  simp only [GSJob.stop]
  split
  · next hp => exact .of_idle (h.idle hp)
  · exact .of_idle (died_status fun _ => ⟨by simp, by simp⟩)

theorem Fits.start (h : j.Fits g false false) (r : SpawnResult) : (j.start r).Fits g false false := by
  simp only [GSJob.start]
  split
  · exact h
  · split
    · exact h
    · split
      · next pid pos =>
        refine ⟨fun hp => absurd hp pos.ne', fun _ => ⟨rfl, rfl⟩, fun _ hs => ?_⟩
        cases hs
      · exact h

theorem Fits.suspend (h : j.Fits g up throttled) (throttled' : Bool) : (j.suspend true).Fits g true throttled' := by
  simp only [GSJob.suspend]
  split
  · next hp => exact .of_idle (h.idle hp)
  · next hp => exact ⟨fun h0 => absurd h0 hp, fun hr => (nomatch hr), fun _ _ => .inl rfl⟩

theorem Fits.resume (h : j.Fits g up throttled) : (j.suspend false).Fits g false false := by
  simp only [GSJob.suspend]
  split
  · next hp => exact .of_idle (h.idle hp)
  · next hp => exact ⟨fun h0 => absurd h0 hp, fun _ => ⟨rfl, rfl⟩, fun _ hs => (nomatch hs)⟩

theorem Fits.command (h : j.Fits g up throttled) (c : Option String) :
    ({ j with command := c } : GSJob).Fits g up throttled := ⟨h.idle, h.running, h.stopped⟩

end GSJob

namespace Saver

variable {p g : Prop} {env : SaverEnv} {s t : Saver} {w : WindowId}

/- Every job of the manager. -/
def EachJob (P : GSJob → Prop) (jobs : Option (List (WindowId × GSJob))) : Prop :=
  ∀ l, jobs = some l → ∀ x ∈ l, P x.2

instance {P : GSJob → Prop} [DecidablePred P] : ∀ jobs, Decidable (EachJob P jobs)
  | none => .isTrue nofun
  | some l => decidable_of_iff (∀ x ∈ l, P x.2) ⟨fun h _ hl => Option.some.inj hl ▸ h, fun h => h l rfl⟩

theorem EachJob.map {P Q : GSJob → Prop} {jobs : Option (List (WindowId × GSJob))} (h : EachJob P jobs)
    {f : WindowId → GSJob → GSJob} (hf : ∀ v j, P j → Q (f v j)) :
    EachJob Q (jobs.map fun l => l.map fun x => (x.1, f x.1 x.2)) := by
  intro l hl x hx
  obtain ⟨l', hl', rfl⟩ := Option.map_eq_some_iff.1 hl
  obtain ⟨y, hy, rfl⟩ := List.mem_map.1 hx
  exact hf y.1 y.2 (h l' hl' y hy)

theorem EachJob.filter {P : GSJob → Prop} {jobs : Option (List (WindowId × GSJob))} (h : EachJob P jobs)
    (q : WindowId × GSJob → Bool) : EachJob P (jobs.map fun l => l.filter q) := by
  intro l hl x hx
  obtain ⟨l', hl', rfl⟩ := Option.map_eq_some_iff.1 hl
  exact h l' hl' x (List.mem_of_mem_filter hx)

def JobsFit (g : Prop) (s : Saver) : Prop :=
  EachJob (GSJob.Fits g s.manager.dialogUp s.manager.throttled) s.manager.jobs

theorem JobsFit.same (h : s.JobsFit g) (jobs : t.manager.jobs = s.manager.jobs)
    (dialogUp : t.manager.dialogUp = s.manager.dialogUp) (throttled : t.manager.throttled = s.manager.throttled) :
    t.JobsFit g := by
  rw [JobsFit, jobs, dialogUp, throttled]
  exact h

theorem maybeStarted_fits {j : GSJob} (h : j.Fits g s.manager.dialogUp s.manager.throttled) :
    (s.maybeStarted env w j).Fits g s.manager.dialogUp s.manager.throttled := by
  simp only [maybeStarted]
  split
  · next hcond =>
    obtain ⟨hup, hthr⟩ : s.manager.dialogUp = false ∧ s.manager.throttled = false := by
      cases hu : s.manager.dialogUp <;> cases ht : s.manager.throttled <;> simp_all
    rw [hup, hthr] at h ⊢
    exact h.start _
  · exact h

theorem Drives.fits {j k : GSJob} (hd : Drives env s w j k)
    (h : j.Fits g s.manager.dialogUp s.manager.throttled) : k.Fits g s.manager.dialogUp s.manager.throttled := by
  cases hd with
  | kept => exact h
  | stopped => exact h.stop
  | died => exact h.died
  | started => exact maybeStarted_fits h
  | cycled => exact maybeStarted_fits (h.stop.command _)

theorem JobsFit.raise (h : s.JobsFit g) (hr : Raised w s t) : t.JobsFit g := by
  rw [JobsFit, hr.manager]
  dsimp only
  split
  · next hthr =>
    intro l hl x hx
    have hfit := h l hl x hx
    rw [hthr] at hfit ⊢
    exact ⟨hfit.idle, fun hrun => absurd (hfit.running hrun).2 (by decide), fun _ _ => .inl rfl⟩
  · exact h.map fun v j hj => hj.suspend s.manager.throttled

theorem JobsFit.lower (h : s.JobsFit g) (hl : Lowered env w s t) : t.JobsFit g := by
  obtain ⟨start, hstart, hm⟩ := hl.manager
  rw [JobsFit, hm]
  dsimp only
  cases hthr : s.manager.throttled
  · rw [if_neg (by decide)]
    refine h.map (f := fun v j => if j.isRunning then j.suspend false else start v j) fun v j hj => ?_
    split
    · exact hj.resume
    · next hidle =>
      have hpid : j.pid = 0 := by
        simp only [GSJob.isRunning, decide_eq_true_eq] at hidle
        exact Nat.eq_zero_of_not_pos hidle
      have hfree : j.Fits g false false := .of_idle (hj.idle hpid)
      rcases hstart v j with hsame | hstarted
      · rw [hsame]
        exact hfree
      · rw [hstarted]
        exact hfree.start _
  · rw [if_pos rfl]
    intro l hl x hx
    have hfit := h l hl x hx
    rw [hthr] at hfit
    exact ⟨hfit.idle, fun hrun => absurd (hfit.running hrun).2 (by decide), fun _ _ => .inr rfl⟩

theorem JobsFit.tuned (h : s.JobsFit g) (ht : Tuned p s t) : t.JobsFit g :=
  h.same (congrArg GSManager.jobs ht.manager :) (congrArg GSManager.dialogUp ht.manager :)
    (congrArg GSManager.throttled ht.manager :)

theorem JobsFit.calm (h : s.JobsFit g) (hc : Calm p env s t) : t.JobsFit g := by
  cases hc with
  | still ht => exact h.tuned ht.tuned
  | raise w on down off live => exact h.raise (raised_windowSetDialogUp env off live)
  | lower w up => exact h.lower (lowered_windowSetDialogUp env up)
  | jobs f hf => exact h.map fun v j hj => (hf v j).fits hj
  | obscure w b live =>
    have hm := modifyWindow_manager s w fun win => { win with obscured := b }
    exact h.same (by rw [hm]) (by rw [hm]) (by rw [hm])
  | appear w on live hidden =>
    have ha := appeared_gtkWidgetShow env live hidden
    have hjobs : (s.gtkWidgetShow env w).manager.jobs = s.manager.jobs.map fun l =>
        (w, managerSelectThemeForJob env s.manager {}) :: l.filter fun x => x.1 ≠ w :=
      (congrArg GSManager.jobs ha.manager :)
    have hup : (s.gtkWidgetShow env w).manager.dialogUp = s.manager.dialogUp :=
      (congrArg GSManager.dialogUp ha.manager :)
    have hthr : (s.gtkWidgetShow env w).manager.throttled = s.manager.throttled :=
      (congrArg GSManager.throttled ha.manager :)
    rw [JobsFit, hjobs, hup, hthr]
    intro l hl x hx
    obtain ⟨l', hl', rfl⟩ := Option.map_eq_some_iff.1 hl
    rcases List.mem_cons.1 hx with rfl | hx
    · exact .new _ rfl
    · exact h l' hl' x (List.mem_of_mem_filter hx)

theorem JobsFit.act (h : s.JobsFit g) (ha : Act p env s t) : t.JobsFit g := by
  cases ha with
  | calm hc => exact h.calm hc
  | plug d => exact h
  | create m down => exact h
  | turnOn off =>
    intro l hl x hx
    cases hl
    cases hx
  | dropJob w => exact h.filter _
  | gone w down silent unused => exact h

theorem JobsFit.acts (h : s.JobsFit g) (ha : Acts p env s t) : t.JobsFit g := by
  induction ha with
  | refl => exact h
  | tail _ ha ih => exact ih.act ha

/- Throttling kills what runs or is stopped. Lifting the throttle starts jobs
anew, and leaves a stopped one where it is. -/
theorem JobsFit.throttle (h : s.JobsFit g) (b : Bool)
    (hg : g → b = false → s.manager.throttled = true → s.manager.dialogUp = false →
      EachJob (fun j => j.status ≠ .stopped) s.manager.jobs) : (s.gsManagerSetThrottled env b).JobsFit g := by
  simp only [gsManagerSetThrottled]
  split
  · next hne =>
    split
    · next hup =>
      have hdown : s.manager.dialogUp = false := by
        have hnot : (!s.manager.dialogUp) = true := hup
        simpa using hnot
      cases b
      · have hwas : s.manager.throttled = true := by simpa using hne
        intro l hl x hx
        obtain ⟨l', hl', rfl⟩ := Option.map_eq_some_iff.1 hl
        obtain ⟨y, hy, rfl⟩ := List.mem_map.1 hx
        have hfit := h l' hl' y hy
        have hlifted : y.2.Fits g s.manager.dialogUp false := by
          refine ⟨hfit.idle, fun hrun => absurd (hfit.running hrun).2 (by rw [hwas]; decide), fun hgood hstop => ?_⟩
          exact absurd hstop (hg hgood rfl hwas hdown l' hl' y hy)
        exact maybeStarted_fits (s := s.modifyManager fun m => { m with throttled := false }) hlifted
      · exact h.map fun v j hj => hj.stop
    · next hup =>
      have hup' : s.manager.dialogUp = true := by
        have hnot : ¬ (!s.manager.dialogUp) = true := hup
        simpa using hnot
      intro l hl x hx
      have hfit := h l hl x hx
      refine ⟨hfit.idle, fun hrun => ?_, fun _ _ => .inl hup'⟩
      have hdown := (hfit.running hrun).1
      rw [hup'] at hdown
      cases hdown
  · exact h

end Saver
namespace Registry

variable {r u : Registry} {env : Env} {hears : String → Bool} {e : Event} {log : List RegistryAction}

/- The events that take the last throttler away: UnThrottle, a client that leaves,
and the session that becomes active. -/
def lifts (hears : String → Bool) (r : Registry) : Event → Bool
  | .sessionCall _ (.unThrottle (some cookie)) => !(r.remove .throttle cookie).throttled
  | .nameOwnerChanged _ oldOwner _ => !(r.serviceDeleted oldOwner).throttled
  | .systemSignal _ (.ckActiveChanged path (some true)) => hears path && !r.removeCk.throttled
  | _ => false

theorem insert_throttled (x : RefEntry) (t : Table Nat RefEntry) (r : Registry) :
    (r.change .throttle (t.insert x.cookie x)).throttled = true := by
  show (!Table.isEmpty (t.insert x.cookie x)) = true
  cases hempty : Table.isEmpty (t.insert x.cookie x)
  · rfl
  · have h := Table.isEmpty_iff.1 hempty x.cookie
    rw [AList.lookup_insert] at h
    cases h

theorem lifts_of_moves (hm : r.Moves hears env e log u) (hwas : r.throttled = true) (hnow : u.throttled = false) :
    r.lifts hears e = true := by
  cases hm with
  | @accepted type sender application reason cookie fresh =>
    cases type with
    | inhibit =>
      have hsame : r.throttled = false := hnow
      rw [hwas] at hsame
      cases hsame
    | throttle =>
      have hadded := insert_throttled (proxied env .throttle (entryFor env .throttle sender application reason cookie))
        r.throttlers r
      have hnow' : (r.change .throttle (r.throttlers.insert cookie
        (entryFor env .throttle sender application reason cookie))).throttled = false := hnow
      exact absurd (hadded.symm.trans hnow') (by decide)
  | cancelled type sender cookie =>
    cases type with
    | inhibit =>
      have hsame : (r.remove .inhibit cookie).throttled = r.throttled := by
        simp only [Registry.remove]
        split
        · rfl
        · rfl
      rw [hsame, hwas] at hnow
      cases hnow
    | throttle => simp [lifts, SessionCall.cancel, hnow]
  | ownerChanged name oldOwner newOwner => simp [lifts, hnow]
  | sessionActive ours => simp [lifts, hnow, ours]
  | @sessionInactive sender path cookie ours fresh =>
    have hadded := insert_throttled (entryForCk env sender cookie) r.removeCk.throttlers r.removeCk
    have hnow' : (r.removeCk.change .throttle (r.removeCk.throttlers.insert cookie
      (entryForCk env sender cookie))).throttled = false := hnow
    exact absurd (hadded.symm.trans hnow') (by decide)
  | nothing he =>
    rw [hwas] at hnow
    cases hnow

end Registry

namespace Screensaver
open Saver (EachJob JobsFit)

variable {p g : Prop} {s t s₀ : Screensaver} {env : Env} {e : Event} {v u : Saver}

theorem fit_kind (hs : s₀.saver.view.Sound) (hh : v.Housed) (h : v.JobsFit g)
    (hg : g → s₀.saver.manager.throttled = true → s₀.saver.manager.dialogUp = false →
      EachJob (fun j => j.status ≠ .stopped) s₀.saver.manager.jobs)
    (hk : Kind p env s₀ e v u) : u.JobsFit g := by
  cases hk with
  | calm hc => exact h.calm hc
  | tune ht => exact h.tuned ht
  | locking hl =>
    have hm := hl.manager
    exact h.same (congrArg GSManager.jobs hm :) (congrArg GSManager.dialogUp hm :)
      (congrArg GSManager.throttled hm :)
  | activate off granted => exact h.acts (Saver.gsManagerActivate_acts (p := p) hh off granted).1
  | deactivate ends first on =>
    have hended := Saver.gsManagerDeactivate_ended env.toSaverEnv hh on
    intro l hl x hx
    rw [hended.jobs] at hl
    cases hl
  | added m he first new =>
    subst first
    have hsound : (s₀.tick env).saver.view.Sound := hs
    exact h.acts (Saver.monitorAdded_spec (p := p) env m hsound hh).1
  | removed m he first =>
    exact h.acts (Saver.monitorRemoved_spec (p := False) env m hh False.elim).1
  | throttle b first =>
    refine h.throttle b fun hgood hb => ?_
    rw [first hb]
    exact hg hgood

/-- With the dialog down and no throttle no job is stopped; with either, none runs. -/
structure JobsFollow (s : Screensaver) : Prop where
  resumed : s.saver.manager.dialogUp = false → s.saver.manager.throttled = false →
    EachJob (fun j => j.status ≠ .stopped) s.saver.manager.jobs
  halted : s.saver.manager.dialogUp = true ∨ s.saver.manager.throttled = true →
    EachJob (fun j => j.status ≠ .running) s.saver.manager.jobs

/-- When the last throttler goes while the dialog is down, no job is stopped. -/
def LiftsInTime (s : Screensaver) (label : Env × Event) : Prop :=
  s.saver.manager.throttled = true → s.registry.lifts s.hearsSession label.2 = true →
    s.saver.manager.dialogUp = false → EachJob (fun j => j.status ≠ .stopped) s.saver.manager.jobs

instance (s : Screensaver) (label : Env × Event) : Decidable (s.LiftsInTime label) :=
  inferInstanceAs (Decidable (_ → _ → _ → _))

theorem follow_of_fit (h : s.saver.JobsFit True) : s.JobsFollow where
  resumed hdown hfree l hl x hx hstop := by
    rcases (h l hl x hx).stopped trivial hstop with hup | hthr
    · rw [hdown] at hup
      cases hup
    · rw [hfree] at hthr
      cases hthr
  halted hheld l hl x hx hrun := by
    obtain ⟨hdown, hfree⟩ := (h l hl x hx).running hrun
    rcases hheld with hup | hthr
    · rw [hdown] at hup
      cases hup
    · rw [hfree] at hthr
      cases hthr

/- Only a throttle that is lifted for good can leave a stopped job behind, so the
chain is followed under the assumption that it is. -/
theorem fit_step (hs : (s.Agreed ∧ s.saver.Housed) ∧ s.saver.JobsFit True) (hl : s.LiftsInTime (env, e))
    (h : s.step (env, e) = some t) : t.saver.JobsFit True := by
  obtain ⟨⟨hagreed, hh⟩, hfit⟩ := hs
  have ht : t.Agreed := agreed_invariant.step s (env, e) t hagreed h
  have hin : s.saver.manager.throttled = s.registry.throttled := hagreed.throttled
  have hout : t.saver.manager.throttled = t.registry.throttled := ht.throttled
  have htick : (s.tick env).saver.JobsFit (t.saver.manager.throttled = false) := by
    intro l hlist x hx
    have hx' := hfit l hlist x hx
    exact ⟨hx'.idle, hx'.running, fun _ => hx'.stopped trivial⟩
  have hend : t.saver.JobsFit (t.saver.manager.throttled = false) := by
    refine step_induct (p := False) ⟨hagreed, hh⟩ False.elim h htick fun v u hv hI hk => ?_
    refine fit_kind hagreed.sound hv hI (fun hnow hwas => hl hwas ?_) hk
    exact Registry.lifts_of_moves (moves_step h) (hin ▸ hwas) (hout ▸ hnow)
  intro l hlist x hx
  have hx' := hend l hlist x hx
  refine ⟨hx'.idle, hx'.running, fun _ hstop => ?_⟩
  cases hthr : t.saver.manager.throttled
  · have hstopped := hx'.stopped hthr hstop
    rw [hthr] at hstopped
    exact hstopped
  · exact .inr rfl

theorem start_fit (b : Boot) (env : Env) : (b.start env).saver.JobsFit True := by
  obtain ⟨v, hlock, -, htuned⟩ := start_saver True b env
  have hjobs : v.manager.lockless.jobs = b.unsettled.saver.manager.lockless.jobs := by rw [hlock.manager]
  have hnone : v.manager.jobs = none := hjobs
  refine JobsFit.tuned ?_ htuned
  intro l hl x hx
  rw [hnone] at hl
  cases hl

theorem jobs_follow (b : Boot) (env : Env) {es : List (Env × Event)}
    (hl : screensaver.Meets LiftsInTime (b.start env) es) : screensaver.Always JobsFollow (b.start env) es := by
  refine always_of_meets (I := fun s => (s.Agreed ∧ s.saver.Housed) ∧ s.saver.JobsFit True)
    (fun s hs => follow_of_fit hs.2) (fun s label t hs h hgs => ?_) ⟨start_housed b env, start_fit b env⟩ hl
  exact ⟨housed_invariant.step s label t hs.1 h, fit_step hs hgs h⟩

/- A theme whose job can be started. -/
def stage : Boot := { desk with settings := { mode := .single, themes := ["slides"] } }

theorem player_pos : 0 < 200 := by decide
theorem playing_time : 0 < granted.time := granted.time_pos

def playing : Env := { granted with
  time_pos := playing_time
  themeExec := fun _ => some (some "slides --root")
  spawnJob := fun _ => .spawned 200 player_pos }

def shown : List (Env × Event) := [(playing, .sessionCall ":1.1" .lock), (playing, .mapEvent 0)]

/- A throttle comes and goes, and then a dialog that is not answered. -/
def followed : List (Env × Event) := shown ++
  [(playing, .sessionCall ":1.2" (.throttle (some ("player", "playing")))),
   (playing, .sessionCall ":1.2" (.unThrottle (some 1))), (playing, .activity 0), (playing, .popupDialogIdle 3),
   (playing, .lockCommandWatch 4 ⟨true, false, .eof⟩)]

theorem jobs_follow_shown : screensaver.Always JobsFollow (stage.start playing) followed ∧
    ((screensaver.run (stage.start playing) (followed.take 6)).map fun s => s.saver.manager.jobs) =
      some (some [(0, ⟨some "slides --root", 200, .stopped⟩)]) ∧
    ((screensaver.run (stage.start playing) followed).map fun s => s.saver.manager.jobs) =
      some (some [(0, ⟨some "slides --root", 200, .running⟩)]) :=
  ⟨jobs_follow stage playing (meets_of_checks (by decide)), by decide, by decide⟩

/- The dialog stops the job, a throttle comes, the dialog is cancelled, the
throttle goes. -/
def forgotten : List (Env × Event) := shown ++
  [(playing, .activity 0), (playing, .sessionCall ":1.2" (.throttle (some ("player", "playing")))),
   (playing, .popupDialogIdle 3), (playing, .lockCommandWatch 4 ⟨true, false, .eof⟩),
   (playing, .sessionCall ":1.2" (.unThrottle (some 1)))]

theorem job_forgotten : ¬ ∀ s, screensaver.Reachable s → s.JobsFollow := by
  intro h
  let s := (screensaver.run (stage.start playing) forgotten).get (by decide)
  have hs : screensaver.Reachable s :=
    reachable_run (.start ⟨stage, playing, rfl⟩) (by simp [s] : screensaver.run (stage.start playing) forgotten = some s)
  have hjobs : s.saver.manager.jobs = some [(0, ⟨some "slides --root", 200, .stopped⟩)] := by decide
  exact (h s hs).resumed (by decide) (by decide) _ hjobs _ List.mem_cons_self rfl

end Screensaver
end MateScreensaver
