import MateScreensaver.SaverJobs
import MateScreensaver.ThemeManager

/-!
What the daemon starts over whole runs: only commands that the theme manager has found in one of
the directories for savers, and when the program that is started is the file that was found.
-/

namespace MateScreensaver
open Runs System Scan

namespace GSJob

variable {j : GSJob}

theorem command_suspend (b : Bool) : (j.suspend b).command = j.command := by
  rw [suspend]
  split <;> rfl

theorem command_stop : j.stop.command = j.command := by
  rw [stop]
  split
  · rfl
  · dsimp only
    split
    · exact command_suspend false
    · rfl

theorem command_start (r : SpawnResult) : (j.start r).command = j.command := by
  unfold start
  split
  · rfl
  · split
    · rfl
    · cases r <;> rfl

end GSJob

namespace Saver

variable {p : Prop} {A : String → Prop} {env : SaverEnv} {s t : Saver} {w : WindowId} {j k : GSJob}

/- The command of a job, if it has one, is of some kind. -/
def HasCommand (A : String → Prop) (j : GSJob) : Prop := ∀ c, j.command = some c → A c

def Commanded (A : String → Prop) (s : Saver) : Prop := EachJob (HasCommand A) s.manager.jobs

/- All themes of an environment have commands of the kind. -/
def Offers (A : String → Prop) (env : SaverEnv) : Prop := ∀ theme c, env.themeExec theme = some (some c) → A c

theorem HasCommand.same (h : HasCommand A j) (hsame : k.command = j.command) : HasCommand A k := fun c hc =>
  h c (hsame.symm.trans hc)

theorem HasCommand.maybeStarted (h : HasCommand A j) : HasCommand A (s.maybeStarted env w j) := by
  rw [Saver.maybeStarted]
  split
  · exact h.same (GSJob.command_start _)
  · exact h

/- A job that is given a theme gets a command of the kind or none. -/
theorem hasCommand_selected (h : Offers A env) (m : GSManager) : HasCommand A (managerSelectThemeForJob env m j) := by
  intro c hc
  obtain ⟨theme, -, hexec⟩ := Option.bind_eq_some_iff.1 hc
  exact h theme c (Option.join_eq_some_iff.1 hexec)

theorem Drives.hasCommand (hd : Drives env s w j k) (ho : Offers A env) (h : HasCommand A j) : HasCommand A k := by
  cases hd with
  | kept => exact h
  | stopped => exact h.same GSJob.command_stop
  | died => exact h
  | started => exact h.maybeStarted
  | cycled => exact (hasCommand_selected ho s.manager).maybeStarted

theorem Commanded.same (h : s.Commanded A) (hjobs : t.manager.jobs = s.manager.jobs) : t.Commanded A := by
  rw [Commanded, hjobs]
  exact h

theorem Commanded.raise (h : s.Commanded A) (hr : Raised w s t) : t.Commanded A := by
  rw [Commanded, hr.manager]
  dsimp only
  split
  · exact h
  · exact h.map fun v j hj => hj.same (GSJob.command_suspend true)

theorem Commanded.lower (h : s.Commanded A) (hl : Lowered env w s t) : t.Commanded A := by
  obtain ⟨start, hstart, hm⟩ := hl.manager
  rw [Commanded, hm]
  dsimp only
  split
  · exact h
  · refine h.map (f := fun v j => if j.isRunning then j.suspend false else start v j) fun v j hj => ?_
    split
    · exact hj.same (GSJob.command_suspend false)
    · rcases hstart v j with hsame | hstarted
      · rw [hsame]
        exact hj
      · rw [hstarted]
        exact hj.same (GSJob.command_start _)

theorem Commanded.calm (h : s.Commanded A) (ho : Offers A env) (hc : Calm p env s t) : t.Commanded A := by
  cases hc with
  | still ht => exact h.same (congrArg GSManager.jobs ht.tuned.manager :)
  | raise w on down off live => exact h.raise (raised_windowSetDialogUp env off live)
  | lower w up => exact h.lower (lowered_windowSetDialogUp env up)
  | jobs f hf => exact h.map fun v j hj => (hf v j).hasCommand ho hj
  | obscure w b live =>
    have hm := modifyWindow_manager s w fun win => { win with obscured := b }
    exact h.same (by rw [hm])
  | appear w on live hidden =>
    have ha := appeared_gtkWidgetShow env live hidden
    have hjobs : (s.gtkWidgetShow env w).manager.jobs = s.manager.jobs.map fun l =>
        (w, managerSelectThemeForJob env s.manager {}) :: l.filter fun x => x.1 ≠ w :=
      (congrArg GSManager.jobs ha.manager :)
    rw [Commanded, hjobs]
    intro l hl x hx
    obtain ⟨l', hl', rfl⟩ := Option.map_eq_some_iff.1 hl
    cases List.mem_cons.1 hx with
    | inl heq =>
      subst heq
      exact hasCommand_selected ho s.manager
    | inr hmem => exact h l' hl' x (List.mem_of_mem_filter hmem)

theorem Commanded.act (h : s.Commanded A) (ho : Offers A env) (ha : Act p env s t) : t.Commanded A := by
  cases ha with
  | calm hc => exact h.calm ho hc
  | plug d => exact h
  | create m down => exact h
  | turnOn off =>
    intro l hl x hx
    cases hl
    cases hx
  | dropJob w => exact h.filter _
  | gone w down silent unused => exact h

theorem Commanded.acts (h : s.Commanded A) (ho : Offers A env) (ha : Acts p env s t) : t.Commanded A := by
  induction ha with
  | refl => exact h
  | tail _ ha ih => exact ih.act ho ha

theorem Commanded.throttle (h : s.Commanded A) (b : Bool) : (s.gsManagerSetThrottled env b).Commanded A := by
  simp only [gsManagerSetThrottled]
  split
  · split
    · refine h.map (f := fun w job => if b then job.stop else
        (s.modifyManager fun m => { m with throttled := b }).maybeStarted env w job) fun v j hj => ?_
      split
      · exact hj.same GSJob.command_stop
      · exact hj.maybeStarted
    · exact h
  · exact h

end Saver

namespace Screensaver
open Saver (EachJob Commanded Offers)

variable {p : Prop} {A : String → Prop} {s t s₀ : Screensaver} {env : Env} {e : Event} {v u : Saver}

theorem commanded_kind (hs : s₀.saver.view.Sound) (hh : v.Housed) (ho : Offers A env.toSaverEnv) (h : v.Commanded A)
    (hk : Kind p env s₀ e v u) : u.Commanded A := by
  cases hk with
  | calm hc => exact h.calm ho hc
  | tune ht => exact h.same (congrArg GSManager.jobs ht.manager :)
  | locking hl => exact h.same (congrArg GSManager.jobs hl.manager :)
  | activate off granted => exact h.acts ho (Saver.gsManagerActivate_acts (p := p) hh off granted).1
  | deactivate ends first on =>
    have hended := Saver.gsManagerDeactivate_ended env.toSaverEnv hh on
    intro l hl x hx
    rw [hended.jobs] at hl
    cases hl
  | added m he first new =>
    subst first
    have hsound : (s₀.tick env).saver.view.Sound := hs
    exact h.acts ho (Saver.monitorAdded_spec (p := p) env m hsound hh).1
  | removed m he first => exact h.acts ho (Saver.monitorRemoved_spec (p := False) env m hh False.elim).1
  | throttle b first => exact h.throttle b

theorem commanded_step (hs : s.Agreed ∧ s.saver.Housed) (ho : Offers A env.toSaverEnv) (h : s.saver.Commanded A)
    (hstep : s.step (env, e) = some t) : t.saver.Commanded A := by
  have htick : (s.tick env).saver.Commanded A := h
  exact step_induct (p := False) hs False.elim hstep htick fun v u hv hI hk => commanded_kind hs.1.sound hv ho hI hk

theorem start_commanded (b : Boot) (env : Env) : (b.start env).saver.Commanded A := by
  obtain ⟨v, hlock, -, htuned⟩ := start_saver True b env
  have hjobs : v.manager.lockless.jobs = b.unsettled.saver.manager.lockless.jobs := by rw [hlock.manager]
  have hnone : v.manager.jobs = none := hjobs
  have hjobs' : (b.start env).saver.manager.jobs = v.manager.jobs := (congrArg GSManager.jobs htuned.manager :)
  intro l hl x hx
  rw [hjobs', hnone] at hl
  cases hl

end Screensaver

/-! ### Approved commands -/

namespace ThemeManager

variable {tm : ThemeManager} {info : GSThemeInfo} {theme : String} {c exec : Text}

/- The command of a theme that the manager has, with a program in one of the directories. -/
def Approved (tm : ThemeManager) (c : Text) : Prop :=
  ∃ theme info program args path, tm.lookupThemeInfo theme = some info ∧ info.exec = some c ∧
    Shell.parseArgv c = .ok (program :: args) ∧ findCommand tm.config tm.files program = some path

theorem checkCommand_iff {config : EngineConfig} {fs : Files} :
    checkCommand config fs c = some true ↔
      ∃ program args path, Shell.parseArgv c = .ok (program :: args) ∧ findCommand config fs program = some path := by
  rw [checkCommand]
  constructor
  · intro h
    split at h
    · next program args hparse =>
      obtain ⟨path, hpath⟩ := Option.isSome_iff_exists.1 (Option.some.inj h)
      exact ⟨program, args, path, hparse, hpath⟩
    · cases h
  · intro ⟨program, args, path, hparse, hpath⟩
    rw [hparse]
    dsimp only
    rw [hpath]
    rfl

theorem getExec_approved (hlookup : tm.lookupThemeInfo theme.toList = some info) (h : tm.getExec info = some (some exec)) :
    tm.Approved exec := by
  rw [getExec] at h
  cases hexec : info.exec with
  | none =>
    rw [hexec] at h
    cases h
  | some c =>
    rw [hexec] at h
    obtain ⟨ok, hok, heq⟩ := Option.map_eq_some_iff.1 h
    cases ok with
    | false => cases heq
    | true =>
      cases heq
      obtain ⟨program, args, path, hparse, hpath⟩ := checkCommand_iff.1 hok
      exact ⟨theme.toList, info, program, args, path, hlookup, hexec, hparse, hpath⟩

theorem lookup_mem {name : Text} (h : tm.lookupThemeInfo name = some info) :
    ∃ e ∈ tm.entries, info = gsThemeInfoNewFromMatemenuTreeEntry e := by
  obtain ⟨e, he, rfl⟩ := Option.map_eq_some_iff.1 h
  exact ⟨e, List.mem_of_find?_eq_some he, rfl⟩

/- A command line has at least one word. -/
theorem parseArgv_ne_nil {argv : List Text} (h : Shell.parseArgv c = .ok argv) : argv ≠ [] := by
  intro hnil
  subst hnil
  rw [Shell.parseArgv] at h
  cases ht : Shell.tokenize c with
  | error e =>
    rw [ht] at h
    cases h
  | ok tokens =>
    rw [ht] at h
    have hnone : tokens = [] := by
      cases tokens with
      | nil => rfl
      | cons t ts =>
        change (List.mapM Shell.unquote (t :: ts)) = .ok [] at h
        rw [List.mapM_cons] at h
        cases hu : Shell.unquote t with
        | error e =>
          rw [hu] at h
          cases h
        | ok v =>
          rw [hu] at h
          cases hm : List.mapM Shell.unquote ts with
          | error e =>
            change (do let vs ← List.mapM Shell.unquote ts; pure (v :: vs)) = .ok [] at h
            rw [hm] at h
            cases h
          | ok vs =>
            change (do let vs ← List.mapM Shell.unquote ts; pure (v :: vs)) = .ok [] at h
            rw [hm] at h
            cases h
    subst hnone
    simp only [Shell.tokenize] at ht
    split at ht
    · split at ht
      · cases ht
      · next hne => exact hne (Except.ok.inj ht)
    · cases ht

/- With command lines that parse all answers are defined. -/
theorem themeExec_some (hparses : tm.Parses) (theme : String) : ∃ r, tm.themeExec theme = some r := by
  rw [themeExec]
  cases hlookup : tm.lookupThemeInfo theme.toList with
  | none => exact ⟨none, rfl⟩
  | some info =>
    obtain ⟨e, he, rfl⟩ := lookup_mem hlookup
    dsimp only
    rw [getExec]
    cases hexec : (gsThemeInfoNewFromMatemenuTreeEntry e).exec with
    | none => exact ⟨_, rfl⟩
    | some exec =>
      obtain ⟨argv, hargv⟩ := hparses e he exec hexec
      obtain ⟨program, args, rfl⟩ := List.exists_cons_of_ne_nil (parseArgv_ne_nil hargv)
      dsimp only
      rw [checkCommand, hargv]
      exact ⟨_, rfl⟩

theorem offers_approved {env : SaverEnv} (hparses : tm.Parses) (hanswers : tm.Answers env) :
    Saver.Offers (fun c => tm.Approved c.toList) env := by
  intro theme c hc
  obtain ⟨r, hr⟩ := themeExec_some hparses theme
  have hc' : r = some (some c) := (hanswers theme r hr).symm.trans hc
  subst hc'
  rw [themeExec] at hr
  cases hlookup : tm.lookupThemeInfo theme.toList with
  | none =>
    rw [hlookup] at hr
    cases hr
  | some info =>
    rw [hlookup] at hr
    obtain ⟨exec, hexec, heq⟩ := Option.map_eq_some_iff.1 hr
    cases exec with
    | none => cases heq
    | some exec =>
      have hstring : String.ofList exec = c := Option.some.inj (Option.some.inj heq)
      have hlist : c.toList = exec := by rw [← hstring, String.toList_ofList]
      change tm.Approved c.toList
      rw [hlist]
      exact getExec_approved hlookup hexec

end ThemeManager

namespace Screensaver

/-- In every run of the daemon, whatever theme manager it asks at each step, every job has no command
or one that the theme manager of some step has approved: that of an entry of its menu, with a
program that was executable in one of the directories for savers. -/
theorem jobs_approved (b : Boot) (env : Env) (tm : Env → ThemeManager) {es : List (Env × Event)} {s : Screensaver}
    (hrun : screensaver.run (b.start env) es = some s)
    (h : ∀ label ∈ es, (tm label.1).Parses ∧ (tm label.1).Answers label.1.toSaverEnv) {l : List (WindowId × GSJob)}
    (hl : s.saver.manager.jobs = some l) {x : WindowId × GSJob} (hx : x ∈ l) {c : String} (hc : x.2.command = some c) :
    ∃ label ∈ es, (tm label.1).Approved c.toList := by
  have hkeeps : (s.Agreed ∧ s.saver.Housed) ∧
      s.saver.Commanded fun c => ∃ label ∈ es, (tm label.1).Approved c.toList := by
    apply run_keeps (S := screensaver) (C := fun label => label ∈ es) _ ⟨start_housed b env, start_commanded b env⟩ hrun
      (fun label hlabel => hlabel)
    intro s label t hs hn hlabel
    obtain ⟨hparses, hanswers⟩ := h label hlabel
    have hoffers := ThemeManager.offers_approved hparses hanswers
    refine ⟨housed_invariant.step s label t hs.1 hn, commanded_step hs.1 (fun theme c hc => ?_) hs.2 hn⟩
    exact ⟨label, hlabel, hoffers theme c hc⟩
  exact hkeeps.2 l hl x hx c hc

def slidesMenu : ThemeManager where
  config := ThemeManager.smallMenu.config
  files := .ofList ["/usr/libexec/mate-screensaver/slides".toList] (by decide)
  menu := some [.entry ⟨"Slides".toList, "slides.desktop".toList, some "slides --root".toList⟩]

def approving : Env := { playing with themeExec := fun theme => (slidesMenu.themeExec theme).getD none }

def approved : List (Env × Event) := [(approving, .sessionCall ":1.1" .lock), (approving, .mapEvent 0)]

theorem jobs_approved_slides : ∃ label ∈ approved, slidesMenu.Approved "slides --root".toList := by
  let s := (screensaver.run (stage.start approving) approved).get (by decide)
  have hrun : screensaver.run (stage.start approving) approved = some s := by simp [s]
  have hjobs : s.saver.manager.jobs = some [(0, ⟨some "slides --root", 200, .running⟩)] := by decide
  have hparses : slidesMenu.Parses := by
    intro e he exec hexec
    cases he with
    | head =>
      cases hexec
      exact ⟨["slides".toList, "--root".toList], by decide⟩
    | tail _ he => cases he
  have hanswers : slidesMenu.Answers approving.toSaverEnv := by
    intro theme r hr
    change (slidesMenu.themeExec theme).getD none = r
    rw [hr]
    rfl
  have hlabels : ∀ label ∈ approved, slidesMenu.Parses ∧ slidesMenu.Answers label.1.toSaverEnv := by
    intro label hlabel
    cases hlabel with
    | head => exact ⟨hparses, hanswers⟩
    | tail _ hlabel =>
      cases hlabel with
      | head => exact ⟨hparses, hanswers⟩
      | tail _ hlabel => cases hlabel
  exact jobs_approved stage approving (fun _ => slidesMenu) hrun hlabels hjobs List.mem_cons_self rfl

end Screensaver
end MateScreensaver
