import MateScreensaver.Lib.Numeral
import MateScreensaver.SpawnEnv

/-!
The ids of the X server that go between the processes as text: the window that a saver gets in its
environment, and the visual that the GL helper prints.
-/

namespace MateScreensaver
open Scan

/- g_strdup_printf ("%s=%s", name, value) -/
def envVar (name value : Text) : Text := name ++ '=' :: value

/- gs-job.c:74 -/
def widgetGetIdString (xid : UInt32) : Text := '0' :: 'x' :: Numeral.printHexUpper xid.toNat

/- The display of the widget, g_get_home_dir and the environment of the daemon. -/
structure JobParent where
  displayName : Text
  homeDir : Text
  environ : List Text

def allowedEnvVars : List Text :=
  ["PATH", "SESSION_MANAGER", "XAUTHORITY", "XAUTHLOCALHOSTNAME", "LANG", "LANGUAGE", "DBUS_SESSION_BUS_ADDRESS"].map
    String.toList

def windowVar : Text := "XSCREENSAVER_WINDOW".toList

namespace JobParent

/- What is put into the environment, in this order. -/
def vars (p : JobParent) (xid : UInt32) : List (Text × Text) :=
  ("DISPLAY".toList, p.displayName) :: ("HOME".toList, p.homeDir) ::
    allowedEnvVars.filterMap (fun var => (getenv var p.environ).map (var, ·)) ++ [(windowVar, widgetGetIdString xid)]

/- gs-job.c:253 -/
def getEnvVars (p : JobParent) (xid : UInt32) : List Text := (p.vars xid).map fun v => envVar v.1 v.2

/-- What the saver is to find: what the job says, what it may take from the daemon, and no more. -/
def Gives (p : JobParent) (xid : UInt32) (name : Text) : Option Text :=
  if name = "DISPLAY".toList then some p.displayName
  else if name = "HOME".toList then some p.homeDir
  else if name = windowVar then some (widgetGetIdString xid)
  else if allowedEnvVars.contains name then getenv name p.environ
  else none

end JobParent

/- gs-theme-window.c:88: the window of the variable, where it is one. errno keeps what a call before
has left in it. -/
def themeWindow (foreign : ℕ → Bool) (erange : Bool) (environ : List Text) : Option ℕ :=
  match getenv windowVar environ with
  | none => none
  | some previewXid =>
    let r := Numeral.strtoul previewXid
    if r.value ≠ 0 ∧ (r.rest = [] ∨ r.rest.head? = some ' ') ∧ (r.value < 2 ^ 64 - 1 ∨ ¬ (r.erange || erange)) then
      some r.value |>.filter foreign
    else none

/-! ### The environment of a job -/

variable {name name' value : Text} {p : JobParent} {xid : UInt32}

theorem isPrefixOf_envVar (hname : '=' ∉ name) (hname' : '=' ∉ name') :
    (name ++ ['=']).isPrefixOf (envVar name' value) = (name == name') := by
  rw [Bool.eq_iff_iff, List.isPrefixOf_iff_prefix, beq_iff_eq]
  constructor
  · intro h
    obtain ⟨rest, hrest⟩ := h
    have hsplit : name ++ '=' :: rest = name' ++ '=' :: value := by
      rw [List.append_assoc, List.singleton_append] at hrest
      exact hrest
    have hlength : name.length = name'.length := by
      have hindex := congrArg (List.idxOf '=') hsplit
      simpa [List.idxOf_append, hname, hname'] using hindex
    exact (List.append_inj hsplit hlength).1
  · intro h
    subst h
    exact ⟨value, by rw [envVar, List.append_assoc, List.singleton_append]⟩

/-- A list of variables gives each its first value. -/
theorem getenv_envVar {vars : List (Text × Text)} (hname : '=' ∉ name) (hvars : ∀ v ∈ vars, '=' ∉ v.1) :
    getenv name (vars.map fun v => envVar v.1 v.2) = vars.lookup name := by
  induction vars with
  | nil => rfl
  | cons v vars ih =>
    have hv : '=' ∉ v.1 := hvars v List.mem_cons_self
    have htail := ih fun v' hv' => hvars v' (List.mem_cons_of_mem _ hv')
    obtain ⟨name', value⟩ := v
    rw [getenv] at htail
    rw [getenv, List.map_cons, List.find?_cons, isPrefixOf_envVar hname hv, List.lookup_cons]
    cases hsame : name == name' with
    | true =>
      have heq : name = name' := eq_of_beq hsame
      have hdrop : (envVar name' value).drop (name'.length + 1) = value := by
        rw [envVar, ← List.drop_drop, List.drop_left, List.drop_one, List.tail_cons]
      subst heq
      exact congrArg some hdrop
    | false => exact htail

/- The allowed ones have the values they have in the daemon. -/
theorem lookup_allowed {f : Text → Option Text} (l : List Text) :
    (l.filterMap fun var => (f var).map (var, ·)).lookup name = if l.contains name then f name else none := by
  induction l with
  | nil => rfl
  | cons var l ih =>
    rw [List.filterMap_cons, List.contains_cons]
    by_cases hsame : name = var
    · subst hsame
      rw [beq_self_eq_true, Bool.true_or, if_pos rfl]
      cases hf : f name with
      | some v => exact (List.lookup_cons ..).trans (by rw [beq_self_eq_true])
      | none =>
        refine ih.trans ?_
        rw [hf, ite_self]
    · have hne : (name == var) = false := beq_eq_false_iff_ne.2 hsame
      rw [hne, Bool.false_or]
      cases hf : f var with
      | none => exact ih
      | some v =>
        rw [Option.map_some]
        dsimp only
        rw [List.lookup_cons, hne]
        exact ih

/- Two before them, and one after them that is not allowed. -/
theorem lookup_vars {f : Text → Option Text} {l : List Text} {a b c x y z : Text} (hc : l.contains c = false) :
    ((a, x) :: (b, y) :: ((l.filterMap fun var => (f var).map (var, ·)) ++ [(c, z)])).lookup name =
      if name = a then some x else if name = b then some y else if name = c then some z
      else if l.contains name then f name else none := by
  rw [List.lookup_cons, List.lookup_cons, List.lookup_append, lookup_allowed, List.lookup_cons, List.lookup_nil]
  by_cases ha : name = a
  · rw [if_pos ha, beq_iff_eq.2 ha]
  rw [if_neg ha, beq_eq_false_iff_ne.2 ha]
  by_cases hb : name = b
  · rw [if_pos hb, beq_iff_eq.2 hb]
  rw [if_neg hb, beq_eq_false_iff_ne.2 hb]
  dsimp only
  by_cases hlast : name = c
  · have hnot : l.contains name = false := hlast ▸ hc
    rw [hnot, if_neg Bool.false_ne_true, if_pos hlast, beq_iff_eq.2 hlast, Option.none_or]
  · rw [if_neg hlast, beq_eq_false_iff_ne.2 hlast, Option.or_none]

theorem windowVar_not_allowed : allowedEnvVars.contains windowVar = false := by decide +kernel

theorem vars_names (p : JobParent) (xid : UInt32) : ∀ v ∈ p.vars xid, '=' ∉ v.1 := by
  have hallowed : ∀ var ∈ allowedEnvVars, '=' ∉ var := by
    rw [allowedEnvVars]
    simp
  intro v hv
  simp only [JobParent.vars, List.cons_append, List.mem_cons, List.mem_append, List.mem_filterMap, List.not_mem_nil,
    or_false] at hv
  rcases hv with rfl | rfl | ⟨var, hvar, hval⟩ | rfl
  · simp
  · simp
  · obtain ⟨val, -, rfl⟩ := Option.map_eq_some_iff.1 hval
    exact hallowed var hvar
  · exact (by decide +kernel : '=' ∉ windowVar)

theorem getenv_getEnvVars (p : JobParent) (xid : UInt32) (hname : '=' ∉ name) :
    getenv name (p.getEnvVars xid) = p.Gives xid name := by
  rw [JobParent.getEnvVars, getenv_envVar hname (vars_names p xid), JobParent.vars, JobParent.Gives, List.cons_append,
    List.cons_append, lookup_vars windowVar_not_allowed]

theorem getenv_window (p : JobParent) (xid : UInt32) :
    getenv windowVar (p.getEnvVars xid) = some (widgetGetIdString xid) := by
  have hdisplay : windowVar ≠ "DISPLAY".toList := by decide +kernel
  have hhome : windowVar ≠ "HOME".toList := by decide +kernel
  rw [getenv_getEnvVars p xid (by decide +kernel), JobParent.Gives, if_neg hdisplay, if_neg hhome, if_pos rfl]

/- The number that was printed is read, to its end. -/
theorem strtoul_id (xid : UInt32) : Numeral.strtoul (widgetGetIdString xid) = ⟨xid.toNat, [], false⟩ := by
  have hsmall : xid.toNat < 2 ^ 64 := by
    have hlt := xid.toNat_lt
    omega
  have hend : ∀ c ∈ ([] : Text).head?, Numeral.digitValue c = none := by
    intro c hc
    cases hc
  have hread := Numeral.strtoul_printed Numeral.spells_upper hsmall hend
  rw [List.append_nil] at hread
  exact hread

/-- A saver finds in its environment the display of its window, the home directory, the window, and
of the daemon's variables those that are allowed, with their values: nothing else that the daemon
has in its environment, whatever that is. And whatever errno was left, it draws on this window if
that is one, and never on another. -/
theorem job_environment (p : JobParent) (xid : UInt32) :
    (∀ name, '=' ∉ name → getenv name (p.getEnvVars xid) = p.Gives xid name) ∧
      ∀ foreign erange, themeWindow foreign erange (p.getEnvVars xid) =
        if xid ≠ 0 ∧ foreign xid.toNat then some xid.toNat else none := by
  constructor
  · intro name hname
    exact getenv_getEnvVars p xid hname
  · intro foreign erange
    have hsmall : xid.toNat < 2 ^ 64 - 1 := by
      have hlt := xid.toNat_lt
      omega
    rw [themeWindow, getenv_window]
    dsimp only
    rw [strtoul_id]
    by_cases hzero : xid = 0
    · subst hzero
      have hnot : ¬ ((0 : UInt32) ≠ 0 ∧ foreign (0 : UInt32).toNat = true) := fun h => h.1 rfl
      rw [if_neg hnot, if_neg fun h => h.1 rfl]
    · have hpos : xid.toNat ≠ 0 := fun h => hzero (UInt32.toNat_inj.1 h)
      rw [if_pos ⟨hpos, .inl rfl, .inl hsmall⟩]
      cases hforeign : foreign xid.toNat with
      | true => rw [Option.filter_some, hforeign, if_pos rfl, if_pos ⟨hzero, rfl⟩]
      | false =>
        have hnot : ¬ (xid ≠ 0 ∧ false = true) := fun h => Bool.false_ne_true h.2
        rw [Option.filter_some, hforeign, if_neg Bool.false_ne_true, if_neg hnot]

/-! ### The visual of a window -/

/- The attributes of glXChooseVisual that are used. -/
inductive GlxAttr
  | rgba
  | redSize (n : ℕ)
  | greenSize (n : ℕ)
  | blueSize (n : ℕ)
  | depthSize (n : ℕ)
  | bufferSize (n : ℕ)
  | doubleBuffer
  | stencilSize (n : ℕ)
deriving DecidableEq

namespace GlxAttr

/- GLX_RGBA, R, n, G, n, B, n, D, n -/
def rgb (n : ℕ) : List GlxAttr := [rgba, redSize n, greenSize n, blueSize n, depthSize n]

/- I, n, D, n -/
def cmap (n : ℕ) : List GlxAttr := [bufferSize n, depthSize n]

/- gs-visual-gl.c:58 -/
def attrs : List (List GlxAttr) :=
  [rgb 8 ++ [doubleBuffer, stencilSize 1], rgb 4 ++ [doubleBuffer, stencilSize 1], rgb 2 ++ [doubleBuffer, stencilSize 1],
    rgb 8 ++ [doubleBuffer], rgb 4 ++ [doubleBuffer], rgb 2 ++ [doubleBuffer],
    rgb 8, rgb 4, rgb 2,
    [bufferSize 8, depthSize 8, doubleBuffer], [bufferSize 4, depthSize 4, doubleBuffer],
    cmap 8, cmap 4,
    rgb 1]

end GlxAttr

/- A display: the ids of its visuals as X gives them out, those that gdk knows, and what
glXChooseVisual chooses. -/
structure XDisplay where
  visuals : List ℕ
  chooseVisual : List GlxAttr → Option ℕ
  valid : ∀ id ∈ visuals, id ≠ 0 ∧ id < 2 ^ 32

namespace XDisplay

/- gdk_x11_screen_lookup_visual -/
def lookupVisual (d : XDisplay) (id : ℕ) : Option ℕ := if id ∈ d.visuals then some id else none

/- The loop of gs-visual-gl.c:85. -/
def firstVisual (d : XDisplay) : List (List GlxAttr) → Option ℕ
  | [] => none
  | attrs :: rest =>
    match (d.chooseVisual attrs).bind d.lookupVisual with
    | some visual => some visual
    | none => d.firstVisual rest

/- gs-visual-gl.c:42 -/
def gsVisualGlGetBestForDisplay (d : XDisplay) : Option ℕ := d.firstVisual GlxAttr.attrs

/- What main of mate-screensaver-gl-helper.c prints. -/
def glHelperOutput (d : XDisplay) : Text :=
  match d.gsVisualGlGetBestForDisplay with
  | some visual => '0' :: 'x' :: Numeral.printHex (visual % 2 ^ 32) ++ ['\n']
  | none => "none\n".toList

end XDisplay

/- 1 == sscanf (std_output, "0x%lx %c", &v, &c) -/
def scanVisual (stdOutput : Text) : Option ℕ :=
  match (literal "0x".toList stdOutput).bind Numeral.scanHex with
  | some (v, rest) => if atEnd rest then some v else none
  | none => none

/- The displays that can be opened, by name, and whether the helper can be run. -/
structure XWorld where
  display : Text → Option XDisplay
  spawns : Bool

namespace XWorld

/- What the helper prints in this environment: without a display gtk_init_with_args fails. -/
def helperOutput (w : XWorld) (environ : List Text) : Text :=
  match (getenv "DISPLAY".toList environ).bind w.display with
  | some d => d.glHelperOutput
  | none => []

/- gs-window-x11.c:507, for a window on the display of this name. -/
def getBestVisualForDisplay (w : XWorld) (environ : List Text) (displayName : Text) (d : XDisplay) : Option ℕ :=
  if w.spawns then
    match scanVisual (w.helperOutput (spawnMakeEnvironmentForDisplay environ displayName none)) with
    | some v => if v ≠ 0 then d.lookupVisual v else none
    | none => none
  else none

end XWorld

variable {w : XWorld} {d : XDisplay} {environ : List Text} {displayName : Text} {v v' : ℕ}

theorem lookupVisual_iff : d.lookupVisual v = some v' ↔ v = v' ∧ v ∈ d.visuals := by
  rw [XDisplay.lookupVisual]
  by_cases hv : v ∈ d.visuals
  · rw [if_pos hv, Option.some_inj]
    exact (and_iff_left hv).symm
  · rw [if_neg hv]
    exact iff_of_false (Option.some_ne_none v').symm fun h => hv h.2

theorem firstVisual_eq (d : XDisplay) (l : List (List GlxAttr)) :
    d.firstVisual l = l.findSome? fun attrs => (d.chooseVisual attrs).bind d.lookupVisual := by
  induction l with
  | nil => rfl
  | cons attrs l ih =>
    rw [XDisplay.firstVisual, List.findSome?_cons, ih]
    cases (d.chooseVisual attrs).bind d.lookupVisual with
    | none => rfl
    | some visual => rfl

/- The first row that has a visual which gdk knows. -/
theorem best_iff : d.gsVisualGlGetBestForDisplay = some v ↔
    ∃ before attrs after, GlxAttr.attrs = before ++ attrs :: after ∧ d.chooseVisual attrs = some v ∧ v ∈ d.visuals ∧
      ∀ attrs' ∈ before, ∀ v', d.chooseVisual attrs' = some v' → v' ∉ d.visuals := by
  rw [XDisplay.gsVisualGlGetBestForDisplay, firstVisual_eq, List.findSome?_eq_some_iff]
  have hchosen : ∀ attrs, (d.chooseVisual attrs).bind d.lookupVisual = some v ↔
      d.chooseVisual attrs = some v ∧ v ∈ d.visuals := by
    intro attrs
    rw [Option.bind_eq_some_iff]
    constructor
    · intro h
      obtain ⟨u, hu, hlookup⟩ := h
      obtain ⟨rfl, hknown⟩ := lookupVisual_iff.1 hlookup
      exact ⟨hu, hknown⟩
    · intro h
      exact ⟨v, h.1, lookupVisual_iff.2 ⟨rfl, h.2⟩⟩
  have hnone : ∀ attrs, (d.chooseVisual attrs).bind d.lookupVisual = none ↔
      ∀ u, d.chooseVisual attrs = some u → u ∉ d.visuals := by
    intro attrs
    rw [Option.bind_eq_none_iff]
    apply forall_congr'
    intro u
    apply imp_congr_right
    intro _
    rw [XDisplay.lookupVisual]
    by_cases hu : u ∈ d.visuals
    · rw [if_pos hu]
      exact iff_of_false (Option.some_ne_none u) (not_not_intro hu)
    · rw [if_neg hu]
      exact iff_of_true rfl hu
  constructor
  · intro h
    obtain ⟨before, attrs, after, hrows, hv, hbefore⟩ := h
    obtain ⟨hchoose, hknown⟩ := (hchosen attrs).1 hv
    exact ⟨before, attrs, after, hrows, hchoose, hknown, fun attrs' h' => (hnone attrs').1 (hbefore attrs' h')⟩
  · intro h
    obtain ⟨before, attrs, after, hrows, hchoose, hknown, hbefore⟩ := h
    exact ⟨before, attrs, after, hrows, (hchosen attrs).2 ⟨hchoose, hknown⟩, fun attrs' h' => (hnone attrs').2 (hbefore attrs' h')⟩

theorem best_valid (h : d.gsVisualGlGetBestForDisplay = some v) : v ∈ d.visuals := by
  obtain ⟨_, _, _, _, _, hknown, _⟩ := best_iff.1 h
  exact hknown

/- What the helper prints is read back. -/
theorem scanVisual_output (d : XDisplay) : scanVisual d.glHelperOutput = d.gsVisualGlGetBestForDisplay := by
  rw [XDisplay.glHelperOutput]
  cases hbest : d.gsVisualGlGetBestForDisplay with
  | none => decide
  | some v =>
    have hsmall : v < 2 ^ 32 := (d.valid v (best_valid hbest)).2
    have hend : ∀ c ∈ ['\n'].head?, Numeral.digitValue c = none := by
      intro c hc
      cases hc
      decide
    have hliteral : literal "0x".toList ('0' :: 'x' :: Numeral.printHex v ++ ['\n']) = some (Numeral.printHex v ++ ['\n']) := rfl
    dsimp only
    rw [Nat.mod_eq_of_lt hsmall, scanVisual, hliteral, Option.bind_some, Numeral.scanHex_printed (by omega) hend]
    rfl

/- The helper gets the display of the window. -/
theorem getenv_spawned (h : DefinedLast environ) :
    getenv "DISPLAY".toList (spawnMakeEnvironmentForDisplay environ displayName none) = some displayName := by
  obtain ⟨hone, entry, hlast, hdefines⟩ := h
  have hbegins : ∃ e ∈ environ, beginsDisplay e = true := by
    have hmem := List.mem_of_getLast? hlast
    rw [List.mem_filter] at hmem
    exact ⟨entry, hmem.1, hmem.2⟩
  obtain ⟨before, e, after, rfl, he, hafter⟩ := exists_last_display hbegins
  obtain ⟨hbegins', hnone, -⟩ := filter_begins hafter
  have hsame : entry = e := by
    rw [List.filter_append, List.filter_cons_of_pos he, hbegins', List.getLast?_concat] at hlast
    exact (Option.some.inj hlast).symm
  subst hsame
  have hbefore : before.filter definesDisplay = [] := by
    rw [List.filter_append, List.filter_cons_of_pos hdefines, hnone, List.length_append, List.length_singleton] at hone
    exact List.length_eq_zero_iff.1 (by omega)
  have hfind : (before ++ displayEntry displayName :: after).find? definesDisplay = some (displayEntry displayName) := by
    rw [← List.head?_filter, List.filter_append, hbefore, List.filter_cons_of_pos (defines_displayEntry displayName)]
    rfl
  rw [environment_replaced he hafter]
  exact congrArg (Option.map (·.drop 8)) hfind

/-- A window gets only a visual of its own display, whatever the environment, the helper and the
other displays are. -/
theorem window_visual_known (h : w.getBestVisualForDisplay environ displayName d = some v) : v ∈ d.visuals := by
  rw [XWorld.getBestVisualForDisplay] at h
  split at h
  · split at h
    · split at h
      · obtain ⟨rfl, hknown⟩ := lookupVisual_iff.1 h
        exact hknown
      · cases h
    · cases h
  · cases h

/-- The text that the helper prints loses nothing: a window gets the visual of the first row of the
attributes for which its display offers one that gdk knows, and none if there is no such row. -/
theorem window_visual_iff (hspawns : w.spawns = true) (hdisplay : w.display displayName = some d)
    (hdefined : DefinedLast environ) :
    w.getBestVisualForDisplay environ displayName d = some v ↔
      ∃ before attrs after, GlxAttr.attrs = before ++ attrs :: after ∧ d.chooseVisual attrs = some v ∧ v ∈ d.visuals ∧
        ∀ attrs' ∈ before, ∀ v', d.chooseVisual attrs' = some v' → v' ∉ d.visuals := by
  have houtput : w.helperOutput (spawnMakeEnvironmentForDisplay environ displayName none) = d.glHelperOutput := by
    rw [XWorld.helperOutput, getenv_spawned hdefined, Option.bind_some, hdisplay]
  rw [← best_iff, XWorld.getBestVisualForDisplay, if_pos hspawns, houtput, scanVisual_output]
  cases hbest : d.gsVisualGlGetBestForDisplay with
  | none => exact Iff.rfl
  | some u =>
    have hknown := best_valid hbest
    dsimp only
    rw [if_pos (d.valid u hknown).1, lookupVisual_iff, Option.some_inj]
    exact and_iff_left hknown

/- A display with one visual of each of two rows, the better of which gdk does not know. -/
def twoVisuals : XDisplay where
  visuals := [0x21]
  chooseVisual attrs := if attrs = GlxAttr.rgb 8 then some 0x23 else if attrs = GlxAttr.rgb 4 then some 0x21 else none
  valid := by decide

theorem window_visual_two :
    (XWorld.mk (fun name => if name = ":1".toList then some twoVisuals else none) true).getBestVisualForDisplay
      ["PATH=/bin".toList, "DISPLAY=:0".toList] ":1".toList twoVisuals = some 0x21 := by
  have hdisplay : (if ":1".toList = ":1".toList then some twoVisuals else none) = some twoVisuals := if_pos rfl
  apply (window_visual_iff rfl hdisplay ?_).2
  · exact ⟨GlxAttr.attrs.take 7, GlxAttr.rgb 4, GlxAttr.attrs.drop 8, by decide, by decide, by decide, by decide⟩
  · exact ⟨by decide +kernel, "DISPLAY=:0".toList, by decide +kernel, by decide +kernel⟩

end MateScreensaver
