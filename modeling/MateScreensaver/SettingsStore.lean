import Mathlib.Algebra.Group.Int.Defs
import Mathlib.Algebra.Group.Nat.Defs
import MateScreensaver.Lib.Runs
import MateScreensaver.Prefs

/-!
The settings store behind the preferences: three schemas, what is read from them at
start (gs-prefs.c:268), and the signals that keep the fields up to date (gs-prefs.c:338).
-/

namespace MateScreensaver
open Runs

/- The GSettings objects of gs_prefs_init. -/
inductive Schema
  | screensaver
  | lockdown
  | session
deriving DecidableEq

/- A value of the store, by its type. -/
inductive Setting
  | boolean (b : Bool)
  | int (n : Int)
  | string (s : String)
  | enum (m : GSSaverMode)
  | strv (l : List String)
  | other
deriving DecidableEq

/- g_settings_get_boolean and its like. The type of a key is fixed by its schema, so
no other case comes up. -/
def Setting.getBoolean : Setting → Bool
  | .boolean b => b
  | _ => false

def Setting.getInt : Setting → Int
  | .int n => n
  | _ => 0

def Setting.getString : Setting → String
  | .string s => s
  | _ => ""

def Setting.getEnum : Setting → GSSaverMode
  | .enum m => m
  | _ => .blankOnly

def Setting.getStrv : Setting → List String
  | .strv l => l
  | _ => []

abbrev Store := Schema → String → Setting

/- The keys that key_changed_cb compares with, in its order. -/
inductive PrefKey
  | mode
  | themes
  | idleDelay
  | powerDelay
  | lockDelay
  | idleActivationEnabled
  | lockEnabled
  | lockDisable
  | userSwitchDisable
  | cycleDelay
  | keyboardEnabled
  | keyboardCommand
  | statusMessageEnabled
  | logoutEnabled
  | logoutDelay
  | logoutCommand
  | userSwitchEnabled
deriving DecidableEq

namespace PrefKey

/- gs-prefs.c:36 -/
def name : PrefKey → String
  | mode => "mode"
  | themes => "themes"
  | idleDelay => "idle-delay"
  | powerDelay => "power-management-delay"
  | lockDelay => "lock-delay"
  | idleActivationEnabled => "idle-activation-enabled"
  | lockEnabled => "lock-enabled"
  | lockDisable => "disable-lock-screen"
  | userSwitchDisable => "disable-user-switching"
  | cycleDelay => "cycle-delay"
  | keyboardEnabled => "embedded-keyboard-enabled"
  | keyboardCommand => "embedded-keyboard-command"
  | statusMessageEnabled => "status-message-enabled"
  | logoutEnabled => "logout-enabled"
  | logoutDelay => "logout-delay"
  | logoutCommand => "logout-command"
  | userSwitchEnabled => "user-switch-enabled"

def all : List PrefKey :=
  [mode, themes, idleDelay, powerDelay, lockDelay, idleActivationEnabled, lockEnabled, lockDisable,
    userSwitchDisable, cycleDelay, keyboardEnabled, keyboardCommand, statusMessageEnabled, logoutEnabled,
    logoutDelay, logoutCommand, userSwitchEnabled]

/- The chain of strcmp. -/
def ofName (key : String) : Option PrefKey := all.find? fun k => k.name = key

/- Where gs_prefs_load_from_settings looks it up. -/
def schema : PrefKey → Schema
  | lockDisable | userSwitchDisable => .lockdown
  | idleDelay => .session
  | _ => .screensaver

theorem ofName_name (k : PrefKey) : ofName k.name = some k := by
  cases k <;> decide

theorem name_of_ofName {key : String} {k : PrefKey} (h : ofName key = some k) : k.name = key := by
  have hfound := List.find?_some (p := fun k : PrefKey => k.name = key) h
  exact of_decide_eq_true hfound

end PrefKey

/- The keys of the schema in data/org.mate.screensaver.gschema.xml.in; the other two
schemas are not this program's, and have no key under a name that is read elsewhere. -/
def Schema.declares (schema : Schema) (key : String) : Bool :=
  match schema with
  | .screensaver => key ∈ ["idle-activation-enabled", "lock-enabled", "mode", "themes", "power-management-delay",
      "cycle-delay", "lock-delay", "embedded-keyboard-enabled", "embedded-keyboard-command", "logout-enabled",
      "logout-delay", "logout-command", "user-switch-enabled", "lock-dialog-theme", "lock-dialog-time-format",
      "lock-dialog-date-format", "status-message-enabled", "picture-filename", "screensaver-arguments"]
  | schema => (PrefKey.ofName key).all fun k => k.schema = schema

/- The values under the keys of gs_prefs_load_from_settings. -/
def Store.settings (st : Store) : Settings where
  idleActivationEnabled := (st .screensaver "idle-activation-enabled").getBoolean
  lockEnabled := (st .screensaver "lock-enabled").getBoolean
  lockDisable := (st .lockdown "disable-lock-screen").getBoolean
  userSwitchDisable := (st .lockdown "disable-user-switching").getBoolean
  idleDelay := (st .session "idle-delay").getInt
  powerDelay := (st .screensaver "power-management-delay").getInt
  lockDelay := (st .screensaver "lock-delay").getInt
  cycleDelay := (st .screensaver "cycle-delay").getInt
  mode := (st .screensaver "mode").getEnum
  themes := (st .screensaver "themes").getStrv
  keyboardEnabled := (st .screensaver "embedded-keyboard-enabled").getBoolean
  keyboardCommand := (st .screensaver "embedded-keyboard-command").getString
  statusMessageEnabled := (st .screensaver "status-message-enabled").getBoolean
  logoutEnabled := (st .screensaver "logout-enabled").getBoolean
  logoutCommand := (st .screensaver "logout-command").getString
  logoutDelay := (st .screensaver "logout-delay").getInt
  userSwitchEnabled := (st .screensaver "user-switch-enabled").getBoolean

/- gs-prefs.c:268 on the store -/
def GSPrefs.loadFromSettings (st : Store) : GSPrefs := .load st.settings

/- What key_changed_cb reads: the key that is named, of the object that emits. -/
def Store.keyChange (st : Store) (schema : Schema) (key : String) : KeyChange :=
  let value := st schema key
  match PrefKey.ofName key with
  | some .mode => .mode value.getEnum
  | some .themes => .themes value.getStrv
  | some .idleDelay => .idleDelay value.getInt
  | some .powerDelay => .powerDelay value.getInt
  | some .lockDelay => .lockDelay value.getInt
  | some .idleActivationEnabled => .idleActivationEnabled value.getBoolean
  | some .lockEnabled => .lockEnabled value.getBoolean
  | some .lockDisable => .lockDisable value.getBoolean
  | some .userSwitchDisable => .userSwitchDisable value.getBoolean
  | some .cycleDelay => .cycleDelay value.getInt
  | some .keyboardEnabled => .keyboardEnabled value.getBoolean
  | some .keyboardCommand => .keyboardCommand value.getString
  | some .statusMessageEnabled => .statusMessageEnabled value.getBoolean
  | some .logoutEnabled => .logoutEnabled value.getBoolean
  | some .logoutDelay => .logoutDelay value.getInt
  | some .logoutCommand => .logoutCommand value.getString
  | some .userSwitchEnabled => .userSwitchEnabled value.getBoolean
  | none => .other key

/- gs-prefs.c:338 -/
def GSPrefs.keyChangedCb (st : Store) (schema : Schema) (key : String) (p : GSPrefs) : GSPrefs :=
  p.keyChanged (st.keyChange schema key)

/-! ### Store and fields -/

/-- The store, the fields, and the changes whose signal has not been delivered. -/
structure Preferences where
  store : Store
  prefs : GSPrefs
  pending : List (Schema × String)

inductive PrefsEvent
  | change (schema : Schema) (key : String) (value : Setting)
  | deliver (i : Nat)

namespace Preferences

/- Of the session's keys only the idle delay is listened to. -/
def heard (schema : Schema) (key : String) : Bool := schema ≠ .session || key = PrefKey.idleDelay.name

/- A value is written under one of the keys of a schema, or one of the signals comes
in, when the value may have changed again. -/
def next (x : Preferences) : PrefsEvent → Option Preferences
  | .change schema key value =>
    if schema.declares key then
      some { x with
        store := fun s k => if s = schema ∧ k = key then value else x.store s k
        pending := if heard schema key then x.pending ++ [(schema, key)] else x.pending }
    else none
  | .deliver i => x.pending[i]?.map fun c =>
    { x with prefs := x.prefs.keyChangedCb x.store c.1 c.2, pending := x.pending.eraseIdx i }

/- gs_prefs_init on a store, with all signals connected. -/
def system : System Preferences PrefsEvent where
  init x := x.prefs = .loadFromSettings x.store ∧ x.pending = []
  next := Preferences.next

end Preferences

/-! ### Fields -/

/- The field that goes with a key. -/
def GSPrefs.at (p : GSPrefs) : PrefKey → Setting
  | .mode => .enum p.mode
  | .themes => .strv p.themes
  | .idleDelay => .int p.timeout
  | .powerDelay => .int p.powerTimeout
  | .lockDelay => .int p.lockTimeout
  | .idleActivationEnabled => .boolean p.idleActivationEnabled
  | .lockEnabled => .boolean p.lockEnabled
  | .lockDisable => .boolean p.lockDisabled
  | .userSwitchDisable => .boolean p.userSwitchDisabled
  | .cycleDelay => .int p.cycle
  | .keyboardEnabled => .boolean p.keyboardEnabled
  | .keyboardCommand => .strv p.keyboardCommand.toList
  | .statusMessageEnabled => .boolean p.statusMessageEnabled
  | .logoutEnabled => .boolean p.logoutEnabled
  | .logoutDelay => .int p.logoutTimeout
  | .logoutCommand => .strv p.logoutCommand.toList
  | .userSwitchEnabled => .boolean p.userSwitchEnabled

/- What a value becomes in its field. -/
def PrefKey.stored (k : PrefKey) (value : Setting) : Setting :=
  match k with
  | .mode => .enum value.getEnum
  | .themes => .strv value.getStrv
  | .idleDelay => .int (prefsTimeout value.getInt)
  | .powerDelay => .int (prefsPowerTimeout value.getInt)
  | .lockDelay => .int (prefsLockTimeout value.getInt)
  | .cycleDelay => .int (prefsCycleTimeout value.getInt)
  | .logoutDelay => .int (prefsLogoutTimeout value.getInt)
  | .keyboardCommand | .logoutCommand => .strv [value.getString]
  | _ => .boolean value.getBoolean

variable {st : Store} {schema : Schema} {key : String} {p q : GSPrefs}

theorem toList_inj {o o' : Option String} (h : o.toList = o'.toList) : o = o' := by
  cases o with
  | none =>
    cases o' with
    | none => rfl
    | some s => cases h
  | some s =>
    cases o' with
    | none => cases h
    | some s' =>
      cases h
      rfl

/- The fields are all there is. -/
theorem GSPrefs.eq_of_at (h : ∀ k, p.at k = q.at k) : p = q := by
  have hmode := Setting.enum.inj (h .mode)
  have hthemes := Setting.strv.inj (h .themes)
  have htimeout := Setting.int.inj (h .idleDelay)
  have hpower := Setting.int.inj (h .powerDelay)
  have hlock := Setting.int.inj (h .lockDelay)
  have hcycle := Setting.int.inj (h .cycleDelay)
  have hlogout := Setting.int.inj (h .logoutDelay)
  have hkeyboard := toList_inj (Setting.strv.inj (h .keyboardCommand))
  have hcommand := toList_inj (Setting.strv.inj (h .logoutCommand))
  have hidle := Setting.boolean.inj (h .idleActivationEnabled)
  have henabled := Setting.boolean.inj (h .lockEnabled)
  have hdisabled := Setting.boolean.inj (h .lockDisable)
  have hswitch := Setting.boolean.inj (h .userSwitchDisable)
  have hembedded := Setting.boolean.inj (h .keyboardEnabled)
  have hstatus := Setting.boolean.inj (h .statusMessageEnabled)
  have hoffered := Setting.boolean.inj (h .logoutEnabled)
  have huser := Setting.boolean.inj (h .userSwitchEnabled)
  cases p
  cases q
  simp only [GSPrefs.mk.injEq]
  exact ⟨hidle, henabled, hoffered, hdisabled, hswitch, huser, hembedded, hstatus, hpower, htimeout, hlock, hlogout,
    hcycle, hcommand, hkeyboard, hthemes, hmode⟩

theorem load_at (st : Store) (k : PrefKey) : (GSPrefs.loadFromSettings st).at k = k.stored (st k.schema k.name) := by
  cases k <;> rfl

/-- A signal brings the field of its key up to date, and no other. -/
theorem keyChangedCb_at (hschema : ∀ k, PrefKey.ofName key = some k → k.schema = schema) (j : PrefKey) :
    (p.keyChangedCb st schema key).at j =
      if PrefKey.ofName key = some j then (GSPrefs.loadFromSettings st).at j else p.at j := by
  rw [GSPrefs.keyChangedCb, Store.keyChange]
  cases hk : PrefKey.ofName key with
  | none => rfl
  | some k =>
    obtain rfl := hschema k hk
    obtain rfl := PrefKey.name_of_ofName hk
    rw [load_at]
    cases k <;> cases j <;> rfl

theorem declares_schema (h : schema.declares key = true) (k : PrefKey) (hk : PrefKey.ofName key = some k) :
    k.schema = schema := by
  obtain rfl := PrefKey.name_of_ofName hk
  cases schema with
  | screensaver =>
    revert h
    cases k <;> decide
  | lockdown =>
    have hall : (PrefKey.ofName k.name).all (fun k => k.schema = Schema.lockdown) = true := h
    rw [PrefKey.ofName_name] at hall
    exact of_decide_eq_true hall
  | session =>
    have hall : (PrefKey.ofName k.name).all (fun k => k.schema = Schema.session) = true := h
    rw [PrefKey.ofName_name] at hall
    exact of_decide_eq_true hall

/-! ### Timeouts -/

/- The value after clamping is at least `least`, at most 480, and counts in `unit`. -/
theorem clampDelay_spec {least dflt unit : Int} (hleast : least ≤ dflt) (hdflt : dflt ≤ 480) (value : Int) :
    ∃ n, least ≤ n ∧ n ≤ 480 ∧ clampDelay least dflt unit value = n * unit := by
  refine ⟨_, ?_, ?_, rfl⟩
  · split
    · omega
    · split <;> omega
  · split <;> omega

/-- A field in its range, which int arithmetic on 32 bits does not leave. -/
structure InRange (low high x : Int) : Prop where
  low : low ≤ x
  high : x ≤ high
  exact : x.bmod (2 ^ 32) = x

structure GSPrefs.InRanges (p : GSPrefs) : Prop where
  timeout : InRange 60000 28800000 p.timeout
  power : InRange 1000 480000 p.powerTimeout
  lock : InRange 0 28800000 p.lockTimeout
  cycle : InRange 60000 28800000 p.cycle
  logout : InRange 0 28800000 p.logoutTimeout

theorem inRange_of_le {low high x : Int} (h0 : 0 ≤ low) (hmax : high < 2 ^ 31) (hlow : low ≤ x) (hhigh : x ≤ high) :
    InRange low high x := by
  refine ⟨hlow, hhigh, Int.bmod_eq_of_le ?_ ?_⟩
  · omega
  · omega

theorem clampDelay_inRange {least dflt unit low high : Int} (hleast : least ≤ dflt) (hdflt : dflt ≤ 480)
    (h0 : 0 ≤ least) (hunit : 0 ≤ unit) (hlow : low = least * unit) (hhigh : high = 480 * unit) (hmax : high < 2 ^ 31)
    (value : Int) : InRange low high (clampDelay least dflt unit value) := by
  obtain ⟨n, hn, hmost, hclamp⟩ := @clampDelay_spec least dflt unit hleast hdflt value
  subst hlow hhigh
  rw [hclamp]
  exact inRange_of_le (Int.mul_nonneg h0 hunit) hmax (Int.mul_le_mul_of_nonneg_right hn hunit)
    (Int.mul_le_mul_of_nonneg_right hmost hunit)

theorem prefsTimeout_inRange (v : Int) : InRange 60000 28800000 (prefsTimeout v) :=
  @clampDelay_inRange 1 10 60000 60000 28800000 (by decide) (by decide) (by decide) (by decide) rfl rfl (by decide) v

theorem prefsPowerTimeout_inRange (v : Int) : InRange 1000 480000 (prefsPowerTimeout v) :=
  @clampDelay_inRange 1 60 1000 1000 480000 (by decide) (by decide) (by decide) (by decide) rfl rfl (by decide) v

theorem prefsLockTimeout_inRange (v : Int) : InRange 0 28800000 (prefsLockTimeout v) :=
  @clampDelay_inRange 0 0 60000 0 28800000 (by decide) (by decide) (by decide) (by decide) rfl rfl (by decide) v

theorem prefsCycleTimeout_inRange (v : Int) : InRange 60000 28800000 (prefsCycleTimeout v) :=
  @clampDelay_inRange 1 1 60000 60000 28800000 (by decide) (by decide) (by decide) (by decide) rfl rfl (by decide) v

theorem prefsLogoutTimeout_inRange (v : Int) : InRange 0 28800000 (prefsLogoutTimeout v) :=
  @clampDelay_inRange 0 0 60000 0 28800000 (by decide) (by decide) (by decide) (by decide) rfl rfl (by decide) v

theorem load_inRanges (st : Store) : (GSPrefs.loadFromSettings st).InRanges where
  timeout := prefsTimeout_inRange _
  power := prefsPowerTimeout_inRange _
  lock := prefsLockTimeout_inRange _
  cycle := prefsCycleTimeout_inRange _
  logout := prefsLogoutTimeout_inRange _

theorem GSPrefs.InRanges.keyChanged (h : p.InRanges) (k : KeyChange) : (p.keyChanged k).InRanges := by
  obtain ⟨htimeout, hpower, hlock, hcycle, hlogout⟩ := h
  cases k with
  | idleDelay v => exact ⟨prefsTimeout_inRange v, hpower, hlock, hcycle, hlogout⟩
  | powerDelay v => exact ⟨htimeout, prefsPowerTimeout_inRange v, hlock, hcycle, hlogout⟩
  | lockDelay v => exact ⟨htimeout, hpower, prefsLockTimeout_inRange v, hcycle, hlogout⟩
  | cycleDelay v => exact ⟨htimeout, hpower, hlock, prefsCycleTimeout_inRange v, hlogout⟩
  | logoutDelay v => exact ⟨htimeout, hpower, hlock, hcycle, prefsLogoutTimeout_inRange v⟩
  | _ => exact ⟨htimeout, hpower, hlock, hcycle, hlogout⟩

/-- What each timeout counts, clamped and in its unit, of these values of its keys. -/
structure GSPrefs.Counts (p : GSPrefs) (value : PrefKey → Int) : Prop where
  timeout : p.timeout = 60000 * (if value .idleDelay < 1 then 10 else min (value .idleDelay) 480)
  power : p.powerTimeout = 1000 * (if value .powerDelay < 1 then 60 else min (value .powerDelay) 480)
  lock : p.lockTimeout = 60000 * max 0 (min (value .lockDelay) 480)
  cycle : p.cycle = 60000 * max 1 (min (value .cycleDelay) 480)
  logout : p.logoutTimeout = 60000 * max 0 (min (value .logoutDelay) 480)

theorem prefsTimeout_eq (v : Int) : prefsTimeout v = 60000 * (if v < 1 then 10 else min v 480) := by
  unfold prefsTimeout clampDelay
  dsimp only
  omega

theorem prefsPowerTimeout_eq (v : Int) : prefsPowerTimeout v = 1000 * (if v < 1 then 60 else min v 480) := by
  unfold prefsPowerTimeout clampDelay
  dsimp only
  omega

theorem prefsLockTimeout_eq (v : Int) : prefsLockTimeout v = 60000 * max 0 (min v 480) := by
  unfold prefsLockTimeout clampDelay
  dsimp only
  omega

theorem prefsCycleTimeout_eq (v : Int) : prefsCycleTimeout v = 60000 * max 1 (min v 480) := by
  unfold prefsCycleTimeout clampDelay
  dsimp only
  omega

theorem prefsLogoutTimeout_eq (v : Int) : prefsLogoutTimeout v = 60000 * max 0 (min v 480) := by
  unfold prefsLogoutTimeout clampDelay
  dsimp only
  omega

theorem counts_of_at {value : PrefKey → Setting} (h : ∀ k, p.at k = k.stored (value k)) :
    p.Counts fun k => (value k).getInt where
  timeout := (Setting.int.inj (h .idleDelay)).trans (prefsTimeout_eq _)
  power := (Setting.int.inj (h .powerDelay)).trans (prefsPowerTimeout_eq _)
  lock := (Setting.int.inj (h .lockDelay)).trans (prefsLockTimeout_eq _)
  cycle := (Setting.int.inj (h .cycleDelay)).trans (prefsCycleTimeout_eq _)
  logout := (Setting.int.inj (h .logoutDelay)).trans (prefsLogoutTimeout_eq _)

/-! ### The fields follow the store -/

namespace Preferences

variable {x y : Preferences} {e : PrefsEvent}

/-- Every field is current, as far as no signal of its key is on its way. -/
structure Coherent (x : Preferences) : Prop where
  declared : ∀ c ∈ x.pending, ∀ k, PrefKey.ofName c.2 = some k → k.schema = c.1
  fields : ∀ k, (∀ c ∈ x.pending, PrefKey.ofName c.2 ≠ some k) → x.prefs.at k = (GSPrefs.loadFromSettings x.store).at k
  stored : ∀ k, ∃ value, x.prefs.at k = k.stored value
  ranges : x.prefs.InRanges

theorem Coherent.change {value : Setting} (h : x.Coherent) (hn : x.next (.change schema key value) = some y) :
    y.Coherent := by
  simp only [next] at hn
  split at hn
  · next hdeclares =>
    obtain rfl := Option.some.inj hn
    refine ⟨fun c hc k hk => ?_, fun k hk => ?_, h.stored, h.ranges⟩
    · dsimp only at hc
      split at hc
      · obtain hc | hc := List.mem_append.1 hc
        · exact h.declared c hc k hk
        · obtain rfl := List.mem_singleton.1 hc
          exact declares_schema hdeclares k hk
      · exact h.declared c hc k hk
    · -- a key with no signal on its way is not the one that was written
      dsimp only at hk ⊢
      have hother : ¬ (k.schema = schema ∧ k.name = key) := by
        rintro ⟨rfl, rfl⟩
        have hheard : heard k.schema k.name = true := by cases k <;> decide
        rw [if_pos hheard] at hk
        exact hk _ (List.mem_append_right _ (List.mem_singleton_self _)) (PrefKey.ofName_name k)
      have hold : ∀ c ∈ x.pending, PrefKey.ofName c.2 ≠ some k := by
        intro c hc
        refine hk c ?_
        split
        · exact List.mem_append_left _ hc
        · exact hc
      rw [h.fields k hold, load_at, load_at, if_neg hother]
  · cases hn

theorem mem_eraseIdx_or {α : Type} {l : List α} {i : Nat} {a b : α} (hi : l[i]? = some a) (hb : b ∈ l) :
    b = a ∨ b ∈ l.eraseIdx i := by
  obtain ⟨j, hj⟩ := List.mem_iff_getElem?.1 hb
  by_cases hij : j = i
  · subst hij
    exact .inl (Option.some.inj (hj.symm.trans hi))
  · exact .inr (List.mem_eraseIdx_iff_getElem?.2 ⟨j, hij, hj⟩)

theorem Coherent.deliver {i : Nat} (h : x.Coherent) (hn : x.next (.deliver i) = some y) : y.Coherent := by
  obtain ⟨c, hc, rfl⟩ := Option.map_eq_some_iff.1 hn
  have hdeclared := h.declared c (List.mem_of_getElem? hc)
  refine ⟨fun c' hc' => h.declared c' (List.mem_of_mem_eraseIdx hc'), fun k hk => ?_, fun k => ?_,
    h.ranges.keyChanged _⟩
  · dsimp only at hk ⊢
    rw [keyChangedCb_at hdeclared]
    split
    · rfl
    · next hother =>
      refine h.fields k fun c' hc' => ?_
      obtain rfl | hc' := mem_eraseIdx_or hc hc'
      · exact hother
      · exact hk c' hc'
  · dsimp only
    rw [keyChangedCb_at hdeclared]
    split
    · exact ⟨_, load_at x.store k⟩
    · exact h.stored k

theorem coherent_invariant : system.Invariant Coherent where
  start x := by
    rintro ⟨hprefs, hpending⟩
    refine ⟨fun c hc => ?_, fun k _ => ?_, fun k => ?_, ?_⟩
    · rw [hpending] at hc
      cases hc
    · rw [hprefs]
    · rw [hprefs]
      exact ⟨_, load_at x.store k⟩
    · rw [hprefs]
      exact load_inRanges _
  step x e y h hn := by
    cases e with
    | change schema key value => exact h.change hn
    | deliver i => exact h.deliver hn

/- Each timeout counts a value of its key, and the stored one unless a signal of the key is
on its way. -/
theorem Coherent.counts (h : x.Coherent) : ∃ value : PrefKey → Int, x.prefs.Counts value ∧
    ∀ k, (∀ c ∈ x.pending, PrefKey.ofName c.2 ≠ some k) → value k = (x.store k.schema k.name).getInt := by
  have hvalue : ∀ k, ∃ value, x.prefs.at k = k.stored value ∧
      ((∀ c ∈ x.pending, PrefKey.ofName c.2 ≠ some k) → value = x.store k.schema k.name) := by
    intro k
    by_cases hk : ∀ c ∈ x.pending, PrefKey.ofName c.2 ≠ some k
    · exact ⟨_, (h.fields k hk).trans (load_at x.store k), fun _ => rfl⟩
    · obtain ⟨value, hstored⟩ := h.stored k
      exact ⟨value, hstored, fun hno => absurd hno hk⟩
  choose value hstored hcurrent using hvalue
  exact ⟨_, counts_of_at hstored, fun k hk => congrArg Setting.getInt (hcurrent k hk)⟩

/-- Whatever the store was and however it has changed: once every signal has been
delivered the fields are those a restart would load, each of the timeouts is in its range
all the time, and it is the clamped value of its key in its unit. -/
theorem prefs_follow (x : Preferences) (h : system.Reachable x) :
    (x.pending = [] → x.prefs = .loadFromSettings x.store) ∧ x.prefs.InRanges ∧
      ∃ value : PrefKey → Int, x.prefs.Counts value ∧
        ∀ k, (∀ c ∈ x.pending, PrefKey.ofName c.2 ≠ some k) → value k = (x.store k.schema k.name).getInt := by
  have hx := coherent_invariant.reachable h
  refine ⟨fun hpending => GSPrefs.eq_of_at fun k => hx.fields k fun c hc => ?_, hx.ranges, hx.counts⟩
  rw [hpending] at hc
  cases hc

/- A store of nothing but types. -/
def blankStore : Preferences := ⟨fun _ _ => .other, .loadFromSettings fun _ _ => .other, []⟩

/- Two delays are set, and the signal of the second comes in first. -/
theorem prefs_follow_delays : ∃ x, system.run blankStore
    [.change .screensaver "lock-delay" (.int 5), .change .session "idle-delay" (.int 15), .deliver 1,
      .deliver 0] = some x ∧
      x.prefs.lockTimeout = 300000 ∧ x.prefs.timeout = 900000 ∧ x.prefs.powerTimeout = 60000 ∧
      (x.pending = [] → x.prefs = .loadFromSettings x.store) ∧ x.prefs.InRanges ∧
        ∃ value : PrefKey → Int, x.prefs.Counts value ∧
          ∀ k, (∀ c ∈ x.pending, PrefKey.ofName c.2 ≠ some k) → value k = (x.store k.schema k.name).getInt := by
  obtain ⟨x, hx, hlock, htimeout, hpower⟩ : ∃ x, system.run blankStore
      [.change .screensaver "lock-delay" (.int 5), .change .session "idle-delay" (.int 15), .deliver 1,
        .deliver 0] = some x ∧
        x.prefs.lockTimeout = 300000 ∧ x.prefs.timeout = 900000 ∧ x.prefs.powerTimeout = 60000 :=
    ⟨_, rfl, by decide⟩
  exact ⟨x, hx, hlock, htimeout, hpower, prefs_follow x (System.reachable_run (.start ⟨rfl, rfl⟩) hx)⟩

end Preferences

end MateScreensaver
