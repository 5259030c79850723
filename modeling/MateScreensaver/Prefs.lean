import MateScreensaver.State

/-!
The preferences (gs-prefs.c): each key of the three schemas and what its value
becomes.
-/

namespace MateScreensaver

/- gs-prefs.h; all timeouts are in milliseconds. -/
structure GSPrefs where
  idleActivationEnabled : Bool := true
  lockEnabled : Bool := true
  logoutEnabled : Bool := false
  lockDisabled : Bool := false
  userSwitchDisabled : Bool := false
  userSwitchEnabled : Bool := false
  keyboardEnabled : Bool := false
  statusMessageEnabled : Bool := false
  powerTimeout : Int := 60000
  timeout : Int := 600000
  lockTimeout : Int := 0
  logoutTimeout : Int := 14400000
  cycle : Int := 600000
  logoutCommand : Option String := none
  keyboardCommand : Option String := none
  themes : List String := []
  mode : GSSaverMode := .single
  deriving DecidableEq

/- A changed key with its new value, by schema key. -/
inductive KeyChange
  | mode (m : GSSaverMode)
  | themes (l : List String)
  | idleDelay (v : Int)
  | powerDelay (v : Int)
  | lockDelay (v : Int)
  | idleActivationEnabled (b : Bool)
  | lockEnabled (b : Bool)
  | lockDisable (b : Bool)
  | userSwitchDisable (b : Bool)
  | cycleDelay (v : Int)
  | keyboardEnabled (b : Bool)
  | keyboardCommand (c : String)
  | statusMessageEnabled (b : Bool)
  | logoutEnabled (b : Bool)
  | logoutDelay (v : Int)
  | logoutCommand (c : String)
  | userSwitchEnabled (b : Bool)
  | other (key : String)

/- The clamps of gs-prefs.c:138..266: too small a value becomes `dflt`, and
nothing is above 480. -/
def clampDelay (least dflt unit value : Int) : Int :=
  let value := if value < least then dflt else value
  let value := if value > 480 then 480 else value
  value * unit

def prefsTimeout (value : Int) : Int := clampDelay 1 10 60000 value
def prefsPowerTimeout (value : Int) : Int := clampDelay 1 60 1000 value
def prefsLockTimeout (value : Int) : Int := clampDelay 0 0 60000 value
def prefsCycleTimeout (value : Int) : Int := clampDelay 1 1 60000 value
def prefsLogoutTimeout (value : Int) : Int := clampDelay 0 0 60000 value

/- The values stored under the keys, in the order of gs-prefs.c:268. -/
structure Settings where
  idleActivationEnabled : Bool := true
  lockEnabled : Bool := true
  lockDisable : Bool := false
  userSwitchDisable : Bool := false
  idleDelay : Int := 5
  powerDelay : Int := 30
  lockDelay : Int := 0
  cycleDelay : Int := 10
  mode : GSSaverMode := .blankOnly
  themes : List String := []
  keyboardEnabled : Bool := false
  keyboardCommand : String := ""
  statusMessageEnabled : Bool := true
  logoutEnabled : Bool := false
  logoutCommand : String := ""
  logoutDelay : Int := 120
  userSwitchEnabled : Bool := true

/- gs-prefs.c:268 -/
def GSPrefs.load (st : Settings) : GSPrefs where
  idleActivationEnabled := st.idleActivationEnabled
  lockEnabled := st.lockEnabled
  lockDisabled := st.lockDisable
  userSwitchDisabled := st.userSwitchDisable
  timeout := prefsTimeout st.idleDelay
  powerTimeout := prefsPowerTimeout st.powerDelay
  lockTimeout := prefsLockTimeout st.lockDelay
  cycle := prefsCycleTimeout st.cycleDelay
  mode := st.mode
  themes := st.themes
  keyboardEnabled := st.keyboardEnabled
  keyboardCommand := some st.keyboardCommand
  statusMessageEnabled := st.statusMessageEnabled
  logoutEnabled := st.logoutEnabled
  logoutCommand := some st.logoutCommand
  logoutTimeout := prefsLogoutTimeout st.logoutDelay
  userSwitchEnabled := st.userSwitchEnabled

/- gs-prefs.c:338, without the signal that follows. -/
def GSPrefs.keyChanged (p : GSPrefs) : KeyChange → GSPrefs
  | .mode m => { p with mode := m }
  | .themes l => { p with themes := l }
  | .idleDelay v => { p with timeout := prefsTimeout v }
  | .powerDelay v => { p with powerTimeout := prefsPowerTimeout v }
  | .lockDelay v => { p with lockTimeout := prefsLockTimeout v }
  | .idleActivationEnabled b => { p with idleActivationEnabled := b }
  | .lockEnabled b => { p with lockEnabled := b }
  | .lockDisable b => { p with lockDisabled := b }
  | .userSwitchDisable b => { p with userSwitchDisabled := b }
  | .cycleDelay v => { p with cycle := prefsCycleTimeout v }
  | .keyboardEnabled b => { p with keyboardEnabled := b }
  | .keyboardCommand c => { p with keyboardCommand := some c }
  | .statusMessageEnabled b => { p with statusMessageEnabled := b }
  | .logoutEnabled b => { p with logoutEnabled := b }
  | .logoutDelay v => { p with logoutTimeout := prefsLogoutTimeout v }
  | .logoutCommand c => { p with logoutCommand := some c }
  | .userSwitchEnabled b => { p with userSwitchEnabled := b }
  | .other _ => p

end MateScreensaver
