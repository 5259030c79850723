import MateScreensaver.Apart
import MateScreensaver.Lock

/-!
The two bus connections of the listener: what gs_listener_acquire sets up on
each, what a Disconnected signal takes away and what reinit_dbus brings back.
-/

namespace MateScreensaver
open Runs System

/- A rule of dbus_bus_add_match for signals; a signal carries the same three in
its header. -/
structure MatchRule where
  sender : Option String
  interface : String
  member : String
deriving DecidableEq, Repr

/- The rule lets a signal through that a service sends. -/
def MatchRule.admits (r : MatchRule) (sender interface member : String) : Bool :=
  (r.sender.isNone || r.sender = some sender) && r.interface = interface && r.member = member

def listenerService : String := "org.mate.ScreenSaver"
def listenerPath : String := "/org/mate/ScreenSaver"
def fdoListenerService : String := "org.freedesktop.ScreenSaver"
def fdoListenerPaths : List String := ["/org/freedesktop/ScreenSaver", "/ScreenSaver"]
def systemdLogindService : String := "org.freedesktop.login1"
def systemdLogindInterface : String := "org.freedesktop.login1.Manager"
def systemdLogindSessionInterface : String := "org.freedesktop.login1.Session"
def ckService : String := "org.freedesktop.ConsoleKit"
def ckSessionInterface : String := "org.freedesktop.ConsoleKit.Session"
def dbusService : String := "org.freedesktop.DBus"
def dbusInterfaceProperties : String := "org.freedesktop.DBus.Properties"

def nameOwnerChangedRule : MatchRule := ⟨some dbusService, dbusService, "NameOwnerChanged"⟩

/- In the order of gs-listener-dbus.c:2425..2447 -/
def logindRules : List MatchRule :=
  [⟨some systemdLogindService, systemdLogindSessionInterface, "Unlock"⟩,
   ⟨some systemdLogindService, systemdLogindSessionInterface, "Lock"⟩,
   ⟨some systemdLogindService, systemdLogindInterface, "PrepareForSleep"⟩,
   ⟨some systemdLogindService, dbusInterfaceProperties, "PropertiesChanged"⟩]

/- In the order of gs-listener-dbus.c:2454..2468 -/
def ckRules : List MatchRule :=
  [⟨none, ckSessionInterface, "Unlock"⟩, ⟨none, ckSessionInterface, "Lock"⟩,
   ⟨none, ckSessionInterface, "ActiveChanged"⟩]

/- A DBusConnection as far as the listener sets it up. -/
structure Link where
  connected : Bool := true
  filter : Bool := false
  objectPaths : List String := []
  names : List String := []
  rules : List MatchRule := []
deriving DecidableEq, Repr

/- The two connections and the pending timers of reinit_dbus. -/
structure Links where
  connection : Option Link := none
  systemConnection : Option Link := none
  reinit : Nat := 0
deriving DecidableEq, Repr

/- Whether dbus_bus_get gets a connection to either bus. -/
structure Found where
  session : Bool
  system : Bool

inductive RequestName
  | error | primaryOwner | exists | alreadyOwner
deriving DecidableEq, Repr

/- What gs_listener_acquire meets on the session bus. -/
structure AcquireEnv where
  running : Bool
  registered : Bool
  acquired : RequestName
  fdoAcquired : RequestName

/- dbus_bus_get when there is no connection yet; what it gives has nothing set up. -/
def busGet (found : Bool) : Option Link → Option Link
  | some l => some l
  | none => if found then some {} else none

namespace Link

def requestName (name : String) (reply : RequestName) (l : Link) : Link :=
  match reply with
  | .primaryOwner | .alreadyOwner => { l with names := l.names ++ [name] }
  | .error | .exists => l

def addMatches (rules : List MatchRule) (l : Link) : Link := { l with rules := l.rules ++ rules }

/- A signal arrives, and the filter function sees it. -/
def hears (sender interface member : String) (l : Link) : Bool :=
  l.connected && l.filter && l.rules.any fun r => r.admits sender interface member

end Link

namespace Links

/- gs-listener-dbus.c:1973 -/
def gsListenerDbusInit (found : Found) (b : Links) : Bool × Links :=
  let b := { b with connection := busGet found.session b.connection }
  if b.connection.isNone then (false, b)
  else
    let b := { b with systemConnection := busGet found.system b.systemConnection }
    (b.systemConnection.isSome, b)

/- gs-listener-dbus.c:2014; the result asks for one more try. -/
def reinitDbus (found : Found) (b : Links) : Bool × Links :=
  let (initialized, b) := b.gsListenerDbusInit found
  (!initialized, b)

/- The rules that gs-listener-dbus.c:2423..2469 adds on the system bus. -/
def systemRules (config : BuildConfig) (haveSystemd : Bool) : List MatchRule :=
  if config.withSystemd && haveSystemd then logindRules
  else if config.withConsoleKit then ckRules
  else []

/- gs-listener-dbus.c:2298 -/
def gsListenerAcquire (config : BuildConfig) (haveSystemd : Bool) (env : AcquireEnv) (b : Links) : Bool × Links :=
  match b.connection with
  | none => (false, b)
  | some l =>
    if !l.connected then (false, b)
    else if env.running then (false, b)
    else if !env.registered then (false, b)
    else
      let l := { l with objectPaths := l.objectPaths ++ [listenerPath] }
      let l := l.requestName listenerService env.acquired
      if env.acquired = .exists then (false, { b with connection := some l })
      else
        let l := l.requestName fdoListenerService env.fdoAcquired
        let l := if env.fdoAcquired ≠ .error then
            { l with objectPaths := l.objectPaths ++ fdoListenerPaths }
          else l
        let l := { l with filter := true }.addMatches [nameOwnerChangedRule]
        let system := b.systemConnection.map fun l =>
          { l with filter := true }.addMatches (systemRules config haveSystemd)
        (env.acquired ≠ .error, { b with connection := some l, systemConnection := system })

/- gs-listener-dbus.c:2053; only a filter that is installed runs. -/
def sessionDisconnected (b : Links) : Option Links :=
  (b.connection.filter Link.connected).map fun l =>
    if l.filter then { b with connection := none, reinit := b.reinit + 1 }
    else { b with connection := some { l with connected := false } }

/- gs-listener-dbus.c:2093 -/
def systemDisconnected (b : Links) : Option Links :=
  (b.systemConnection.filter Link.connected).map fun l =>
    if l.filter then { b with systemConnection := none, reinit := b.reinit + 1 }
    else { b with systemConnection := some { l with connected := false } }

/- A timer of reinit_dbus fires; FALSE takes it off the loop. -/
def reinitTimeout (found : Found) (b : Links) : Option Links :=
  if b.reinit = 0 then none
  else
    let (again, b) := b.reinitDbus found
    some (if again then b else { b with reinit := b.reinit - 1 })

end Links

/- The header of a system signal: service, interface and member. None for one the
listener has no use for. -/
def SystemSignal.header : SystemSignal → Option (String × String × String)
  | .logindUnlock _ => some (systemdLogindService, systemdLogindSessionInterface, "Unlock")
  | .logindLock _ => some (systemdLogindService, systemdLogindSessionInterface, "Lock")
  | .prepareForSleep _ => some (systemdLogindService, systemdLogindInterface, "PrepareForSleep")
  | .propertiesChanged _ _ => some (systemdLogindService, dbusInterfaceProperties, "PropertiesChanged")
  | .ckUnlock _ => some (ckService, ckSessionInterface, "Unlock")
  | .ckLock _ => some (ckService, ckSessionInterface, "Lock")
  | .ckActiveChanged _ _ => some (ckService, ckSessionInterface, "ActiveChanged")
  | .unknown => none

/- Whether the process gets to see an event at all. A call comes in on an object
path, or through the filter. -/
def Links.delivers (b : Links) : Event → Bool
  | .systemSignal _ signal =>
    signal.header.any fun (sender, interface, member) =>
      b.systemConnection.any fun l => l.hears sender interface member
  | .nameOwnerChanged _ _ _ =>
    b.connection.any fun l => l.hears dbusService dbusService "NameOwnerChanged"
  | .sessionCall _ _ => b.connection.any fun l => l.connected && (l.filter || !l.objectPaths.isEmpty)
  | _ => true

inductive LinkEvent
  | sessionDisconnected
  | systemDisconnected
  | reinit (found : Found)
  | event (env : Env) (e : Event)

/- The screensaver behind its two connections. -/
structure Connected where
  screensaver : Screensaver
  links : Links

namespace Connected

def next (x : Connected) : LinkEvent → Option Connected
  | .sessionDisconnected => x.links.sessionDisconnected.map fun b => { x with links := b }
  | .systemDisconnected => x.links.systemDisconnected.map fun b => { x with links := b }
  | .reinit found => (x.links.reinitTimeout found).map fun b => { x with links := b }
  | .event env e =>
    if x.links.delivers e then (x.screensaver.step (env, e)).map fun s => { x with screensaver := s }
    else some x

end Connected

/-- The screensaver once gs_listener_init has connected and gs_listener_acquire
has succeeded. -/
def connected : System Connected LinkEvent where
  init x := ∃ b env found reply, let s := Boot.start b env
    x.screensaver = s ∧
      ((({} : Links).gsListenerDbusInit found).2.gsListenerAcquire s.config s.listener.haveSystemd reply) =
        (true, x.links)
  next := Connected.next

/-! ### What is set up -/

/-- Whatever connection is there has all that gs_listener_acquire installs. -/
structure Links.SetUp (rules : List MatchRule) (b : Links) : Prop where
  session : ∀ l, b.connection = some l →
    l.filter = true ∧ nameOwnerChangedRule ∈ l.rules ∧ listenerService ∈ l.names
  system : ∀ l, b.systemConnection = some l → l.filter = true ∧ ∀ r ∈ rules, r ∈ l.rules

/- dbus_bus_get has a new connection to give. -/
def Links.Renews (found : Found) (b : Links) : Prop :=
  (b.connection = none ∧ found.session = true) ∨
    (b.systemConnection = none ∧ found.system = true ∧ (b.connection ≠ none ∨ found.session = true))

namespace Links

variable {b b' : Links} {rules : List MatchRule} {found : Found}

theorem requestName_names (name : String) {reply : RequestName} (l : Link) (he : reply ≠ .error)
    (hx : reply ≠ .exists) : name ∈ (l.requestName name reply).names := by
  cases reply with
  | error => exact absurd rfl he
  | «exists» => exact absurd rfl hx
  | primaryOwner => exact List.mem_append_right _ List.mem_cons_self
  | alreadyOwner => exact List.mem_append_right _ List.mem_cons_self

theorem requestName_keeps (name : String) (reply : RequestName) {l : Link} {n : String} (h : n ∈ l.names) :
    n ∈ (l.requestName name reply).names := by
  cases reply with
  | error => exact h
  | «exists» => exact h
  | primaryOwner => exact List.mem_append_left _ h
  | alreadyOwner => exact List.mem_append_left _ h

theorem acquire_setUp {config : BuildConfig} {haveSystemd : Bool} {env : AcquireEnv}
    (h : b.gsListenerAcquire config haveSystemd env = (true, b')) :
    b'.SetUp (systemRules config haveSystemd) := by
  simp only [gsListenerAcquire] at h
  split at h
  · cases h
  · next l hl =>
    split at h
    · cases h
    split at h
    · cases h
    split at h
    · cases h
    split at h
    · cases h
    next hexists =>
    obtain ⟨hacquired, rfl⟩ := Prod.mk.inj h
    have herror : env.acquired ≠ .error := of_decide_eq_true hacquired
    refine ⟨fun l' hl' => ?_, fun l' hl' => ?_⟩
    · cases hl'
      refine ⟨rfl, List.mem_append_right _ List.mem_cons_self, ?_⟩
      have hname := requestName_keeps fdoListenerService env.fdoAcquired
        (requestName_names listenerService { l with objectPaths := l.objectPaths ++ [listenerPath] } herror hexists)
      show listenerService ∈ Link.names (ite _ _ _)
      split
      · exact hname
      · exact hname
    · obtain ⟨l'', -, rfl⟩ := Option.map_eq_some_iff.1 hl'
      exact ⟨rfl, fun r hr => List.mem_append_right _ hr⟩

theorem SetUp.sessionDisconnected (hb : b.SetUp rules) (h : b.sessionDisconnected = some b') : b'.SetUp rules := by
  obtain ⟨l, hl, rfl⟩ := Option.map_eq_some_iff.1 h
  have hfilter := (hb.session l (Option.filter_eq_some_iff.1 hl).1).1
  rw [if_pos hfilter]
  exact ⟨fun l' hl' => (by cases hl'), hb.system⟩

theorem SetUp.systemDisconnected (hb : b.SetUp rules) (h : b.systemDisconnected = some b') : b'.SetUp rules := by
  obtain ⟨l, hl, rfl⟩ := Option.map_eq_some_iff.1 h
  have hfilter := (hb.system l (Option.filter_eq_some_iff.1 hl).1).1
  rw [if_pos hfilter]
  exact ⟨hb.session, fun l' hl' => (by cases hl')⟩

/-- A retry that has nothing new to give leaves the connections as they are. -/
theorem init_same (h : ¬ b.Renews found) : (b.gsListenerDbusInit found).2 = b := by
  obtain ⟨connection, systemConnection, reinit⟩ := b
  obtain ⟨session, system⟩ := found
  cases connection <;> cases systemConnection <;> cases session <;> cases system <;>
    first | rfl | simp [Renews] at h

/-- One that has gives a connection without a filter. -/
theorem init_bare (h : b.Renews found) : ¬ (b.gsListenerDbusInit found).2.SetUp rules := by
  intro hs
  obtain ⟨connection, systemConnection, reinit⟩ := b
  obtain ⟨session, system⟩ := found
  rcases h with ⟨rfl, rfl⟩ | ⟨rfl, rfl, hconnection⟩
  · have hsession := (hs.session {} (by cases systemConnection <;> rfl)).1
    cases hsession
  · have hsystem := (hs.system {} (by cases connection <;> simp_all [gsListenerDbusInit, busGet])).1
    cases hsystem

theorem reinitTimeout_links (h : b.reinitTimeout found = some b') :
    b'.connection = (b.gsListenerDbusInit found).2.connection ∧
      b'.systemConnection = (b.gsListenerDbusInit found).2.systemConnection := by
  have hu : (b.reinitDbus found).2 = (b.gsListenerDbusInit found).2 := rfl
  rw [← hu]
  rw [reinitTimeout] at h
  split at h
  · cases h
  · generalize b.reinitDbus found = r at h ⊢
    obtain ⟨again, u⟩ := r
    cases again with
    | true =>
      cases h
      exact ⟨rfl, rfl⟩
    | false =>
      cases h
      exact ⟨rfl, rfl⟩

theorem SetUp.reinit_iff (hb : b.SetUp rules) (h : b.reinitTimeout found = some b') :
    b'.SetUp rules ↔ ¬ b.Renews found := by
  obtain ⟨hconnection, hsystem⟩ := reinitTimeout_links h
  have hsame : b'.SetUp rules ↔ (b.gsListenerDbusInit found).2.SetUp rules :=
    ⟨fun h => ⟨hconnection ▸ h.session, hsystem ▸ h.system⟩,
      fun h => ⟨hconnection.symm ▸ h.session, hsystem.symm ▸ h.system⟩⟩
  rw [hsame]
  constructor
  · exact fun hs hn => init_bare hn hs
  · intro hn
    rw [init_same hn]
    exact hb

end Links

/-! ### Runs -/

namespace Connected
open Screensaver (hearsLogind desk granted)

variable {x y : Connected} {e : LinkEvent}

/- The rules the listener of this screensaver needs on the system bus. -/
def rules (x : Connected) : List MatchRule :=
  Links.systemRules x.screensaver.config x.screensaver.listener.haveSystemd

/- A Lock of logind for the own session gets as far as the LOCK signal. -/
def LockReaches (x : Connected) : Prop :=
  ∀ env sender path, x.links.systemConnection.any Link.connected = true → x.screensaver.quit = false →
    x.screensaver.hearsLogind = true → x.screensaver.messagePathIsOurSession path = true →
    x.next (.event env (.systemSignal sender (.logindLock path))) =
      some { x with screensaver := (x.screensaver.tick env).listenerLockCb env }

structure Served (x : Connected) : Prop where
  links : x.links.SetUp x.rules
  lock : x.LockReaches

/- A retry finds nothing new. -/
def Settled (x : Connected) (e : LinkEvent) : Prop := ∀ found, e = .reinit found → ¬ x.links.Renews found

theorem logindLock_heard {l : Link} {config : BuildConfig} {haveSystemd : Bool}
    (hl : (config.withSystemd && haveSystemd) = true) (hc : l.connected = true) (hf : l.filter = true)
    (hr : ∀ r ∈ Links.systemRules config haveSystemd, r ∈ l.rules) :
    l.hears systemdLogindService systemdLogindSessionInterface "Lock" = true := by
  let r : MatchRule := ⟨some systemdLogindService, systemdLogindSessionInterface, "Lock"⟩
  have hmem : r ∈ l.rules := by
    apply hr
    rw [Links.systemRules, if_pos hl]
    exact List.mem_cons_of_mem _ List.mem_cons_self
  have hany : (l.rules.any fun r => r.admits systemdLogindService systemdLogindSessionInterface "Lock") = true :=
    List.any_eq_true.2 ⟨r, hmem, rfl⟩
  rw [Link.hears, hc, hf, hany]
  rfl

theorem Served.of_setUp (h : x.links.SetUp x.rules) : x.Served := by
  refine ⟨h, fun env sender path hlive hquit hl hpath => ?_⟩
  obtain ⟨l, hsome, hc⟩ := Option.any_eq_true _ _ |>.1 hlive
  obtain ⟨hf, hr⟩ := h.system l hsome
  have hheard := logindLock_heard hl hc hf hr
  have hdelivers : x.links.delivers (.systemSignal sender (.logindLock path)) = true := by
    show (x.links.systemConnection.any fun l =>
      l.hears systemdLogindService systemdLogindSessionInterface "Lock") = true
    rw [hsome]
    exact hheard
  have hl' : ((x.screensaver.tick env).config.withSystemd && (x.screensaver.tick env).listener.haveSystemd) = true := hl
  have hpath' : (x.screensaver.tick env).messagePathIsOurSession path = true := hpath
  have hstep : x.screensaver.step (env, .systemSignal sender (.logindLock path)) =
      some ((x.screensaver.tick env).listenerLockCb env) := by
    rw [Screensaver.step, hquit]
    show (x.screensaver.tick env).listenerDbusHandleSystemMessage env sender (.logindLock path) = _
    rw [Screensaver.listenerDbusHandleSystemMessage, if_pos hl']
    simp only [Screensaver.handleLogindSignal, hpath', if_true]
  simp only [next, hdelivers, if_true, hstep, Option.map_some]

theorem served_iff : x.Served ↔ x.links.SetUp x.rules := ⟨Served.links, .of_setUp⟩

theorem rules_step {env : Env} {ev : Event} {s : Screensaver} {b : Links}
    (hs : x.screensaver.Agreed ∧ x.screensaver.saver.Housed) (h : x.screensaver.step (env, ev) = some s) :
    (Connected.mk s b).rules = x.rules := by
  have hapart := (Screensaver.parts_step (p := False) hs.1 hs.2 False.elim h).apart
  have hconfig : s.config = x.screensaver.config := hapart.config
  have hsystemd : s.listener.haveSystemd = x.screensaver.listener.haveSystemd := hapart.haveSystemd
  rw [rules, rules, hconfig, hsystemd]

theorem served_step (hs : x.screensaver.Agreed ∧ x.screensaver.saver.Housed) (hx : x.Served)
    (h : connected.next x e = some y) : (y.Served ↔ x.Settled e) ∧
      (y.screensaver.Agreed ∧ y.screensaver.saver.Housed) := by
  cases e with
  | sessionDisconnected =>
    obtain ⟨b, hb, rfl⟩ := Option.map_eq_some_iff.1 h
    have hserved : (Connected.mk x.screensaver b).Served := .of_setUp (hx.links.sessionDisconnected hb)
    exact ⟨⟨fun _ _ he => (by cases he), fun _ => hserved⟩, hs⟩
  | systemDisconnected =>
    obtain ⟨b, hb, rfl⟩ := Option.map_eq_some_iff.1 h
    have hserved : (Connected.mk x.screensaver b).Served := .of_setUp (hx.links.systemDisconnected hb)
    exact ⟨⟨fun _ _ he => (by cases he), fun _ => hserved⟩, hs⟩
  | reinit found =>
    obtain ⟨b, hb, rfl⟩ := Option.map_eq_some_iff.1 h
    have hiff := hx.links.reinit_iff hb
    refine ⟨served_iff.trans (hiff.trans ⟨fun hn found' he => ?_, fun hn => hn found rfl⟩), hs⟩
    cases he
    exact hn
  | event env ev =>
    have hsettled : x.Settled (.event env ev) := fun _ he => (by cases he)
    simp only [connected, next] at h
    split at h
    · obtain ⟨s, hstep, rfl⟩ := Option.map_eq_some_iff.1 h
      have hsetUp : x.links.SetUp (Connected.mk s x.links).rules := by
        rw [rules_step hs hstep]
        exact hx.links
      exact ⟨⟨fun _ => hsettled, fun _ => .of_setUp hsetUp⟩,
        Screensaver.housed_invariant.step _ (env, ev) s hs hstep⟩
    · cases h
      exact ⟨⟨fun _ => hsettled, fun _ => hx⟩, hs⟩

/-- From the acquisition on, every state has its connections set up in full and
hears the Lock of logind, exactly when no retry of the run gets a new connection. -/
theorem served_always_iff (hx : connected.init x) (es : List LinkEvent) :
    connected.Always Served x es ↔ connected.Meets Settled x es := by
  obtain ⟨b, env, found, reply, hs, hacquire⟩ := hx
  have hserved : x.Served := by
    apply Served.of_setUp
    rw [rules, hs]
    exact Links.acquire_setUp hacquire
  have hhoused : x.screensaver.Agreed ∧ x.screensaver.saver.Housed := hs ▸ Screensaver.start_housed b env
  exact always_iff_meets (I := fun x => (x.screensaver.Agreed ∧ x.screensaver.saver.Housed) ∧ x.Served)
    (fun x h => h.2) (fun x e y h hn => (served_step h.1 h.2 hn).1)
    (fun x e y h hn hc => ⟨(served_step h.1 h.2 hn).2, (served_step h.1 h.2 hn).1.2 hc⟩) ⟨hhoused, hserved⟩ es

/- The first owner of the name, with the other name to be had as well. -/
def welcome : AcquireEnv := ⟨false, true, .primaryOwner, .primaryOwner⟩

/- Both connections set up, with logind on the system bus. -/
def desktop : Connected where
  screensaver := desk.start granted
  links := ((({} : Links).gsListenerDbusInit ⟨true, true⟩).2.gsListenerAcquire ⟨true, false⟩ true welcome).2

theorem desktop_init : connected.init desktop := ⟨desk, granted, ⟨true, true⟩, welcome, rfl, rfl⟩

theorem desktop_served : connected.Always Served desktop [.sessionDisconnected] := by
  refine (served_always_iff desktop_init _).2 fun t ht => ⟨fun found he => ?_, trivial⟩
  cases he

/- The system bus goes away and is back at the first retry, without a filter. -/
def busRestarted : List LinkEvent := [.systemDisconnected, .reinit ⟨true, true⟩]

theorem restart_unserved : ¬ ∀ x, connected.Reachable x → x.Served := by
  intro h
  let x := (connected.run desktop busRestarted).get (by decide)
  have hrun : connected.run desktop busRestarted = some x := by simp [x]
  have hx := (h x (reachable_run (.start desktop_init) hrun)).links.system {} rfl
  exact absurd hx.1 (by decide)

end Connected

end MateScreensaver
