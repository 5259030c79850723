import MateScreensaver.Activity
import MateScreensaver.Clients

/-!
The inhibitors that are passed on to the session manager. What was exchanged with
it is recorded; between events the cookies it has given out and not got back are
those that the entries of the inhibitors remember.
-/

namespace MateScreensaver
open Runs System Ledger History

/- One blocking call to the session manager and what came back. -/
inductive Exchange
  | inhibit (answer : Option Nat)
  | uninhibit (cookie : Nat) (answered : Bool)
  deriving DecidableEq

namespace Exchange

def ofMessage (env : Env) : BusMessage → Option Exchange
  | .sessionInhibit _ _ => some (.inhibit env.sessionInhibit)
  | .sessionUninhibit cookie => some (.uninhibit cookie env.sessionUninhibit)
  | _ => none

/- The account of the session manager: Inhibit opens a grant, Uninhibit ends it. -/
def dues : Rules Exchange Nat Unit where
  accepts x c _ := x = .inhibit (some c)
  ends x c _ := ∃ ok, x = .uninhibit c ok

def outstanding (log : List Exchange) : Set Nat := {c | Outstanding dues log c ()}

/- Success: a cookie that is not zero and was never given out before. -/
def Succeeds (before : List Exchange) : Exchange → Prop
  | .inhibit none => False
  | .inhibit (some c) => c ≠ 0 ∧ .inhibit (some c) ∉ before
  | .uninhibit _ answered => answered = true

/-- Every call so far was answered, Inhibit with a fresh cookie. -/
def Answered (log : List Exchange) : Prop := ∀ before x, before ++ [x] <+: log → x.Succeeds before

variable {log : List Exchange} {x : Exchange}

theorem answered_iff : Answered log ↔ Upheld (fun before x => x.Succeeds before) log := Iff.rfl

theorem Answered.start {xs : List Exchange} (h : Answered (log ++ xs)) : Answered log :=
  answered_iff.2 (answered_iff.1 h).start

theorem answered_nil : Answered [] := answered_iff.2 upheld_nil

theorem Answered.next (h : Answered log) (hx : x.Succeeds log) : Answered (log ++ [x]) :=
  answered_iff.2 ((answered_iff.1 h).next hx)

theorem Answered.last (h : Answered (log ++ [x])) : x.Succeeds log := (answered_iff.1 h).last

end Exchange

namespace Screensaver
open Exchange

variable {p : Prop} {env : Env} {s₀ s t : Screensaver} {e : Event} {log xs ys : List Exchange}

/- What a step says to the session manager. -/
def conversation (s : Screensaver) (label : Env × Event) : List Exchange :=
  match s.step label with
  | none => []
  | some t => (t.sent.drop s.sent.length).filterMap (Exchange.ofMessage label.1)

/-! ### The account -/

abbrev Holding := Nat → Option RefEntry

def release (env : Env) (entry : RefEntry) : List Exchange :=
  if entry.foreignCookie = 0 then [] else [.uninhibit entry.foreignCookie env.sessionUninhibit]

/-- How the table of inhibitors moves, one entry at a time, and what is said. -/
inductive Swaps (env : Env) (first : Holding) : List Exchange → Holding → Prop
  | refl : Swaps env first [] first
  | inhibit {xs : List Exchange} {held : Holding} {k : Nat} {entry : RefEntry}
      (before : Swaps env first xs held) (free : held k = none) :
      Swaps env first (xs ++ [.inhibit env.sessionInhibit]) (Function.update held k
        (some { entry with foreignCookie := env.sessionInhibit.getD 0 }))
  | uninhibit {xs : List Exchange} {held : Holding} {k : Nat} {entry : RefEntry}
      (before : Swaps env first xs held) (found : held k = some entry) :
      Swaps env first (xs ++ release env entry) (Function.update held k none)

variable {first held held' : Holding}

theorem Swaps.trans (h : Swaps env first xs held) (h' : Swaps env held ys held') :
    Swaps env first (xs ++ ys) held' := by
  induction h' with
  | refl =>
    rw [List.append_nil]
    exact h
  | inhibit before free ih =>
    rw [← List.append_assoc]
    exact .inhibit ih free
  | uninhibit before found ih =>
    rw [← List.append_assoc]
    exact .uninhibit ih found

def heldFor (held : Holding) (c : Nat) : Prop := ∃ k entry, held k = some entry ∧ entry.foreignCookie = c

/-- The table and the account agree, and no cookie was given back too often. -/
structure Balanced (held : Holding) (log : List Exchange) : Prop where
  faithful : Faithful dues (fun c _ => heldFor held c) log
  nonzero : ∀ k entry, held k = some entry → entry.foreignCookie ≠ 0
  apart : ∀ k k' entry entry', held k = some entry → held k' = some entry' →
    entry.foreignCookie = entry'.foreignCookie → k = k'
  granted : ∀ c, heldFor held c → .inhibit (some c) ∈ log
  kept : ∀ c, heldFor held c → log.count (.uninhibit c true) = 0
  back : ∀ c, .inhibit (some c) ∈ log → ¬ heldFor held c → log.count (.uninhibit c true) = 1
  known : ∀ c ok, .uninhibit c ok ∈ log → .inhibit (some c) ∈ log

theorem stored_some {k k' : Nat} {x y : RefEntry} (hx : Function.update held k (some y) k' = some x) :
    (k' = k ∧ x = y) ∨ (k' ≠ k ∧ held k' = some x) := by
  by_cases hk : k' = k
  · rw [hk, Function.update_self] at hx
    exact .inl ⟨hk, (Option.some.inj hx).symm⟩
  · rw [Function.update_of_ne hk] at hx
    exact .inr ⟨hk, hx⟩

theorem dropped_some {k k' : Nat} {x : RefEntry} (hx : Function.update held k none k' = some x) :
    k' ≠ k ∧ held k' = some x := by
  by_cases hk : k' = k
  · rw [hk, Function.update_self] at hx
    cases hx
  · rw [Function.update_of_ne hk] at hx
    exact ⟨hk, hx⟩

theorem heldFor_stored {k : Nat} (free : held k = none) (y : RefEntry) (d : Nat) :
    heldFor (Function.update held k (some y)) d ↔ d = y.foreignCookie ∨ heldFor held d := by
  constructor
  · rintro ⟨k', x, hx, rfl⟩
    rcases stored_some hx with ⟨-, rfl⟩ | ⟨-, hx⟩
    · exact .inl rfl
    · exact .inr ⟨k', x, hx, rfl⟩
  · rintro (rfl | ⟨k', x, hx, rfl⟩)
    · exact ⟨k, y, Function.update_self .., rfl⟩
    · refine ⟨k', x, ?_, rfl⟩
      rw [Function.update_of_ne]
      · exact hx
      · rintro rfl
        rw [free] at hx
        cases hx

theorem Balanced.heldFor_dropped (h : Balanced held log) {k : Nat} {entry : RefEntry} (found : held k = some entry)
    (d : Nat) : heldFor (Function.update held k none) d ↔ d ≠ entry.foreignCookie ∧ heldFor held d := by
  constructor
  · rintro ⟨k', x, hx, rfl⟩
    obtain ⟨hk, hx⟩ := dropped_some hx
    exact ⟨fun heq => hk (h.apart k' k x entry hx found heq), k', x, hx, rfl⟩
  · rintro ⟨hne, k', x, hx, rfl⟩
    refine ⟨k', x, ?_, rfl⟩
    rw [Function.update_of_ne]
    · exact hx
    · rintro rfl
      rw [found] at hx
      cases hx
      exact hne rfl

theorem count_inhibit (c d : Nat) : (log ++ [Exchange.inhibit (some c)]).count (.uninhibit d true) =
    log.count (.uninhibit d true) := by
  simp [List.count_append]

theorem count_uninhibit {c d : Nat} (hd : d ≠ c) : (log ++ [Exchange.uninhibit c true]).count (.uninhibit d true) =
    log.count (.uninhibit d true) := by
  have hne : ¬ c = d := fun heq => hd heq.symm
  simp [List.count_append, hne]

theorem Balanced.inhibit (h : Balanced held log) {k c : Nat} {entry : RefEntry} (free : held k = none)
    (hs : Exchange.Succeeds log (.inhibit (some c))) :
    Balanced (Function.update held k (some { entry with foreignCookie := c })) (log ++ [.inhibit (some c)]) := by
  obtain ⟨hzero, hfresh⟩ := hs
  have hfor : ∀ d, heldFor (Function.update held k (some { entry with foreignCookie := c })) d ↔
      d = c ∨ heldFor held d := heldFor_stored free { entry with foreignCookie := c }
  refine ⟨h.faithful.append_one_iff.2 fun d _ => ?_, fun k' x hx => ?_, fun k1 k2 x1 x2 h1 h2 heq => ?_,
    fun d hd => ?_, fun d hd => ?_, fun d hd hno => ?_, fun d ok hd => ?_⟩
  · rw [hfor]
    refine or_congr ⟨fun hd => by rw [hd]; rfl, fun hd => ?_⟩ ⟨fun hd => ⟨hd, ?_⟩, And.left⟩
    · have hd' : Exchange.inhibit (some c) = .inhibit (some d) := hd
      cases hd'
      rfl
    · rintro ⟨ok, hok⟩
      cases hok
  · rcases stored_some hx with ⟨-, rfl⟩ | ⟨-, hx⟩
    · exact hzero
    · exact h.nonzero k' x hx
  · -- nothing held for the new cookie before
    have hapart : ∀ k' x, held k' = some x → x.foreignCookie ≠ c := fun k' x hx hc =>
      hfresh (h.granted c ⟨k', x, hx, hc⟩)
    rcases stored_some h1 with ⟨hk1, rfl⟩ | ⟨-, hold1⟩
    · rcases stored_some h2 with ⟨hk2, -⟩ | ⟨-, hold2⟩
      · rw [hk1, hk2]
      · exact absurd heq.symm (hapart k2 x2 hold2)
    · rcases stored_some h2 with ⟨-, rfl⟩ | ⟨-, hold2⟩
      · exact absurd heq (hapart k1 x1 hold1)
      · exact h.apart k1 k2 x1 x2 hold1 hold2 heq
  · rcases (hfor d).1 hd with rfl | hd
    · exact List.mem_append_right _ (List.mem_singleton_self _)
    · exact List.mem_append_left _ (h.granted d hd)
  · rw [count_inhibit]
    rcases (hfor d).1 hd with rfl | hd
    · exact List.count_eq_zero.2 fun hm => hfresh (h.known d true hm)
    · exact h.kept d hd
  · rw [hfor, not_or] at hno
    rw [count_inhibit]
    rcases List.mem_append.1 hd with hd | hd
    · exact h.back d hd hno.2
    · cases List.mem_singleton.1 hd
      exact absurd rfl hno.1
  · rcases List.mem_append.1 hd with hd | hd
    · exact List.mem_append_left _ (h.known d ok hd)
    · cases List.mem_singleton.1 hd

theorem Balanced.uninhibit (h : Balanced held log) {k : Nat} {entry : RefEntry} (found : held k = some entry) :
    Balanced (Function.update held k none) (log ++ [.uninhibit entry.foreignCookie true]) := by
  have hfor := h.heldFor_dropped found
  have hmine : heldFor held entry.foreignCookie := ⟨k, entry, found, rfl⟩
  refine ⟨h.faithful.append_one_iff.2 fun d _ => ?_, fun k' x hx => h.nonzero k' x (dropped_some hx).2,
    fun k1 k2 x1 x2 h1 h2 heq => h.apart k1 k2 x1 x2 (dropped_some h1).2 (dropped_some h2).2 heq,
    fun d hd => List.mem_append_left _ (h.granted d ((hfor d).1 hd).2), fun d hd => ?_, fun d hd hno => ?_,
    fun d ok hd => ?_⟩
  · rw [hfor]
    constructor
    · rintro ⟨hne, hd⟩
      refine .inr ⟨hd, ?_⟩
      rintro ⟨ok, hok⟩
      cases hok
      exact hne rfl
    · rintro (hd | ⟨hd, hend⟩)
      · cases hd
      · exact ⟨fun heq => hend ⟨true, by rw [heq]⟩, hd⟩
  · obtain ⟨hne, hd⟩ := (hfor d).1 hd
    rw [count_uninhibit hne]
    exact h.kept d hd
  · have hd' : Exchange.inhibit (some d) ∈ log := by
      rcases List.mem_append.1 hd with hd | hd
      · exact hd
      · cases List.mem_singleton.1 hd
    by_cases heq : d = entry.foreignCookie
    · rw [heq, List.count_append, h.kept _ hmine, List.count_singleton_self]
    · rw [count_uninhibit heq]
      exact h.back d hd' fun hheld => hno ((hfor d).2 ⟨heq, hheld⟩)
  · rcases List.mem_append.1 hd with hd | hd
    · exact List.mem_append_left _ (h.known d ok hd)
    · cases List.mem_singleton.1 hd
      exact List.mem_append_left _ (h.granted _ hmine)

theorem Balanced.swaps (h : Balanced first log) (hs : Swaps env first xs held)
    (ha : Answered (log ++ xs)) : Balanced held (log ++ xs) := by
  induction hs with
  | refl =>
    rw [List.append_nil]
    exact h
  | inhibit before free ih =>
    rw [← List.append_assoc] at ha ⊢
    have hbefore := ih ha.start
    have hsucceeds := ha.last
    cases hc : env.sessionInhibit with
    | none =>
      rw [hc] at hsucceeds
      exact hsucceeds.elim
    | some c =>
      rw [hc] at hsucceeds
      exact hbefore.inhibit free hsucceeds
  | uninhibit before found ih =>
    rw [← List.append_assoc] at ha ⊢
    have hbefore := ih ha.start
    have hzero := hbefore.nonzero _ _ found
    rw [release, if_neg hzero] at ha ⊢
    have hok : env.sessionUninhibit = true := ha.last
    rw [hok]
    exact hbefore.uninhibit found

/-! ### What the code says -/

def holding (s : Screensaver) : Holding := fun k => s.listener.inhibitors.lookup k

/-- Entries are of the kind of their table, and throttlers know no cookie of the
session manager. -/
structure Sorted (s : Screensaver) : Prop where
  own : ∀ type k entry, (s.listener.table type).lookup k = some entry → entry.entryType = type
  zero : ∀ k entry, s.listener.throttlers.lookup k = some entry → entry.foreignCookie = 0

/- What a stretch of code says, and what becomes of the table meanwhile. -/
structure Deals (env : Env) (s t : Screensaver) (new : List BusMessage) : Prop where
  sent : t.sent = s.sent ++ new
  swaps : Swaps env s.holding (new.filterMap (ofMessage env)) t.holding
  sorted : t.Sorted

theorem Sorted.same (h : s.Sorted) (hi : t.listener.inhibitors = s.listener.inhibitors)
    (ht : t.listener.throttlers = s.listener.throttlers) : t.Sorted := by
  have htable : ∀ type, t.listener.table type = s.listener.table type := by
    intro type
    cases type with
    | inhibit => exact hi
    | throttle => exact ht
  exact ⟨fun type k x hx => h.own type k x (htable type ▸ hx), fun k x hx => h.zero k x (ht ▸ hx)⟩

/- Nothing is said to the session manager and the tables stay. -/
theorem deals_quiet {new : List BusMessage} (hs : s.Sorted) (hr : t.registry = s.registry)
    (hsent : t.sent = s.sent ++ new) (hnew : ∀ m ∈ new, ofMessage env m = none) : Deals env s t new := by
  have hi : t.listener.inhibitors = s.listener.inhibitors := congrArg Registry.inhibitors hr
  refine ⟨hsent, ?_, hs.same hi (congrArg Registry.throttlers hr)⟩
  have hheld : t.holding = s.holding := by
    unfold holding
    rw [hi]
  rw [List.filterMap_eq_nil_iff.2 hnew, hheld]
  exact .refl

theorem deals_silent (hs : s.Sorted) (hr : t.registry = s.registry) (hsent : t.sent = s.sent) :
    Deals env s t [] :=
  deals_quiet hs hr (by rw [hsent, List.append_nil]) fun m hm => absurd hm List.not_mem_nil

theorem Deals.trans {u : Screensaver} {new new' : List BusMessage} (h : Deals env s t new)
    (h' : Deals env t u new') : Deals env s u (new ++ new') where
  sent := by rw [h'.sent, h.sent, List.append_assoc]
  swaps := by
    rw [List.filterMap_append]
    exact h.swaps.trans h'.swaps
  sorted := h'.sorted

/- The listener announces that it is active, or that it no longer is. -/
theorem setActive_sent (env : Env) (s : Screensaver) (b : Bool) :
    ∃ new, (s.gsListenerSetActive env b).2.sent = s.sent ++ new ∧ ∀ m ∈ new, ofMessage env m = none := by
  have hcb : (s.listenerActiveChangedCb env b).2.sent = s.sent := by
    simp only [listenerActiveChangedCb]
    split
    · rfl
    · rfl
  have hquiet : ∀ m ∈ [BusMessage.activeChanged b], ofMessage env m = none := by
    intro m hm
    rw [List.mem_singleton.1 hm]
    rfl
  simp only [gsListenerSetActive]
  split
  · exact ⟨[], by simp, by simp⟩
  · split
    · refine ⟨[], ?_, by simp⟩
      rw [List.append_nil]
      split
      · exact hcb
      · exact hcb
    · refine ⟨[.activeChanged b], ?_, hquiet⟩
      rw [listenerSetActiveInternal_eq]
      split
      · exact congrArg (· ++ [BusMessage.activeChanged b]) hcb
      · exact congrArg (· ++ [BusMessage.activeChanged b]) hcb

theorem setSessionIdle_sent (env : Env) (s : Screensaver) (b : Bool) :
    ∃ new, (s.gsListenerSetSessionIdle env b).2.sent = s.sent ++ new ∧ ∀ m ∈ new, ofMessage env m = none := by
  let v := s.modifyListener fun l => { l with sessionIdle := b }
  have hcheck : ∃ new, (v.listenerCheckActivation env).2.sent = s.sent ++ new ∧
      ∀ m ∈ new, ofMessage env m = none := by
    simp only [listenerCheckActivation]
    split
    · exact ⟨[], by simp [v, modifyListener], by simp⟩
    · split
      · exact ⟨[], by simp [v, modifyListener], by simp⟩
      · split
        · exact ⟨[], by simp [v, modifyListener], by simp⟩
        · exact setActive_sent env v true
  simp only [gsListenerSetSessionIdle]
  split
  · exact ⟨[], by simp, by simp⟩
  · split
    · exact ⟨[], by simp, by simp⟩
    · split
      · exact hcheck
      · exact hcheck

theorem Sorted.insert (h : s.Sorted) {type : RefType} {entry : RefEntry} (own : entry.entryType = type)
    (zero : type = .throttle → entry.foreignCookie = 0)
    (ht : ∀ type', t.listener.table type' = if type' = type then
      (s.listener.table type).insert entry.cookie entry else s.listener.table type') : t.Sorted := by
  have hcase : ∀ type' k x, (t.listener.table type').lookup k = some x →
      (type' = type ∧ x = entry) ∨ (s.listener.table type').lookup k = some x := by
    intro type' k x hx
    rw [ht] at hx
    split at hx
    · next heq =>
      rcases Table.lookup_insert_iff.1 hx with ⟨-, rfl⟩ | ⟨-, hx⟩
      · exact .inl ⟨heq, rfl⟩
      · exact .inr (heq ▸ hx)
    · exact .inr hx
  refine ⟨fun type' k x hx => ?_, fun k x hx => ?_⟩
  · rcases hcase type' k x hx with ⟨rfl, rfl⟩ | hx
    · exact own
    · exact h.own type' k x hx
  · rcases hcase .throttle k x hx with ⟨htype, rfl⟩ | hx
    · exact zero htype.symm
    · exact h.zero k x hx

theorem Sorted.mono (h : s.Sorted) (hsub : ∀ type k x, (t.listener.table type).lookup k = some x →
    (s.listener.table type).lookup k = some x) : t.Sorted :=
  ⟨fun type k x hx => h.own type k x (hsub type k x hx), fun k x hx => h.zero k x (hsub .throttle k x hx)⟩

theorem table_setTable (l : GSListener) (type type' : RefType) (tbl : Table Nat RefEntry) :
    (l.setTable type tbl).table type' = if type' = type then tbl else l.table type' := by
  cases type <;> cases type' <;> rfl

/- The entry is stored first and again with the cookie that came back. -/
theorem holding_stored (env : Env) {entry : RefEntry} (new : entry.foreignCookie = 0) (s : Screensaver) :
    (s.stored env .inhibit entry).holding = Function.update s.holding entry.cookie
      (some { entry with foreignCookie := env.sessionInhibit.getD 0 }) := by
  cases hc : env.sessionInhibit with
  | none =>
    have hsame : { entry with foreignCookie := 0 } = entry := by rw [← new]
    simp only [stored, addSessionInhibit, if_true, hc, Option.getD_none, hsame]
    exact Table.lookup_insert_eq s.listener.inhibitors entry.cookie entry
  | some c =>
    simp only [stored, addSessionInhibit, if_true, hc, Option.getD_some]
    refine (Table.lookup_insert_eq _ _ _).trans ?_
    refine (congrArg (Function.update · _ _) (Table.lookup_insert_eq _ _ _)).trans ?_
    exact Function.update_idem ..

theorem deals_stored (env : Env) {type : RefType} {entry : RefEntry} (hs : s.Sorted)
    (new : entry.foreignCookie = 0) (own : entry.entryType = type)
    (fresh : (s.listener.table type).lookup entry.cookie = none) :
    ∃ said, Deals env s (s.stored env type entry) said := by
  cases type with
  | throttle =>
    refine ⟨[], (List.append_nil _).symm, .refl, hs.insert own (fun _ => new) fun type' => ?_⟩
    exact table_setTable s.listener .throttle type' _
  | inhibit =>
    have hheld := holding_stored env new s
    refine ⟨[.sessionInhibit entry.application entry.reason], ?_, ?_, ?_⟩
    · simp only [stored, addSessionInhibit, if_true]
      split
      · rfl
      · rfl
    · rw [hheld]
      exact .inhibit .refl fresh
    · have ht : (s.stored env .inhibit entry).listener.throttlers = s.listener.throttlers := by
        simp only [stored, addSessionInhibit, if_true]
        split
        · rfl
        · rfl
      refine ⟨fun type k x hx => ?_, fun k x hx => hs.zero k x (ht ▸ hx)⟩
      cases type with
      | inhibit =>
        have hx' : Function.update s.holding entry.cookie
            (some { entry with foreignCookie := env.sessionInhibit.getD 0 }) k = some x := hheld ▸ hx
        rcases stored_some hx' with ⟨-, rfl⟩ | ⟨-, hx'⟩
        · exact own
        · exact hs.own .inhibit k x hx'
      | throttle =>
        have hx' : (s.stored env .inhibit entry).listener.throttlers.lookup k = some x := hx
        rw [ht] at hx'
        exact hs.own .throttle k x hx'

theorem farewell_exchange (env : Env) (entry : RefEntry) :
    (farewell entry).filterMap (ofMessage env) = release env entry := by
  simp only [farewell, release]
  split
  · rfl
  · rfl

theorem deals_dropped (env : Env) {type : RefType} {cookie : Nat} {entry : RefEntry} (hs : s.Sorted)
    (found : (s.listener.table type).lookup cookie = some entry) :
    ∃ said, Deals env s (s.dropped type cookie entry) said := by
  cases type with
  | throttle =>
    refine ⟨[], (List.append_nil _).symm, .refl, hs.mono fun type' k x hx => ?_⟩
    have hx' : ((s.listener.setTable .throttle (s.listener.throttlers.erase cookie)).table type').lookup k
        = some x := hx
    rw [table_setTable] at hx'
    split at hx'
    · next heq =>
      rw [heq]
      exact (Table.lookup_erase_iff.1 hx').2
    · exact hx'
  | inhibit =>
    have hlistener : (s.dropped .inhibit cookie entry).listener =
        { s.listener with inhibitors := s.listener.inhibitors.erase cookie } := by
      rw [dropped_eq]
      rfl
    refine ⟨farewell entry, ?_, ?_, hs.mono fun type' k x hx => ?_⟩
    · rw [dropped_eq, if_pos rfl]
    · have hheld : (s.dropped .inhibit cookie entry).holding = Function.update s.holding cookie none := by
        unfold holding
        rw [hlistener]
        exact Table.lookup_erase_eq s.listener.inhibitors cookie
      have hswap : Swaps env s.holding ([] ++ release env entry) (Function.update s.holding cookie none) :=
        .uninhibit .refl found
      rw [hheld, farewell_exchange]
      exact hswap
    · rw [hlistener] at hx
      cases type' with
      | inhibit => exact (Table.lookup_erase_iff.1 hx).2
      | throttle => exact hx

/- A bulk removal is one removal after the other. -/
theorem swaps_all (env : Env) (l : List (Sigma fun _ : Nat => RefEntry)) (first : Holding)
    (hmem : ∀ e ∈ l, first e.1 = some e.2) (hnodup : (l.map Sigma.fst).Nodup) :
    Swaps env first (l.flatMap fun e => release env e.2)
      (fun k => if k ∈ l.map Sigma.fst then none else first k) := by
  induction l generalizing first with
  | nil => exact .refl
  | cons e l ih =>
    obtain ⟨hout, hnodup⟩ := List.nodup_cons.1 hnodup
    have hfirst : Swaps env first ([] ++ release env e.2) (Function.update first e.1 none) :=
      .uninhibit .refl (hmem e List.mem_cons_self)
    have hrest := ih (Function.update first e.1 none) (fun x hx => by
      rw [Function.update_of_ne]
      · exact hmem x (List.mem_cons_of_mem _ hx)
      · intro heq
        exact hout (heq ▸ List.mem_map_of_mem hx)) hnodup
    have hheld : (fun k => if k ∈ (e :: l).map Sigma.fst then none else first k) =
        fun k => if k ∈ l.map Sigma.fst then none else Function.update first e.1 none k := by
      funext k
      by_cases hk : k = e.1
      · simp [hk]
      · have hiff : k ∈ (e :: l).map Sigma.fst ↔ k ∈ l.map Sigma.fst := by
          rw [List.map_cons, List.mem_cons, or_iff_right hk]
        exact if_congr hiff rfl (Function.update_of_ne hk ..).symm
    rw [hheld, List.flatMap_cons]
    exact hfirst.trans hrest

/- Only the inhibitors of the connection are released; the throttlers are not of that kind. -/
theorem deals_purged (env : Env) (type : RefType) (name : BusName) (hs : s.Sorted) :
    ∃ said, Deals env s (s.listenerRefEntryRemoveForConnection type name).2 said := by
  let mine (e : RefEntry) : Bool := e.connection = name
  let gone := (s.listener.table type).entries.filter fun e => mine e.2 && e.2.entryType = .inhibit
  have hgone : ∀ e ∈ gone, (s.listener.table type).lookup e.1 = some e.2 ∧ mine e.2 = true ∧ type = .inhibit := by
    intro e he
    obtain ⟨hmem, hboth⟩ := List.mem_filter.1 he
    obtain ⟨hmine, htype⟩ := Bool.and_eq_true_iff.1 hboth
    have hlookup := Table.mem_entries_iff.1 hmem
    exact ⟨hlookup, hmine, (hs.own type e.1 e.2 hlookup).symm.trans (of_decide_eq_true htype)⟩
  have hlistener : (s.listenerRefEntryRemoveForConnection type name).2.listener =
      s.listener.setTable type ((s.listener.table type).removeIf mine) := by
    rw [purged_eq]
  have hsent : (s.listenerRefEntryRemoveForConnection type name).2.sent =
      s.sent ++ gone.flatMap fun e => farewell e.2 := by
    rw [purged_eq]
  refine ⟨gone.flatMap fun e => farewell e.2, hsent, ?_, hs.mono fun type' k x hx => ?_⟩
  · have hsaid : (gone.flatMap fun e => farewell e.2).filterMap (ofMessage env) =
        gone.flatMap fun e => release env e.2 := by
      rw [List.filterMap_flatMap]
      exact congrArg (List.flatMap · gone) (funext fun e => farewell_exchange env e.2)
    rw [hsaid]
    cases type with
    | throttle =>
      have hnil : gone = [] := List.eq_nil_iff_forall_not_mem.2 fun e he => by cases (hgone e he).2.2
      have hheld : (s.listenerRefEntryRemoveForConnection .throttle name).2.holding = s.holding := by
        unfold holding
        rw [hlistener]
        rfl
      rw [hnil, hheld]
      exact .refl
    | inhibit =>
      have hnodup : (gone.map Sigma.fst).Nodup :=
        List.Nodup.sublist (List.filter_sublist.map Sigma.fst) s.listener.inhibitors.nodupKeys
      have hmine : gone = s.listener.inhibitors.entries.filter fun e => mine e.2 := by
        refine List.filter_congr fun e he => ?_
        have htype := hs.own .inhibit e.1 e.2 (Table.mem_entries_iff.1 he)
        rw [htype, decide_eq_true rfl, Bool.and_true]
      have hheld : (s.listenerRefEntryRemoveForConnection .inhibit name).2.holding =
          fun k => if k ∈ gone.map Sigma.fst then none else s.holding k := by
        unfold holding
        rw [hlistener, hmine]
        exact Table.lookup_removeIf_eq mine s.listener.inhibitors
      rw [hheld]
      exact swaps_all env gone s.holding (fun e he => (hgone e he).1) hnodup
  · rw [hlistener, table_setTable] at hx
    split at hx
    · next heq =>
      rw [heq]
      exact (Table.lookup_removeIf_iff.1 hx).1
    · exact hx

/-! ### A step, and a run -/

theorem part_deals (hp : Part p env s₀ e s t) (hs : s.Sorted) : ∃ said, Deals env s t said := by
  cases hp with
  | activate why =>
    obtain ⟨new, hsent, hquiet⟩ := setActive_sent env s true
    exact ⟨new, deals_quiet hs (registry_setActive s env true) hsent hquiet⟩
  | deactivate ends first =>
    obtain ⟨new, hsent, hquiet⟩ := setActive_sent env s false
    exact ⟨new, deals_quiet hs (registry_setActive s env false) hsent hquiet⟩
  | idle b off =>
    obtain ⟨new, hsent, hquiet⟩ := setSessionIdle_sent env s b
    exact ⟨new, deals_quiet hs (registry_setSessionIdle s env b) hsent hquiet⟩
  | stored type entry new own fresh => exact deals_stored env hs new own fresh
  | dropped type cookie entry found => exact deals_dropped env hs found
  | purged type name => exact deals_purged env type name hs
  | reply m plain =>
    refine ⟨[m], deals_quiet hs rfl rfl fun x hx => ?_⟩
    rw [List.mem_singleton.1 hx]
    cases m with
    | sessionInhibit application reason => cases plain
    | sessionUninhibit cookie => cases plain
    | _ => rfl
  | throttle b first =>
    have hlistener : (s.gsListenerSetThrottle env b).listener.inhibitors = s.listener.inhibitors ∧
        (s.gsListenerSetThrottle env b).listener.throttlers = s.listener.throttlers ∧
        (s.gsListenerSetThrottle env b).sent = s.sent := by
      simp only [gsListenerSetThrottle]
      split
      · exact ⟨rfl, rfl, rfl⟩
      · exact ⟨rfl, rfl, rfl⟩
    obtain ⟨hi, ht, hsent⟩ := hlistener
    refine ⟨[], by rw [hsent, List.append_nil], ?_, hs.same hi ht⟩
    have hholding : (s.gsListenerSetThrottle env b).holding = s.holding := by
      unfold holding
      rw [hi]
    rw [hholding]
    exact .refl
  | ckCookie n => exact ⟨[], (List.append_nil _).symm, .refl, hs.same rfl rfl⟩
  | saver hd => exact ⟨[], deals_silent hs rfl rfl⟩
  | watcher w enabled active silent notice => exact ⟨[], deals_silent hs rfl rfl⟩
  | releaseGrab id => exact ⟨[], deals_silent hs rfl rfl⟩
  | quit => exact ⟨[], deals_silent hs rfl rfl⟩
  | prefs k he => exact ⟨[], deals_silent hs rfl rfl⟩
  | enable b => exact ⟨[], deals_silent hs rfl rfl⟩
  | delayLock fd heard he => exact ⟨[], deals_silent hs rfl rfl⟩

theorem parts_deals (hp : Parts p env s₀ e s t) (hs : s.Sorted) : ∃ said, Deals env s t said := by
  induction hp with
  | refl => exact ⟨[], deals_silent hs rfl rfl⟩
  | tail _ hpart ih =>
    obtain ⟨said, hsaid⟩ := ih
    obtain ⟨more, hmore⟩ := part_deals hpart hsaid.sorted
    exact ⟨said ++ more, hsaid.trans hmore⟩

theorem step_deals (hs : s.Agreed ∧ s.saver.Housed) (hsorted : s.Sorted) (h : s.step (env, e) = some t) :
    Swaps env s.holding (s.conversation (env, e)) t.holding ∧ t.Sorted := by
  have hparts := parts_step (p := False) hs.1 hs.2 False.elim h
  obtain ⟨said, hd⟩ := parts_deals hparts (hsorted.same rfl rfl)
  have hsent : t.sent.drop s.sent.length = said := by
    rw [hd.sent]
    exact List.drop_left
  have hsaid : s.conversation (env, e) = said.filterMap (ofMessage env) := by
    simp only [conversation, h, hsent]
  rw [hsaid]
  exact ⟨hd.swaps, hd.sorted⟩

/- A request to throttle, its withdrawal, or what counts as one. -/
def Throttles : Event → Prop
  | .sessionCall _ (.throttle _) => True
  | .sessionCall _ (.unThrottle _) => True
  | .systemSignal _ (.ckActiveChanged _ _) => True
  | _ => False

/-- What the session manager is owed is what the inhibitors remember, each cookie
was given back once when it is no longer remembered, and throttlers have none. -/
structure Proxied (s : Screensaver) (log : List Exchange) : Prop where
  outstanding : Exchange.outstanding log =
    {c | ∃ cookie entry, s.listener.inhibitors.lookup cookie = some entry ∧ entry.foreignCookie = c}
  apart : ∀ cookie cookie' entry entry', s.listener.inhibitors.lookup cookie = some entry →
    s.listener.inhibitors.lookup cookie' = some entry' → entry.foreignCookie = entry'.foreignCookie →
    cookie = cookie'
  kept : ∀ c ∈ Exchange.outstanding log, log.count (.uninhibit c true) = 0
  once : ∀ c, .inhibit (some c) ∈ log → c ∉ Exchange.outstanding log → log.count (.uninhibit c true) = 1
  known : ∀ c ok, .uninhibit c ok ∈ log → .inhibit (some c) ∈ log
  throttlers : ∀ cookie entry, s.listener.throttlers.lookup cookie = some entry → entry.foreignCookie = 0

theorem Balanced.proxied (h : Balanced s.holding log) (hs : s.Sorted) : s.Proxied log := by
  have hout : ∀ c, c ∈ Exchange.outstanding log ↔ heldFor s.holding c := fun c => (h.faithful c ()).symm
  refine ⟨Set.ext hout, h.apart, fun c hc => h.kept c ((hout c).1 hc), fun c hc hno => ?_, h.known, hs.zero⟩
  exact h.back c hc fun hheld => hno ((hout c).2 hheld)

theorem start_tables (b : Boot) (env : Env) (type : RefType) (k : Nat) :
    ((b.start env).listener.table type).lookup k = none := by
  rw [← registry_entry, registry_start, empty_entry]

theorem balanced_start (b : Boot) (env : Env) : (b.start env).Sorted ∧ Balanced (b.start env).holding [] := by
  have hnone : ∀ k, (b.start env).holding k = none := start_tables b env .inhibit
  have hfree : ∀ c, ¬ heldFor (b.start env).holding c := by
    rintro c ⟨k, x, hx, -⟩
    rw [hnone] at hx
    cases hx
  refine ⟨⟨fun type k x hx => ?_, fun k x hx => ?_⟩, faithful_nil fun c _ => hfree c, fun k x hx => ?_,
    fun k _ x _ hx => ?_, fun c hc => absurd hc (hfree c), fun c hc => absurd hc (hfree c),
    fun c hc => absurd hc List.not_mem_nil, fun c ok hc => absurd hc List.not_mem_nil⟩
  · rw [start_tables] at hx
    cases hx
  · have hx' : ((b.start env).listener.table .throttle).lookup k = some x := hx
    rw [start_tables] at hx'
    cases hx'
  · rw [hnone] at hx
    cases hx
  · rw [hnone] at hx
    cases hx

theorem balanced_invariant : (screensaver.recorded conversation).Invariant fun x =>
    (x.1.Agreed ∧ x.1.saver.Housed) ∧ x.1.Sorted ∧ (Answered x.2 → Balanced x.1.holding x.2) := by
  refine ⟨fun x hx => ?_, fun x label y hx h => ?_⟩
  · obtain ⟨⟨b, env, hstart⟩, hlog⟩ := hx
    obtain ⟨hsorted, hbalanced⟩ := balanced_start b env
    rw [hstart, hlog]
    exact ⟨start_housed b env, hsorted, fun _ => hbalanced⟩
  · obtain ⟨hs, hsorted, hbalanced⟩ := hx
    obtain ⟨hn, hlog⟩ := recorded_next h
    obtain ⟨hswaps, hsorted'⟩ := step_deals hs hsorted hn
    refine ⟨housed_invariant.step _ _ _ hs hn, hsorted', fun ha => ?_⟩
    rw [hlog] at ha ⊢
    exact (hbalanced ha.start).swaps hswaps ha

/-! ### Throttlers say nothing -/

/- Nothing that is sent is for the session manager. -/
def Quietly (env : Env) (s t : Screensaver) : Prop :=
  ∃ new, t.sent = s.sent ++ new ∧ ∀ m ∈ new, ofMessage env m = none

theorem Quietly.same (h : t.sent = s.sent) : Quietly env s t := ⟨[], by rw [h, List.append_nil], by simp⟩

theorem Quietly.trans {u : Screensaver} (h : Quietly env s t) (h' : Quietly env t u) : Quietly env s u := by
  obtain ⟨new, hsent, hnew⟩ := h
  obtain ⟨new', hsent', hnew'⟩ := h'
  refine ⟨new ++ new', by rw [hsent', hsent, List.append_assoc], fun m hm => ?_⟩
  rcases List.mem_append.1 hm with hm | hm
  · exact hnew m hm
  · exact hnew' m hm

theorem quietly_send {m : BusMessage} (hm : ofMessage env m = none) : Quietly env s (s.send m) :=
  ⟨[m], rfl, fun _ hx => List.mem_singleton.1 hx ▸ hm⟩

theorem quietly_checkThrottle (env : Env) (s : Screensaver) : Quietly env s (s.listenerCheckThrottle env) := by
  refine .same ?_
  simp only [listenerCheckThrottle, gsListenerSetThrottle]
  split
  · split
    · rfl
    · rfl
  · rfl

theorem quietly_addThrottle (env : Env) (entry : RefEntry) (s : Screensaver) :
    Quietly env s (s.listenerAddRefEntry env .throttle entry) := by
  let v := s.modifyListener fun l => l.setTable .throttle ((l.table .throttle).insert entry.cookie entry)
  have hv : Quietly env s v := .same rfl
  exact hv.trans (quietly_checkThrottle env v)

theorem quietly_removeThrottle (env : Env) (cookie : Nat) (s : Screensaver) :
    Quietly env s (s.listenerRemoveRefEntry env .throttle cookie).2 := by
  simp only [listenerRemoveRefEntry]
  split
  · exact .same rfl
  · let v := s.modifyListener fun l => l.setTable .throttle ((l.table .throttle).erase cookie)
    have hv : Quietly env s v := .same rfl
    exact hv.trans (quietly_checkThrottle env v)

theorem quietly_ckActiveChanged {sender : BusName} {b : Bool} (h : s.ckActiveChanged env sender b = some t) :
    Quietly env s t := by
  have hremove : Quietly env s (s.listenerRemoveCkRefEntry env) := by
    simp only [listenerRemoveCkRefEntry]
    split
    · exact (quietly_removeThrottle env s.listener.ckThrottleCookie s).trans (.same rfl)
    · exact .same rfl
  simp only [ckActiveChanged] at h
  split at h
  · cases h
    exact hremove.trans (.same rfl)
  · simp only [listenerAddCkRefEntry] at h
    obtain ⟨cookie, -, rfl⟩ := Option.map_eq_some_iff.1 h
    exact hremove.trans ((quietly_addThrottle env _ _).trans (.same rfl))

theorem quietly_throttles (he : Throttles e) (h : s.dispatch env e = some t) : Quietly env s t := by
  cases e with
  | sessionCall sender call =>
    cases call with
    | throttle args =>
      simp only [dispatch, listenerDbusHandleSessionMessage, listenerDbusAddRefEntry] at h
      cases args with
      | none =>
        cases h
        exact quietly_send rfl
      | some args =>
        obtain ⟨x, hx, rfl⟩ := Option.map_eq_some_iff.1 h
        obtain ⟨u, hu, hux⟩ := Option.bind_eq_some_iff.1 hx
        cases hux
        obtain ⟨cookie, -, rfl⟩ := Option.map_eq_some_iff.1 hu
        exact (quietly_addThrottle env _ s).trans (quietly_send rfl)
    | unThrottle cookie =>
      cases h
      cases cookie with
      | none => exact quietly_send rfl
      | some cookie => exact (quietly_removeThrottle env cookie s).trans (quietly_send rfl)
    | _ => cases he
  | systemSignal sender signal =>
    cases signal with
    | ckActiveChanged path b =>
      simp only [dispatch, listenerDbusHandleSystemMessage] at h
      split at h
      · cases h
        exact .same rfl
      · split at h
        · cases b with
          | none =>
            cases h
            exact .same rfl
          | some b =>
            simp only [handleCkSignal] at h
            split at h
            · exact quietly_ckActiveChanged h
            · cases h
              exact .same rfl
        · cases h
          exact .same rfl
    | _ => cases he
  | _ => cases he

theorem throttles_silent (he : Throttles e) (env : Env) (s : Screensaver) : s.conversation (env, e) = [] := by
  simp only [conversation]
  split
  · rfl
  · next t h =>
    obtain ⟨new, hsent, hnew⟩ := quietly_throttles he (step_dispatch h)
    have htick : (s.tick env).sent = s.sent := rfl
    rw [hsent, htick, List.drop_left]
    exact List.filterMap_eq_nil_iff.2 hnew

/-- In every history that the session manager answered, the two tables are in
step; and no step about a throttler says anything to it. -/
theorem session_proxied {x : Screensaver × List Exchange}
    (hr : (screensaver.recorded conversation).Reachable x) (ha : Answered x.2) :
    x.1.Proxied x.2 ∧ ∀ env e, Throttles e → x.1.conversation (env, e) = [] := by
  obtain ⟨-, hsorted, hbalanced⟩ := balanced_invariant.reachable hr
  exact ⟨(hbalanced ha).proxied hsorted, fun env e he => throttles_silent he env x.1⟩

/- Two players inhibit and get the cookies 7 and 8; the first one leaves the bus. -/
def answering (c : Nat) (draw : Draw) : Env := { granted with sessionInhibit := some c, draws := [draw] }

theorem drawn_one : 1 ≤ 1 ∧ 1 < 2147483647 := by decide
theorem drawn_two : 1 ≤ 2 ∧ 2 < 2147483647 := by decide

def players : List (Env × Event) :=
  [(answering 7 ⟨1, drawn_one⟩, .sessionCall ":1.1" (.inhibit (some ("player", "playing")))),
   (answering 8 ⟨2, drawn_two⟩, .sessionCall ":1.2" (.inhibit (some ("player", "playing")))),
   (granted, .nameOwnerChanged ":1.1" ":1.1" "")]

theorem session_proxied_players : ∃ x, (screensaver.recorded conversation).run (desk.start granted, []) players
    = some x ∧ x.2 = [.inhibit (some 7), .inhibit (some 8), .uninhibit 7 true] ∧ x.1.Proxied x.2 := by
  let x := ((screensaver.recorded conversation).run (desk.start granted, []) players).get (by decide)
  have hrun : (screensaver.recorded conversation).run (desk.start granted, []) players = some x := by simp [x]
  have hr : (screensaver.recorded conversation).Reachable x :=
    reachable_run (.start ⟨⟨desk, granted, rfl⟩, rfl⟩) hrun
  have hlog : x.2 = [.inhibit (some 7), .inhibit (some 8), .uninhibit 7 true] := by decide
  have h7 : Exchange.Succeeds [] (.inhibit (some 7)) := ⟨by decide, by decide⟩
  have h8 : Exchange.Succeeds [.inhibit (some 7)] (.inhibit (some 8)) := ⟨by decide, by decide⟩
  have hback : Exchange.Succeeds [.inhibit (some 7), .inhibit (some 8)] (.uninhibit 7 true) := rfl
  have ha : Answered [.inhibit (some 7), .inhibit (some 8), .uninhibit 7 true] :=
    ((answered_nil.next h7).next h8).next hback
  exact ⟨x, hrun, hlog, (session_proxied hr (hlog ▸ ha)).1⟩

end Screensaver
end MateScreensaver
