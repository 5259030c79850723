import MateScreensaver.Lib.Runs

/-!
A program that calls a server over a connection that keeps the order of the messages, and blocks
for the answers that it wants. Each answer it gets is the one that the server made to that call,
whatever else the server does, and however many answers came too late.
-/

namespace Client
open Runs

/-- What the program does next: it ends, it says a line, it sends a call, or it asks one and goes on
with the answer, or with none. -/
inductive Program (Q R L E : Type*)
  | stop (e : E)
  | say (line : L) (next : Program Q R L E)
  | send (call : Q) (next : Program Q R L E)
  | ask (call : Q) (next : Option R → Program Q R L E)

/- What it has done. -/
inductive Act (Q R L : Type*)
  | said (line : L)
  | sent (call : Q)
  | asked (call : Q) (answer : Option R)

variable {Q R L E S X Y : Type*}

def Act.call : Act Q R L → Option Q
  | .said _ => none
  | .sent call => some call
  | .asked call _ => some call

/- The answer that it got. -/
def Act.answer : Act Q R L → Option R
  | .said _ => none
  | .sent _ => none
  | .asked _ answer => answer

/- The call that the program stands at. -/
def Program.asks : Program Q R L E → Option Q
  | .ask call _ => some call
  | _ => none

/- The calls among the acts. -/
def calls (acts : List (Act Q R L)) : List Q := acts.filterMap Act.call

/-- The acts lead from one program to what is left of it. -/
inductive Path : Program Q R L E → List (Act Q R L) → Program Q R L E → Prop
  | nil (p : Program Q R L E) : Path p [] p
  | said {line : L} {p q : Program Q R L E} {acts : List (Act Q R L)} :
      Path p acts q → Path (.say line p) (.said line :: acts) q
  | sent {call : Q} {p q : Program Q R L E} {acts : List (Act Q R L)} :
      Path p acts q → Path (.send call p) (.sent call :: acts) q
  | asked {call : Q} {next : Option R → Program Q R L E} {q : Program Q R L E} {acts : List (Act Q R L)} (answer : Option R) :
      Path (next answer) acts q → Path (.ask call next) (.asked call answer :: acts) q

theorem Path.trans {p q r : Program Q R L E} {acts acts' : List (Act Q R L)} (h : Path p acts q) (h' : Path q acts' r) :
    Path p (acts ++ acts') r := by
  induction h with
  | nil p => exact h'
  | said _ ih => exact .said (ih h')
  | sent _ ih => exact .sent (ih h')
  | asked answer _ ih => exact .asked answer (ih h')

/-- A server: what it does with a call, whether it answers, and what else it does. -/
structure Server (S Q R X Y : Type*) where
  answer : X → Q → S → Option (S × Option R)
  move : Y → S → Option S

/- A call that was handled, the server before, and the answer. -/
structure Handled (S Q R : Type*) where
  call : Q
  before : S
  answer : Option R

/-- The two and what is on the way, with what the program has done and the server has handled. Calls
are numbered in the order they are posted. -/
structure Link (S Q R L E : Type*) where
  server : S
  client : Program Q R L E
  waiting : Option ℕ
  posted : ℕ
  calls : List (ℕ × Q)
  answers : List (ℕ × R)
  acts : List (Act Q R L)
  handled : List (Handled S Q R)

inductive Event (X Y : Type*)
  | client
  | answer (x : X)
  | move (y : Y)
  | receive
  | giveUp

namespace Link

def start (s : S) (p : Program Q R L E) : Link S Q R L E := ⟨s, p, none, 0, [], [], [], []⟩

def post (call : Q) (x : Link S Q R L E) : Link S Q R L E :=
  { x with posted := x.posted + 1, calls := x.calls ++ [(x.posted, call)] }

/- The program goes on after the call that it waited for. -/
def resume (call : Q) (next : Option R → Program Q R L E) (answer : Option R) (x : Link S Q R L E) : Link S Q R L E :=
  { x with client := next answer, waiting := none, acts := x.acts ++ [.asked call answer] }

/- A step of the program by itself. -/
def advance (x : Link S Q R L E) : Option (Link S Q R L E) :=
  match x.client with
  | .stop _ => none
  | .say line next => some { x with client := next, acts := x.acts ++ [.said line] }
  | .send call next => some { x.post call with client := next, acts := x.acts ++ [.sent call] }
  | .ask call _ => if x.waiting = none then some { x.post call with waiting := some x.posted } else none

/- The server takes the first call. -/
def serve (server : Server S Q R X Y) (e : X) (x : Link S Q R L E) : Option (Link S Q R L E) :=
  match x.calls with
  | [] => none
  | (n, call) :: rest =>
    (server.answer e call x.server).map fun r =>
      { x with server := r.1, calls := rest, answers := x.answers ++ (r.2.map (n, ·)).toList,
               handled := x.handled ++ [⟨call, x.server, r.2⟩] }

/- The answer with the number of the call that is waited for; no other is looked at. -/
def receive (x : Link S Q R L E) : Option (Link S Q R L E) :=
  match x.client, x.waiting with
  | .ask call next, some n => (x.answers.find? (·.1 = n)).map fun a => x.resume call next (some a.2)
  | _, _ => none

/- An error, or too long a time. -/
def giveUp (x : Link S Q R L E) : Option (Link S Q R L E) :=
  match x.client, x.waiting with
  | .ask call next, some _ => some (x.resume call next none)
  | _, _ => none

def next (server : Server S Q R X Y) (x : Link S Q R L E) : Event X Y → Option (Link S Q R L E)
  | .client => x.advance
  | .answer e => x.serve server e
  | .move e => (server.move e x.server).map fun s => { x with server := s }
  | .receive => x.receive
  | .giveUp => x.giveUp

end Link

/-- The program with a server that starts in one of these states. -/
def system (server : Server S Q R X Y) (init : S → Prop) (p : Program Q R L E) : System (Link S Q R L E) (Event X Y) where
  init x := ∃ s, init s ∧ x = .start s p
  next x e := x.next server e

/- The call that is out and waited for. -/
def Link.asking (x : Link S Q R L E) : Option Q := x.waiting.bind fun _ => x.client.asks

/-- What always holds: the program is on its way, its calls are handled in the order it makes them,
and the answers it has are those that were made. -/
structure Accounts (p : Program Q R L E) (x : Link S Q R L E) : Prop where
  path : Path p x.acts x.client
  order : calls x.acts ++ x.asking.toList = x.handled.map (·.call) ++ x.calls.map (·.2)
  posted_eq : x.posted = x.handled.length + x.calls.length
  numbers : x.calls.map (·.1) = List.range' x.handled.length x.calls.length
  waits : ∀ n, x.waiting = some n → n + 1 = x.posted ∧ ∃ call next, x.client = .ask call next
  answered : ∀ n r, (n, r) ∈ x.answers → x.handled[n]?.bind (·.answer) = some r
  received : ∀ before call r after, x.acts = before ++ .asked call (some r) :: after →
    x.handled[(calls before).length]?.bind (·.answer) = some r

variable {server : Server S Q R X Y} {init : S → Prop} {p : Program Q R L E} {x y : Link S Q R L E}

theorem calls_append (acts acts' : List (Act Q R L)) : calls (acts ++ acts') = calls acts ++ calls acts' :=
  List.filterMap_append ..

/- Where an act stands in a list with one more at its end. -/
theorem split_snoc {acts before after : List (Act Q R L)} {a b : Act Q R L} (h : acts ++ [a] = before ++ b :: after) :
    (before = acts ∧ b = a) ∨ ∃ after', acts = before ++ b :: after' := by
  rcases List.eq_nil_or_concat after with rfl | ⟨after', c, rfl⟩
  · have hparts := List.append_inj' h rfl
    exact .inl ⟨hparts.1.symm, (List.cons.inj hparts.2).1.symm⟩
  · have hlast : acts ++ [a] = (before ++ b :: after') ++ [c] := by
      rw [h, List.concat_eq_append, List.append_assoc, List.cons_append]
    exact .inr ⟨after', (List.append_inj' hlast rfl).1⟩

/- What was handled stays where it is. -/
theorem handled_append {l l' : List (Handled S Q R)} {n : ℕ} {r : R} (h : l[n]?.bind (·.answer) = some r) :
    (l ++ l')[n]?.bind (·.answer) = some r := by
  obtain ⟨c, hc, hr⟩ := Option.bind_eq_some_iff.1 h
  have hn : n < l.length := (List.getElem?_eq_some_iff.1 hc).1
  rw [List.getElem?_append_left hn]
  exact h

namespace Accounts

theorem start (s : S) (p : Program Q R L E) : Accounts p (.start s p) where
  path := .nil p
  order := rfl
  posted_eq := rfl
  numbers := rfl
  waits n h := by cases h
  answered n r h := absurd h List.not_mem_nil
  received before call r after h := by
    have hlength := congrArg List.length h
    rw [List.length_append, List.length_cons, Link.start, List.length_nil] at hlength
    omega

/- What the program gets is that of the call it has posted last. -/
theorem length_calls (h : Accounts p x) {n : ℕ} (hw : x.waiting = some n) : (calls x.acts).length = n := by
  obtain ⟨hn, call, next, hclient⟩ := h.waits n hw
  have horder := congrArg List.length h.order
  have hcount := h.posted_eq
  rw [List.length_append, List.length_append, List.length_map, List.length_map, Link.asking, hclient, hw, Option.bind_some,
    Program.asks, Option.toList_some, List.length_singleton] at horder
  omega

theorem not_waiting (h : Accounts p x) (hclient : x.client.asks = none) : x.waiting = none := by
  cases hw : x.waiting with
  | none => rfl
  | some n =>
    obtain ⟨-, call, next, hask⟩ := h.waits n hw
    rw [hask] at hclient
    cases hclient

theorem asking_none (hw : x.waiting = none) : x.asking = none := by rw [Link.asking, hw, Option.bind_none]

/- Nothing is waited for: all calls were handled or are on the way. -/
theorem order_iff (hw : x.waiting = none) :
    calls x.acts ++ x.asking.toList = x.handled.map (·.call) ++ x.calls.map (·.2) ↔
      calls x.acts = x.handled.map (·.call) ++ x.calls.map (·.2) := by
  rw [asking_none hw, Option.toList_none, List.append_nil]

/- An act at the end, with the answer of its call if there is one. -/
theorem received_snoc (h : Accounts p x) {a : Act Q R L}
    (ha : ∀ r, a.answer = some r → x.handled[(calls x.acts).length]?.bind (·.answer) = some r) :
    ∀ before call r after, x.acts ++ [a] = before ++ .asked call (some r) :: after →
      x.handled[(calls before).length]?.bind (·.answer) = some r := by
  intro before call r after heq
  rcases split_snoc heq with ⟨rfl, rfl⟩ | ⟨after', hbefore⟩
  · exact ha r rfl
  · exact h.received before call r after' hbefore

theorem numbers_post (h : Accounts p x) (call : Q) : (x.post call).calls.map (·.1) =
    List.range' x.handled.length (x.post call).calls.length := by
  have hcount := h.posted_eq
  rw [Link.post, List.map_append, h.numbers, List.length_append, List.length_singleton, List.range'_concat, List.map_singleton,
    hcount, Nat.one_mul]

theorem posted_post (h : Accounts p x) (call : Q) : (x.post call).posted = x.handled.length + (x.post call).calls.length := by
  have hcount := h.posted_eq
  rw [Link.post, List.length_append, List.length_singleton, hcount, Nat.add_assoc]

theorem advance (h : Accounts p x) (hnext : x.advance = some y) : Accounts p y := by
  rw [Link.advance] at hnext
  split at hnext
  · cases hnext
  · next line next hclient =>
    have hw := h.not_waiting (by rw [hclient]; rfl)
    have hreceived := h.received_snoc (a := .said line) fun r hr => by cases hr
    have horder := (order_iff hw).1 h.order
    cases hnext
    refine { h with path := ?_, order := (order_iff (by exact hw)).2 ?_, waits := ?_, received := hreceived }
    · exact h.path.trans (hclient ▸ .said (.nil next))
    · have hcalls : calls (x.acts ++ [.said line]) = calls x.acts := (calls_append ..).trans (List.append_nil _)
      exact hcalls.trans horder
    · intro n hn
      exact absurd (hw.symm.trans hn) (Option.some_ne_none n).symm
  · next call next hclient =>
    have hw := h.not_waiting (by rw [hclient]; rfl)
    have hreceived := h.received_snoc (a := .sent call) fun r hr => by cases hr
    have horder := (order_iff hw).1 h.order
    cases hnext
    refine { h with path := ?_, order := (order_iff (by exact hw)).2 ?_, posted_eq := h.posted_post call,
                    numbers := h.numbers_post call, waits := ?_, received := hreceived }
    · exact h.path.trans (hclient ▸ .sent (.nil next))
    · have hcalls : calls (x.acts ++ [.sent call]) = calls x.acts ++ [call] := calls_append _ _
      rw [hcalls, horder, Link.post, List.map_append, List.append_assoc]
      rfl
    · intro n hn
      exact absurd (hw.symm.trans hn) (Option.some_ne_none n).symm
  · next call next hclient =>
    split at hnext
    · next hw =>
      have horder := (order_iff hw).1 h.order
      cases hnext
      refine { h with order := ?_, posted_eq := h.posted_post call, numbers := h.numbers_post call, waits := ?_ }
      · have hasking : x.client.asks = some call := by rw [hclient]; rfl
        rw [Link.asking, Option.bind_some, Link.post, hasking, horder, List.map_append, List.append_assoc]
        rfl
      · intro n hn
        cases hn
        exact ⟨rfl, call, next, hclient⟩
    · cases hnext

theorem serve {e : X} (h : Accounts p x) (hnext : x.serve server e = some y) : Accounts p y := by
  rw [Link.serve] at hnext
  split at hnext
  · cases hnext
  · next n call rest hcalls =>
    obtain ⟨r, -, rfl⟩ := Option.map_eq_some_iff.1 hnext
    have hnumbers := h.numbers
    rw [hcalls, List.map_cons, List.length_cons, List.range'_succ] at hnumbers
    have hn : n = x.handled.length := (List.cons.inj hnumbers).1
    refine { h with order := ?_, posted_eq := ?_, numbers := ?_, answered := ?_, received := ?_ }
    · have horder := h.order
      rw [hcalls] at horder
      rw [List.map_append, List.append_assoc]
      exact horder
    · have hcount := h.posted_eq
      rw [hcalls, List.length_cons] at hcount
      dsimp only
      rw [List.length_append, List.length_singleton, hcount]
      omega
    · rw [List.length_append, List.length_singleton]
      exact (List.cons.inj hnumbers).2
    · intro k a hmem
      rcases List.mem_append.1 hmem with hold | hnew
      · exact handled_append (h.answered k a hold)
      · rw [Option.mem_toList, Option.map_eq_some_iff] at hnew
        obtain ⟨a', ha', heq⟩ := hnew
        cases heq
        rw [hn, List.getElem?_concat_length]
        exact ha'
    · intro before call' a after heq
      exact handled_append (h.received before call' a after heq)

/- With an answer that was made, or without one. -/
theorem resume {call : Q} {next : Option R → Program Q R L E} {n : ℕ} {answer : Option R} (h : Accounts p x)
    (hclient : x.client = .ask call next) (hw : x.waiting = some n)
    (hanswer : ∀ r, answer = some r → x.handled[n]?.bind (·.answer) = some r) : Accounts p (x.resume call next answer) := by
  have hlength := h.length_calls hw
  have horder := h.order
  rw [Link.asking, hw, hclient, Option.bind_some, Program.asks] at horder
  have hreceived := h.received_snoc (a := .asked call answer) (hlength ▸ hanswer)
  refine { h with path := ?_, order := ?_, waits := ?_, received := hreceived }
  · exact h.path.trans (hclient ▸ .asked answer (.nil _))
  · exact (order_iff (by rfl)).2 ((calls_append ..).trans horder)
  · intro k hk
    cases hk

theorem receive (h : Accounts p x) (hnext : x.receive = some y) : Accounts p y := by
  rw [Link.receive] at hnext
  split at hnext
  · next call next n hclient hw =>
    obtain ⟨a, ha, rfl⟩ := Option.map_eq_some_iff.1 hnext
    have hmem := List.mem_of_find?_eq_some ha
    have hfound := List.find?_some ha
    have hnumber : a.1 = n := of_decide_eq_true hfound
    apply h.resume hclient hw
    intro r hr
    cases hr
    exact h.answered n a.2 (hnumber ▸ hmem)
  · cases hnext

theorem giveUp (h : Accounts p x) (hnext : x.giveUp = some y) : Accounts p y := by
  rw [Link.giveUp] at hnext
  split at hnext
  · next call next n hclient hw =>
    cases hnext
    apply h.resume hclient hw
    intro r hr
    cases hr
  · cases hnext

theorem move {s : S} (h : Accounts p x) : Accounts p { x with server := s } := { h with }

theorem step {e : Event X Y} (h : Accounts p x) (hnext : x.next server e = some y) : Accounts p y := by
  cases e with
  | client => exact h.advance hnext
  | answer e => exact h.serve hnext
  | move e =>
    obtain ⟨s, -, rfl⟩ := Option.map_eq_some_iff.1 hnext
    exact h.move
  | receive => exact h.receive hnext
  | giveUp => exact h.giveUp hnext

end Accounts

/-- In every state that can be reached the account is right. -/
theorem accounts_reachable (h : (system server init p).Reachable x) : Accounts p x := by
  induction h with
  | start hs =>
    obtain ⟨s, -, rfl⟩ := hs
    exact .start s p
  | step _ hnext ih => exact ih.step hnext

/-- An answer that the program has was made when its call was handled, and the calls before it are
those that were handled before. -/
theorem Accounts.handled_of_asked {call : Q} {r : R} {before after : List (Act Q R L)} (h : Accounts p x)
    (hacts : x.acts = before ++ .asked call (some r) :: after) :
    ∃ c, x.handled[(calls before).length]? = some c ∧ c.call = call ∧ c.answer = some r := by
  obtain ⟨c, hc, hr⟩ := Option.bind_eq_some_iff.1 (h.received before call r after hacts)
  have hlength : (calls before).length < (x.handled.map (·.call)).length := by
    rw [List.length_map]
    exact (List.getElem?_eq_some_iff.1 hc).1
  have hcalls : calls x.acts ++ x.asking.toList = calls before ++ call :: (calls after ++ x.asking.toList) := by
    rw [hacts, calls_append, List.append_assoc]
    rfl
  have hcall : some call = some c.call :=
    calc some call = (calls x.acts ++ x.asking.toList)[(calls before).length]? := by
          rw [hcalls, List.getElem?_append_right (Nat.le_refl _), Nat.sub_self, List.getElem?_cons_zero]
      _ = (x.handled.map (·.call))[(calls before).length]? := by rw [h.order, List.getElem?_append_left hlength]
      _ = some c.call := by rw [List.getElem?_map, hc, Option.map_some]
  exact ⟨c, hc, (Option.some.inj hcall).symm, hr⟩

/-- What holds of the server in every state holds of it whenever it handled a call, and each answer
is what it made of the call. -/
theorem handled_keeps {I : S → Prop} (hinit : ∀ s, init s → I s)
    (hanswer : ∀ e call s s' r, I s → server.answer e call s = some (s', r) → I s')
    (hmove : ∀ e s s', I s → server.move e s = some s' → I s') (h : (system server init p).Reachable x) :
    I x.server ∧ ∀ c ∈ x.handled, I c.before ∧ ∃ e s', server.answer e c.call c.before = some (s', c.answer) := by
  induction h with
  | start hs =>
    obtain ⟨s, hs, rfl⟩ := hs
    exact ⟨hinit s hs, fun c hc => absurd hc List.not_mem_nil⟩
  | @step x e y _ hnext ih =>
    have hnext' : x.next server e = some y := hnext
    cases e with
    | client =>
      rw [Link.next, Link.advance] at hnext'
      split at hnext'
      · cases hnext'
      · cases hnext'
        exact ih
      · cases hnext'
        exact ih
      · split at hnext'
        · cases hnext'
          exact ih
        · cases hnext'
    | answer e =>
      rw [Link.next, Link.serve] at hnext'
      split at hnext'
      · cases hnext'
      · next n call rest _ =>
        obtain ⟨r, hr, rfl⟩ := Option.map_eq_some_iff.1 hnext'
        obtain ⟨s', r⟩ := r
        refine ⟨hanswer e call x.server s' r ih.1 hr, fun c hc => ?_⟩
        rcases List.mem_append.1 hc with hold | hnew
        · exact ih.2 c hold
        · rw [List.mem_singleton.1 hnew]
          exact ⟨ih.1, e, s', hr⟩
    | move e =>
      obtain ⟨s, hs, rfl⟩ := Option.map_eq_some_iff.1 hnext'
      exact ⟨hmove e x.server s ih.1 hs, ih.2⟩
    | receive =>
      rw [Link.next, Link.receive] at hnext'
      split at hnext'
      · obtain ⟨a, -, rfl⟩ := Option.map_eq_some_iff.1 hnext'
        exact ih
      · cases hnext'
    | giveUp =>
      rw [Link.next, Link.giveUp] at hnext'
      split at hnext'
      · cases hnext'
        exact ih
      · cases hnext'

/-! ### What a program keeps to -/

/-- From what was done so far on, the acts always meet a condition, and those of a program that has
ended another one. -/
def Program.Keeps (I : List (Act Q R L) → Prop) (F : E → List (Act Q R L) → Prop) : List (Act Q R L) → Program Q R L E → Prop
  | past, .stop e => I past ∧ F e past
  | past, .say line next => I past ∧ next.Keeps I F (past ++ [.said line])
  | past, .send call next => I past ∧ next.Keeps I F (past ++ [.sent call])
  | past, .ask call next => I past ∧ ∀ answer, (next answer).Keeps I F (past ++ [.asked call answer])

variable {I : List (Act Q R L) → Prop} {F : E → List (Act Q R L) → Prop} {q : Program Q R L E} {past acts : List (Act Q R L)}

theorem Program.Keeps.now (h : p.Keeps I F past) : I past := by
  cases p with
  | stop e => exact h.1
  | say line next => exact h.1
  | send call next => exact h.1
  | ask call next => exact h.1

theorem Program.Keeps.path (h : p.Keeps I F past) (hpath : Path p acts q) : q.Keeps I F (past ++ acts) := by
  induction hpath generalizing past with
  | nil p => rwa [List.append_nil]
  | @said line _ _ acts _ ih =>
    have htail := ih h.2
    rwa [List.append_assoc] at htail
  | @sent call _ _ acts _ ih =>
    have htail := ih h.2
    rwa [List.append_assoc] at htail
  | @asked call _ _ acts answer _ ih =>
    have htail := ih (h.2 answer)
    rwa [List.append_assoc] at htail

theorem Program.Keeps.ended {e : E} (h : p.Keeps I F past) (hp : p = .stop e) : F e past := by
  rw [hp] at h
  exact h.2

/- Also with the call that it stands at. -/
theorem Program.Keeps.asking {call : Q} (h : p.Keeps I F past) (hp : p.asks = some call) : I (past ++ [.asked call none]) := by
  cases p with
  | stop e => cases hp
  | say line next => cases hp
  | send call next => cases hp
  | ask call' next =>
    cases hp
    exact (h.2 none).now

/-- In every state the program keeps to it with what it has done. -/
theorem keeps_reachable (hp : p.Keeps I F []) (h : (system server init p).Reachable x) : x.client.Keeps I F x.acts := by
  have hrest := hp.path (accounts_reachable h).path
  rwa [List.nil_append] at hrest

end Client
