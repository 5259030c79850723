import MateScreensaver.PamHelper

/-!
The memory of _converse (pam-helper.c:111): which strings it allocates for the replies,
and which it frees after a failure.
-/

namespace MateScreensaver
open Process Prog

abbrev HelperTrace := List (Act HelperCall HelperCall.Answer)

/- The calls of a trace that are about the strings and the array. -/
inductive MemoryCall
  | malloc (num : ℕ) (ok : Bool)
  | free (num : ℕ) (slot : ReplySlot)
  | freeReplies
deriving DecidableEq

def memoryCall : Act HelperCall HelperCall.Answer → Option MemoryCall
  | .ask (.malloc num _) ok => some (.malloc num ok)
  | .ask (.free num slot) _ => some (.free num slot)
  | .ask .freeReplies _ => some .freeReplies
  | _ => none

def memoryCalls (w : HelperTrace) : List MemoryCall := w.filterMap memoryCall

/- The slots whose strings were allocated, in order. -/
def allocated (calls : List MemoryCall) : List ℕ := calls.filterMap fun
  | .malloc num true => some num
  | _ => none

/- The slots whose strings were freed; freeing a NULL does nothing. -/
def freed (calls : List MemoryCall) : List ℕ := calls.filterMap fun
  | .free num (.assigned (some _)) => some num
  | _ => none

/- After a failure exactly the strings that were allocated are freed, each once and no
slot that was never assigned, then the array, once, and *resp is NULL. After a success
no allocation has failed, every slot is assigned, and nothing is freed. -/
structure Disciplined (numMsg : ℕ) (calls : List MemoryCall) (ret : Int) (resp : RespArray) : Prop where
  assigned : ∀ num, .free num .unassigned ∉ calls
  failed : ret ≠ Pam.success → freed calls = allocated calls ∧ (allocated calls).Nodup ∧
    (∃ before, calls = before ++ [.freeReplies] ∧ .freeReplies ∉ before) ∧ resp = .null
  succeeded : ret = Pam.success → (∀ num, .malloc num false ∉ calls) ∧ freed calls = [] ∧
    .freeReplies ∉ calls ∧ ∃ replies, resp = .array replies ∧ replies.length = numMsg

/- Each of the messages is written whole and answered by a reply that is read whole. -/
inductive Smooth : List PamMessage → HelperTrace → Prop
  | nil (w) : Smooth [] w
  | cons {m rest u v w rd buf num size ok} :
      Runs (writePrompt m.style.code m.msg.bytes) u (m.msg.bytes.length : Int) →
      Runs (readMsg (.ask .uninitialised .done) maxLen) v (rd, buf) → 0 ≤ rd → Smooth rest w →
      Smooth (m :: rest) (u ++ (v ++ .ask (.malloc num size) ok :: w))

/- The array is there, and neither a prompt nor a reply fails. -/
def Undisturbed (msgs : List PamMessage) (w : HelperTrace) : Prop :=
  ∃ v, w = .ask (.mallocReplies msgs.length) true :: v ∧ Smooth msgs v

/-! ### Traces -/

theorem memoryCalls_append (u v : HelperTrace) : memoryCalls (u ++ v) = memoryCalls u ++ memoryCalls v :=
  List.filterMap_append

/- Reading and writing frames is not about memory. -/
theorem memoryCalls_quiet {α : Type} {p : HelperProg α} {w : HelperTrace} {a : α}
    (hp : OnlyAsks (fun q => q = .uninitialised) p) (h : Runs p w a) : memoryCalls w = [] := by
  refine List.filterMap_eq_nil_iff.2 fun act hact => ?_
  cases act with
  | read | write => rfl
  | ask q r =>
    have hq := hp.runs h q r hact
    subst hq
    rfl

theorem write_quiet {m : PamMessage} {u : HelperTrace} {wt : Int}
    (h : Runs (writePrompt m.style.code m.msg.bytes) u wt) : memoryCalls u = [] :=
  memoryCalls_quiet (onlyAsks_writePrompt _ _ _) h

theorem read_quiet {v : HelperTrace} {r : Int × Bytes}
    (h : Runs (readMsg (.ask .uninitialised .done) maxLen) v r) : memoryCalls v = [] := by
  have huninit : OnlyAsks (A := HelperCall.Answer) (fun q => q = .uninitialised) (.ask .uninitialised .done) :=
    ⟨rfl, fun _ => trivial⟩
  exact memoryCalls_quiet (onlyAsks_readMsg huninit _) h

/- The allocations for these replies, from slot num on. -/
def mallocs : ℕ → PamReplies → List MemoryCall
  | _, [] => []
  | num, reply :: rest => .malloc num reply.isSome :: mallocs (num + 1) rest

def frees : ℕ → List ReplySlot → List MemoryCall
  | _, [] => []
  | num, slot :: rest => .free num slot :: frees (num + 1) rest

/- The slots with a string. -/
def stringSlots : ℕ → PamReplies → List ℕ
  | _, [] => []
  | num, none :: rest => stringSlots (num + 1) rest
  | num, some _ :: rest => num :: stringSlots (num + 1) rest

/- What is called at the end. -/
def endCalls (numMsg : ℕ) (ret : Int) (got : PamReplies) : List MemoryCall :=
  if ret ≠ Pam.success then
    frees 0 (got.map .assigned ++ List.replicate (numMsg - got.length) .unassigned) ++ [.freeReplies]
  else []

theorem freeSlots_runs {num : ℕ} {slots : List ReplySlot} {w : HelperTrace}
    (h : Runs (freeSlots num slots) w ()) : memoryCalls w = frees num slots := by
  induction slots generalizing num w with
  | nil =>
    cases h
    rfl
  | cons slot rest ih =>
    cases h with
    | @ask _ _ w _ r h =>
      have hrest := ih h
      show .free num slot :: memoryCalls w = _
      rw [hrest, frees]

theorem converseEnd_runs {numMsg : ℕ} {ret ret' : Int} {got : PamReplies} {w : HelperTrace} {resp : RespArray}
    (h : Runs (converseEnd numMsg ret got) w (ret', resp)) :
    ret' = ret ∧ memoryCalls w = endCalls numMsg ret got ∧
      resp = if ret ≠ Pam.success then .null else .array got := by
  unfold converseEnd endCalls at *
  split at h
  · next hret =>
    obtain ⟨u, v, _, rfl, hu, hv⟩ := runs_bind h
    cases hv with
    | ask r hv =>
      cases hv
      rw [if_pos hret, memoryCalls_append, freeSlots_runs hu]
      exact ⟨rfl, rfl, (if_pos hret).symm⟩
  · next hret =>
    cases h
    exact ⟨rfl, by rw [if_neg hret]; rfl, (if_neg hret).symm⟩

/-! ### The filling loop -/

/- How the loop ends with these replies assigned by it: all messages answered, or broken
off before the last. -/
structure Filled (msgs : List PamMessage) (ret : Int) (new : PamReplies) (w : HelperTrace) (ret' : Int) : Prop where
  smooth : Smooth msgs w → new.length = msgs.length ∧ (ret' = Pam.success ↔ ret = Pam.success ∧ none ∉ new)
  broken : ¬ Smooth msgs w → new.length < msgs.length ∧ ret' = Pam.convErr

theorem mallocs_cons (num : ℕ) (reply : Option Bytes) (rest : PamReplies) :
    mallocs num (reply :: rest) = .malloc num reply.isSome :: mallocs (num + 1) rest := rfl

/- A break before anything more is assigned. -/
theorem filled_break {m : PamMessage} {rest : List PamMessage} {ret : Int} {w : HelperTrace}
    (h : ¬ Smooth (m :: rest) w) : Filled (m :: rest) ret [] w Pam.convErr :=
  ⟨fun hs => absurd hs h, fun _ => ⟨Nat.succ_pos _, rfl⟩⟩

/- One turn of the loop: it breaks off, or a reply (NULL without memory) goes to the
next slot. -/
theorem turn_runs {numMsg : ℕ} {m : PamMessage} {rest : List PamMessage} {ret ret' : Int} {got : PamReplies}
    {w : HelperTrace} {resp : RespArray} (h : Runs (converseLoop numMsg (m :: rest) ret got) w (ret', resp)) :
    (∃ v, Runs (converseEnd numMsg Pam.convErr got) v (ret', resp) ∧ memoryCalls w = memoryCalls v ∧
      ¬ Smooth (m :: rest) w) ∨
    ∃ v reply, Runs (converseLoop numMsg rest (if Option.isSome reply then ret else Pam.bufErr) (got ++ [reply])) v
        (ret', resp) ∧
      memoryCalls w = .malloc got.length reply.isSome :: memoryCalls v ∧ (Smooth (m :: rest) w ↔ Smooth rest v) := by
  rw [converseLoop] at h
  obtain ⟨u, w, wt, rfl, hwrite, h⟩ := runs_bind h
  by_cases hwt : wt < 0 ∨ wt ≠ m.msg.bytes.length
  · rw [if_pos hwt] at h
    refine .inl ⟨w, h, by rw [memoryCalls_append, write_quiet hwrite, List.nil_append], fun hs => ?_⟩
    generalize hx : u ++ w = x at hs
    cases hs with
    | cons hwrite' _ _ _ =>
      obtain ⟨rfl, -, -⟩ := hwrite.unique hwrite' hx
      omega
  rw [if_neg hwt, converseReply] at h
  obtain ⟨v, w, ⟨rd, buf⟩, rfl, hread, h⟩ := runs_bind h
  have hwhole : wt = m.msg.bytes.length := by omega
  subst hwhole
  dsimp only at h
  have hquiet : memoryCalls (u ++ (v ++ w)) = memoryCalls w := by
    rw [memoryCalls_append, memoryCalls_append, write_quiet hwrite, read_quiet hread, List.nil_append, List.nil_append]
  by_cases hrd : rd < 0
  · rw [if_pos hrd] at h
    refine .inl ⟨w, h, hquiet, fun hs => ?_⟩
    generalize hx : u ++ (v ++ w) = x at hs
    cases hs with
    | cons hwrite' hread' hrd' _ =>
      obtain ⟨-, rfl, hv⟩ := hwrite.unique hwrite' hx
      obtain ⟨hr, -, -⟩ := hread.unique hread' hv
      cases hr
      omega
  rw [if_neg hrd, converseAfter] at h
  cases h with
  | @ask _ _ w _ ok h =>
    refine .inr ⟨w, if ok then some (buf.take rd.toNat) else none, by cases ok <;> exact h, ?_, ?_⟩
    · rw [hquiet]
      cases ok <;> rfl
    · refine ⟨fun hs => ?_, fun hs => .cons hwrite hread (Int.not_lt.1 hrd) hs⟩
      generalize hx : u ++ (v ++ _) = x at hs
      cases hs with
      | cons hwrite' hread' _ hrest =>
        obtain ⟨-, rfl, hv⟩ := hwrite.unique hwrite' hx
        obtain ⟨-, -, hw⟩ := hread.unique hread' hv
        obtain ⟨-, rfl⟩ := List.cons.inj hw
        exact hrest

theorem loop_runs {numMsg : ℕ} {msgs : List PamMessage} {ret ret' : Int} {got : PamReplies} {w : HelperTrace}
    {resp : RespArray} (h : Runs (converseLoop numMsg msgs ret got) w (ret', resp)) :
    ∃ new, memoryCalls w = mallocs got.length new ++ endCalls numMsg ret' (got ++ new) ∧
      (resp = if ret' ≠ Pam.success then .null else .array (got ++ new)) ∧ Filled msgs ret new w ret' := by
  induction msgs generalizing ret got w with
  | nil =>
    obtain ⟨rfl, hcalls, hresp⟩ := converseEnd_runs h
    refine ⟨[], by rw [List.append_nil]; exact hcalls, by rw [List.append_nil]; exact hresp, ?_⟩
    exact ⟨fun _ => ⟨rfl, by simp⟩, fun hs => absurd (.nil w) hs⟩
  | cons m rest ih =>
    obtain ⟨v, hend, hcalls, hrough⟩ | ⟨v, reply, hloop, hcalls, hsmooth⟩ := turn_runs h
    · obtain ⟨rfl, hcalls', hresp⟩ := converseEnd_runs hend
      refine ⟨[], ?_, by rw [List.append_nil]; exact hresp, filled_break hrough⟩
      rw [hcalls, hcalls', List.append_nil]
      rfl
    · obtain ⟨new, hcalls', hresp, hfilled⟩ := ih hloop
      rw [List.append_assoc] at hcalls' hresp
      rw [List.length_append, List.length_singleton] at hcalls'
      refine ⟨reply :: new, ?_, hresp, fun hs => ?_, fun hs => ?_⟩
      · rw [hcalls, hcalls', mallocs_cons]
        rfl
      · obtain ⟨hlength, hret⟩ := hfilled.smooth (hsmooth.1 hs)
        refine ⟨by rw [List.length_cons, List.length_cons, hlength], hret.trans ?_⟩
        cases reply with
        | some buf => simp
        | none => simp [Pam.bufErr, Pam.success]
      · obtain ⟨hlength, hret⟩ := hfilled.broken fun h => hs (hsmooth.2 h)
        exact ⟨by rw [List.length_cons, List.length_cons]; omega, hret⟩

/-! ### Freed and allocated -/

theorem allocated_append (u v : List MemoryCall) : allocated (u ++ v) = allocated u ++ allocated v :=
  List.filterMap_append

theorem freed_append (u v : List MemoryCall) : freed (u ++ v) = freed u ++ freed v := List.filterMap_append

theorem allocated_mallocs (num : ℕ) (new : PamReplies) : allocated (mallocs num new) = stringSlots num new := by
  induction new generalizing num with
  | nil => rfl
  | cons reply rest ih =>
    cases reply with
    | none => exact ih (num + 1)
    | some buf => exact congrArg (num :: ·) (ih (num + 1))

theorem freed_mallocs (num : ℕ) (new : PamReplies) : freed (mallocs num new) = [] := by
  induction new generalizing num with
  | nil => rfl
  | cons reply rest ih => exact ih (num + 1)

theorem allocated_frees (num : ℕ) (slots : List ReplySlot) : allocated (frees num slots) = [] := by
  induction slots generalizing num with
  | nil => rfl
  | cons slot rest ih => exact ih (num + 1)

theorem freed_frees (num : ℕ) (new : PamReplies) : freed (frees num (new.map .assigned)) = stringSlots num new := by
  induction new generalizing num with
  | nil => rfl
  | cons reply rest ih =>
    cases reply with
    | none => exact ih (num + 1)
    | some buf => exact congrArg (num :: ·) (ih (num + 1))

theorem le_of_mem_stringSlots {num n : ℕ} {new : PamReplies} (h : n ∈ stringSlots num new) : num ≤ n := by
  induction new generalizing num with
  | nil => exact absurd h List.not_mem_nil
  | cons reply rest ih =>
    cases reply with
    | none => exact Nat.le_of_succ_le (ih h)
    | some buf =>
      obtain rfl | h := List.mem_cons.1 h
      · exact Nat.le_refl _
      · exact Nat.le_of_succ_le (ih h)

theorem stringSlots_nodup (num : ℕ) (new : PamReplies) : (stringSlots num new).Nodup := by
  induction new generalizing num with
  | nil => exact List.nodup_nil
  | cons reply rest ih =>
    cases reply with
    | none => exact ih (num + 1)
    | some buf => exact List.nodup_cons.2 ⟨fun h => absurd (le_of_mem_stringSlots h) (by omega), ih (num + 1)⟩

theorem mem_mallocs {call : MemoryCall} {num : ℕ} {new : PamReplies} (h : call ∈ mallocs num new) :
    ∃ n reply, call = .malloc n (Option.isSome reply) ∧ reply ∈ new := by
  induction new generalizing num with
  | nil => exact absurd h List.not_mem_nil
  | cons reply rest ih =>
    obtain rfl | h := List.mem_cons.1 h
    · exact ⟨num, reply, rfl, List.mem_cons_self⟩
    · obtain ⟨n, r, hcall, hr⟩ := ih h
      exact ⟨n, r, hcall, List.mem_cons_of_mem _ hr⟩

theorem mem_frees {call : MemoryCall} {num : ℕ} {slots : List ReplySlot} (h : call ∈ frees num slots) :
    ∃ n slot, call = .free n slot ∧ slot ∈ slots := by
  induction slots generalizing num with
  | nil => exact absurd h List.not_mem_nil
  | cons slot rest ih =>
    obtain rfl | h := List.mem_cons.1 h
    · exact ⟨_, _, rfl, List.mem_cons_self⟩
    · obtain ⟨n, s, hcall, hs⟩ := ih h
      exact ⟨n, s, hcall, List.mem_cons_of_mem _ hs⟩

theorem frees_mem {num : ℕ} {slots : List ReplySlot} {slot : ReplySlot} (h : slot ∈ slots) :
    ∃ n, .free n slot ∈ frees num slots := by
  induction slots generalizing num with
  | nil => exact absurd h List.not_mem_nil
  | cons s rest ih =>
    obtain rfl | h := List.mem_cons.1 h
    · exact ⟨num, List.mem_cons_self⟩
    · obtain ⟨n, hn⟩ := @ih (num + 1) h
      exact ⟨n, List.mem_cons_of_mem _ hn⟩

theorem freeReplies_notMem (num num' : ℕ) (new : PamReplies) (slots : List ReplySlot) :
    .freeReplies ∉ mallocs num new ++ frees num' slots := by
  intro hmem
  obtain hmem | hmem := List.mem_append.1 hmem
  · obtain ⟨_, _, hcall, _⟩ := mem_mallocs hmem
    cases hcall
  · obtain ⟨_, _, hcall, _⟩ := mem_frees hmem
    cases hcall

/- A loop that was not broken off, with everything freed again. -/
theorem allocated_cleaned (new : PamReplies) :
    allocated (mallocs 0 new ++ (frees 0 (new.map .assigned) ++ [.freeReplies])) = stringSlots 0 new := by
  rw [allocated_append, allocated_append, allocated_mallocs, allocated_frees]
  exact List.append_nil _

theorem freed_cleaned (new : PamReplies) :
    freed (mallocs 0 new ++ (frees 0 (new.map .assigned) ++ [.freeReplies])) = stringSlots 0 new := by
  rw [freed_append, freed_append, freed_mallocs, freed_frees]
  exact List.append_nil _

/- The calls of a loop that was not broken off. -/
theorem disciplined_filled {new : PamReplies} {ret : Int} {resp : RespArray} {numMsg : ℕ} (hlen : new.length = numMsg)
    (hret : ret = Pam.success ↔ none ∉ new) (hresp : resp = if ret ≠ Pam.success then .null else .array new) :
    Disciplined numMsg (mallocs 0 new ++ endCalls numMsg ret new) ret resp := by
  have hnone : List.replicate (numMsg - new.length) ReplySlot.unassigned = [] := by
    rw [hlen, Nat.sub_self, List.replicate_zero]
  unfold endCalls
  rw [hnone, List.append_nil]
  by_cases hsuccess : ret = Pam.success
  · have hok : ¬ ret ≠ Pam.success := not_not.2 hsuccess
    rw [if_neg hok] at hresp ⊢
    have hmalloc : ∀ call ∈ mallocs 0 new, ∃ num, call = .malloc num true := by
      intro call hcall
      obtain ⟨num, reply, rfl, hreply⟩ := mem_mallocs hcall
      cases reply with
      | none => exact absurd hreply (hret.1 hsuccess)
      | some buf => exact ⟨num, rfl⟩
    rw [List.append_nil]
    refine ⟨fun num hmem => ?_, fun hfail => absurd hsuccess hfail, fun _ => ⟨fun num hmem => ?_, freed_mallocs 0 new,
      fun hmem => ?_, new, hresp, hlen⟩⟩
    all_goals
      obtain ⟨_, hcall⟩ := hmalloc _ hmem
      cases hcall
  · rw [if_pos hsuccess] at hresp ⊢
    refine ⟨fun num hmem => ?_, fun _ => ?_, fun h => absurd h hsuccess⟩
    · obtain hmem | hmem := List.mem_append.1 hmem
      · obtain ⟨_, _, hcall, _⟩ := mem_mallocs hmem
        cases hcall
      · obtain hmem | hmem := List.mem_append.1 hmem
        · obtain ⟨_, _, hcall, hslot⟩ := mem_frees hmem
          cases hcall
          simp at hslot
        · simp at hmem
    · rw [allocated_cleaned, freed_cleaned]
      exact ⟨rfl, stringSlots_nodup 0 new, ⟨_, (List.append_assoc _ _ _).symm, freeReplies_notMem 0 0 new _⟩, hresp⟩

theorem converse_runs {msgs : List PamMessage} {w : HelperTrace} {ret : Int} {resp : RespArray}
    (h : Runs (converse msgs) w (ret, resp)) :
    (w = [.ask (.mallocReplies msgs.length) false] ∧ ret = Pam.convErr ∧ resp = .untouched) ∨
      ∃ v, w = .ask (.mallocReplies msgs.length) true :: v ∧ Runs (converseLoop msgs.length msgs Pam.success []) v (ret, resp) := by
  cases h with
  | ask ok h =>
    cases ok with
    | false =>
      cases h
      exact .inl ⟨rfl, rfl, rfl⟩
    | true => exact .inr ⟨_, rfl, h⟩

/-- Exactly the runs with an array and without a broken exchange keep to the discipline;
an allocation of a reply may fail. -/
theorem converse_disciplined_iff {msgs : List PamMessage} {w : HelperTrace} {ret : Int} {resp : RespArray}
    (h : Runs (converse msgs) w (ret, resp)) :
    Disciplined msgs.length (memoryCalls w) ret resp ↔ Undisturbed msgs w := by
  obtain ⟨rfl, rfl, rfl⟩ | ⟨v, rfl, hloop⟩ := converse_runs h
  · refine ⟨fun hd => ?_, fun ⟨v, hv, _⟩ => by cases hv⟩
    obtain ⟨_, _, _, hnull⟩ := hd.failed (by decide)
    cases hnull
  · obtain ⟨new, hcalls, hresp, hfilled⟩ := loop_runs hloop
    have hwhole : memoryCalls (.ask (.mallocReplies msgs.length) true :: v) =
        mallocs 0 new ++ endCalls msgs.length ret new := hcalls
    rw [hwhole]
    constructor
    · intro hd
      refine ⟨v, rfl, ?_⟩
      by_contra hbroken
      obtain ⟨hlen, rfl⟩ := hfilled.broken hbroken
      -- the slot of the message that the loop broke off at
      have hslot : ReplySlot.unassigned ∈
          new.map .assigned ++ List.replicate (msgs.length - new.length) .unassigned :=
        List.mem_append_right _ (List.mem_replicate.2 ⟨by omega, rfl⟩)
      obtain ⟨n, hn⟩ := @frees_mem 0 _ _ hslot
      refine hd.assigned n (List.mem_append_right _ ?_)
      rw [endCalls, if_pos (by decide)]
      exact List.mem_append_left _ hn
    · rintro ⟨v', hv, hsmooth⟩
      obtain ⟨-, rfl⟩ := List.cons.inj hv
      obtain ⟨hlen, hret⟩ := hfilled.smooth hsmooth
      exact disciplined_filled hlen (by simpa using hret) hresp

/- One message without a text. -/
def blank : PamMessage := { msgStyle := Pam.textInfo, msg := ⟨[], by decide, by decide⟩ }

theorem writeAll_whole {buf : Bytes} (h : buf ≠ []) :
    Runs (A := HelperCall.Answer) (writeAll buf 0) [.write buf (some buf.length)] (some buf.length) := by
  have hpos : buf.length ≠ 0 := fun h0 => h (List.eq_nil_of_length_eq_zero h0)
  rw [writeAll, if_neg h]
  refine .write (some buf.length) ?_
  simp only [if_neg hpos, List.drop_length, writeAll_nil, Nat.zero_add]
  exact .done _

theorem readAll_whole {u : Bytes} (h : u ≠ []) :
    Runs (A := HelperCall.Answer) (readAll u.length []) [.read u.length (some u)] (some u) := by
  have hpos : u.length ≠ 0 := fun h0 => h (List.eq_nil_of_length_eq_zero h0)
  rw [readAll_eq, if_neg hpos]
  refine .read (some u) ?_
  simp only [if_neg h, Nat.sub_self, readAll_zero, List.nil_append]
  exact .done _

/- Its reply comes, but there is no memory for it. -/
def noMemory : HelperTrace :=
  [.write (Words.encodeInt blank.style.code) (some 4), .write (Words.encode 8 0) (some 8),
   .read 8 (some (Words.encode 8 0)), .ask (.malloc 0 1) false, .ask (.free 0 (.assigned none)) (),
   .ask .freeReplies ()]

theorem blank_written : Runs (A := HelperCall.Answer) (writePrompt blank.style.code blank.msg.bytes)
    [.write (Words.encodeInt blank.style.code) (some 4), .write (Words.encode 8 0) (some 8)] (0 : Int) := by
  have hmsg : Runs (A := HelperCall.Answer) (writeMsg blank.msg.bytes) [.write (Words.encode 8 0) (some 8)] (0 : Int) :=
    (writeAll_whole (encode_ne_nil 0)).bind (.done _)
  have hint : intOf 0 = 0 := intOf_eq (by omega) (by omega)
  have hrest := hmsg.bind (f := fun wt => .done (intOf wt)) (.done (intOf 0))
  rw [hint] at hrest
  exact (writeAll_whole (encodeInt_ne_nil _)).bind hrest

theorem blank_read : Runs (A := HelperCall.Answer) (readMsg (.ask .uninitialised .done) maxLen)
    [.read 8 (some (Words.encode 8 0))] (0, []) := by
  rw [readMsg_eq]
  exact (readAll_whole (encode_ne_nil 0)).bind (.done _)

theorem disciplined_noMemory : Disciplined 1 (memoryCalls (.ask (.mallocReplies 1) true :: noMemory)) Pam.bufErr .null := by
  have hruns : Runs (converse [blank]) (.ask (.mallocReplies 1) true :: noMemory) (Pam.bufErr, .null) := by
    refine .ask (A := HelperCall.Answer) (q := .mallocReplies 1) true ?_
    refine blank_written.bind (blank_read.bind (.ask (A := HelperCall.Answer) (q := .malloc 0 1) false ?_))
    exact .ask _ (.ask _ (.done _))
  exact (converse_disciplined_iff hruns).2 ⟨_, rfl, .cons blank_written blank_read (Int.le_refl 0) (.nil _)⟩

/- Its prompt cannot be written, and the one slot is freed all the same. -/
def promptFailed : HelperTrace :=
  [.ask (.mallocReplies 1) true, .write (Words.encodeInt blank.style.code) none, .ask (.free 0 .unassigned) (),
   .ask .freeReplies ()]

theorem promptFailed_runs : Runs (converse [blank]) promptFailed (Pam.convErr, .null) := by
  refine .ask (A := HelperCall.Answer) (q := .mallocReplies 1) true ?_
  show Runs (converseLoop 1 [blank] Pam.success []) _ _
  rw [converseLoop, writePrompt, writeAll, if_neg (encodeInt_ne_nil _)]
  exact .write none (.ask _ (.ask _ (.done _)))

theorem frees_unassigned : ¬ ∀ msgs w ret resp, Runs (converse msgs) w (ret, resp) →
    Disciplined msgs.length (memoryCalls w) ret resp := by
  intro h
  exact (h _ _ _ _ promptFailed_runs).assigned 0 (by decide)

end MateScreensaver
