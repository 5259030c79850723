import MateScreensaver.HelperProto
import MateScreensaver.Lib.Pipe

/-!
The frames of helper_proto.c over a pipe, with the memory they are read into. A prompt
arrives as it was sent unless its length does not fit into the int of read_prompt.
-/

namespace MateScreensaver
open Process Prog Words

variable {Q : Type} {A : Q → Type}

/-! ### One frame -/

/- A payload that the buffer has no room for is refused after its length. -/
theorem readMsgInto_tooLong {uninit : Prog Q A ℕ} {n buf length : ℕ} (mem : Memory) (hlong : length ≤ n)
    (hsize : n < 256 ^ sizeofSize) :
    Consumes (readMsgInto uninit buf length mem) (encode sizeofSize n) (.done (helperTooLongErr, mem)) := by
  rw [readMsgInto]
  refine (field_consumes (length_encode sizeofSize n)).bind.trans_eq ?_
  simp only [done_bind, length_encode, ne_eq, not_true, and_false, if_false, encode_ne_nil,
    decode_encode hsize, if_pos hlong]

theorem readPromptInto_tooLong {uninit : Prog Q A ℕ} {msgType : Int} {n buf length : ℕ} (mem : Memory)
    (hlong : length ≤ n) (hsize : n < 256 ^ sizeofSize) :
    Consumes (readPromptInto uninit buf length mem) (encodeInt msgType ++ encode sizeofSize n)
      (.done (helperTooLongErr, none, mem)) := by
  rw [readPromptInto]
  refine (field_consumes (length_encodeInt msgType)).bind.append ?_
  simp only [done_bind, length_encodeInt, sizeofInt, ne_eq, not_true, if_false, encodeInt_ne_nil]
  refine (readMsgInto_tooLong mem hlong hsize).bind.trans_eq ?_
  have herr : intOf helperTooLongErr = helperTooLongErr := intOf_eq (by decide) (by decide)
  rw [done_bind]
  dsimp only
  rw [herr, if_pos (by decide)]

/-! ### Nothing outside the buffer -/

/- No read gives more than was asked for. -/
def Sane (w : List (Act Q A)) : Prop := ∀ n u, .read n (some u) ∈ w → u.length ≤ n

def Outside (buf length : ℕ) (mem mem' : Memory) : Prop := ∀ x, x < buf ∨ buf + length ≤ x → mem' x = mem x

theorem outside_store {buf length dst : ℕ} {mem : Memory} {bytes : Bytes} (hlo : buf ≤ dst)
    (hhi : dst + bytes.length ≤ buf + length) : Outside buf length mem (mem.store dst bytes) := by
  intro x hx
  exact Memory.store_frame (by omega)

theorem Outside.trans {buf length : ℕ} {m m' m'' : Memory} (h : Outside buf length m m')
    (h' : Outside buf length m' m'') : Outside buf length m m'' := fun x hx => (h' x hx).trans (h x hx)

theorem Sane.append {u v : List (Act Q A)} (h : Sane (u ++ v)) : Sane u ∧ Sane v :=
  ⟨fun n b hm => h n b (List.mem_append_left v hm), fun n b hm => h n b (List.mem_append_right u hm)⟩

theorem readAllInto_outside (buf length count dst : ℕ) (mem : Memory) (rd : ℕ) (hlo : buf ≤ dst)
    (hhi : dst + count ≤ buf + length) :
    Ensures (readAllInto (Q := Q) (A := A) count dst mem rd) fun w r => Sane w → Outside buf length mem r.2 := by
  induction hn : count using Nat.strong_induction_on generalizing count dst mem rd with
  | _ n ih =>
    subst hn
    intro w r hr hw
    rw [readAllInto] at hr
    split at hr
    · cases hr
      exact fun _ _ => rfl
    · cases hr with
      | @read _ _ w r ans hr =>
        cases ans with
        | none =>
          cases hr
          exact fun _ _ => rfl
        | some u =>
          by_cases hu : u = []
          · simp only [if_pos hu] at hr
            cases hr
            exact fun _ _ => rfl
          · simp only [if_neg hu] at hr
            have hlen := hw count u List.mem_cons_self
            have hpos : 0 < u.length := List.length_pos_iff.2 hu
            have hrest := ih (count - u.length) (by omega) _ (dst + u.length) (mem.store dst u) _ (by omega)
              (by omega) rfl w r hr fun n b hm => hw n b (List.mem_cons_of_mem _ hm)
            exact (outside_store hlo (by omega)).trans hrest

theorem readMsgInto_outside (uninit : Prog Q A ℕ) (buf length : ℕ) (mem : Memory) :
    Ensures (readMsgInto uninit buf length mem) fun w r => Sane w → Outside buf length mem r.2 := by
  have hsame : ∀ {n : Int} {w : List (Act Q A)}, Ensures (.done (n, mem) : Prog Q A (Int × Memory))
      fun v r => Sane (w ++ v) → Outside buf length mem r.2 := fun {n w} => ensures_done fun _ _ _ => rfl
  refine Ensures.bind (R := fun _ _ => True) (fun _ _ _ => trivial) fun u rd _ => ?_
  cases rd with
  | none => exact hsame
  | some rd =>
    dsimp only
    split
    · exact hsame
    refine Ensures.bind (R := fun _ _ => True) (S := fun v (r : Int × Memory) => Sane (u ++ v) → Outside buf length mem r.2)
      (fun _ _ _ => trivial) fun v msgLen _ => ?_
    split
    · exact ensures_done fun _ _ _ => rfl
    next hroom =>
    split
    · exact ensures_done fun _ => outside_store (Nat.le_refl _) (by simp only [List.length_singleton]; omega)
    refine Ensures.bind (S := fun x (r : Int × Memory) => Sane (u ++ (v ++ x)) → Outside buf length mem r.2)
      (readAllInto_outside buf length msgLen buf mem 0 (Nat.le_refl _) (by omega))
      fun x (rd, mem') hmem => ?_
    have hread : ∀ y : List (Act Q A), Sane (u ++ (v ++ (x ++ y))) → Outside buf length mem mem' := fun y hw =>
      hmem hw.append.2.append.2.append.1
    cases rd with
    | none => exact ensures_done fun hw => hread [] hw
    | some rd =>
      dsimp only
      split
      · exact ensures_done fun hw => hread [] hw
      · have hrd : rd = msgLen := not_not.1 ‹_›
        refine ensures_done fun hw => (hread [] hw).trans (outside_store (by omega) ?_)
        simp only [List.length_singleton]
        omega

theorem readPromptInto_outside (uninit : Prog Q A ℕ) (buf length : ℕ) (mem : Memory) :
    Ensures (readPromptInto uninit buf length mem) fun w r => Sane w → Outside buf length mem r.2.2 := by
  refine Ensures.bind (R := fun _ _ => True) (fun _ _ _ => trivial) fun u rd _ => ?_
  cases rd with
  | none => exact ensures_done fun _ _ _ => rfl
  | some rd =>
    dsimp only
    split
    · exact ensures_done fun _ _ _ => rfl
    split
    · exact ensures_done fun _ _ _ => rfl
    refine Ensures.bind (S := fun v (r : Int × Option Int × Memory) => Sane (u ++ v) → Outside buf length mem r.2.2)
      (readMsgInto_outside uninit buf length mem) fun v (n, mem') hmem => ?_
    have hmsg : Sane (u ++ (v ++ [])) → Outside buf length mem mem' := fun hw => hmem hw.append.2.append.1
    dsimp only
    split
    · exact ensures_done hmsg
    · exact ensures_done hmsg

/-! ### Sequences of frames -/

/- A prompt that may be sent. -/
structure PromptFrame where
  msgType : Int
  payload : Bytes
  pos : 0 < msgType
  fits : msgType < 2 ^ 31

/- What a call of a reader leaves its caller with. -/
structure Received where
  returned : Int
  length : Int
  payload : Bytes
  nul : UInt8
deriving DecidableEq

def received (buf : ℕ) (returned length : Int) (mem : Memory) : Received :=
  ⟨returned, length, mem.load buf length.toNat, mem (buf + length.toNat)⟩

def writePrompts : List PromptFrame → List Int → Prog Q A (List Int)
  | [], out => .done out
  | f :: rest, out => (writePrompt f.msgType f.payload).bind fun wt => writePrompts rest (out ++ [wt])

def writeMsgs : List Bytes → List Int → Prog Q A (List Int)
  | [], out => .done out
  | payload :: rest, out => (writeMsg payload).bind fun wt => writeMsgs rest (out ++ [wt])

/- read_prompt until it returns 0 or less, at most n times. -/
def readPrompts (uninit : Prog Q A ℕ) (buf length : ℕ) :
    ℕ → Memory → List Received → Prog Q A (List Received × Option Int)
  | 0, _, got => .done (got, none)
  | n + 1, mem, got => (readPromptInto uninit buf length mem).bind fun (msgType, len, mem) =>
    if msgType ≤ 0 then .done (got, some msgType)
    else readPrompts uninit buf length n mem (got ++ [received buf msgType (len.getD length) mem])

/- read_msg n times. -/
def readMsgs (uninit : Prog Q A ℕ) (buf length : ℕ) : ℕ → Memory → List Received → Prog Q A (List Received)
  | 0, _, got => .done got
  | n + 1, mem, got => (readMsgInto uninit buf length mem).bind fun (rd, mem) =>
    readMsgs uninit buf length n mem (got ++ [received buf rd rd mem])

def PromptFrame.bytes (f : PromptFrame) : Bytes := promptFrame f.msgType f.payload

/- What is received of a frame when all is well. -/
def PromptFrame.whole (f : PromptFrame) : Received := ⟨f.msgType, f.payload.length, f.payload, 0⟩

def wholeMsg (payload : Bytes) : Received := ⟨payload.length, payload.length, payload, 0⟩

theorem received_stored (buf : ℕ) (returned : Int) (payload : Bytes) (mem : Memory) :
    received buf returned payload.length (mem.store buf (payload ++ [0])) = ⟨returned, payload.length, payload, 0⟩ := by
  simp only [received, Int.toNat_natCast, Memory.load_store, Memory.store_last]

theorem writePrompts_produces (frames : List PromptFrame) (out : List Int) :
    Produces (writePrompts (Q := Q) (A := A) frames out) (frames.flatMap PromptFrame.bytes)
      (.done (out ++ frames.map fun f => intOf f.payload.length)) := by
  induction frames generalizing out with
  | nil => exact (Produces.nil _).trans_eq (by simp [writePrompts])
  | cons f rest ih =>
    have hrest := ih (out ++ [intOf f.payload.length])
    rw [List.append_assoc] at hrest
    rw [writePrompts, List.flatMap_cons]
    exact (writePrompt_produces f.msgType f.payload).bind.append hrest

theorem writeMsgs_produces (payloads : List Bytes) (out : List Int) :
    Produces (writeMsgs (Q := Q) (A := A) payloads out) (payloads.flatMap replyFrame)
      (.done (out ++ payloads.map fun p => (p.length : Int))) := by
  induction payloads generalizing out with
  | nil => exact (Produces.nil _).trans_eq (by simp [writeMsgs])
  | cons p rest ih =>
    have hrest := ih (out ++ [(p.length : Int)])
    rw [List.append_assoc] at hrest
    rw [writeMsgs, List.flatMap_cons]
    exact (writeMsg_produces p).bind.append hrest

section Readers

variable {uninit : Prog Q A ℕ} {buf length : ℕ}

theorem readPrompts_consumes {frames : List PromptFrame} (hshort : ∀ f ∈ frames, f.payload.length < length)
    (hint : ∀ f ∈ frames, f.payload.length < 2 ^ 31) (n : ℕ) (mem : Memory) (got : List Received) :
    ∃ mem', Consumes (readPrompts uninit buf length (n + frames.length) mem got)
      (frames.flatMap PromptFrame.bytes)
      (readPrompts uninit buf length n mem' (got ++ frames.map PromptFrame.whole)) := by
  induction frames generalizing mem got with
  | nil => exact ⟨mem, (Consumes.nil _).trans_eq (by simp)⟩
  | cons f rest ih =>
    have hf := hshort f List.mem_cons_self
    obtain ⟨mem', hrest⟩ := ih (fun g hg => hshort g (List.mem_cons_of_mem f hg))
      (fun g hg => hint g (List.mem_cons_of_mem f hg)) (mem.store buf (f.payload ++ [0])) (got ++ [f.whole])
    rw [List.append_assoc] at hrest
    refine ⟨mem', ?_⟩
    have hpos : ¬ f.msgType ≤ 0 := Int.not_le.2 f.pos
    have hlow := f.pos
    rw [List.length_cons, ← Nat.add_assoc, readPrompts, List.flatMap_cons]
    refine (readPromptInto_consumes mem (by omega) f.fits hf (hint f List.mem_cons_self)).bind.append ?_
    rw [done_bind]
    dsimp only
    rw [if_neg hpos, Option.getD_some, received_stored]
    exact hrest

theorem readMsgs_consumes {payloads : List Bytes} (hlength : length ≤ 2 ^ 64)
    (hshort : ∀ p ∈ payloads, p.length < length) (mem : Memory) (got : List Received) :
    Consumes (readMsgs uninit buf length payloads.length mem got) (payloads.flatMap replyFrame)
      (.done (got ++ payloads.map wholeMsg)) := by
  induction payloads generalizing mem got with
  | nil => exact (Consumes.nil _).trans_eq (by simp [readMsgs])
  | cons p rest ih =>
    have hp := hshort p List.mem_cons_self
    have hrest := ih (fun q hq => hshort q (List.mem_cons_of_mem p hq)) (mem.store buf (p ++ [0])) (got ++ [wholeMsg p])
    rw [List.append_assoc] at hrest
    have hsize : p.length < 256 ^ sizeofSize := fits_size (by omega)
    rw [List.length_cons, readMsgs, List.flatMap_cons]
    refine (readMsgInto_consumes mem hp hsize).bind.append ?_
    rw [done_bind]
    dsimp only
    rw [received_stored]
    exact hrest

/- At the end of the file read_prompt returns 0. -/
theorem readPrompts_atEnd (n : ℕ) (mem : Memory) (got : List Received) :
    AtEnd (readPrompts uninit buf length (n + 1) mem got) 1 (got, some 0) := by
  rw [readPrompts, readPromptInto, readAll_eq, if_neg (by decide)]
  exact .read (.done _)

end Readers

/- What the framing is good for, with these prompts and a buffer of this size at this place. -/
structure RoundTrip (Q : Type) (A : Q → Type) (uninit : Prog Q A ℕ) (buf length : ℕ)
    (frames : List PromptFrame) : Prop where
  -- prompts arrive as they were sent, however the calls are cut, and then comes the end
  prompts : ∀ n mem,
    (⟨writePrompts frames [], [], readPrompts uninit buf length (n + frames.length + 1) mem []⟩ :
        Link Q A (List Int) (List Received × Option Int)).Delivers
      (frames.map fun f => intOf f.payload.length) (frames.map PromptFrame.whole, some 0)
  -- one call takes one frame, stores the length, and puts the NUL after the payload
  onePrompt : ∀ f ∈ frames, ∀ mem, Consumes (readPromptInto uninit buf length mem) f.bytes
    (.done (f.msgType, some f.payload.length, mem.store buf (f.payload ++ [0])))
  msgs : ∀ payloads : List Bytes, (∀ p ∈ payloads, p.length < length) → ∀ mem,
    (⟨writeMsgs payloads [], [], readMsgs uninit buf length payloads.length mem []⟩ :
        Link Q A (List Int) (List Received)).Delivers
      (payloads.map fun p => (p.length : Int)) (payloads.map wholeMsg)
  oneMsg : ∀ (payload : Bytes) mem, payload.length < length →
    Consumes (readMsgInto uninit buf length mem) (replyFrame payload)
      (.done (payload.length, mem.store buf (payload ++ [0])))
  -- what there is no room for is refused, and nothing is stored
  promptTooLong : ∀ (msgType : Int) (n : ℕ) mem, length ≤ n → n < 2 ^ 64 →
    Consumes (readPromptInto uninit buf length mem) (encodeInt msgType ++ encode sizeofSize n)
      (.done (helperTooLongErr, none, mem))
  msgTooLong : ∀ (n : ℕ) mem, length ≤ n → n < 2 ^ 64 →
    Consumes (readMsgInto uninit buf length mem) (encode sizeofSize n) (.done (helperTooLongErr, mem))
  -- whatever comes, nothing is written outside the buffer
  promptInside : ∀ mem, Ensures (readPromptInto uninit buf length mem) fun w r =>
    Sane w → Outside buf length mem r.2.2
  msgInside : ∀ mem, Ensures (readMsgInto uninit buf length mem) fun w r =>
    Sane w → Outside buf length mem r.2

section Exactness

variable {uninit : Prog Q A ℕ} {buf length : ℕ} {frames : List PromptFrame}

theorem roundTrip_of_short (hsize : length < 2 ^ 64) (hshort : ∀ f ∈ frames, f.payload.length < length)
    (hint : ∀ f ∈ frames, f.payload.length < 2 ^ 31) : RoundTrip Q A uninit buf length frames where
  prompts n mem := by
    obtain ⟨mem', hreads⟩ := @readPrompts_consumes Q A uninit buf length frames hshort hint (n + 1) mem []
    have hcount : n + frames.length + 1 = n + 1 + frames.length := by omega
    rw [hcount]
    exact Link.delivers (writePrompts_produces frames []) hreads (readPrompts_atEnd n mem' _)
  onePrompt f hf mem := by
    have hpos := f.pos
    exact readPromptInto_consumes mem (by omega) f.fits (hshort f hf) (hint f hf)
  msgs payloads hshort mem :=
    Link.delivers (writeMsgs_produces payloads []) (readMsgs_consumes (Nat.le_of_lt hsize) hshort mem []) (.done _)
  oneMsg payload mem hshort := readMsgInto_consumes mem hshort (fits_size (by omega))
  promptTooLong msgType n mem hlong hn := readPromptInto_tooLong mem hlong (fits_size hn)
  msgTooLong n mem hlong hn := readMsgInto_tooLong mem hlong (fits_size hn)
  promptInside := readPromptInto_outside uninit buf length
  msgInside := readMsgInto_outside uninit buf length

/- The int that came of a longer payload is another number. -/
theorem RoundTrip.short (h : RoundTrip Q A uninit buf length frames) (hsize : length < 2 ^ 64) {f : PromptFrame}
    (hf : f ∈ frames) (hshort : f.payload.length < length) : f.payload.length < 2 ^ 31 := by
  have hpos := f.pos
  have hwidth : f.payload.length < 256 ^ sizeofSize := fits_size (by omega)
  have hkept := h.onePrompt f hf Memory.blank
  have hframe : Consumes (readPromptInto uninit buf length Memory.blank) f.bytes _ :=
    readPromptInto_frame Memory.blank (by omega) f.fits hshort hwidth
  by_cases hneg : intOf f.payload.length < 0
  · rw [if_pos hneg] at hframe
    exact absurd (congrArg (fun r => r.2.1) (hkept.unique hframe)) (Option.some_ne_none _)
  · rw [if_neg hneg] at hframe
    have hsame : (f.payload.length : Int) = intOf f.payload.length := by
      have hlength := congrArg (fun r => r.2.1) (hkept.unique hframe)
      exact Option.some.inj hlength
    have hlt := intOf_lt f.payload.length
    omega

/- After a payload whose int is negative read_prompt is not called again. -/
theorem readPrompts_lost {f : PromptFrame} (hshort : f.payload.length < length) (hsize : length < 2 ^ 64)
    (hneg : intOf f.payload.length < 0) (n : ℕ) (mem : Memory) (got : List Received) :
    Consumes (readPrompts uninit buf length (n + 1) mem got) f.bytes (.done (got, some (intOf f.payload.length))) := by
  have hpos := f.pos
  have hwidth : f.payload.length < 256 ^ sizeofSize := fits_size (by omega)
  rw [readPrompts]
  refine (readPromptInto_frame mem (by omega) f.fits hshort hwidth).bind.trans_eq ?_
  rw [if_pos hneg, done_bind]
  exact if_pos (Int.le_of_lt hneg)

end Exactness

/- A prompt of 2^31 bytes, in a buffer with room for one byte more. -/
def longPrompt : PromptFrame := ⟨1, List.replicate (2 ^ 31) 0, by decide, by decide⟩

theorem length_longPrompt : longPrompt.payload.length = 2 ^ 31 := List.length_replicate

theorem intOf_two_pow : intOf (2 ^ 31 : Nat) = -2 ^ 31 := by decide

/- It is sent whole, but read_prompt returns a negative number and stores no length. -/
theorem longPrompt_lost : ¬ RoundTrip Empty (fun _ => Unit) (.done 0) 0 (2 ^ 31 + 1) [longPrompt] ∧
    (⟨writePrompts [longPrompt] [], [], readPrompts (.done 0) 0 (2 ^ 31 + 1) 2 Memory.blank []⟩ :
      Link Empty (fun _ => Unit) (List Int) (List Received × Option Int)).Delivers [-2 ^ 31] ([], some (-2 ^ 31)) := by
  have hroom : longPrompt.payload.length < 2 ^ 31 + 1 := by
    rw [length_longPrompt]
    exact Nat.lt_succ_self _
  constructor
  · intro h
    have hshort := h.short (by omega) List.mem_cons_self hroom
    rw [length_longPrompt] at hshort
    exact Nat.lt_irrefl _ hshort
  · have hlost : intOf longPrompt.payload.length = -2 ^ 31 := by
      rw [length_longPrompt]
      exact intOf_two_pow
    have hreads := @readPrompts_lost Empty (fun _ => Unit) (.done 0) 0 (2 ^ 31 + 1) longPrompt hroom (by omega)
      (by rw [hlost]; decide) 1 Memory.blank []
    have hsent := Link.delivers (writePrompts_produces [longPrompt] []) (by simpa using hreads) (.done _)
    simpa [hlost] using hsent

/- For every size_t: the prompts come through exactly when read_prompt has an int for the
length of each. -/
theorem framing_round_trip_iff (uninit : Prog Q A ℕ) (buf length : ℕ) (hsize : length < 2 ^ 64)
    (frames : List PromptFrame) (hshort : ∀ f ∈ frames, f.payload.length < length) :
    RoundTrip Q A uninit buf length frames ↔ ∀ f ∈ frames, f.payload.length < 2 ^ 31 :=
  ⟨fun h f hf => h.short hsize hf (hshort f hf), roundTrip_of_short hsize hshort⟩

/- An empty prompt and one that fills the buffer of the dialog. -/
theorem framing_round_trip_maxLen : RoundTrip Empty (fun _ => Unit) (.done 7) 0 maxLen
    [⟨2, [], by decide, by decide⟩, ⟨1, List.replicate 1023 97, by decide, by decide⟩] :=
  (framing_round_trip_iff (.done 7) 0 maxLen (by decide) _ (by decide +kernel)).2 (by decide +kernel)

end MateScreensaver
