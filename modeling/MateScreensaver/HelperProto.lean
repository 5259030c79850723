import MateScreensaver.AuthMessage
import MateScreensaver.Lib.Process
import MateScreensaver.Lib.Words

/-!
The frames between the dialog and its PAM helper (helper_proto.c): a type of four
bytes, a length of eight and the text, each read and written in a loop of its own.
-/

namespace MateScreensaver
open Process Prog Words

variable {Q : Type} {A : Q → Type}

def helperIoErr : Int := -1
def helperLengthReadErr : Int := -2
def helperTooLongErr : Int := -3
def helperMsgReadErr : Int := -4
def helperTypeReadErr : Int := -5
def helperLengthWriteErr : Int := -6
def helperMsgWriteErr : Int := -7
def helperTypeWriteErr : Int := -8

/- A ssize_t in an int. -/
def intOf (n : Int) : Int := n.bmod (2 ^ 32)

theorem intOf_eq {n : Int} (hlo : -2 ^ 31 ≤ n) (hhi : n < 2 ^ 31) : intOf n = n := by
  have hmod : n % 2 ^ 32 = n ∨ n % 2 ^ 32 = n + 2 ^ 32 := by omega
  unfold intOf Int.bmod
  norm_num
  split <;> omega

theorem intOf_lt (n : Int) : intOf n < 2 ^ 31 := by
  have h := Int.bmod_lt (x := n) (m := 2 ^ 32) (by omega)
  unfold intOf
  omega

theorem intOf_le {n : Int} (h : 0 ≤ n) : intOf n ≤ n := by
  unfold intOf Int.bmod
  norm_num
  split <;> omega

/- sizeof (int) and sizeof (size_t) -/
def sizeofInt : Nat := 4
def sizeofSize : Nat := 8

theorem fits_size {n : Nat} (h : n < 2 ^ 64) : n < 256 ^ sizeofSize := h

/-! ### The readers and their buffers -/

/- helper_proto.c:36: what is still to be read, where it goes, and how much there is. -/
def readAllInto (count dst : Nat) (mem : Memory) (rd : Nat) : Prog Q A (Option Nat × Memory) :=
  if count = 0 then .done (some rd, mem)
  else .read count fun
    | none => .done (none, mem)
    | some u =>
      if u = [] then .done (some rd, mem)
      else readAllInto (count - u.length) (dst + u.length) (mem.store dst u) (rd + u.length)
termination_by count
decreasing_by
  have hpos : 0 < u.length := List.length_pos_iff.2 ‹_›
  omega

/- The bytes that read_all has got, in a buffer of their own that holds some already. -/
def readAll (count : Nat) (got : Bytes) : Prog Q A (Option Bytes) :=
  (readAllInto count got.length (Memory.blank.store 0 got) got.length).bind fun (rd, mem) => .done (rd.map (mem.load 0))

/- helper_proto.c:57 with the memory that buf points into. At the end of the file nothing
is stored in msg_len, and `uninit` is what happens to be there. -/
def readMsgInto (uninit : Prog Q A Nat) (buf length : Nat) (mem : Memory) : Prog Q A (Int × Memory) :=
  (readAll sizeofSize []).bind fun
    | none => .done (helperIoErr, mem)
    | some rd =>
      if rd ≠ [] ∧ rd.length ≠ sizeofSize then .done (helperLengthReadErr, mem)
      else (if rd = [] then uninit else .done (decode rd)).bind fun msgLen =>
        if length ≤ msgLen then .done (helperTooLongErr, mem)
        else if msgLen = 0 then .done (0, mem.store buf [0])
        else (readAllInto msgLen buf mem 0).bind fun
          | (none, mem) => .done (helperIoErr, mem)
          | (some rd, mem) =>
            if rd ≠ msgLen then .done (helperMsgReadErr, mem)
            else .done (rd, mem.store (buf + rd) [0])

/- helper_proto.c:85, which has an int for what read_msg returns: what it returns, what it
stores in *length, and the memory. -/
def readPromptInto (uninit : Prog Q A Nat) (buf length : Nat) (mem : Memory) :
    Prog Q A (Int × Option Int × Memory) :=
  (readAll sizeofInt []).bind fun
    | none => .done (helperIoErr, none, mem)
    | some rd =>
      if rd = [] then .done (0, none, mem)
      else if rd.length ≠ sizeofInt then .done (helperTypeReadErr, none, mem)
      else (readMsgInto uninit buf length mem).bind fun (n, mem) =>
        if intOf n < 0 then .done (intOf n, none, mem) else .done (decodeInt rd, some (intOf n), mem)

/- What read_msg returns and the bytes it counts. -/
def readMsg (uninit : Prog Q A Nat) (length : Nat) : Prog Q A (Int × Bytes) :=
  (readMsgInto uninit 0 length Memory.blank).bind fun (n, mem) => .done (n, mem.load 0 n.toNat)

/- What read_prompt returns and the bytes that *length counts once it is stored. -/
def readPrompt (uninit : Prog Q A Nat) (length : Nat) : Prog Q A (Int × Bytes) :=
  (readPromptInto uninit 0 length Memory.blank).bind fun (msgType, len, mem) =>
    .done (msgType, (len.map fun n => mem.load 0 n.toNat).getD [])

/-! ### What the readers get -/

theorem load_stored (mem : Memory) (dst : Nat) (got : Bytes) : (mem.store dst got).load dst got.length = got := by
  have hload := mem.load_store dst got []
  rwa [List.append_nil] at hload

theorem readAll_eq (count : Nat) (got : Bytes) : readAll (Q := Q) (A := A) count got =
    if count = 0 then .done (some got)
    else .read count fun
      | none => .done none
      | some rd => if rd = [] then .done (some got) else readAll (count - rd.length) (got ++ rd) := by
  have hgot : (Memory.blank.store 0 got).load 0 got.length = got := load_stored Memory.blank 0 got
  rw [readAll, readAllInto]
  split
  · exact congrArg (fun u => Prog.done (some u)) hgot
  · simp only [Prog.bind]
    congr 1
    funext rd
    cases rd with
    | none => rfl
    | some rd =>
      by_cases hrd : rd = []
      · simp only [if_pos hrd]
        exact congrArg (fun u => Prog.done (some u)) hgot
      · have hstored := Memory.blank.store_store 0 got rd
        rw [Nat.zero_add] at hstored
        simp only [if_neg hrd]
        rw [readAll, ← hstored, List.length_append]

/- Where the buffer is, and what is in it, makes no difference to what is read. -/
theorem readAllInto_got {β : Type} (count dst : Nat) (mem : Memory) (got : Bytes) (f : Option Bytes → Prog Q A β) :
    ((readAllInto count (dst + got.length) (mem.store dst got) got.length).bind fun r => f (r.1.map (r.2.load dst))) =
      (readAll count got).bind f := by
  induction hn : count using Nat.strong_induction_on generalizing count got with
  | _ n ih =>
    subst hn
    rw [readAllInto, readAll_eq]
    split
    · exact congrArg (fun u => f (some u)) (load_stored mem dst got)
    · next hcount =>
      simp only [Prog.bind]
      congr 1
      funext u
      cases u with
      | none => rfl
      | some u =>
        by_cases hu : u = []
        · simp only [if_pos hu]
          exact congrArg (fun u => f (some u)) (load_stored mem dst got)
        · have hpos : 0 < u.length := List.length_pos_iff.2 hu
          simp only [if_neg hu]
          rw [Memory.store_store, Nat.add_assoc, ← List.length_append]
          exact ih (count - u.length) (by omega) _ _ rfl

/- What read_msg makes of what came of the payload. -/
def payloadRead (msgLen : Nat) : Option Bytes → Prog Q A (Int × Bytes)
  | none => .done (helperIoErr, [])
  | some rd => if rd.length ≠ msgLen then .done (helperMsgReadErr, []) else .done (rd.length, rd)

/- helper_proto.c:68, once msg_len has its value. -/
def readPayload (length msgLen : Nat) : Prog Q A (Int × Bytes) :=
  if length ≤ msgLen then .done (helperTooLongErr, [])
  else if msgLen = 0 then .done (0, [])
  else (readAll msgLen []).bind (payloadRead msgLen)

theorem readMsgInto_got (uninit : Prog Q A Nat) (buf length : Nat) (mem : Memory) :
    ((readMsgInto uninit buf length mem).bind fun r => .done (r.1, r.2.load buf r.1.toNat)) =
      (readAll sizeofSize []).bind fun
        | none => .done (helperIoErr, [])
        | some rd =>
          if rd ≠ [] ∧ rd.length ≠ sizeofSize then .done (helperLengthReadErr, [])
          else (if rd = [] then uninit else .done (decode rd)).bind (readPayload length) := by
  rw [readMsgInto, Prog.bind_assoc]
  congr 1
  funext rd
  cases rd with
  | none => rfl
  | some rd =>
    dsimp only
    split
    · rfl
    rw [Prog.bind_assoc]
    congr 1
    funext msgLen
    rw [readPayload]
    split
    · rfl
    split
    · rfl
    have hread := readAllInto_got (Q := Q) (A := A) msgLen buf mem [] (payloadRead msgLen)
    rw [Memory.store_nil] at hread
    rw [Prog.bind_assoc, ← hread]
    congr 1
    funext r
    obtain ⟨rd, mem⟩ := r
    cases rd with
    | none => rfl
    | some rd =>
      dsimp only [payloadRead, Option.map]
      rw [Memory.length_load]
      split
      · rfl
      · exact congrArg (fun u => Prog.done ((rd : Int), u)) (mem.load_frame buf [0] (Nat.le_refl _))

theorem readMsg_eq (uninit : Prog Q A Nat) (length : Nat) : readMsg uninit length =
    (readAll sizeofSize []).bind fun
      | none => .done (helperIoErr, [])
      | some rd =>
        if rd ≠ [] ∧ rd.length ≠ sizeofSize then .done (helperLengthReadErr, [])
        else (if rd = [] then uninit else .done (decode rd)).bind (readPayload length) :=
  readMsgInto_got uninit 0 length Memory.blank

theorem readMsgInto_ge (uninit : Prog Q A Nat) (buf length : Nat) (mem : Memory) :
    Ensures (readMsgInto uninit buf length mem) fun _ r => -4 ≤ r.1 := by
  refine Ensures.bind (R := fun _ _ => True) (fun _ _ _ => trivial) fun _ rd _ => ?_
  cases rd with
  | none => exact ensures_done (by decide : -4 ≤ helperIoErr)
  | some rd =>
    dsimp only
    split
    · exact ensures_done (by decide : -4 ≤ helperLengthReadErr)
    refine Ensures.bind (R := fun _ _ => True) (S := fun _ (r : Int × Memory) => -4 ≤ r.1)
      (fun _ _ _ => trivial) fun _ msgLen _ => ?_
    split
    · exact ensures_done (by decide : -4 ≤ helperTooLongErr)
    split
    · exact ensures_done (by decide : (-4 : Int) ≤ 0)
    refine Ensures.bind (R := fun _ _ => True) (S := fun _ (r : Int × Memory) => -4 ≤ r.1)
      (fun _ _ _ => trivial) fun _ (rd, mem) _ => ?_
    cases rd with
    | none => exact ensures_done (by decide : -4 ≤ helperIoErr)
    | some rd =>
      dsimp only
      split
      · exact ensures_done (by decide : -4 ≤ helperMsgReadErr)
      · exact ensures_done (by omega : (-4 : Int) ≤ rd)

theorem readPrompt_eq (uninit : Prog Q A Nat) (length : Nat) : readPrompt uninit length =
    (readAll sizeofInt []).bind fun
      | none => .done (helperIoErr, [])
      | some rd =>
        if rd = [] then .done (0, [])
        else if rd.length ≠ sizeofInt then .done (helperTypeReadErr, [])
        else (readMsg uninit length).bind fun (n, buf) =>
          if intOf n < 0 then .done (intOf n, []) else .done (decodeInt rd, buf.take (intOf n).toNat) := by
  rw [readPrompt, readPromptInto, Prog.bind_assoc]
  congr 1
  funext rd
  cases rd with
  | none => rfl
  | some rd =>
    dsimp only
    split
    · rfl
    split
    · rfl
    rw [readMsg, Prog.bind_assoc, Prog.bind_assoc]
    apply (readMsgInto_ge uninit 0 length Memory.blank).bind_congr
    intro (n, mem) hge
    rw [done_bind]
    dsimp only at hge ⊢
    split
    · rfl
    · next hint =>
      have hn : 0 ≤ n := by
        by_contra hneg
        have hsame : intOf n = n := intOf_eq (by omega) (by omega)
        omega
      have hle := intOf_le hn
      have htext : (mem.load 0 n.toNat).take (intOf n).toNat = mem.load 0 (intOf n).toNat := mem.take_load 0 (by omega)
      exact congrArg (fun u => Prog.done (decodeInt rd, u)) htext.symm

/- helper_proto.c:108, with what is still to be written and how much has been. -/
def writeAll (buf : Bytes) (wt : Nat) : Prog Q A (Option Nat) :=
  if buf = [] then .done (some wt)
  else .write buf fun
    | none => .done none
    | some n => if n = 0 then .done (some wt) else writeAll (buf.drop n) (wt + n)
termination_by buf.length
decreasing_by
  have hpos : 0 < buf.length := List.length_pos_iff.2 ‹_›
  rw [List.length_drop]
  omega

/- helper_proto.c:129 -/
def writeMsg (buf : Bytes) : Prog Q A Int :=
  (writeAll (encode sizeofSize buf.length) 0).bind fun
    | none => .done helperIoErr
    | some wt =>
      if 0 < wt ∧ wt ≠ sizeofSize then .done helperLengthWriteErr
      else if buf = [] then .done 0
      else (writeAll buf 0).bind fun
        | none => .done helperIoErr
        | some wt => if wt ≠ buf.length then .done helperMsgWriteErr else .done wt

/- helper_proto.c:154 -/
def writePrompt (msgType : Int) (buf : Bytes) : Prog Q A Int :=
  (writeAll (encodeInt msgType) 0).bind fun
    | none => .done helperIoErr
    | some wt =>
      if 0 < wt ∧ wt ≠ sizeofInt then .done helperTypeWriteErr
      else (writeMsg buf).bind fun wt => .done (intOf wt)

/-! ### No questions -/

theorem onlyAsks_readAllInto (S : Q → Prop) (count dst : Nat) (mem : Memory) (rd : Nat) :
    OnlyAsks (A := A) S (readAllInto count dst mem rd) := by
  induction hn : count using Nat.strong_induction_on generalizing count dst mem rd with
  | _ n ih =>
    subst hn
    rw [readAllInto]
    split
    · trivial
    · next hcount =>
      intro r
      cases r with
      | none => trivial
      | some u =>
        by_cases hu : u = []
        · simp only [if_pos hu]
          trivial
        · have hpos : 0 < u.length := List.length_pos_iff.2 hu
          simp only [if_neg hu]
          exact ih (count - u.length) (by omega) _ _ _ _ rfl

theorem onlyAsks_readAll (S : Q → Prop) (count : Nat) (got : Bytes) : OnlyAsks (A := A) S (readAll count got) :=
  (onlyAsks_readAllInto S _ _ _ _).bind fun _ => trivial

theorem onlyAsks_writeAll (S : Q → Prop) (buf : Bytes) (wt : Nat) : OnlyAsks (A := A) S (writeAll buf wt) := by
  induction hn : buf.length using Nat.strong_induction_on generalizing buf wt with
  | _ n ih =>
    subst hn
    rw [writeAll]
    split
    · trivial
    · next hbuf =>
      intro r
      cases r with
      | none => trivial
      | some n =>
        by_cases h0 : n = 0
        · simp only [if_pos h0]
          trivial
        · have hpos : 0 < buf.length := List.length_pos_iff.2 hbuf
          simp only [if_neg h0]
          exact ih (buf.drop n).length (by rw [List.length_drop]; omega) _ _ rfl

theorem onlyAsks_readMsgInto {S : Q → Prop} {uninit : Prog Q A Nat} (hu : OnlyAsks S uninit) (buf length : Nat)
    (mem : Memory) : OnlyAsks S (readMsgInto uninit buf length mem) := by
  refine (onlyAsks_readAll S _ _).bind fun rd => ?_
  cases rd with
  | none => trivial
  | some rd =>
    dsimp only
    split
    · trivial
    · refine OnlyAsks.bind (by split; exacts [hu, trivial]) fun msgLen => ?_
      split
      · trivial
      · split
        · trivial
        · refine (onlyAsks_readAllInto S _ _ _ _).bind fun (rd, mem) => ?_
          cases rd with
          | none => trivial
          | some rd => dsimp only; split <;> trivial

theorem onlyAsks_readMsg {S : Q → Prop} {uninit : Prog Q A Nat} (hu : OnlyAsks S uninit) (length : Nat) :
    OnlyAsks S (readMsg uninit length) :=
  (onlyAsks_readMsgInto hu _ _ _).bind fun _ => trivial

theorem onlyAsks_readPrompt {S : Q → Prop} {uninit : Prog Q A Nat} (hu : OnlyAsks S uninit) (length : Nat) :
    OnlyAsks S (readPrompt uninit length) := by
  refine OnlyAsks.bind ((onlyAsks_readAll S _ _).bind fun rd => ?_) fun _ => trivial
  cases rd with
  | none => trivial
  | some rd =>
    dsimp only
    split
    · trivial
    · split
      · trivial
      · refine (onlyAsks_readMsgInto hu _ _ _).bind fun (n, mem) => ?_
        dsimp only
        split <;> trivial

theorem onlyAsks_writeMsg (S : Q → Prop) (buf : Bytes) : OnlyAsks (A := A) S (writeMsg buf) := by
  refine (onlyAsks_writeAll S _ _).bind fun wt => ?_
  cases wt with
  | none => trivial
  | some wt =>
    dsimp only
    split
    · trivial
    · split
      · trivial
      · refine (onlyAsks_writeAll S _ _).bind fun wt => ?_
        cases wt with
        | none => trivial
        | some wt => dsimp only; split <;> trivial

theorem onlyAsks_writePrompt (S : Q → Prop) (msgType : Int) (buf : Bytes) :
    OnlyAsks (A := A) S (writePrompt msgType buf) := by
  refine (onlyAsks_writeAll S _ _).bind fun wt => ?_
  cases wt with
  | none => trivial
  | some wt =>
    dsimp only
    split
    · trivial
    · exact (onlyAsks_writeMsg S buf).bind fun _ => trivial

/-! ### Frames -/

def replyFrame (buf : Bytes) : Bytes := encode sizeofSize buf.length ++ buf
def promptFrame (msgType : Int) (buf : Bytes) : Bytes := encodeInt msgType ++ replyFrame buf

theorem readAll_zero (got : Bytes) : readAll (Q := Q) (A := A) 0 got = .done (some got) := by
  rw [readAll_eq, if_pos rfl]

theorem writeAll_nil (wt : Nat) : writeAll (Q := Q) (A := A) [] wt = .done (some wt) := by
  rw [writeAll, if_pos rfl]

theorem readAllInto_consumes (w : Bytes) (dst : ℕ) (mem : Memory) (rd : ℕ) :
    Consumes (readAllInto (Q := Q) (A := A) w.length dst mem rd) w (.done (some (rd + w.length), mem.store dst w)) := by
  induction hn : w.length using Nat.strong_induction_on generalizing w dst mem rd with
  | _ n ih =>
    subst hn
    by_cases hw : w = []
    · subst hw
      rw [List.length_nil, readAllInto, if_pos rfl, Memory.store_nil]
      exact .nil _
    · have hpos : w.length ≠ 0 := fun h0 => hw (List.eq_nil_of_length_eq_zero h0)
      rw [readAllInto, if_neg hpos]
      refine .read (Nat.pos_of_ne_zero hpos) (Nat.le_refl _) fun u v huv hu _ => ?_
      subst huv
      have hlen : 0 < u.length := List.length_pos_iff.2 hu
      have hrest : (u ++ v).length - u.length = v.length := by
        rw [List.length_append]
        omega
      have hsum : rd + (u ++ v).length = rd + u.length + v.length := by
        rw [List.length_append]
        omega
      simp only [if_neg hu, hrest]
      rw [hsum, ← Memory.store_store]
      exact ih v.length (by rw [List.length_append]; omega) v _ _ _ rfl

theorem writeAll_produces (w : Bytes) (wt : Nat) :
    Produces (writeAll (Q := Q) (A := A) w wt) w (.done (some (wt + w.length))) := by
  induction hn : w.length using Nat.strong_induction_on generalizing w wt with
  | _ n ih =>
    subst hn
    by_cases hw : w = []
    · subst hw
      rw [writeAll_nil, List.length_nil, Nat.add_zero]
      exact .nil _
    · rw [writeAll, if_neg hw]
      refine .write hw (List.prefix_refl _) fun n hpos hle => ?_
      simp only [if_neg (Nat.ne_of_gt hpos)]
      have hdrop : (w.drop n).length = w.length - n := List.length_drop
      have hrest := ih (w.drop n).length (by omega) (w.drop n) (wt + n) rfl
      have hsum : wt + n + (w.drop n).length = wt + w.length := by omega
      rw [hsum] at hrest
      exact hrest

theorem encode_ne_nil (n : Nat) : encode sizeofSize n ≠ [] := by
  intro h
  have hlen := length_encode sizeofSize n
  rw [h] at hlen
  exact absurd hlen (by decide)

theorem encodeInt_ne_nil (n : Int) : encodeInt n ≠ [] := by
  intro h
  have hlen := length_encodeInt n
  rw [h] at hlen
  exact absurd hlen (by decide)

/- The whole of a fixed-width field. -/
theorem field_consumes {w : Bytes} {n : Nat} (h : w.length = n) :
    Consumes (readAll (Q := Q) (A := A) n []) w (.done (some w)) := by
  subst h
  refine (readAllInto_consumes w 0 (Memory.blank.store 0 []) 0).bind.trans_eq ?_
  rw [done_bind, Nat.zero_add, Memory.store_nil]
  exact congrArg (fun u => Prog.done (some u)) (load_stored Memory.blank 0 w)

theorem field_produces (w : Bytes) : Produces (writeAll (Q := Q) (A := A) w 0) w (.done (some w.length)) := by
  have hall := writeAll_produces (Q := Q) (A := A) w 0
  rwa [Nat.zero_add] at hall

theorem writeMsg_produces (buf : Bytes) :
    Produces (writeMsg (Q := Q) (A := A) buf) (replyFrame buf) (.done buf.length) := by
  rw [writeMsg, replyFrame]
  refine (field_produces (encode sizeofSize buf.length)).bind.append ?_
  simp only [done_bind, length_encode, ne_eq, not_true, and_false, if_false]
  by_cases hbuf : buf = []
  · subst hbuf
    exact .nil _
  · rw [if_neg hbuf]
    refine (field_produces buf).bind.trans_eq ?_
    simp only [done_bind, not_true, if_false]

theorem writePrompt_produces (msgType : Int) (buf : Bytes) :
    Produces (writePrompt (Q := Q) (A := A) msgType buf) (promptFrame msgType buf) (.done (intOf buf.length)) := by
  rw [writePrompt, promptFrame]
  refine (field_produces (encodeInt msgType)).bind.append ?_
  simp only [done_bind, length_encodeInt, sizeofInt, ne_eq, not_true, and_false, if_false]
  exact (writeMsg_produces buf).bind

theorem readMsgInto_consumes {uninit : Prog Q A ℕ} {payload : Bytes} {buf length : ℕ} (mem : Memory)
    (hshort : payload.length < length) (hsize : payload.length < 256 ^ sizeofSize) :
    Consumes (readMsgInto uninit buf length mem) (replyFrame payload)
      (.done (payload.length, mem.store buf (payload ++ [0]))) := by
  rw [readMsgInto, replyFrame]
  refine (field_consumes (length_encode sizeofSize payload.length)).bind.append ?_
  have hround : decode (encode sizeofSize payload.length) = payload.length := decode_encode hsize
  simp only [done_bind, length_encode, ne_eq, not_true, and_false, if_false, encode_ne_nil, hround,
    if_neg (Nat.not_le.2 hshort)]
  by_cases hpayload : payload = []
  · subst hpayload
    exact .nil _
  · have hpos : payload.length ≠ 0 := fun h0 => hpayload (List.eq_nil_of_length_eq_zero h0)
    rw [if_neg hpos]
    refine (readAllInto_consumes payload buf mem 0).bind.trans_eq ?_
    simp only [done_bind, Nat.zero_add, not_true, if_false, Memory.store_store]

/- What read_prompt makes of a frame, with the int that the length of the payload goes through. -/
theorem readPromptInto_frame {uninit : Prog Q A Nat} {msgType : Int} {payload : Bytes} {buf length : Nat}
    (mem : Memory) (hlo : -2 ^ 31 ≤ msgType) (hhi : msgType < 2 ^ 31) (hshort : payload.length < length)
    (hsize : payload.length < 256 ^ sizeofSize) :
    Consumes (readPromptInto uninit buf length mem) (promptFrame msgType payload)
      (if intOf payload.length < 0 then .done (intOf payload.length, none, mem.store buf (payload ++ [0]))
        else .done (msgType, some (intOf payload.length), mem.store buf (payload ++ [0]))) := by
  rw [readPromptInto, promptFrame]
  refine (field_consumes (length_encodeInt msgType)).bind.append ?_
  simp only [done_bind, length_encodeInt, sizeofInt, ne_eq, not_true, if_false, encodeInt_ne_nil,
    decodeInt_encodeInt hlo hhi]
  refine (readMsgInto_consumes mem hshort hsize).bind.trans_eq ?_
  rw [done_bind]

theorem readPromptInto_consumes {uninit : Prog Q A Nat} {msgType : Int} {payload : Bytes} {buf length : Nat}
    (mem : Memory) (hlo : -2 ^ 31 ≤ msgType) (hhi : msgType < 2 ^ 31) (hshort : payload.length < length)
    (hint : payload.length < 2 ^ 31) :
    Consumes (readPromptInto uninit buf length mem) (promptFrame msgType payload)
      (.done (msgType, some payload.length, mem.store buf (payload ++ [0]))) := by
  have hsize : payload.length < 256 ^ sizeofSize := fits_size (by omega)
  have hkept : intOf payload.length = payload.length := intOf_eq (by omega) (by omega)
  have hpos : ¬ (payload.length : Int) < 0 := by omega
  refine (readPromptInto_frame mem hlo hhi hshort hsize).trans_eq ?_
  rw [hkept, if_neg hpos]

theorem readMsg_consumes {uninit : Prog Q A Nat} {buf : Bytes} {length : Nat} (hshort : buf.length < length)
    (hsize : buf.length < 256 ^ sizeofSize) :
    Consumes (readMsg uninit length) (replyFrame buf) (.done (buf.length, buf)) := by
  refine (readMsgInto_consumes Memory.blank hshort hsize).bind.trans_eq ?_
  rw [done_bind]
  exact congrArg (fun u => Prog.done ((buf.length : Int), u)) (Memory.load_store _ 0 buf [0])

theorem readPrompt_consumes {uninit : Prog Q A Nat} {msgType : Int} {buf : Bytes} {length : Nat}
    (hlo : -2 ^ 31 ≤ msgType) (hhi : msgType < 2 ^ 31) (hshort : buf.length < length)
    (hint : buf.length < 2 ^ 31) :
    Consumes (readPrompt uninit length) (promptFrame msgType buf) (.done (msgType, buf)) := by
  refine (readPromptInto_consumes Memory.blank hlo hhi hshort hint).bind.trans_eq ?_
  rw [done_bind]
  exact congrArg (fun u => Prog.done (msgType, u)) (Memory.load_store _ 0 buf [0])

end MateScreensaver
