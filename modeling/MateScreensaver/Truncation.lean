import MateScreensaver.HelperProto
import MateScreensaver.Lib.Behaviour

/-!
Frames that break off: what read_msg, read_prompt, write_msg and write_prompt return
when the file ends, a call fails, or nothing goes out.
-/

namespace MateScreensaver
open Process Prog Words

variable {Q : Type} {A : Q → Type} (o : Behaviour Q A)

/- A length that is not negative stands for a whole length field and as many bytes. -/
def MsgWhole (e : Effect (Int × Bytes)) : Prop := 0 ≤ e.result.1 → ∃ field payload : Bytes,
  field.length = sizeofSize ∧ e.result.1 = decode field ∧ payload.length = decode field ∧
    e.input = field ++ payload

/- A positive type stands for a whole frame, and 0 for the end before its first byte. -/
structure PromptWhole (e : Effect (Int × Bytes)) : Prop where
  positive : 0 < e.result.1 → ∃ typ field payload : Bytes, typ.length = sizeofInt ∧
    e.result.1 = decodeInt typ ∧ field.length = sizeofSize ∧ payload.length = decode field ∧
      e.input = typ ++ (field ++ payload)
  zero : e.result.1 = 0 → o.read 0 sizeofInt = some []

/- The payload length stands for a frame that went out whole. -/
def WrittenWhole (frame buf : Bytes) (e : Effect Int) : Prop := e.result = buf.length → e.output = frame

/-! ### The loops -/

theorem readAll_exec {n : Nat} {got u : Bytes} {i : Nat} (h : ((readAll n got).exec o i).result = some u) :
    ∃ v, u = got ++ v ∧ v.length ≤ n ∧ ((readAll n got).exec o i).input = v := by
  induction hn : n using Nat.strong_induction_on generalizing n got i with
  | _ n ih =>
    subst hn
    rw [readAll_eq] at h ⊢
    by_cases h0 : n = 0
    · rw [if_pos h0] at h ⊢
      cases h
      exact ⟨[], (List.append_nil _).symm, Nat.zero_le _, rfl⟩
    · rw [if_neg h0] at h ⊢
      simp only [exec] at h ⊢
      cases hr : o.read i n with
      | none =>
        rw [hr] at h
        cases h
      | some rd =>
        simp only [hr] at h ⊢
        by_cases hrd : rd = []
        · simp only [if_pos hrd, exec_done] at h ⊢
          cases h
          exact ⟨[], (List.append_nil _).symm, Nat.zero_le _, by simp [hrd]⟩
        · simp only [if_neg hrd] at h ⊢
          have hpos : 0 < rd.length := List.length_pos_iff.2 hrd
          have hle := o.read_le i n rd hr
          obtain ⟨v, rfl, hlen, hinput⟩ := ih (n - rd.length) (by omega) h rfl
          refine ⟨rd ++ v, by rw [List.append_assoc], ?_, by rw [hinput]; rfl⟩
          rw [List.length_append]
          omega

/- Nothing has been read only when the file ended at the first byte. -/
theorem readAll_exec_nil {n : Nat} (hn : n ≠ 0) {i : Nat} :
    ((readAll n []).exec o i).result = some [] ↔ o.read i n = some [] := by
  rw [readAll_eq, if_neg hn]
  simp only [exec]
  cases hr : o.read i n with
  | none => simp
  | some rd =>
    by_cases hrd : rd = []
    · simp [hrd]
    · simp only [Option.some.injEq, hrd, if_false, iff_false]
      intro h
      obtain ⟨v, hv, _⟩ := readAll_exec o h
      exact hrd (List.append_eq_nil_iff.1 hv.symm).1

theorem readAll_exec_end {n i : Nat} (hn : n ≠ 0) (h : o.read i n = some []) :
    (readAll n []).exec o i = ⟨some [], i + 1, [], []⟩ := by
  rw [readAll_eq, if_neg hn]
  simp [exec, h]

/- What has been written is as long as the count says, and all of it at the full count. -/
theorem writeAll_exec {buf : Bytes} {wt n i : Nat} (h : ((writeAll buf wt).exec o i).result = some n) :
    ∃ k, n = wt + k ∧ k ≤ buf.length ∧ ((writeAll buf wt).exec o i).output = buf.take k := by
  induction hn : buf.length using Nat.strong_induction_on generalizing buf wt i with
  | _ l ih =>
    subst hn
    rw [writeAll] at h ⊢
    by_cases h0 : buf = []
    · rw [if_pos h0] at h ⊢
      cases h
      exact ⟨0, rfl, Nat.zero_le _, rfl⟩
    · rw [if_neg h0] at h ⊢
      simp only [exec] at h ⊢
      cases hr : o.write i buf with
      | none =>
        rw [hr] at h
        cases h
      | some k =>
        simp only [hr] at h ⊢
        by_cases hk : k = 0
        · simp only [if_pos hk, exec_done] at h ⊢
          cases h
          exact ⟨0, rfl, Nat.zero_le _, by simp [hk]⟩
        · simp only [if_neg hk] at h ⊢
          have hle := o.write_le i buf k hr
          have hdrop : (buf.drop k).length = buf.length - k := List.length_drop
          obtain ⟨m, rfl, hm, houtput⟩ := ih (buf.drop k).length (by omega) h rfl
          refine ⟨k + m, by omega, by omega, ?_⟩
          rw [houtput, Option.getD_some, List.take_add]

theorem field_exec {n i : Nat} {u : Bytes} (h : ((readAll n []).exec o i).result = some u) :
    u.length ≤ n ∧ ((readAll n []).exec o i).input = u := by
  obtain ⟨v, rfl, hlen, hinput⟩ := readAll_exec o h
  exact ⟨hlen, hinput⟩

@[simp] theorem Effect.and_result {α β : Type} (e : Effect α) (t : Effect β) : (e.and t).result = t.result := rfl
@[simp] theorem Effect.and_input {α β : Type} (e : Effect α) (t : Effect β) : (e.and t).input = e.input ++ t.input := rfl
@[simp] theorem Effect.and_output {α β : Type} (e : Effect α) (t : Effect β) :
    (e.and t).output = e.output ++ t.output := rfl

/-! ### Reading -/

/- The payload arrives from the i-th call on. -/
def PayloadArrives (i msgLen : Nat) (payload : Bytes) : Prop :=
  ((readAll msgLen []).exec o i).result = some payload ∧ payload.length = msgLen

theorem readPayload_exec {i length msgLen : Nat} (h : 0 ≤ ((readPayload length msgLen).exec o i).result.1) :
    msgLen < length ∧ ∃ payload, PayloadArrives o i msgLen payload ∧
      ((readPayload length msgLen).exec o i).result.1 = msgLen ∧
        ((readPayload length msgLen).exec o i).input = payload := by
  unfold readPayload at h ⊢
  by_cases hlong : length ≤ msgLen
  · rw [if_pos hlong] at h
    exact absurd h (by simp [helperTooLongErr])
  rw [if_neg hlong] at h ⊢
  refine ⟨Nat.lt_of_not_le hlong, ?_⟩
  by_cases h0 : msgLen = 0
  · subst h0
    rw [if_pos rfl]
    exact ⟨[], ⟨by rw [readAll_zero, exec_done], rfl⟩, rfl, rfl⟩
  rw [if_neg h0, exec_bind] at h ⊢
  cases hread : ((readAll msgLen []).exec o i).result with
  | none =>
    simp only [hread, payloadRead, Effect.and_result, exec_done] at h
    exact absurd h (by decide)
  | some rd =>
    simp only [hread, payloadRead, Effect.and_result, Effect.and_input] at h ⊢
    by_cases hlen : rd.length = msgLen
    · rw [if_neg (not_not.2 hlen)]
      exact ⟨rd, ⟨hread, hlen⟩, by simp [hlen], by simp [(field_exec o hread).2]⟩
    · rw [if_pos hlen] at h
      exact absurd h (by simp [helperMsgReadErr])

theorem readPayload_arrived {i length msgLen : Nat} {payload : Bytes} (hlong : msgLen < length)
    (h : PayloadArrives o i msgLen payload) : ((readPayload length msgLen).exec o i).result.1 = msgLen := by
  unfold readPayload
  rw [if_neg (Nat.not_le.2 hlong)]
  by_cases h0 : msgLen = 0
  · rw [if_pos h0, h0]
    rfl
  · rw [if_neg h0, exec_bind, h.1]
    simp [payloadRead, h.2]

/- What msg_len holds after the first loop of read_msg: what was read, or at the end of the
file what happened to be there. -/
inductive LengthRead (i m : Nat) : Nat → Prop
  | whole {field : Bytes} : ((readAll sizeofSize []).exec o i).result = some field →
      field.length = sizeofSize → LengthRead i m (decode field)
  | stale : o.read i sizeofSize = some [] → LengthRead i m m

theorem readMsg_exec (i m length : Nat) :
    (∃ msgLen, LengthRead o i m msgLen ∧ (readMsg (.done m) length).exec o i =
      ((readAll sizeofSize []).exec o i).and
        ((readPayload length msgLen).exec o ((readAll sizeofSize []).exec o i).next)) ∨
      ((readMsg (.done m) length).exec o i).result.1 < 0 := by
  rw [readMsg_eq, exec_bind]
  cases hfield : ((readAll sizeofSize []).exec o i).result with
  | none => exact .inr (by simp [helperIoErr])
  | some field =>
    by_cases hshort : field ≠ [] ∧ field.length ≠ sizeofSize
    · refine .inr ?_
      simp only [if_pos hshort, Effect.and_result, exec_done]
      decide
    · simp only [if_neg hshort]
      by_cases hend : field = []
      · subst hend
        refine .inl ⟨m, .stale ((readAll_exec_nil o (by decide)).1 hfield), ?_⟩
        rw [if_pos rfl, done_bind]
      · have hlen : field.length = sizeofSize := not_not.1 fun hne => hshort ⟨hend, hne⟩
        refine .inl ⟨decode field, .whole hfield hlen, ?_⟩
        rw [if_neg hend, done_bind]

/- The length field does not end before it has begun, if the buffer has room at all. -/
def LengthBegins (i length : Nat) : Prop := length = 0 ∨ o.read i sizeofSize ≠ some []

theorem readMsg_whole {i length : Nat} (m : Nat) (h : LengthBegins o i length) :
    MsgWhole ((readMsg (.done m) length).exec o i) := by
  intro hres
  obtain ⟨msgLen, hread, heq⟩ | hneg := readMsg_exec o i m length
  · rw [heq] at hres ⊢
    obtain ⟨hlong, payload, ⟨_, hlen⟩, hresult, hinput⟩ := readPayload_exec o hres
    cases hread with
    | @whole field hfield hsize =>
      refine ⟨field, payload, hsize, hresult, hlen, ?_⟩
      rw [Effect.and_input, hinput, (field_exec o hfield).2]
    | stale hend =>
      obtain h0 | hbegins := h
      · omega
      · exact absurd hend hbegins
  · omega

/- With an end at the first byte of the length, 0 may be what is in msg_len. -/
theorem readMsg_stale {i length : Nat} (h : ¬ LengthBegins o i length) :
    (readMsg (.done 0) length).exec o i = ⟨(0, []), i + 1, [], []⟩ := by
  obtain ⟨hlength, hend⟩ := not_or.1 h
  have hend := not_not.1 hend
  rw [readMsg_eq, exec_bind, readAll_exec_end o (by decide) hend]
  have hroom : ¬ length ≤ 0 := by omega
  simp [Effect.and, readPayload, hroom]

theorem msgWhole_iff (i length : Nat) :
    (∀ m, MsgWhole ((readMsg (.done m) length).exec o i)) ↔ LengthBegins o i length := by
  refine ⟨fun h => ?_, fun h m => readMsg_whole o m h⟩
  by_contra hstale
  have hwhole := h 0
  rw [readMsg_stale o hstale] at hwhole
  obtain ⟨field, payload, hsize, _, _, hinput⟩ := hwhole (Int.le_refl 0)
  have hnil := (List.append_eq_nil_iff.1 hinput.symm).1
  rw [hnil] at hsize
  exact absurd hsize (by decide)

/- The four bytes of the type arrive, and then call i is next. -/
def TypeArrives (typ : Bytes) (i : Nat) : Prop :=
  ((readAll sizeofInt []).exec o 0).result = some typ ∧ typ.length = sizeofInt ∧
    ((readAll sizeofInt []).exec o 0).next = i

/- A message arrives whose length the int of read_prompt does not make negative. -/
def MsgArrives (i length : Nat) : Prop := ∃ field payload : Bytes,
  ((readAll sizeofSize []).exec o i).result = some field ∧ field.length = sizeofSize ∧ decode field < length ∧
    PayloadArrives o ((readAll sizeofSize []).exec o i).next (decode field) payload ∧ 0 ≤ intOf (decode field)

/- No type is followed by the end of the file, and no type 0 by a message. -/
def PromptSound (length : Nat) : Prop := ∀ typ i, TypeArrives o typ i →
  (0 ≤ decodeInt typ → LengthBegins o i length) ∧ (decodeInt typ = 0 → ¬ MsgArrives o i length)

theorem readPrompt_exec (m length : Nat) :
    (o.read 0 sizeofInt = some [] ∧ ((readPrompt (.done m) length).exec o 0).result.1 = 0) ∨
      ((readPrompt (.done m) length).exec o 0).result.1 < 0 ∨
        ∃ typ i, TypeArrives o typ i ∧ 0 ≤ intOf ((readMsg (.done m) length).exec o i).result.1 ∧
          ((readPrompt (.done m) length).exec o 0).result.1 = decodeInt typ ∧
            ((readPrompt (.done m) length).exec o 0).input =
              typ ++ ((readMsg (.done m) length).exec o i).input := by
  rw [readPrompt_eq, exec_bind]
  cases hfield : ((readAll sizeofInt []).exec o 0).result with
  | none => exact .inr (.inl (by simp [helperIoErr]))
  | some typ =>
    by_cases hend : typ = []
    · subst hend
      exact .inl ⟨(readAll_exec_nil o (by decide)).1 hfield, by simp⟩
    by_cases hlen : typ.length = sizeofInt
    · simp only [if_neg hend, if_neg (not_not.2 hlen), Effect.and_result, Effect.and_input, exec_bind]
      split
      · refine .inr (.inl ?_)
        simpa using ‹_›
      · refine .inr (.inr ⟨typ, _, ⟨hfield, hlen, rfl⟩, Int.not_lt.1 ‹_›, by simp, ?_⟩)
        simp [(field_exec o hfield).2]
    · refine .inr (.inl ?_)
      simp [hend, hlen, helperTypeReadErr]

theorem intOf_zero : intOf 0 = 0 := intOf_eq (by omega) (by omega)

theorem readPrompt_arrived {typ : Bytes} {i : Nat} (m length : Nat) (h : TypeArrives o typ i)
    (hmsg : 0 ≤ intOf ((readMsg (.done m) length).exec o i).result.1) :
    ((readPrompt (.done m) length).exec o 0).result.1 = decodeInt typ ∧
      ((readPrompt (.done m) length).exec o 0).input =
        typ ++ ((readMsg (.done m) length).exec o i).input := by
  obtain ⟨hfield, hlen, rfl⟩ := h
  have hend : typ ≠ [] := by
    rintro rfl
    exact absurd hlen (by decide)
  rw [readPrompt_eq, exec_bind, hfield]
  simp only [if_neg hend, if_neg (not_not.2 hlen), Effect.and_result, Effect.and_input, exec_bind,
    if_neg (Int.not_lt.2 hmsg), exec_done, List.append_nil, (field_exec o hfield).2, and_self]

theorem readMsg_ge (m length i : Nat) : -4 ≤ ((readMsg (.done m) length).exec o i).result.1 := by
  have hall : Ensures (readMsg (Q := Q) (A := A) (.done m) length) fun _ r => -4 ≤ r.1 :=
    (readMsgInto_ge (.done m) 0 length _).bind fun _ _ hge => ensures_done hge
  obtain ⟨w, hw⟩ := exec_runs o (readMsg (.done m) length) i
  exact hall w _ hw

/- An error of read_msg stays one in an int. -/
theorem nonneg_of_intOf {n : Int} (hge : -4 ≤ n) (h : 0 ≤ intOf n) : 0 ≤ n := by
  by_contra hneg
  rw [intOf_eq (by omega) (by omega)] at h
  exact hneg h

theorem typeArrives_read {typ : Bytes} {i : Nat} (h : TypeArrives o typ i) : o.read 0 sizeofInt ≠ some [] := by
  intro hend
  have hnil := (readAll_exec_nil o (by decide)).2 hend
  rw [h.1] at hnil
  cases hnil
  exact absurd h.2.1 (by decide)

theorem readMsg_arrived {i length : Nat} (m : Nat) (h : MsgArrives o i length) :
    0 ≤ intOf ((readMsg (.done m) length).exec o i).result.1 := by
  obtain ⟨field, payload, hfield, hsize, hshort, hpayload, hint⟩ := h
  have hne : field ≠ [] := by
    rintro rfl
    exact absurd hsize (by decide)
  have hbody := readPayload_arrived o hshort hpayload
  have hlength : ((readMsg (.done m) length).exec o i).result.1 = decode field := by
    unfold readPayload at hbody
    rw [readMsg_eq, exec_bind, hfield]
    simp only [hsize, ne_eq, not_true, and_false, if_false, hne, done_bind, Effect.and_result]
    exact hbody
  rw [hlength]
  exact hint

theorem arrives_of_readMsg {i length m : Nat} (hbegins : LengthBegins o i length)
    (hn : 0 ≤ ((readMsg (.done m) length).exec o i).result.1)
    (hint : 0 ≤ intOf ((readMsg (.done m) length).exec o i).result.1) : MsgArrives o i length := by
  obtain ⟨msgLen, hread, heq⟩ | hneg := readMsg_exec o i m length
  · rw [heq] at hn hint
    obtain ⟨hlong, payload, harrives, hresult, _⟩ := readPayload_exec o hn
    cases hread with
    | @whole field hfield hsize =>
      rw [Effect.and_result, hresult] at hint
      exact ⟨field, payload, hfield, hsize, hlong, harrives, hint⟩
    | stale hend =>
      obtain h0 | hbegins := hbegins
      · omega
      · exact absurd hend hbegins
  · omega

/- A type that is not negative, with nothing after it and a stale length of 0. -/
theorem lengthBegins_of_whole {typ : Bytes} {i length : Nat} (h : PromptWhole o ((readPrompt (.done 0) length).exec o 0))
    (htyp : TypeArrives o typ i) (hpos : 0 ≤ decodeInt typ) : LengthBegins o i length := by
  by_contra hstale
  have hmsg := readMsg_stale o hstale
  have hres := readPrompt_arrived o 0 length htyp (by rw [hmsg, intOf_zero])
  rw [hmsg, List.append_nil] at hres
  by_cases h0 : decodeInt typ = 0
  · exact typeArrives_read o htyp (h.zero (hres.1.trans h0))
  · have hneg : 0 < decodeInt typ := by omega
    obtain ⟨typ', field, payload, hlen, _, hsize, _, hinput⟩ := h.positive (by rw [hres.1]; exact hneg)
    have hlengths := congrArg List.length (hres.2.symm.trans hinput)
    rw [List.length_append, List.length_append, hlen, hsize, htyp.2.1] at hlengths
    unfold sizeofSize at hlengths
    omega

theorem promptWhole_iff (length : Nat) :
    (∀ m, PromptWhole o ((readPrompt (.done m) length).exec o 0)) ↔ PromptSound o length := by
  constructor
  · intro h typ i htyp
    refine ⟨lengthBegins_of_whole o (h 0) htyp, fun h0 harrives => ?_⟩
    have hres := readPrompt_arrived o 0 length htyp (readMsg_arrived o 0 harrives)
    exact typeArrives_read o htyp ((h 0).zero (hres.1.trans h0))
  · intro h m
    obtain ⟨hend, hres⟩ | hneg | ⟨typ, i, htyp, hint, hres, hinput⟩ := readPrompt_exec o m length
    · exact ⟨fun hpos => by omega, fun _ => hend⟩
    · exact ⟨fun hpos => by omega, fun h0 => by omega⟩
    · obtain ⟨hbegins, hzero⟩ := h typ i htyp
      have hn := nonneg_of_intOf (readMsg_ge o m length i) hint
      refine ⟨fun hpos => ?_, fun h0 => ?_⟩
      · rw [hres] at hpos
        obtain ⟨field, payload, hsize, _, hlen, hrest⟩ := readMsg_whole o m (hbegins (Int.le_of_lt hpos)) hn
        exact ⟨typ, field, payload, htyp.2.1, hres, hsize, hlen, by rw [hinput, hrest]⟩
      · have htyp0 : decodeInt typ = 0 := hres.symm.trans h0
        exact absurd (arrives_of_readMsg o (hbegins (Int.le_of_eq htyp0.symm)) hn hint) (hzero htyp0)

/-! ### Writing -/

/- The whole of a string goes out from the i-th call on. -/
def WritesAll (i : Nat) (buf : Bytes) : Prop := ((writeAll buf 0).exec o i).result = some buf.length

/- A field that is let pass, because it went out whole or because its first byte did not
go out at all; call j is next. -/
def FieldPasses (i : Nat) (field : Bytes) (skipped : Bool) (j : Nat) : Prop :=
  ((writeAll field 0).exec o i).result = some (if skipped then 0 else field.length) ∧
    ((writeAll field 0).exec o i).next = j

/- The length field of a message is skipped, and the payload goes out. -/
def MsgSkips (i : Nat) (buf : Bytes) : Prop := ∃ j,
  FieldPasses o i (encode sizeofSize buf.length) true j ∧ WritesAll o j buf

/- The type or the length field is skipped, and all the rest goes out. -/
def PromptSkips (msgType : Int) (buf : Bytes) : Prop := buf.length < 2 ^ 31 ∧ ∃ s s' j k,
  FieldPasses o 0 (encodeInt msgType) s j ∧ FieldPasses o j (encode sizeofSize buf.length) s' k ∧
    WritesAll o k buf ∧ (s = true ∨ s' = true)

theorem fieldPasses_output {i j : Nat} {field : Bytes} {skipped : Bool} (h : FieldPasses o i field skipped j) :
    ((writeAll field 0).exec o i).output = if skipped then [] else field := by
  obtain ⟨k, hk, _, houtput⟩ := writeAll_exec o h.1
  rw [Nat.zero_add] at hk
  rw [houtput, ← hk]
  cases skipped <;> simp

theorem writesAll_output {i : Nat} {buf : Bytes} (h : WritesAll o i buf) : ((writeAll buf 0).exec o i).output = buf := by
  obtain ⟨k, hk, _, houtput⟩ := writeAll_exec o h
  rw [houtput, ← Nat.zero_add k, ← hk, List.take_length]

/- Both functions test a field of theirs in this way. -/
theorem field_test {α : Type} {i : Nat} {field : Bytes} (hfield : field ≠ []) (io bad : α) (k : Prog Q A α) :
    let p := (writeAll field 0).bind fun
      | none => .done io
      | some wt => if 0 < wt ∧ wt ≠ field.length then .done bad else k
    (∃ skipped j, FieldPasses o i field skipped j ∧ (p.exec o i).result = (k.exec o j).result ∧
      (p.exec o i).output = (if skipped then [] else field) ++ (k.exec o j).output) ∨
    (∀ skipped j, ¬ FieldPasses o i field skipped j) ∧
      ((p.exec o i).result = io ∨ (p.exec o i).result = bad) := by
  intro p
  have hpos : 0 < field.length := List.length_pos_iff.2 hfield
  simp only [p, exec_bind]
  cases hwt : ((writeAll field 0).exec o i).result with
  | none => exact .inr ⟨fun s j hp => by simp [FieldPasses, hwt] at hp, .inl (by simp)⟩
  | some wt =>
    by_cases hbad : 0 < wt ∧ wt ≠ field.length
    · refine .inr ⟨fun s j hp => ?_, .inr (by simp [hbad])⟩
      have hwt' := Option.some.inj (hwt.symm.trans hp.1)
      cases s <;> simp at hwt' <;> omega
    · have hpass : FieldPasses o i field (decide (wt = 0)) ((writeAll field 0).exec o i).next := by
        refine ⟨?_, rfl⟩
        rw [hwt]
        by_cases h0 : wt = 0
        · simp [h0]
        · simp only [h0, decide_false]
          simp
          omega
      refine .inl ⟨_, _, hpass, by simp [hbad], ?_⟩
      rw [← fieldPasses_output o hpass]
      simp [hbad]

theorem fieldPasses_unique {i j j' : Nat} {field : Bytes} {s s' : Bool} (hfield : field ≠ [])
    (h : FieldPasses o i field s j) (h' : FieldPasses o i field s' j') : s = s' ∧ j = j' := by
  have hpos : 0 < field.length := List.length_pos_iff.2 hfield
  have heq := Option.some.inj (h.1.symm.trans h'.1)
  refine ⟨?_, h.2.symm.trans h'.2⟩
  cases s <;> cases s' <;> simp only [if_true, if_false, Bool.false_eq_true] at heq ⊢ <;> omega

/- helper_proto.c:139, after the length. -/
def writePayload (buf : Bytes) : Prog Q A Int :=
  if buf = [] then .done 0
  else (writeAll buf 0).bind fun
    | none => .done helperIoErr
    | some wt => if wt ≠ buf.length then .done helperMsgWriteErr else .done wt

theorem writePayload_exec (i : Nat) (buf : Bytes) :
    WritesAll o i buf ∧ ((writePayload buf).exec o i).result = buf.length ∧ ((writePayload buf).exec o i).output = buf ∨
      ¬ WritesAll o i buf ∧ -8 ≤ ((writePayload buf).exec o i).result ∧ ((writePayload buf).exec o i).result < 0 := by
  unfold writePayload WritesAll
  by_cases hbuf : buf = []
  · subst hbuf
    exact .inl ⟨by rw [writeAll_nil, exec_done]; rfl, rfl, rfl⟩
  rw [if_neg hbuf, exec_bind]
  cases hwt : ((writeAll buf 0).exec o i).result with
  | none => exact .inr ⟨nofun, by simp [helperIoErr], by simp [helperIoErr]⟩
  | some wt =>
    by_cases hall : wt = buf.length
    · subst hall
      exact .inl ⟨rfl, by simp, by simp [writesAll_output o hwt]⟩
    · exact .inr ⟨fun h => hall (Option.some.inj h), by simp [hall, helperMsgWriteErr], by simp [hall, helperMsgWriteErr]⟩

theorem writeMsg_exec (i : Nat) (buf : Bytes) :
    (∃ s j, FieldPasses o i (encode sizeofSize buf.length) s j ∧ WritesAll o j buf ∧
      ((writeMsg buf).exec o i).result = buf.length ∧
        ((writeMsg buf).exec o i).output = (if s then [] else encode sizeofSize buf.length) ++ buf) ∨
      (∀ s j, FieldPasses o i (encode sizeofSize buf.length) s j → ¬ WritesAll o j buf) ∧
        -8 ≤ ((writeMsg buf).exec o i).result ∧ ((writeMsg buf).exec o i).result < 0 := by
  have htest := field_test o (i := i) (encode_ne_nil buf.length) helperIoErr helperLengthWriteErr (writePayload buf)
  rw [length_encode] at htest
  obtain ⟨s, j, hpass, hres, hout⟩ | ⟨hno, hres⟩ := htest
  · change ((writeMsg buf).exec o i).result = _ at hres
    change ((writeMsg buf).exec o i).output = _ at hout
    obtain ⟨hall, hlen, hbuf⟩ | ⟨hpart, hge, hneg⟩ := writePayload_exec o j buf
    · exact .inl ⟨s, j, hpass, hall, hres.trans hlen, by rw [hout, hbuf]⟩
    · refine .inr ⟨fun s' j' hpass' => ?_, by omega, by omega⟩
      rw [← (fieldPasses_unique o (encode_ne_nil _) hpass hpass').2]
      exact hpart
  · refine .inr ⟨fun s j hpass => absurd hpass (hno s j), ?_⟩
    change ((writeMsg buf).exec o i).result = _ ∨ ((writeMsg buf).exec o i).result = _ at hres
    unfold helperIoErr helperLengthWriteErr at hres
    omega

theorem msgWritten_iff (i : Nat) (buf : Bytes) :
    WrittenWhole (replyFrame buf) buf ((writeMsg buf).exec o i) ↔ ¬ MsgSkips o i buf := by
  obtain ⟨s, j, hpass, hall, hres, hout⟩ | ⟨hno, _, hneg⟩ := writeMsg_exec o i buf
  · cases s with
    | false =>
      refine ⟨fun _ ⟨j', hskip, _⟩ => ?_, fun _ _ => hout⟩
      exact absurd (fieldPasses_unique o (encode_ne_nil _) hpass hskip).1 nofun
    | true =>
      refine ⟨fun hwhole => ?_, fun h => absurd ⟨j, hpass, hall⟩ h⟩
      have hlengths := congrArg List.length (hout.symm.trans (hwhole hres))
      simp [replyFrame, sizeofSize] at hlengths
  · exact ⟨fun _ ⟨j, hskip, hall⟩ => hno true j hskip hall, fun _ hres => by omega⟩

theorem promptWritten_iff (msgType : Int) (buf : Bytes) :
    WrittenWhole (promptFrame msgType buf) buf ((writePrompt msgType buf).exec o 0) ↔ ¬ PromptSkips o msgType buf := by
  have htest := field_test o (i := 0) (encodeInt_ne_nil msgType) helperIoErr helperTypeWriteErr
    ((writeMsg buf).bind fun wt => .done (intOf wt))
  rw [length_encodeInt] at htest
  obtain ⟨s, j, hpass, hres, hout⟩ | ⟨hno, hres⟩ := htest
  · change ((writePrompt msgType buf).exec o 0).result = _ at hres
    change ((writePrompt msgType buf).exec o 0).output = _ at hout
    rw [exec_bind] at hres hout
    simp only [Effect.and_result, Effect.and_output, exec_done, List.append_nil] at hres hout
    obtain ⟨s', k, hpass', hall, hres', hout'⟩ | ⟨hno', hge, hneg⟩ := writeMsg_exec o j buf
    · rw [hres'] at hres
      rw [hout'] at hout
      by_cases hint : buf.length < 2 ^ 31
      · rw [intOf_eq (by omega) (by omega)] at hres
        have hwhole : WrittenWhole (promptFrame msgType buf) buf ((writePrompt msgType buf).exec o 0) ↔
            s = false ∧ s' = false := by
          unfold WrittenWhole
          rw [hres, hout]
          refine ⟨fun h => ?_, ?_⟩
          · have hlengths := congrArg List.length (h rfl)
            cases s <;> cases s' <;> simp [promptFrame, replyFrame, sizeofSize] at hlengths ⊢
            omega
          · rintro ⟨rfl, rfl⟩ _
            rfl
        rw [hwhole]
        constructor
        · rintro ⟨rfl, rfl⟩ ⟨_, t, t', j', k', ht, ht', _, hor⟩
          obtain ⟨rfl, rfl⟩ := fieldPasses_unique o (encodeInt_ne_nil _) hpass ht
          obtain ⟨rfl, _⟩ := fieldPasses_unique o (encode_ne_nil _) hpass' ht'
          simp at hor
        · intro hskip
          have hor : ¬ (s = true ∨ s' = true) := fun hor => hskip ⟨hint, s, s', j, k, hpass, hpass', hall, hor⟩
          simpa using hor
      · have hlt := intOf_lt buf.length
        refine ⟨fun _ hskip => ?_, fun _ heq => by omega⟩
        obtain ⟨hshort, _⟩ := hskip
        exact hint hshort
    · rw [intOf_eq (by omega) (by omega)] at hres
      refine ⟨fun _ hskip => ?_, fun _ heq => by omega⟩
      obtain ⟨_, t, t', j', k', ht, ht', hall, _⟩ := hskip
      obtain ⟨rfl, rfl⟩ := fieldPasses_unique o (encodeInt_ne_nil _) hpass ht
      exact hno' t' k' ht' hall
  · change ((writePrompt msgType buf).exec o 0).result = _ ∨ ((writePrompt msgType buf).exec o 0).result = _ at hres
    unfold helperIoErr helperTypeWriteErr at hres
    refine ⟨fun _ hskip => ?_, fun _ heq => by omega⟩
    obtain ⟨_, t, _, j, _, ht, _⟩ := hskip
    exact hno t j ht

/- For every behaviour of read and write: a success stands for a whole frame exactly when
no length field ends before its first byte, no frame has the type 0, and no field goes
out with 0 bytes written and is passed over. -/
theorem success_whole_iff (length : Nat) (msgType : Int) (buf : Bytes) :
    ((∀ m, MsgWhole ((readMsg (.done m) length).exec o 0)) ↔ LengthBegins o 0 length) ∧
      ((∀ m, PromptWhole o ((readPrompt (.done m) length).exec o 0)) ↔ PromptSound o length) ∧
      (WrittenWhole (replyFrame buf) buf ((writeMsg buf).exec o 0) ↔ ¬ MsgSkips o 0 buf) ∧
      (WrittenWhole (promptFrame msgType buf) buf ((writePrompt msgType buf).exec o 0) ↔ ¬ PromptSkips o msgType buf) :=
  ⟨msgWhole_iff o 0 length, promptWhole_iff o length, msgWritten_iff o 0 buf, promptWritten_iff o msgType buf⟩

/- The file ends after a type of 1. -/
def cutAfterType : Behaviour Empty fun _ => Unit where
  read i n := if i = 0 ∧ 4 ≤ n then some (encodeInt 1) else some []
  write _ _ := none
  answer _ _ := ()
  read_le i n u h := by
    split at h
    · cases h
      rw [length_encodeInt]
      exact (And.right ‹_›)
    · cases h
      exact Nat.zero_le n
  write_le := nofun

/- With a msg_len that happens to be 0 the type is returned. -/
theorem half_prompt : ¬ ∀ (o : Behaviour Empty fun _ => Unit) (length m : Nat),
    PromptWhole o ((readPrompt (.done m) length).exec o 0) := by
  intro h
  have hwhole := h cutAfterType maxLen 0
  have hres : ((readPrompt (.done 0) maxLen).exec cutAfterType 0).result.1 = 1 ∧
      ((readPrompt (.done 0) maxLen).exec cutAfterType 0).input.length = 4 := by
    decide +kernel
  obtain ⟨typ, field, payload, htyp, _, hfield, _, hinput⟩ := hwhole.positive (by rw [hres.1]; decide)
  have hlengths := congrArg List.length hinput
  rw [hres.2, List.length_append, List.length_append, htyp, hfield] at hlengths
  unfold sizeofInt sizeofSize at hlengths
  omega

end MateScreensaver
