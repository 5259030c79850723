import Mathlib.Data.List.Basic
import Mathlib.Data.List.GetD
import Mathlib.Algebra.Order.Ring.Nat
import Mathlib.Tactic.Ring

/-!
Numbers as byte strings of a fixed width, the lowest byte first, and byte strings in memory.
-/

namespace Words

def encode : ℕ → ℕ → List UInt8
  | 0, _ => []
  | k + 1, n => UInt8.ofNat n :: encode k (n / 256)

def decode : List UInt8 → ℕ
  | [] => 0
  | b :: bs => b.toNat + 256 * decode bs

@[simp] theorem length_encode (k n : ℕ) : (encode k n).length = k := by
  induction k generalizing n with
  | zero => rfl
  | succ k ih =>
    rw [encode, List.length_cons, ih]

theorem decode_encode {k n : ℕ} (h : n < 256 ^ k) : decode (encode k n) = n := by
  induction k generalizing n with
  | zero =>
    have h0 : n < 1 := h
    rw [encode, decode]
    omega
  | succ k ih =>
    have hdiv : n / 256 < 256 ^ k := by
      rw [pow_succ] at h
      exact Nat.div_lt_of_lt_mul (by omega)
    have hbyte : (UInt8.ofNat n).toNat = n % 256 := UInt8.toNat_ofNat
    rw [encode, decode, ih hdiv, hbyte]
    omega

/- Four bytes as the int they hold. -/
def encodeInt (n : ℤ) : List UInt8 := encode 4 (n % 2 ^ 32).toNat

def decodeInt (bs : List UInt8) : ℤ := if decode bs < 2 ^ 31 then decode bs else decode bs - 2 ^ 32

@[simp] theorem length_encodeInt (n : ℤ) : (encodeInt n).length = 4 := length_encode 4 _

theorem decodeInt_encodeInt {n : ℤ} (hlo : -2 ^ 31 ≤ n) (hhi : n < 2 ^ 31) : decodeInt (encodeInt n) = n := by
  have hround : decode (encodeInt n) = (n % 2 ^ 32).toNat := decode_encode (by norm_num; omega)
  rw [decodeInt, hround]
  split
  · omega
  · omega

/-! ### Bytes in memory -/

abbrev Memory := ℕ → UInt8

namespace Memory

def blank : Memory := fun _ => 0

def store (mem : Memory) (dst : ℕ) (bytes : List UInt8) : Memory := fun x =>
  if dst ≤ x ∧ x < dst + bytes.length then bytes.getD (x - dst) 0 else mem x

def load (mem : Memory) (dst n : ℕ) : List UInt8 := (List.range n).map fun i => mem (dst + i)

theorem store_frame {mem : Memory} {dst x : ℕ} {bytes : List UInt8} (h : x < dst ∨ dst + bytes.length ≤ x) :
    mem.store dst bytes x = mem x := if_neg (by omega)

theorem store_nil (mem : Memory) (dst : ℕ) : mem.store dst [] = mem := by
  funext x
  exact store_frame (by rw [List.length_nil]; omega)

theorem store_store (mem : Memory) (dst : ℕ) (u v : List UInt8) :
    (mem.store dst u).store (dst + u.length) v = mem.store dst (u ++ v) := by
  funext x
  unfold store
  rw [List.length_append]
  by_cases hv : dst + u.length ≤ x ∧ x < dst + u.length + v.length
  · rw [if_pos hv, if_pos (by omega), List.getD_append_right _ _ _ _ (by omega)]
    congr 1
    omega
  · rw [if_neg hv]
    by_cases hu : dst ≤ x ∧ x < dst + u.length
    · rw [if_pos hu, if_pos (by omega), List.getD_append _ _ _ _ (by omega)]
    · rw [if_neg hu, if_neg (by omega)]

@[simp] theorem length_load (mem : Memory) (dst n : ℕ) : (mem.load dst n).length = n := by
  rw [load, List.length_map, List.length_range]

theorem take_load (mem : Memory) (dst : ℕ) {k n : ℕ} (h : k ≤ n) : (mem.load dst n).take k = mem.load dst k := by
  rw [load, load, ← List.map_take, List.take_range, Nat.min_eq_left h]

theorem load_frame (mem : Memory) (dst : ℕ) (bytes : List UInt8) {n d : ℕ} (h : n ≤ d) :
    (mem.store (dst + d) bytes).load dst n = mem.load dst n := by
  apply List.map_congr_left
  intro i hi
  have hlt := List.mem_range.1 hi
  exact store_frame (.inl (by omega))

theorem load_store (mem : Memory) (dst : ℕ) (u v : List UInt8) :
    (mem.store dst (u ++ v)).load dst u.length = u := by
  refine List.ext_getElem (by simp [load]) fun i hi hi' => ?_
  have hin : dst ≤ dst + i ∧ dst + i < dst + (u ++ v).length := by
    rw [List.length_append]
    omega
  simp only [load, List.getElem_map, List.getElem_range, store, if_pos hin, Nat.add_sub_cancel_left]
  rw [List.getD_append _ _ _ _ hi', List.getD_eq_getElem _ _ hi']

theorem store_last (mem : Memory) (dst : ℕ) (u : List UInt8) (c : UInt8) :
    mem.store dst (u ++ [c]) (dst + u.length) = c := by
  have hin : dst ≤ dst + u.length ∧ dst + u.length < dst + (u ++ [c]).length := by
    rw [List.length_append, List.length_singleton]
    omega
  simp only [store, if_pos hin, Nat.add_sub_cancel_left]
  rw [List.getD_append_right _ _ _ _ (Nat.le_refl _), Nat.sub_self]
  rfl

end Memory

end Words
