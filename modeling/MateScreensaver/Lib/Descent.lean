import Mathlib.Data.Fintype.Card
import Mathlib.Data.Fintype.EquivFin
import Mathlib.Logic.Relation

/-!
Going down in a graph with finitely many places to come to: no walk from a place goes on for
ever exactly when none leads from somewhere back to it.
-/

namespace Descent
open Relation

variable {V : Type*} (Down : V → V → Prop)

/- No walk from here goes on for ever. -/
def Ends (a : V) : Prop := Acc (fun w v => Down v w) a

def NoCycle (a : V) : Prop := ∀ v, ReflTransGen Down a v → ¬ TransGen Down v v

variable {Down} {a b : V}

theorem Ends.next (h : Ends Down a) (hab : Down a b) : Ends Down b := Acc.inv h hab

theorem ends_of_next (h : ∀ b, Down a b → Ends Down b) : Ends Down a := Acc.intro a h

/- A place from which every walk ends is not below itself. -/
theorem Ends.not_below_itself (h : Ends Down a) : ¬ TransGen Down a a := by
  induction h with
  | intro a _ ih =>
    intro hcycle
    obtain ⟨b, hab, hba⟩ := TransGen.head'_iff.1 hcycle
    exact ih b hab (TransGen.tail'_iff.2 ⟨a, hba, hab⟩)

theorem Ends.noCycle (h : Ends Down a) : NoCycle Down a := by
  intro v hv
  induction hv using ReflTransGen.head_induction_on with
  | refl => exact h.not_below_itself
  | head hab _ ih => exact ih (h.next hab)

/- A place further up with a smaller number is below none with a larger one. -/
theorem noCycle_of_lt {f : V → ℕ} (h : ∀ v w, Down v w → f v < f w) : NoCycle Down a := by
  intro v _ hcycle
  have hlt : ∀ w, TransGen Down v w → f v < f w := by
    intro w hw
    induction hw with
    | single hvw => exact h _ _ hvw
    | tail _ hvw ih => exact ih.trans (h _ _ hvw)
  exact Nat.lt_irrefl _ (hlt v hcycle)

/- What can be come to from a place. -/
abbrev Below (Down : V → V → Prop) (places : Finset V) (a : V) : Type _ := { v : V // v ∈ places ∧ ReflTransGen Down a v }

theorem finite_below (Down : V → V → Prop) (places : Finset V) (a : V) : Finite (Below Down places a) :=
  Finite.of_injective (fun x => (⟨x.1, x.2.1⟩ : { v : V // v ∈ places })) fun _ _ hxy => Subtype.ext (Subtype.mk.inj hxy)

/- Being below is a strict order on them, which cannot go down for ever. -/
theorem NoCycle.ends {places : Finset V} (hplaces : ∀ v w, Down v w → w ∈ places) (h : NoCycle Down a) : Ends Down a := by
  have hfinite := finite_below Down places a
  have htrans : IsTrans (Below Down places a) fun x y => TransGen Down y.1 x.1 := ⟨fun _ _ _ hxy hyz => hyz.trans hxy⟩
  have hirrefl : @Std.Irrefl (Below Down places a) fun x y => TransGen Down y.1 x.1 := ⟨fun x => h x.1 x.2.2⟩
  have hwf := Finite.wellFounded_of_trans_of_irrefl fun x y : Below Down places a => TransGen Down y.1 x.1
  have hall : ∀ x : Below Down places a, Ends Down x.1 := by
    intro x
    induction x using hwf.induction with
    | _ x ih =>
      refine ends_of_next fun b hb => ?_
      exact ih ⟨b, hplaces _ _ hb, x.2.2.tail hb⟩ (TransGen.single hb)
  exact ends_of_next fun b hb => hall ⟨b, hplaces _ _ hb, ReflTransGen.single hb⟩

end Descent
