import Mathlib.Data.List.Basic

/-! Counting the elements of a list of a kind, as one of them is exchanged for another. -/

namespace Funnel

theorem countP_set_add {α : Type} {l : List α} {i : Nat} {a : α} (h : l[i]? = some a) (b : α)
    (kind : α → Bool) :
    (l.set i b).countP kind + (kind a).toNat = l.countP kind + (kind b).toNat := by
  obtain ⟨hi, rfl⟩ := List.getElem?_eq_some_iff.mp h
  have hpos (ha : kind l[i] = true) : 0 < l.countP kind :=
    List.countP_pos_iff.mpr ⟨_, List.getElem_mem hi, ha⟩
  rw [List.countP_set hi]
  cases ha : kind l[i] with
  | false => cases kind b <;> simp
  | true =>
    specialize hpos ha
    cases kind b <;> simp <;> omega

end Funnel
