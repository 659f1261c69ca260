import Funnel.Fault.Basic

/-! Searching a fault is searching the list of its links, although the search follows wrappers and
sources on different ways and comes by some links more than once. The texts of a fault and of the
sources behind it are those of all faults within it, although no source leads to a wrapped one. -/

namespace Funnel.Fault

/-- The links behind the source of a fault are the last of its own. -/
theorem toList_of_source {f s : Fault} (h : f.source = some s) :
    ∃ front, f.toList = front ++ s.toList := by
  induction f with
  | last n => cases h
  | causedBy n t =>
    cases h
    exact ⟨[n], rfl⟩
  | wrapping k inner ih =>
    obtain ⟨front, split⟩ := ih h
    refine ⟨.io k :: front, ?_⟩
    rw [toList, split]
    rfl

theorem toList_eq_cons (f : Fault) : ∃ rest, f.toList = f.head :: rest := by
  cases f <;> exact ⟨_, rfl⟩

theorem find_eq_findSome? {α : Type} (p : Node → Option α) (f : Fault) :
    f.find p = f.toList.findSome? p := by
  induction f using find.induct p with
  | case1 f a found =>
    obtain ⟨rest, links⟩ := f.toList_eq_cons
    rw [find.eq_def, links]
    simp [found]
  | case2 n missed =>
    rw [find]
    simp only [head] at missed
    simp [head, toList, missed]
  | case3 n s missed ih =>
    rw [find]
    simp only [head] at missed
    simp [head, toList, missed, ih]
  | case4 k inner a found missed ih =>
    rw [find]
    simp only [head] at missed
    simp [head, toList, missed, found, ← ih]
  | case5 k inner missedInner s source smaller missed ih ihSource =>
    -- The wrapped fault has these links as well, and yields nothing.
    have missedSource : s.find p = none := by
      obtain ⟨front, split⟩ := toList_of_source source
      rw [ih, split, List.findSome?_append, Option.or_eq_none_iff] at missedInner
      rw [ihSource, missedInner.2]
    rw [find]
    simp only [head] at missed
    simp only [head, missed, missedInner]
    split
    · rename_i s' again
      cases source.symm.trans again
      rw [missedSource]
      simp [toList, missed, ← ih, missedInner]
    · rename_i none
      cases source.symm.trans none
  | case6 k inner missedInner noSource missed ih =>
    rw [find]
    simp only [head] at missed
    simp only [head, missed, missedInner]
    split
    · rename_i s again
      cases noSource.symm.trans again
    · simp [toList, missed, ← ih, missedInner]

/-! ### Counting from the outside -/

/-- One link inwards: the source, or what an input or output error wraps. -/
def next? : Fault → Option Fault
  | last _ => none
  | causedBy _ s => some s
  | wrapping _ inner => some inner

/-- The fault that lies `i` links inwards. -/
def at? (f : Fault) : (i : Nat) → Option Fault
  | 0 => some f
  | i + 1 => f.next?.bind (·.at? i)

theorem getElem?_toList (f : Fault) (i : Nat) : f.toList[i]? = (f.at? i).map head := by
  induction f generalizing i with
  | last n => cases i <;> rfl
  | causedBy n s ih =>
    cases i with
    | zero => rfl
    | succ i => exact ih i
  | wrapping k inner ih =>
    cases i with
    | zero => rfl
    | succ i => exact ih i

theorem getElem?_toList_eq_some {f : Fault} {i : Nat} {n : Node} :
    f.toList[i]? = some n ↔ ∃ g, f.at? i = some g ∧ g.head = n := by
  rw [getElem?_toList, Option.map_eq_some_iff]

theorem mem_toList {f : Fault} {n : Node} :
    n ∈ f.toList ↔ ∃ i g, f.at? i = some g ∧ g.head = n := by
  simp only [List.mem_iff_getElem?, getElem?_toList_eq_some]

theorem mem_take_toList {f : Fault} {i : Nat} {n : Node} :
    n ∈ f.toList.take i ↔ ∃ j < i, ∃ g, f.at? j = some g ∧ g.head = n := by
  simp only [List.mem_iff_getElem?, ← getElem?_toList_eq_some]
  refine exists_congr fun j => ?_
  rw [List.getElem?_take]
  split
  next before => simp [before]
  next after => simp [after]

/-- Whatever mixture of sources and wrappers a fault is made of, a search yields what `p` does on
the outermost link on which it yields anything, and nothing exactly if there is no such link. -/
theorem find_outermost {α : Type} (p : Node → Option α) (f : Fault) :
    (∀ a, f.find p = some a ↔ ∃ i g, f.at? i = some g ∧ p g.head = some a ∧
      ∀ j < i, ∀ g', f.at? j = some g' → p g'.head = none) ∧
    (f.find p = none ↔ ∀ i g, f.at? i = some g → p g.head = none) := by
  rw [find_eq_findSome?]
  constructor
  · intro a
    rw [List.findSome?_eq_some_iff]
    constructor
    · rintro ⟨front, n, back, split, hit, missed⟩
      have here : f.toList[front.length]? = some n := by simp [split]
      have outer : f.toList.take front.length = front := by simp [split]
      obtain ⟨g, at_, rfl⟩ := getElem?_toList_eq_some.mp here
      refine ⟨front.length, g, at_, hit, fun j before g' at' => missed _ ?_⟩
      rw [← outer]
      exact mem_take_toList.mpr ⟨j, before, g', at', rfl⟩
    · rintro ⟨i, g, at_, hit, missed⟩
      obtain ⟨inside, here⟩ :=
        List.getElem?_eq_some_iff.mp (getElem?_toList_eq_some.mpr ⟨g, at_, rfl⟩)
      refine ⟨f.toList.take i, g.head, f.toList.drop (i + 1), ?_, hit, fun n member => ?_⟩
      · rw [← here, List.getElem_cons_drop, List.take_append_drop]
      · obtain ⟨j, before, g', at', rfl⟩ := mem_take_toList.mp member
        exact missed j before g' at'
  · rw [List.findSome?_eq_none_iff]
    constructor
    · intro none i g at_
      exact none _ (mem_toList.mpr ⟨i, g, at_, rfl⟩)
    · intro none n member
      obtain ⟨i, g, at_, rfl⟩ := mem_toList.mp member
      exact none i g at_

/-! ### Texts -/

/-- `g` is the fault itself, or within what causes it or what it wraps. -/
inductive Within (g : Fault) : Fault → Prop
  | self : Within g g
  | causedBy {n : Node} {s : Fault} : Within g s → Within g (.causedBy n s)
  | wrapping {k : IoKind} {inner : Fault} : Within g inner → Within g (.wrapping k inner)

theorem message_mem_texts (f : Fault) : f.message ∈ f.texts := by
  induction f with
  | last n => exact List.mem_singleton.mpr rfl
  | causedBy n s _ => exact List.mem_cons_self
  | wrapping k inner ih => exact ih

theorem Within.message_mem_texts {f g : Fault} (within : g.Within f) : g.message ∈ f.texts := by
  induction within with
  | self => exact g.message_mem_texts
  | causedBy _ ih => exact List.mem_cons_of_mem _ ih
  | wrapping _ ih => exact ih

end Funnel.Fault
