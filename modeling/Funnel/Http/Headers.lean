import Funnel.Http.Token

/-!
Header fields: a name may stand several times, and the values of one name keep their order. The
view is `values`: what a name stands for, in order.
-/

namespace Funnel.Http

/-- A field name, in small letters. -/
abbrev Name := String

/-- The longest field name that is accepted. -/
def Name.maxLength : Nat := 65535

/-- The name that the bytes write in letters of any case. -/
def Name.ofBytes? (bs : Bytes) : Option Name :=
  if isToken bs ∧ bs.length ≤ Name.maxLength then some (Bytes.toLatin (bs.map toLower)) else none

structure Field where
  name : Name
  value : Bytes
deriving DecidableEq, Repr, Inhabited

/-- Header fields in the order in which they were appended. -/
structure Headers where
  fields : List Field
deriving DecidableEq, Repr, Inhabited

namespace Headers

def empty : Headers := ⟨[]⟩

/-- The values under `name`, in order. -/
def values (h : Headers) (name : Name) : List Bytes :=
  (h.fields.filter (·.name = name)).map (·.value)

def append (h : Headers) (name : Name) (value : Bytes) : Headers :=
  ⟨h.fields ++ [⟨name, value⟩]⟩

/-- Without every field whose name `drop` holds of. -/
def removeIf (h : Headers) (drop : Name → Bool) : Headers :=
  ⟨h.fields.filter fun f => !drop f.name⟩

/-- `value` as the only value of `name`. -/
def insert (h : Headers) (name : Name) (value : Bytes) : Headers :=
  (h.removeIf (· = name)).append name value

@[simp] theorem values_empty (n : Name) : empty.values n = [] := rfl

@[simp] theorem values_append (h : Headers) (n : Name) (v : Bytes) (m : Name) :
    (h.append n v).values m = h.values m ++ if n = m then [v] else [] := by
  by_cases e : n = m <;> simp [values, append, e]

@[simp] theorem values_removeIf (h : Headers) (drop : Name → Bool) (n : Name) :
    (h.removeIf drop).values n = if drop n then [] else h.values n := by
  simp only [values, removeIf, List.filter_filter]
  by_cases e : drop n = true
  · simpa [e] using fun f _ hf => hf ▸ e
  · rw [if_neg e]
    congr 1
    refine List.filter_congr fun f _ => ?_
    by_cases hf : f.name = n <;> simp [hf, e]

@[simp] theorem values_insert (h : Headers) (n : Name) (v : Bytes) (m : Name) :
    (h.insert n v).values m = if n = m then [v] else h.values m := by
  by_cases e : n = m
  · subst e; simp [insert]
  · have e' : ¬m = n := fun x => e x.symm
    simp [insert, e, e']

theorem removeIf_removeIf (h : Headers) (p q : Name → Bool) :
    (h.removeIf p).removeIf q = h.removeIf fun n => p n || q n := by
  simp [removeIf, List.filter_filter, Bool.and_comm]

/-- Where a name goes, it does not matter what it was set to. -/
theorem removeIf_insert {drop : Name → Bool} {n : Name} (h : Headers) (v : Bytes)
    (goes : drop n) : (h.insert n v).removeIf drop = h.removeIf drop := by
  have gone : (h.insert n v).removeIf drop = (h.removeIf (· = n)).removeIf drop := by
    simp [insert, append, removeIf, goes]
  have once : (fun m => decide (m = n) || drop m) = drop := by
    funext m
    by_cases hm : m = n
    · simp [hm, goes]
    · simp [hm]
  rw [gone, removeIf_removeIf, once]

/-- The value set last is the one that stays. -/
theorem insert_insert (h : Headers) (n : Name) (v w : Bytes) :
    (h.insert n v).insert n w = h.insert n w := by
  have goes : (h.insert n v).removeIf (· = n) = h.removeIf (· = n) :=
    removeIf_insert h v (by simp)
  rw [insert, goes]
  rfl

end Headers

end Funnel.Http
