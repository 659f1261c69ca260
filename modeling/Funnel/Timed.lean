/-!
Values that come at a time, counted from some start, or never. Waiting for one is bounded by a
deadline, and what comes of one can take time of its own.
-/

namespace Funnel

/-- A value and the time at which it is there; none, if it never is. -/
abbrev Timed (α : Type) := Option (Nat × α)

namespace Timed

variable {α β : Type}

/-- What of `x` is there at `time`. -/
def at? (time : Nat) (x : Timed α) : Option α :=
  match x with
  | some (t, a) => if t ≤ time then some a else none
  | none => none

/-- `x`, but `late` at the deadline `limit` if `x` is not there by then. -/
def within (limit : Nat) (late : α) (x : Timed α) : Nat × α :=
  match x with
  | some (t, a) => if t ≤ limit then (t, a) else (limit, late)
  | none => (limit, late)

/-- What `next` makes of `x`, from the time on at which that is there. -/
def andThen (x : Nat × α) (next : α → Timed β) : Timed β :=
  (next x.2).map fun (t, b) => (x.1 + t, b)

variable {limit time t : Nat} {late a : α}

theorem at?_map (f : α → β) (x : Timed α) :
    at? time (x.map fun (t, a) => (t, f a)) = (x.at? time).map f := by
  cases x with
  | none => rfl
  | some x => by_cases there : x.1 ≤ time <;> simp [at?, there]

theorem within_le (limit : Nat) (late : α) (x : Timed α) : (x.within limit late).1 ≤ limit := by
  unfold within
  split
  · split
    · assumption
    · exact Nat.le_refl limit
  · exact Nat.le_refl limit

theorem within_of_le (h : t ≤ limit) : within limit late (some (t, a)) = (t, a) := if_pos h

theorem within_of_lt (h : limit < t) : within limit late (some (t, a)) = (limit, late) :=
  if_neg (Nat.not_le.mpr h)

/-- What is there from the start, is there at any time. -/
theorem at?_start (x : Option α) : at? time (x.map (0, ·)) = x := by
  cases x with
  | none => rfl
  | some a => simp [at?]

theorem at?_andThen (x : Nat × α) (next : α → Timed β) :
    (andThen x next).at? time = if x.1 ≤ time then (next x.2).at? (time - x.1) else none := by
  cases come : next x.2 with
  | none => simp [andThen, at?, come]
  | some y =>
    have both : x.1 + y.1 ≤ time ↔ x.1 ≤ time ∧ y.1 ≤ time - x.1 := by omega
    by_cases first : x.1 ≤ time <;> simp [andThen, at?, come, both, first]

theorem snd_within (x : Timed α) : (x.within limit late).2 = (x.at? limit).getD late := by
  cases x with
  | none => rfl
  | some x => by_cases there : x.1 ≤ limit <;> simp [within, at?, there]

/-- Before the deadline, that is over which has come. -/
theorem fst_within_le_iff (early : time < limit) (x : Timed α) :
    (x.within limit late).1 ≤ time ↔ (x.at? time).isSome := by
  have open_ : ¬ limit ≤ time := Nat.not_le.mpr early
  cases x with
  | none => simp [within, at?, open_]
  | some x =>
    by_cases there : x.1 ≤ limit
    · by_cases now : x.1 ≤ time <;> simp [within, at?, there, now]
    · have later : ¬ x.1 ≤ time := by omega
      simp [within, at?, there, later, open_]

end Timed

end Funnel
