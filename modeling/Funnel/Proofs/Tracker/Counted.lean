import Funnel.Tracker.Basic
import Mathlib.Data.List.Induction
import Mathlib.Data.List.Nodup

/-! Each tracker counts its own guards, whatever comes and goes on the others, and a number names at
most one guard. -/

namespace Funnel.Trackers

theorem run_append (t : Trackers) (past rest : List Event) :
    t.run (past ++ rest) = (t.run past).run rest :=
  List.foldl_append

theorem run_concat (t : Trackers) (past : List Event) (e : Event) :
    t.run (past ++ [e]) = (t.run past).step e :=
  t.run_append past [e]

theorem guards_drop (t : Trackers) (id : Nat) :
    (t.drop id).guards = t.guards.filter (·.id ≠ id) := by
  unfold drop
  split
  next => rfl
  next none =>
    have others : ∀ g ∈ t.guards, g.id ≠ id := by simpa using none
    exact (List.filter_eq_self.mpr (by simpa using others)).symm

theorem nextId_drop (t : Trackers) (id : Nat) : (t.drop id).nextId = t.nextId := by
  unfold drop
  split <;> rfl

structure Sound (t : Trackers) : Prop where
  active : ∀ k, t.active k = t.guards.countP (·.tracker = k)
  below : ∀ g ∈ t.guards, g.id < t.nextId
  nodup : (t.guards.map (·.id)).Nodup

theorem sound_new : Sound new := ⟨fun _ => rfl, nofun, List.nodup_nil⟩

namespace Sound

variable {t : Trackers} (h : Sound t)
include h

theorem active_eq_zero_iff (k : Nat) : t.active k = 0 ↔ ∀ g ∈ t.guards, g.tracker ≠ k := by
  rw [h.active, List.countP_eq_zero]
  simp

theorem track (k : Nat) : Sound (t.track k) where
  active j := by
    simp only [Trackers.track, List.countP_append, List.countP_singleton, decide_eq_true_eq,
      ← h.active]
    by_cases own : j = k
    · simp [own]
    · simp [own, Ne.symm own]
  below := by
    intro g member
    simp only [Trackers.track, List.mem_append, List.mem_singleton] at member ⊢
    rcases member with old | rfl
    · have := h.below g old
      omega
    · exact Nat.lt_succ_self _
  nodup := by
    simp only [Trackers.track, List.map_append, List.map_cons, List.map_nil]
    refine List.nodup_append.mpr ⟨h.nodup, List.nodup_singleton _, ?_⟩
    rintro id old _ new rfl
    obtain ⟨g, member, rfl⟩ := List.mem_map.mp old
    have := h.below g member
    have := List.mem_singleton.mp new
    omega

theorem filter_eq_erase {g : Tracker.Guard} (member : g ∈ t.guards) :
    t.guards.filter (·.id ≠ g.id) = t.guards.erase g := by
  rw [(List.Nodup.of_map _ h.nodup).erase_eq_filter]
  apply List.filter_congr
  intro g' member'
  have same : g'.id = g.id ↔ g' = g :=
    ⟨List.inj_on_of_nodup_map h.nodup member' member, congrArg _⟩
  rw [Bool.eq_iff_iff]
  simp [same]

theorem drop (id : Nat) : Sound (t.drop id) where
  active k := by
    rw [guards_drop, Trackers.drop]
    split
    next g found =>
      obtain ⟨member, named⟩ : g ∈ t.guards ∧ g.id = id :=
        ⟨List.mem_of_find?_eq_some found, by simpa using List.find?_some found⟩
      subst named
      have counted : t.guards.countP (·.tracker = k) =
          (t.guards.erase g).countP (·.tracker = k) + if g.tracker = k then 1 else 0 := by
        rw [(List.perm_cons_erase member).countP_eq, List.countP_cons]
        simp
      rw [h.filter_eq_erase member]
      dsimp only
      rw [h.active k, counted]
      by_cases own : k = g.tracker
      · simp [own]
      · simp [own, Ne.symm own]
    next none =>
      have others : ∀ g ∈ t.guards, g.id ≠ id := by simpa using none
      rw [List.filter_eq_self.mpr (by simpa using others)]
      exact h.active k
  below := by
    rw [guards_drop, nextId_drop]
    exact fun g member => h.below g (List.mem_filter.mp member).1
  nodup := by
    rw [guards_drop]
    exact h.nodup.sublist (List.filter_sublist.map _)

theorem step (e : Event) : Sound (t.step e) := by
  cases e with
  | track k => exact h.track k
  | drop id => exact h.drop id

theorem run (events : List Event) : Sound (t.run events) := by
  induction events using List.reverseRecOn with
  | nil => exact h
  | append_singleton events e ih =>
    rw [run_concat]
    exact ih.step e

end Sound

/-- While no connection comes on its tracker, a guard is there if it was and did not go. -/
theorem mem_guards_run {t : Trackers} {g : Tracker.Guard} {events : List Event}
    (untracked : .track g.tracker ∉ events) :
    g ∈ (t.run events).guards ↔ g ∈ t.guards ∧ .drop g.id ∉ events := by
  induction events using List.reverseRecOn with
  | nil => simp [run]
  | append_singleton events e ih =>
    rw [List.mem_append, not_or, List.mem_singleton] at untracked
    rw [run_concat, List.mem_append, not_or, List.mem_singleton, ← and_assoc, ← ih untracked.1]
    cases e with
    | track k =>
      have other : g ≠ ⟨k, (t.run events).nextId⟩ := by
        rintro rfl
        exact untracked.2 rfl
      simp [step, track, other]
    | drop id => simp [step, guards_drop]

end Funnel.Trackers
