import Funnel.Tracker.Handles
import Funnel.Proofs.Tracker.Counted
import Mathlib.Algebra.BigOperators.Ring.Finset

/-! Trackers through any number of handles: each counts its own guards, the metrics show how many
there are on all of them, and connections are numbered in the order in which they were tracked. -/

namespace Funnel.Tracker.Handles

/-- The guard that comes with an event. -/
def guard? (s : Handles) : Event → Option Guard
  | .track handle => (s.tracker? handle).map fun tracker => ⟨tracker, s.trackers.nextId⟩
  | _ => none

/-- The guards that come with events, one after the other. -/
def tracked (s : Handles) : List Event → List Guard
  | [] => []
  | e :: rest => (s.guard? e).toList ++ (s.step e).tracked rest

/-- One guard belongs to one of the trackers, so that all their counts make the number of guards. -/
theorem sum_countP {guards : List Guard} {n : Nat} (known : ∀ g ∈ guards, g.tracker < n) :
    ∑ tracker ∈ Finset.range n, guards.countP (·.tracker = tracker) = guards.length := by
  induction guards with
  | nil => simp
  | cons g rest ih =>
    have one : g.tracker < n := known g List.mem_cons_self
    have others := ih fun g member => known g (List.mem_cons_of_mem _ member)
    simp only [List.countP_cons, decide_eq_true_eq, List.length_cons]
    rw [Finset.sum_add_distrib, others, Finset.sum_ite_eq, if_pos (Finset.mem_range.mpr one)]

structure Kept (s : Handles) : Prop where
  sound : Trackers.Sound s.trackers
  handles : ∀ tracker, some tracker ∈ s.handles → tracker < s.created
  guards : ∀ g ∈ s.trackers.guards, g.tracker < s.created
  gauge : s.metrics.value .inboundActive = s.trackers.guards.length

theorem kept_new : Kept new := ⟨Trackers.sound_new, nofun, nofun, rfl⟩

theorem mem_of_tracker? {s : Handles} {handle tracker : Nat}
    (there : s.tracker? handle = some tracker) : some tracker ∈ s.handles := by
  unfold tracker? at there
  cases at_ : s.handles[handle]? with
  | none => simp [at_] at there
  | some h =>
    rw [at_, Option.getD_some] at there
    exact there ▸ List.mem_of_getElem? at_

namespace Kept

variable {s : Handles} (h : Kept s)
include h

theorem addHandle {tracker : Nat} (known : tracker < s.created) : Kept (s.addHandle tracker) := by
  refine ⟨h.sound, fun k member => ?_, h.guards, h.gauge⟩
  rcases List.mem_append.mp member with old | new
  · exact h.handles k old
  · cases List.mem_singleton.mp new
    exact known

theorem create : Kept s.create := by
  refine ⟨h.sound, fun k member => ?_, fun g member => ?_, h.gauge⟩
  · change k < s.created + 1
    rcases List.mem_append.mp member with old | new
    · have := h.handles k old
      omega
    · cases List.mem_singleton.mp new
      omega
  · have := h.guards g member
    change g.tracker < s.created + 1
    omega

theorem dropHandle (handle : Nat) : Kept { s with handles := s.handles.set handle none } := by
  refine ⟨h.sound, fun k member => ?_, h.guards, h.gauge⟩
  rcases List.mem_or_eq_of_mem_set member with old | gone
  · exact h.handles k old
  · cases gone

theorem track {tracker : Nat} (known : tracker < s.created) : Kept (s.track tracker) := by
  refine ⟨h.sound.track tracker, h.handles, fun g member => ?_, ?_⟩
  · rcases List.mem_append.mp member with old | new
    · exact h.guards g old
    · cases List.mem_singleton.mp new
      exact known
  · have gauge := h.gauge
    simp [Handles.track, Metrics.record, Trackers.track, gauge]

/-- A live guard is counted, so that its count and the gauge go down to the truth with it. -/
theorem dropGuard (id : Nat) : Kept (s.dropGuard id) := by
  unfold Handles.dropGuard
  split
  next live =>
    refine ⟨h.sound.drop id, h.handles, fun g member => ?_, ?_⟩
    · simp only [Trackers.guards_drop] at member
      exact h.guards g (List.mem_of_mem_filter member)
    · obtain ⟨g, member, named⟩ : ∃ g ∈ s.trackers.guards, g.id = id := by
        simpa [Trackers.isLive] using live
      subst named
      have gauge := h.gauge
      have some := List.length_pos_of_mem member
      simp only [Trackers.guards_drop, h.sound.filter_eq_erase member,
        List.length_erase_of_mem member, Metrics.record, Metrics.value_add, if_true, gauge]
      omega
  next => exact h

theorem step (e : Event) : Kept (s.step e) := by
  cases e with
  | create => exact h.create
  | copy handle =>
    simp only [Handles.step]
    split
    next tracker there => exact h.addHandle (h.handles tracker (mem_of_tracker? there))
    next => exact h
  | dropHandle handle => exact h.dropHandle handle
  | track handle =>
    simp only [Handles.step]
    split
    next tracker there => exact h.track (h.handles tracker (mem_of_tracker? there))
    next => exact h
  | dropGuard id => exact h.dropGuard id

theorem run (events : List Event) : Kept (s.run events) := by
  induction events generalizing s with
  | nil => exact h
  | cons e rest ih => exact ih (h.step e)

end Kept

/-! ### Numbers -/

section Numbers

/-- An event brings its guard, if it brings one, with the next number. -/
theorem step_trackers (s : Handles) (e : Event) :
    (s.step e).trackers.nextId = s.trackers.nextId + (s.guard? e).toList.length ∧
      (s.step e).trackers.guards.Sublist (s.trackers.guards ++ (s.guard? e).toList) ∧
      ∀ g, s.guard? e = some g → g.id = s.trackers.nextId := by
  cases e with
  | track handle =>
    simp only [step, guard?]
    cases s.tracker? handle with
    | none => simp
    | some tracker => simp [track, Trackers.track]
  | dropGuard id =>
    simp only [step, guard?, dropGuard, Option.toList_none, List.append_nil]
    refine ⟨?_, ?_, by simp⟩
    · split
      · exact Trackers.nextId_drop ..
      · rfl
    · split
      · rw [Trackers.guards_drop]
        exact List.filter_sublist
      · exact .refl _
  | create => simp [step, guard?, create, addHandle]
  | copy handle =>
    simp only [step, guard?]
    cases s.tracker? handle <;> simp [addHandle]
  | dropHandle handle => simp [step, guard?]

theorem ids_tracked (s : Handles) (events : List Event) :
    (s.tracked events).map Guard.id =
      List.range' s.trackers.nextId (s.tracked events).length := by
  induction events generalizing s with
  | nil => rfl
  | cons e rest ih =>
    obtain ⟨next, -, numbered⟩ := s.step_trackers e
    rw [tracked, List.map_append, ih, next, List.length_append]
    cases brings : s.guard? e with
    | none => simp
    | some g =>
      rw [Option.toList_some, List.map_singleton, numbered g brings, List.length_singleton,
        Nat.add_comm 1, List.range'_succ, List.singleton_append]

theorem guards_run (s : Handles) (events : List Event) :
    (s.run events).trackers.guards.Sublist (s.trackers.guards ++ s.tracked events) := by
  induction events generalizing s with
  | nil => simp [run, tracked]
  | cons e rest ih =>
    rw [tracked, ← List.append_assoc]
    exact (ih (s.step e)).trans ((s.step_trackers e).2.1.append_right _)

/-- Numbers from one on are distinct as words while there are fewer than words. -/
theorem pairwise_words {n : Nat} (few : n < 2 ^ 64) :
    ((List.range' 1 n).map UInt64.ofNat).Pairwise (· < ·) := by
  rw [List.pairwise_map]
  refine List.Pairwise.imp_of_mem ?_ (List.pairwise_lt_range' ..)
  intro a b ha hb less
  have := (List.mem_range'_1.mp ha).2
  have := (List.mem_range'_1.mp hb).2
  rw [UInt64.lt_iff_toNat_lt, UInt64.toNat_ofNat', UInt64.toNat_ofNat', Nat.mod_eq_of_lt (by omega),
    Nat.mod_eq_of_lt (by omega)]
  exact less

end Numbers

/-- Any number of trackers, through any handles, whatever comes and goes in whatever order. Each
tracker counts its own live guards and no count goes down from zero; the gauge shows what all
trackers count together; and the numbers of all connections that were ever tracked, as words of 64
bits, go up in the order of tracking while there are fewer than words. -/
theorem guards_counted (events : List Event) :
    let s := new.run events
    let tracked := new.tracked events
    (∀ tracker, s.trackers.active tracker = s.trackers.guards.countP (·.tracker = tracker)) ∧
    (∀ g ∈ s.trackers.guards,
      (s.dropGuard g.id).trackers.active g.tracker + 1 = s.trackers.active g.tracker) ∧
    s.metrics.value .inboundActive =
      ∑ tracker ∈ Finset.range s.created, (s.trackers.active tracker : Int) ∧
    s.trackers.guards.Sublist tracked ∧
    (tracked.length < 2 ^ 64 → (∀ tracker, s.trackers.active tracker < 2 ^ 64) ∧
      (tracked.map fun g => UInt64.ofNat g.id).Pairwise (· < ·)) := by
  intro s tracked
  have kept : Kept s := kept_new.run events
  have among : s.trackers.guards.Sublist tracked := new.guards_run events
  refine ⟨kept.sound.active, fun g member => ?_, ?_, among, fun few => ⟨fun tracker => ?_, ?_⟩⟩
  · have live : s.trackers.isLive g.id := List.any_eq_true.mpr ⟨g, member, by simp⟩
    have left : (s.dropGuard g.id).trackers.guards = s.trackers.guards.erase g := by
      rw [dropGuard, if_pos live, ← kept.sound.filter_eq_erase member]
      exact Trackers.guards_drop _ _
    rw [(kept.dropGuard g.id).sound.active, kept.sound.active, left,
      (List.perm_cons_erase member).countP_eq, List.countP_cons_of_pos (by simp)]
  · rw [kept.gauge, ← sum_countP kept.guards]
    simp only [kept.sound.active, Nat.cast_sum]
  · rw [kept.sound.active]
    have counted := List.countP_le_length
      (p := fun g : Guard => g.tracker = tracker) (l := s.trackers.guards)
    have := among.length_le
    omega
  · have numbers := new.ids_tracked events
    have words := pairwise_words few
    change _ = List.range' 1 _ at numbers
    rw [← numbers, List.map_map] at words
    exact words

/-- Both handles of the first tracker go before its last guard does. -/
theorem guards_counted_without_handles :
    let events : List Event :=
      [.create, .create, .copy 0, .track 0, .track 1, .track 2, .dropHandle 0, .dropHandle 2,
        .track 2, .dropGuard 1, .track 1]
    let s := new.run events
    let tracked := new.tracked events
    s.handles = [none, some 1, none] ∧ s.trackers.guards = [⟨1, 2⟩, ⟨0, 3⟩, ⟨1, 4⟩] ∧
    tracked = [⟨0, 1⟩, ⟨1, 2⟩, ⟨0, 3⟩, ⟨1, 4⟩] ∧
    (s.dropGuard 3).trackers.active 0 + 1 = s.trackers.active 0 ∧
    s.metrics.value .inboundActive =
      ∑ tracker ∈ Finset.range s.created, (s.trackers.active tracker : Int) ∧
    tracked.length < 2 ^ 64 ∧ (tracked.map fun g => UInt64.ofNat g.id).Pairwise (· < ·) := by
  intro events s tracked
  obtain ⟨-, down, gauge, -, numbers⟩ := guards_counted events
  have few : tracked.length < 2 ^ 64 := by decide
  exact ⟨rfl, rfl, rfl, down ⟨0, 3⟩ (by decide), gauge, few, (numbers few).2⟩

end Funnel.Tracker.Handles
