import Funnel.Server
import Mathlib.Data.List.Induction
import Mathlib.Data.List.Nodup

/-! The server's tracker counts the open connections: from the accepting of a connection to its end
there is one guard for it, and no two connections have the same number. -/

namespace Funnel.Server

/-- The numbers of the open connections. -/
def ids (s : Server) : List Nat := s.connections.map (·.id)

structure Counted (s : Server) : Prop where
  guards : s.trackers.guards = s.ids.map (⟨tracker, ·⟩)
  tracked : s.tracked = s.ids.length
  below : ∀ id ∈ s.ids, id < s.trackers.nextId
  nodup : s.ids.Nodup

theorem run_append (s : Server) (past rest : List Event) :
    s.run (past ++ rest) = (s.run past).run rest :=
  List.foldl_append

theorem run_concat (s : Server) (past : List Event) (e : Event) :
    s.run (past ++ [e]) = (s.run past).step e :=
  s.run_append past [e]

/-! ### The numbers of the open connections -/

section Ids

variable (s : Server)

theorem ids_accept : s.accept.ids = s.ids ++ [s.trackers.nextId] := by
  simp [ids, accept]

theorem ids_takeStop : s.takeStop.ids = s.ids := by
  simp [ids, takeStop, Inbound.wake, Function.comp_def]

theorem ids_runTask (id : Nat) : (s.runTask id).ids = s.ids := by
  simp only [ids, runTask, List.map_map]
  apply List.map_congr_left
  intro c _
  by_cases same : c.id = id <;> simp [same, Inbound.run]

theorem ids_look : s.look.ids = s.ids := by
  unfold look
  split
  · split
    · rfl
    · split <;> rfl
  · rfl

theorem any_id_iff (id : Nat) : s.connections.any (·.id = id) ↔ id ∈ s.ids := by
  simp [ids, List.any_eq_true]

theorem remove_of_mem {s : Server} {id : Nat} (h : id ∈ s.ids) :
    s.remove id = { s with
      trackers := s.trackers.drop id
      connections := s.connections.filter (·.id ≠ id)
      stage := if s.tracked = 1 then s.stage.wake else s.stage } :=
  if_pos ((s.any_id_iff id).mpr h)

theorem remove_of_not_mem {s : Server} {id : Nat} (h : id ∉ s.ids) : s.remove id = s :=
  if_neg (mt (s.any_id_iff id).mp h)

theorem ids_remove (id : Nat) : (s.remove id).ids = s.ids.filter (· ≠ id) := by
  by_cases member : id ∈ s.ids
  · rw [remove_of_mem member]
    simp only [ids, List.filter_map]
    rfl
  · rw [remove_of_not_mem member]
    have others : ∀ id' ∈ s.ids, id' ≠ id := fun id' member' same => member (same ▸ member')
    exact (List.filter_eq_self.mpr (by simpa using others)).symm

end Ids

namespace Counted

variable {s s' : Server}

/-- Where neither the trackers nor the open connections change, nothing has to be counted. -/
theorem of_same (h : Counted s) (trackers : s'.trackers = s.trackers) (same : s'.ids = s.ids) :
    Counted s' where
  guards := by rw [trackers, same]; exact h.guards
  tracked := by rw [Server.tracked, trackers, same]; exact h.tracked
  below := by rw [trackers, same]; exact h.below
  nodup := by rw [same]; exact h.nodup

theorem accept (h : Counted s) : Counted s.accept where
  guards := by
    rw [ids_accept, List.map_append, ← h.guards]
    rfl
  tracked := by
    rw [ids_accept, List.length_append, ← h.tracked]
    rfl
  below := by
    rw [ids_accept]
    intro id member
    have next : s.accept.trackers.nextId = s.trackers.nextId + 1 := rfl
    rcases List.mem_append.mp member with old | new
    · have := h.below id old
      omega
    · have := List.mem_singleton.mp new
      omega
  nodup := by
    rw [ids_accept]
    have fresh : s.trackers.nextId ∉ s.ids := fun member => Nat.lt_irrefl _ (h.below _ member)
    refine List.nodup_append.mpr ⟨h.nodup, List.nodup_singleton _, ?_⟩
    rintro id old _ new rfl
    exact fresh (List.mem_singleton.mp new ▸ old)

theorem look (h : Counted s) : Counted s.look := by
  refine h.of_same ?_ s.ids_look
  unfold Server.look
  split
  · split
    · rfl
    · split <;> rfl
  · rfl

/-- The guard of an open connection is on the server's tracker. -/
theorem find_guard (h : Counted s) {id : Nat} (member : id ∈ s.ids) :
    s.trackers.guards.find? (·.id = id) = some ⟨tracker, id⟩ := by
  rw [h.guards, List.find?_map, Option.map_eq_some_iff]
  have found : (s.ids.find? fun id' => id' = id).isSome :=
    List.find?_isSome.mpr ⟨id, member, decide_eq_true rfl⟩
  obtain ⟨id', at_⟩ := Option.isSome_iff_exists.mp found
  have same : id' = id := by simpa using List.find?_some at_
  exact ⟨id, same ▸ at_, rfl⟩

theorem length_filter_ids (h : Counted s) {id : Nat} (member : id ∈ s.ids) :
    (s.ids.filter (· ≠ id)).length + 1 = s.ids.length := by
  have erase : s.ids.erase id = s.ids.filter (· ≠ id) := by
    rw [h.nodup.erase_eq_filter]
    apply List.filter_congr
    intro id' _
    rw [Bool.eq_iff_iff]
    simp
  rw [← erase, List.length_erase_of_mem member]
  have := List.length_pos_of_mem member
  omega

theorem remove (h : Counted s) (id : Nat) : Counted (s.remove id) := by
  by_cases member : id ∈ s.ids
  · have ids := s.ids_remove id
    have length := h.length_filter_ids member
    rw [remove_of_mem member] at ids ⊢
    constructor
    · rw [ids]
      simp only [Trackers.drop, h.find_guard member]
      rw [h.guards, List.filter_map]
      rfl
    · rw [ids]
      have before : s.trackers.active tracker = s.ids.length := h.tracked
      simp only [Server.tracked, Trackers.drop, h.find_guard member, if_true, before]
      omega
    · rw [ids]
      intro id' member'
      simp only [Trackers.drop, h.find_guard member]
      exact h.below id' (List.mem_filter.mp member').1
    · rw [ids]
      exact h.nodup.filter _
  · rwa [remove_of_not_mem member]

theorem step (h : Counted s) (e : Event) : Counted (s.step e) := by
  cases e with
  | arrive =>
    simp only [Server.step]
    split
    · exact h.of_same rfl rfl
    · exact h
  | accept =>
    simp only [Server.step]
    split
    · exact h.accept
    · exact h
  | acceptFails =>
    simp only [Server.step]
    split
    · exact h.of_same rfl rfl
    · exact h
  | requestStop =>
    simp only [Server.step]
    split
    · exact h.of_same rfl rfl
    · exact h
  | takeStop =>
    simp only [Server.step]
    split
    · exact h.of_same rfl s.ids_takeStop
    · exact h
  | look => exact h.look
  | run id => exact h.of_same rfl (s.ids_runTask id)
  | finish id => exact h.remove id
  | advance span => exact h.of_same rfl rfl

theorem run (h : Counted s) (events : List Event) : Counted (s.run events) := by
  induction events using List.reverseRecOn with
  | nil => exact h
  | append_singleton events e ih =>
    rw [run_concat]
    exact ih.step e

end Counted

end Funnel.Server
