import Funnel.Proofs.Server.Counted

/-! A graceful stop. Once the server has taken the stop signal it accepts nobody, every task comes
to its end as soon as it runs, and the server does not sleep once no connection is left or its grace
period is over. -/

namespace Funnel.Server

/-- It is about clients that want in, or about the wish to stop. -/
def Event.isForListener : Event → Bool
  | .arrive | .accept | .acceptFails | .requestStop | .takeStop => true
  | _ => false

/-- What a server is at that took the stop signal at `since`. Asleep, it has a reason to be. -/
inductive Ending (since : Nat) (s : Server) : Prop
  | draining (awake : Bool) : s.stage = .draining since awake →
      (awake = false → s.ids ≠ [] ∧ s.now < since + s.grace) → Ending since s
  | drained (time : Nat) : s.stage = .returned since time true → time ≤ s.now → s.ids = [] →
      Ending since s
  | abandoned (time : Nat) : s.stage = .returned since time false → time ≤ s.now →
      since + s.grace ≤ time → Ending since s

/-- The server took the stop signal at `since`, and the events `past` happened afterwards. -/
structure Stopped (since : Nat) (past : List Event) (s : Server) : Prop where
  drains : s.drains = true
  told : ∀ c ∈ s.connections, c.phase = .finishing ∨ c.awake = true
  ran : ∀ c ∈ s.connections, .run c.id ∈ past → c.phase = .finishing
  ending : s.Ending since

/-- What can be said of a later state without looking at the events. -/
structure Later (s s' : Server) : Prop where
  now : s.now ≤ s'.now
  accepted : s'.accepted = s.accepted
  ids : s'.ids.Sublist s.ids

section Quiet

variable {s s' : Server} {since : Nat} {past : List Event} {e : Event}

theorem step_of_isForListener (quiet : s.stage.isListening = false) (h : e.isForListener) :
    s.step e = s := by
  have notAccepting : s.stage ≠ .accepting := by
    intro accepting
    rw [accepting] at quiet
    cases quiet
  cases e with
  | arrive | requestStop => simp [step, quiet]
  | accept | acceptFails | takeStop => simp [step, notAccepting]
  | _ => cases h

theorem Ending.quiet (h : s.Ending since) : s.stage.isListening = false := by
  cases h with
  | draining _ at_ | drained _ at_ | abandoned _ at_ =>
    rw [at_]
    rfl

theorem look_cases (s : Server) :
    s.look = s ∨ ∃ since awake, s.stage = .draining since awake ∧
      (s.tracked = 0 ∧ s.look = { s with stage := .returned since s.now true } ∨
        s.tracked ≠ 0 ∧ since + s.grace ≤ s.now ∧
          s.look = { s with stage := .returned since s.now false } ∨
        s.tracked ≠ 0 ∧ s.now < since + s.grace ∧
          s.look = { s with stage := .draining since false }) := by
  unfold look
  split
  · rename_i since awake at_
    refine .inr ⟨since, awake, at_, ?_⟩
    split
    · rename_i none
      exact .inl ⟨none, rfl⟩
    · rename_i some_
      split
      · rename_i expired
        exact .inr (.inl ⟨some_, expired, rfl⟩)
      · rename_i left
        exact .inr (.inr ⟨some_, Nat.lt_of_not_le left, rfl⟩)
  · exact .inl rfl

theorem look_frame (s : Server) :
    s.look.grace = s.grace ∧ s.look.now = s.now ∧ s.look.accepted = s.accepted ∧
      s.look.drains = s.drains ∧ s.look.connections = s.connections := by
  rcases s.look_cases with same | ⟨since, awake, -, ⟨-, same⟩ | ⟨-, -, same⟩ | ⟨-, -, same⟩⟩ <;>
    simp [same]

theorem remove_frame (s : Server) (id : Nat) :
    (s.remove id).grace = s.grace ∧ (s.remove id).now = s.now ∧
      (s.remove id).accepted = s.accepted ∧ (s.remove id).drains = s.drains := by
  unfold remove
  split <;> simp

theorem later_step (quiet : s.stage.isListening = false) (e : Event) : Later s (s.step e) := by
  cases e with
  | look =>
    obtain ⟨-, now, accepted, -⟩ := s.look_frame
    exact ⟨Nat.le_of_eq now.symm, accepted, by rw [step, s.ids_look]⟩
  | run id => exact ⟨Nat.le_refl _, rfl, by rw [step, s.ids_runTask]⟩
  | finish id =>
    obtain ⟨-, now, accepted, -⟩ := s.remove_frame id
    refine ⟨Nat.le_of_eq now.symm, accepted, ?_⟩
    rw [step, s.ids_remove]
    exact List.filter_sublist
  | advance span => exact ⟨Nat.le_add_right _ _, rfl, .refl _⟩
  | _ =>
    rw [step_of_isForListener quiet rfl]
    exact ⟨Nat.le_refl _, rfl, .refl _⟩

namespace Ending

theorem of_same (h : s.Ending since) (stage : s'.stage = s.stage) (grace : s'.grace = s.grace)
    (now : s'.now = s.now) (ids : s'.ids = s.ids) : s'.Ending since := by
  cases h with
  | draining awake at_ asleep =>
    exact .draining awake (stage.trans at_) (by rwa [ids, now, grace])
  | drained time at_ le none => exact .drained time (stage.trans at_) (now ▸ le) (ids.trans none)
  | abandoned time at_ le expired =>
    exact .abandoned time (stage.trans at_) (now ▸ le) (by rwa [grace])

theorem since_eq (h : s.Ending since) {since' : Nat} {awake : Bool}
    (at_ : s.stage = .draining since' awake) : since' = since := by
  cases h with
  | draining _ at' =>
    cases at_.symm.trans at'
    rfl
  | drained _ at' | abandoned _ at' => cases at_.symm.trans at'

theorem look (h : s.Ending since) (counted : Counted s) : s.look.Ending since := by
  have ids : s.tracked = 0 ↔ s.ids = [] := by
    rw [counted.tracked, List.length_eq_zero_iff]
  rcases s.look_cases with same | ⟨since', awake, at_, looked⟩
  · rwa [same]
  · obtain rfl := h.since_eq at_
    rcases looked with ⟨none, looked⟩ | ⟨-, expired, looked⟩ | ⟨open_, left, looked⟩ <;> rw [looked]
    · exact .drained s.now rfl (Nat.le_refl _) (ids.mp none)
    · exact .abandoned s.now rfl (Nat.le_refl _) expired
    · exact .draining false rfl fun _ => ⟨mt ids.mpr open_, left⟩

theorem remove (h : s.Ending since) (counted : Counted s) (id : Nat) :
    (s.remove id).Ending since := by
  obtain ⟨grace, now, -, -⟩ := s.remove_frame id
  have ids := s.ids_remove id
  by_cases member : id ∈ s.ids
  · have stage : (s.remove id).stage = if s.tracked = 1 then s.stage.wake else s.stage := by
      rw [remove_of_mem member]
    cases h with
    | draining awake at_ asleep =>
      by_cases last : s.tracked = 1
      · rw [if_pos last, at_] at stage
        exact .draining true stage nofun
      · rw [if_neg last, at_] at stage
        refine .draining awake stage fun sleeps => ?_
        have length := counted.length_filter_ids member
        have tracked := counted.tracked
        refine ⟨?_, by rw [now, grace]; exact (asleep sleeps).2⟩
        rw [ids, ← List.length_pos_iff]
        have := List.length_pos_of_mem member
        omega
    | drained _ _ _ none =>
      rw [none] at member
      cases member
    | abandoned time at_ le expired =>
      have same : (s.remove id).stage = .returned since time false := by
        rw [stage, at_]
        split <;> rfl
      exact .abandoned time same (by rwa [now]) (by rwa [grace])
  · rwa [remove_of_not_mem member]

theorem advance (h : s.Ending since) (span : Nat) : (s.step (.advance span)).Ending since := by
  have ids : (s.step (.advance span)).ids = s.ids := rfl
  cases h with
  | draining awake at_ asleep =>
    have stage : (s.step (.advance span)).stage =
        .draining since (awake || since + s.grace ≤ s.now + span) := by
      simp only [step, at_]
      rfl
    refine .draining _ stage fun sleeps => ?_
    simp only [Bool.or_eq_false_iff, decide_eq_false_iff_not] at sleeps
    exact ⟨(asleep sleeps.1).1, Nat.lt_of_not_le sleeps.2⟩
  | drained time at_ le none =>
    have stage : (s.step (.advance span)).stage = .returned since time true := by
      simp only [step, at_]
      rfl
    exact .drained time stage (Nat.le_add_right_of_le le) none
  | abandoned time at_ le expired =>
    have stage : (s.step (.advance span)).stage = .returned since time false := by
      simp only [step, at_]
      rfl
    exact .abandoned time stage (Nat.le_add_right_of_le le) expired

end Ending

/-- A task that runs once the server drains, is told to come to its end. -/
theorem phase_run (c : Inbound) : (c.run true).phase = .finishing := by
  cases phase : c.phase <;> simp [Inbound.run, Phase.next, phase]

namespace Stopped

theorem of_subset (h : Stopped since past s) (drains : s'.drains = true)
    (connections : s'.connections ⊆ s.connections) (ending : s'.Ending since)
    (other : ∀ id, e ≠ .run id) : Stopped since (past ++ [e]) s' where
  drains := drains
  told c open_ := h.told c (connections open_)
  ran c open_ run := by
    rcases List.mem_append.mp run with before | now
    · exact h.ran c (connections open_) before
    · exact absurd (List.mem_singleton.mp now).symm (other c.id)
  ending := ending

theorem runTask (h : Stopped since past s) (id : Nat) :
    Stopped since (past ++ [.run id]) (s.runTask id) where
  drains := h.drains
  told c open_ := by
    obtain ⟨c₀, open₀, rfl⟩ := List.mem_map.mp open_
    split
    · exact .inl (h.drains ▸ phase_run c₀)
    · exact h.told c₀ open₀
  ran c open_ run := by
    obtain ⟨c₀, open₀, rfl⟩ := List.mem_map.mp open_
    by_cases same : c₀.id = id
    · rw [if_pos same, h.drains]
      exact phase_run c₀
    · rw [if_neg same] at run ⊢
      have before : .run c₀.id ∈ past := by simpa [same] using run
      exact h.ran c₀ open₀ before
  ending := h.ending.of_same rfl rfl rfl (s.ids_runTask id)

theorem step (h : Stopped since past s) (counted : Counted s) (e : Event) :
    Stopped since (past ++ [e]) (s.step e) := by
  cases e with
  | look =>
    obtain ⟨-, -, -, drains, connections⟩ := s.look_frame
    exact h.of_subset (drains.trans h.drains) (connections ▸ List.Subset.refl _)
      (h.ending.look counted) nofun
  | run id => exact h.runTask id
  | finish id =>
    obtain ⟨-, -, -, drains⟩ := s.remove_frame id
    have connections : (s.remove id).connections ⊆ s.connections := by
      unfold remove
      split
      · exact List.filter_sublist.subset
      · exact List.Subset.refl _
    exact h.of_subset (drains.trans h.drains) connections (h.ending.remove counted id) nofun
  | advance span =>
    exact h.of_subset h.drains (List.Subset.refl _) (h.ending.advance span) nofun
  | _ =>
    rw [step_of_isForListener h.ending.quiet rfl]
    exact h.of_subset h.drains (List.Subset.refl _) h.ending nofun

end Stopped

theorem Later.trans {s'' : Server} (h : Later s s') (h' : Later s' s'') : Later s s'' :=
  ⟨Nat.le_trans h.now h'.now, h'.accepted.trans h.accepted, h'.ids.trans h.ids⟩

end Quiet

section Run

variable {s : Server} {since : Nat}

theorem Stopped.run {past : List Event} (h : Stopped since past s) (counted : Counted s)
    (events : List Event) :
    Stopped since (past ++ events) (s.run events) ∧ Later s (s.run events) := by
  induction events using List.reverseRecOn with
  | nil =>
    rw [List.append_nil]
    exact ⟨h, Nat.le_refl _, rfl, .refl _⟩
  | append_singleton events e ih =>
    rw [run_concat, ← List.append_assoc]
    exact ⟨ih.1.step (counted.run events) e, ih.2.trans (later_step ih.1.ending.quiet e)⟩

end Run

end Funnel.Server
