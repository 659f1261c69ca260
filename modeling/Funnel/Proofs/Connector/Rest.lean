import Funnel.Proofs.Connector.Tended

/-! No call is stranded. Once every woken call has run, no turn would change anything, and a
pending call dials, waits for a live HTTP/2 connection to go, or waits for the permit that another
call dials with. -/

namespace Funnel.Connector

/-- Every woken call has run: a further turn would only find that there is nothing to do. -/
def AtRest (s : Connector) : Prop := ∀ i ∈ s.woken, s.turn i = { s with woken := s.woken.erase i }

theorem atRest_of_woken {s : Connector} (h : s.woken = []) : s.AtRest := by
  rw [AtRest, h]
  exact nofun

/-! ### Nothing can move -/

section Rests

variable {s : Connector} {i : Nat}

theorem Rests.finishIfDue {permit : Bool} {due : Option Nat} (h : Rests s i)
    (at_ : s.phase? i = some (.dialing permit due)) (d : Dial) :
    s.finishIfDue i permit due d = s := by
  cases due with
  | none => rfl
  | some t => exact if_neg (Nat.not_le.mpr (h.watches t (.inl ⟨permit, at_⟩)).1)

theorem Rests.resume {c : Call} (h : Rests s i) (at_ : s.phase? i = some c.phase) :
    s.resume i c = s := by
  have idle := h.idle
  rw [ready, at_] at idle
  unfold Connector.resume
  cases hc : c.phase with
  | fresh | notified | granted => exact absurd (by rw [hc]; rfl) idle
  | dialing permit due => exact h.finishIfDue (at_.trans (congrArg some hc)) c.dial
  | _ => rfl

theorem Rests.expire (h : Rests s i) : s.expire i = s := by
  unfold Connector.expire
  split
  · rename_i t deadline
    split
    · rename_i past
      unfold cancel
      split
      · rename_i q at_
        split
        · rename_i under_way
          have pending : s.pending i := by rwa [Connector.pending, at_]
          have := (h.watches t (.inr ⟨pending, deadline⟩)).1
          omega
        · rfl
      · rfl
    · rfl
  · rfl

theorem Rests.poll (h : Rests s i) : s.poll i = s := by
  unfold Connector.poll
  split
  · rename_i c hc
    have at_ : s.phase? i = some c.phase := by simp [phase?, hc]
    split
    · rename_i fresh
      refine absurd ?_ h.idle
      rw [ready, at_, fresh]
      rfl
    · rw [h.resume at_, h.expire]
  · rfl

/-- A turn of a call that has nothing to do changes nothing. -/
theorem Rests.turn (h : Rests s i) : s.turn i = { s with woken := s.woken.erase i } :=
  Rests.poll (s := { s with woken := s.woken.erase i }) ⟨h.idle, h.watches⟩

end Rests

/-- At rest there is nothing to do for any call, be it woken or not. -/
theorem rests_of_atRest {limit : Nat} {events : List Event}
    (rest : ((new limit).run events).AtRest) (i : Nat) : Rests ((new limit).run events) i := by
  have tended := tended_run limit events i
  by_cases woken : i ∈ ((new limit).run events).woken
  · have done := rests_turn (sound_run limit events) tended
    rw [rest i woken] at done
    exact ⟨done.idle, done.watches⟩
  · refine ⟨fun ready => woken (tended.ready ready), fun t awaits => ?_⟩
    exact (tended.awaits t awaits).resolve_right fun ⟨_, h⟩ => woken h

/-- At rest no call can move, be it woken or not. -/
theorem turn_of_atRest {limit : Nat} {events : List Event}
    (rest : ((new limit).run events).AtRest) (i : Nat) :
    ((new limit).run events).turn i =
      { (new limit).run events with woken := ((new limit).run events).woken.erase i } :=
  (rests_of_atRest rest i).turn

/-! ### What a pending call waits for -/

/-- Call `i` dials, and if its dial ever ends, that is to come and the call will be woken then. -/
def Dials (s : Connector) (i : Nat) (permit : Bool) : Prop :=
  ∃ due, s.phase? i = some (.dialing permit due) ∧ ∀ t, due = some t → s.Watches i t

/-- What a pending call waits for. -/
inductive Wait where
  /-- The result of its own dial. -/
  | dial
  /-- The end of the last HTTP/2 connection. -/
  | close
  /-- The permit. -/
  | permit

/-- Call `i` waits for `w`, and that is under way. -/
def Wait.Of (s : Connector) (i : Nat) : Wait → Prop
  | dial => ∃ permit, s.Dials i permit
  | close => i ∈ s.parked ∧ 0 < s.liveHttp2
  | permit => i ∈ s.queue ∧ ∃ j ≠ i, s.Dials j true

/-- What a call in the phase waits for, if it waits. -/
def Phase.wait? : Phase → Option Wait
  | dialing _ _ => some .dial
  | parked => some .close
  | queued => some .permit
  | _ => none

theorem Wait.Of.wait? {s : Connector} {i : Nat} {w : Wait} (h : Sound s 1) (hw : w.Of s i) :
    (s.phase? i).bind Phase.wait? = some w := by
  cases w with
  | dial =>
    obtain ⟨permit, due, at_, -⟩ := hw
    rw [at_]
    rfl
  | close =>
    rw [h.mem_parked.mp hw.1]
    rfl
  | permit =>
    rw [h.mem_queue.mp hw.1]
    rfl

theorem Rests.dials {s : Connector} {i : Nat} {permit : Bool} {due : Option Nat} (h : Rests s i)
    (at_ : s.phase? i = some (.dialing permit due)) : s.Dials i permit :=
  ⟨due, at_, fun t ht => h.watches t (.inl ⟨permit, by rw [at_, ht]⟩)⟩

/-- A permit that is taken is with a dial, unless some call is about to use it. -/
theorem dials_of_taken {s : Connector} (h : Sound s 1) (rest : ∀ j, Rests s j)
    (taken : s.permits = 0) : ∃ j, s.Dials j true := by
  have one := h.permits
  rw [taken, Nat.zero_add] at one
  obtain ⟨p, hp, holds⟩ := List.countP_pos_iff.mp (Nat.lt_of_lt_of_eq Nat.zero_lt_one one.symm)
  obtain ⟨j, hj⟩ := List.getElem?_of_mem hp
  rw [← phase?_eq] at hj
  cases p with
  | granted => exact absurd (by rw [ready, hj]; rfl) (rest j).idle
  | dialing permit due =>
    cases permit
    · cases holds
    · exact ⟨j, (rest j).dials hj⟩
  | _ => cases holds

theorem exists_wait {s : Connector} {i : Nat} (h : Sound s 1) (rest : ∀ j, Rests s j)
    (pending : s.pending i) : ∃ w : Wait, w.Of s i := by
  obtain ⟨p, at_, pending⟩ := (Option.any_eq_true _ _).mp pending
  have idle := (rest i).idle
  rw [ready, at_] at idle
  cases p with
  | fresh | notified | granted => exact absurd rfl idle
  | dialing permit due => exact ⟨.dial, permit, (rest i).dials at_⟩
  | parked =>
    have waits := h.mem_parked.mpr at_
    refine ⟨.close, waits, Nat.pos_of_ne_zero fun none => ?_⟩
    rw [h.parked_eq_nil (h.live.trans none)] at waits
    cases waits
  | queued =>
    have waits := h.mem_queue.mpr at_
    have taken : s.permits = 0 := by
      by_contra there
      rw [h.queue_eq_nil (Nat.pos_of_ne_zero there)] at waits
      cases waits
    obtain ⟨j, due, hj, watched⟩ := dials_of_taken h rest taken
    refine ⟨.permit, waits, j, ?_, due, hj, watched⟩
    rintro rfl
    rw [at_] at hj
    cases hj
  | live _ _ | dropped _ _ | failed _ | expired | aborted => cases pending

/-- No call is stranded. Once every woken call has run, a pending call dials, or waits for the last
HTTP/2 connection to go while one is alive, or waits for the permit while another call dials with
it; and no two of these at once. -/
theorem exists_unique_wait (limit : Nat) (events : List Event) (i : Nat)
    (rest : ((new limit).run events).AtRest) (pending : ((new limit).run events).pending i) :
    ∃! w : Wait, w.Of ((new limit).run events) i := by
  have sound := sound_run limit events
  obtain ⟨w, hw⟩ := exists_wait sound (rests_of_atRest rest) pending
  refine ⟨w, hw, fun w' hw' => ?_⟩
  exact Option.some.inj ((hw'.wait? sound).symm.trans (hw.wait? sound))

/-- The connection that the calls share goes, one of those that waited dials with the permit and is
given up, and the permit is handed to the next, which dials, while the last waits. -/
theorem exists_unique_wait_after_abort :
    let d : Dial := ⟨some 20, .ok .http2⟩
    let s := (new 5000).run [.call d, .call d, .call d, .call d, .turn 0, .turn 1, .turn 2, .turn 3,
      .wait 20, .turn 0, .turn 1, .turn 2, .turn 3, .drop 0, .turn 1, .turn 2, .turn 3, .abort 1,
      .turn 2]
    s.AtRest ∧ s.pending 3 ∧ ∃! w : Wait, w.Of s 3 :=
  have rest := atRest_of_woken (by decide)
  have pending := by decide
  ⟨rest, pending, exists_unique_wait 5000 _ 3 rest pending⟩

end Funnel.Connector
