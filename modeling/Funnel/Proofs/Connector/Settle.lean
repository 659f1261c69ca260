import Funnel.Proofs.Connector.Rest

/-! Settling is one of the orders in which the woken calls may have their turns, and it comes to an
end: a turn takes its call off the list of the woken ones, and puts another on that list only when
it takes that one out of the queue. So a settled connector is at rest. -/

namespace Funnel.Connector

/-- The call may yet be handed the permit. -/
def Phase.mayQueue : Phase → Bool
  | fresh | notified | queued => true
  | _ => false

/-- How many turns of woken calls there can be at most before nothing moves. -/
def unrest (s : Connector) : Nat := s.woken.length + s.count Phase.mayQueue

theorem unrest_le (s : Connector) : s.unrest ≤ s.woken.length + s.calls.length := by
  have := List.countP_le_length (p := Phase.mayQueue) (l := s.phases)
  rw [phases, List.length_map] at this
  exact Nat.add_le_add_left this _

theorem length_woken_wake_le (s : Connector) (i : Nat) :
    (s.wake i).woken.length ≤ s.woken.length + 1 := by
  unfold wake
  split
  · exact Nat.le_succ _
  · simp

section Turn

variable {s s' t : Connector} {i : Nat} {p q : Phase}

theorem mayQueue_of_isEntering (h : q.isEntering) : q.mayQueue = true := by
  cases q <;> first | rfl | cases h

theorem unrest_setPhase_le (at_ : s.phase? i = some q) (phases : t.phases = s.phases)
    (woken : t.woken = s.woken) (h : p.mayQueue = false ∨ q.mayQueue = true) :
    (t.setPhase i p).unrest ≤ s.unrest := by
  have counted := countP_set_add ((phase?_eq s i).symm.trans at_) p Phase.mayQueue
  have fewer : p.mayQueue.toNat ≤ q.mayQueue.toNat := by
    rcases h with hp | hq
    · rw [hp]
      exact Nat.zero_le _
    · rw [hq]
      exact Bool.toNat_le p.mayQueue
  unfold unrest count
  rw [phases_setPhase, phases]
  show t.woken.length + _ ≤ _
  rw [woken]
  omega

/-- Who is handed the permit is woken, but waits no longer in the queue. -/
theorem unrest_giveBack_le (listed : ∀ k ∈ s.queue, s.phase? k = some .queued) :
    s.giveBack.unrest ≤ s.unrest := by
  unfold giveBack
  split
  · exact Nat.le_refl _
  · rename_i k rest hqueue
    have at_ := listed k (by simp [hqueue])
    have counted := countP_set_add ((phase?_eq s k).symm.trans at_) .granted Phase.mayQueue
    have woken := length_woken_wake_le ({ s with queue := rest }.setPhase k .granted) k
    unfold unrest count
    rw [(idle_wake _ k).phases, phases_setPhase]
    change _ ≤ s.woken.length + 1 at woken
    show _ + List.countP _ (s.phases.set k .granted) ≤ _
    simp only [Phase.mayQueue, Bool.toNat_true, Bool.toNat_false] at counted
    omega

theorem unrest_giveBackIf_le {permit : Bool} (listed : ∀ k ∈ s.queue, s.phase? k = some .queued) :
    (s.giveBackIf permit).unrest ≤ s.unrest := by
  cases permit
  · exact Nat.le_refl _
  · exact unrest_giveBack_le listed

theorem unrest_finish_le {permit : Bool} {due : Option Nat} (h : Sound s 1)
    (at_ : s.phase? i = some (.dialing permit due)) (result : Except Fault Protocol) :
    (s.finish i permit result).unrest ≤ s.unrest := by
  have own : ((s.tally result).setPhase i (s.outcome result)).unrest ≤ s.unrest := by
    cases result <;> exact unrest_setPhase_le at_ rfl rfl (.inl rfl)
  refine Nat.le_trans (unrest_giveBackIf_le fun k hk => ?_) own
  have waits : s.phase? k = some .queued := by cases result <;> exact h.mem_queue.mp hk
  have hki : k ≠ i := by
    rintro rfl
    cases waits.symm.trans at_
  rw [phase?_setPhase_ne hki]
  cases result <;> exact waits

theorem unrest_cancel_le (h : Sound s 1) (at_ : s.phase? i = some q)
    (ends : p = .expired ∨ p = .aborted) : ((s.withdraw i q).setPhase i p).unrest ≤ s.unrest := by
  have ended : p.mayQueue = false ∨ q.mayQueue = true := by
    rcases ends with rfl | rfl <;> exact .inl rfl
  have giving (hq : q ≠ .queued) : (s.giveBack.setPhase i p).unrest ≤ s.unrest := by
    have still := h.phase?_giveBack at_ hq
    exact Nat.le_trans (unrest_setPhase_le still rfl rfl ended)
      (unrest_giveBack_le fun _ hk => h.mem_queue.mp hk)
  unfold withdraw
  split
  · exact unrest_setPhase_le at_ rfl rfl ended
  · exact unrest_setPhase_le at_ rfl rfl ended
  · exact giving Phase.noConfusion
  · exact giving Phase.noConfusion
  · exact unrest_setPhase_le at_ rfl rfl ended

theorem Move.unrest_le (m : Move i s s') (h : Sound s 1) : s'.unrest ≤ s.unrest := by
  cases m with
  | idle same woken =>
    rw [unrest, woken, count, same.phases]
    exact Nat.le_refl _
  | park at_ enters | enqueue at_ enters | dialFreely at_ enters | dialTaking at_ enters =>
    exact unrest_setPhase_le at_ rfl rfl (.inr (mayQueue_of_isEntering enters))
  | dialGranted at_ => exact unrest_setPhase_le at_ rfl rfl (.inl rfl)
  | yield at_ live =>
    have still := h.phase?_giveBack at_ Phase.noConfusion
    exact Nat.le_trans (unrest_setPhase_le still rfl rfl (.inl rfl))
      (unrest_giveBack_le fun _ hk => h.mem_queue.mp hk)
  | finish result at_ due => exact unrest_finish_le h at_ result
  | cancel at_ pending ends => exact unrest_cancel_le h at_ ends

theorem Moves.unrest_le (m : Moves i s s') (h : Sound s 1) : s'.unrest ≤ s.unrest := by
  induction m with
  | refl => exact Nat.le_refl _
  | tail m last ih => exact Nat.le_trans (last.unrest_le (Moves.sound m h)) ih

/-- The turn of a woken call brings the connector nearer to rest. -/
theorem unrest_turn_lt (h : Sound s 1) (woken : i ∈ s.woken) : (s.turn i).unrest < s.unrest := by
  have same := alike_atTurn s i
  refine Nat.lt_of_le_of_lt (Moves.unrest_le turn_moves (h.alike same)) ?_
  unfold unrest count
  rw [same.phases, woken_atTurn, List.length_erase_of_mem woken]
  have := List.length_pos_of_mem woken
  omega

end Turn

theorem woken_settleWithin {s : Connector} {fuel : Nat} (h : Sound s 1) (enough : s.unrest ≤ fuel) :
    (settleWithin fuel s).woken = [] := by
  induction fuel generalizing s with
  | zero =>
    unfold unrest at enough
    show s.woken = []
    exact List.eq_nil_of_length_eq_zero (by omega)
  | succ fuel ih =>
    unfold settleWithin
    split
    · assumption
    · rename_i i rest woken
      have nearer := unrest_turn_lt (i := i) h (by simp [woken])
      exact ih (h.step (.turn i)) (by omega)

/-- Settling lets woken calls have their turns. -/
theorem settleWithin_eq_run (fuel : Nat) (s : Connector) :
    ∃ turns : List Nat, settleWithin fuel s = s.run (turns.map .turn) := by
  induction fuel generalizing s with
  | zero => exact ⟨[], rfl⟩
  | succ fuel ih =>
    unfold settleWithin
    split
    · exact ⟨[], rfl⟩
    · rename_i i rest woken
      obtain ⟨turns, same⟩ := ih (s.turn i)
      exact ⟨i :: turns, same⟩

/-- From every state, the turns of woken calls lead to a state of rest. -/
theorem settle_atRest (limit : Nat) (events : List Event) :
    ((new limit).run events).settle.AtRest ∧
      ∃ turns : List Nat, ((new limit).run events).settle =
        (new limit).run (events ++ turns.map .turn) := by
  refine ⟨atRest_of_woken (woken_settleWithin (sound_run limit events) (unrest_le _)), ?_⟩
  obtain ⟨turns, same⟩ := settleWithin_eq_run _ ((new limit).run events)
  exact ⟨turns, same.trans (run_append _ _ _).symm⟩

end Funnel.Connector
