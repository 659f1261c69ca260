import Funnel.Proofs.Connector.Turn

/-! No call is forgotten: after every run, a call that can go on is woken, and so is a call that
waited for a time that has come. The turn of a call leaves nothing to do for it until another time
comes or somebody else wakes it. -/

namespace Funnel.Connector

/-- Call `i` waits for time `t`: its dial is over by then, or its deadline is. -/
def Awaits (s : Connector) (i t : Nat) : Prop :=
  (∃ permit, s.phase? i = some (.dialing permit (some t))) ∨
    s.pending i ∧ s.deadline? i = some t

/-- Time `t` is still to come, and call `i` will be woken then. -/
def Watches (s : Connector) (i t : Nat) : Prop := s.now < t ∧ ⟨t, i⟩ ∈ s.timers

/-- There is nothing to do for call `i`. -/
structure Rests (s : Connector) (i : Nat) : Prop where
  idle : ¬ s.ready i
  watches : ∀ t, s.Awaits i t → s.Watches i t

/-- If there is something to do for call `i`, it is woken. -/
structure Tended (s : Connector) (i : Nat) : Prop where
  ready : s.ready i → i ∈ s.woken
  awaits : ∀ t, s.Awaits i t → s.Watches i t ∨ t ≤ s.now ∧ i ∈ s.woken

section Pending

variable {s : Connector} {i t : Nat}

theorem pending_of_ready (h : s.ready i) : s.pending i := by
  rw [ready, Option.any_eq_true] at h
  obtain ⟨p, at_, hp⟩ := h
  rw [pending, at_]
  cases p <;> first | rfl | cases hp

theorem pending_of_awaits (h : s.Awaits i t) : s.pending i := by
  rcases h with ⟨permit, at_⟩ | ⟨pending, -⟩
  · rw [pending, at_]
    rfl
  · exact pending

theorem Rests.of_not_pending (h : ¬ s.pending i) : Rests s i :=
  ⟨fun ready => h (pending_of_ready ready), fun _ awaits => absurd (pending_of_awaits awaits) h⟩

theorem Rests.of_phase {p : Phase} (at_ : s.phase? i = some p) (ended : p.isPending = false) :
    Rests s i := by
  refine .of_not_pending ?_
  rw [pending, at_]
  simpa using ended

theorem Rests.tended (h : Rests s i) : Tended s i :=
  ⟨fun ready => absurd ready h.idle, fun t awaits => .inl (h.watches t awaits)⟩

end Pending

/-! ### After its turn, a call rests -/

/-- Call `i` has gone as far as it can; its deadline remains to be looked at. -/
structure Done (s : Connector) (i : Nat) : Prop where
  idle : ¬ s.ready i
  dial : ∀ permit t, s.phase? i = some (.dialing permit (some t)) → s.Watches i t

section Turn

variable {s : Connector} {i : Nat}

theorem done_setPhase {p : Phase} (s : Connector) (i : Nat) (hp : p.isReady = false)
    (hd : p.isDialing = false) : Done (s.setPhase i p) i := by
  refine ⟨not_any_setPhase s i hp, fun permit t at_ => absurd ?_ (not_any_setPhase s i hd)⟩
  rw [at_]
  rfl

theorem Idle.done {s' : Connector} (same : Idle s s') (h : Done s i) : Done s' i := by
  refine ⟨?_, fun permit t at_ => ?_⟩
  · rw [same.ready]
    exact h.idle
  · rw [same.phase?] at at_
    obtain ⟨future, timer⟩ := h.dial permit t at_
    exact ⟨same.now ▸ future, same.timers _ timer⟩

theorem done_finishIfDue {permit : Bool} {due : Option Nat} (h : Sound s 1)
    (at_ : s.phase? i = some (.dialing permit due))
    (timer : ∀ t, due = some t → s.now < t → ⟨t, i⟩ ∈ s.timers) (d : Dial) :
    Done (s.finishIfDue i permit due d) i := by
  have waits : ¬ s.ready i := by simp [ready, at_, Phase.isReady]
  cases due with
  | none =>
    refine ⟨waits, fun permit' t at' => ?_⟩
    cases at_.symm.trans at'
  | some t =>
    simp only [finishIfDue]
    split
    · have ended := phase?_finish h at_ d.result
      refine ⟨?_, fun permit' t' at' => ?_⟩
      · rw [ready, ended]
        cases d.result <;> simp [outcome, Phase.isReady]
      · rw [ended] at at'
        cases result : d.result <;> rw [result] at at' <;> cases at'
    · rename_i future
      refine ⟨waits, fun permit' t' at' => ?_⟩
      cases at_.symm.trans at'
      exact ⟨Nat.not_le.mp future, timer t rfl (Nat.not_le.mp future)⟩

theorem mem_timers_watchDial (s : Connector) (i : Nat) {t : Nat} (h : s.now < t) :
    ⟨t, i⟩ ∈ (s.watchDial i (some t)).timers := by
  simp only [watchDial]
  rw [if_pos h]
  exact List.mem_append_right _ (List.mem_singleton.mpr rfl)

theorem done_startDial {permit : Bool} {q : Phase} {d : Dial} (at_ : s.phase? i = some q)
    (h : Sound (s.markDialing i permit (d.takes.map (s.now + ·))) 1) :
    Done (s.startDial i permit d) i := by
  have same := idle_watchDial (s.markDialing i permit (d.takes.map (s.now + ·))) i
    (d.takes.map (s.now + ·))
  refine done_finishIfDue (h.alike same.toAlike) ?_ (fun t ht future => ?_) d
  · rw [same.phase?, phase?_eq, phases_markDialing,
      getElem?_set_of_eq ((phase?_eq s i).symm.trans at_), if_pos rfl]
  · rw [ht]
    exact mem_timers_watchDial _ i (same.now ▸ future)

theorem done_enter {q : Phase} (h : Sound s 1) (at_ : s.phase? i = some q) (enters : q.isEntering)
    (d : Dial) : Done (s.enter i d) i := by
  unfold enter
  split
  · exact done_setPhase _ i (p := .parked) rfl rfl
  rename_i live
  have live : s.stats.liveMultiplexed = 0 := not_not.mp live
  split
  · exact done_startDial at_ ((Move.dialFreely at_ enters _ live ‹_›).sound h)
  rename_i unknown
  have unknown : s.stats.speaksHttp1 = false := by simpa using unknown
  split
  · exact done_startDial (s := { s with permits := s.permits - 1 }) at_
      ((Move.dialTaking at_ enters _ live unknown ‹_›).sound h)
  · exact done_setPhase _ i (p := .queued) rfl rfl

theorem done_resume {c : Call} (h : Sound s 1) (at_ : s.phase? i = some c.phase)
    (timer : ∀ permit t, c.phase = .dialing permit (some t) → s.now < t → ⟨t, i⟩ ∈ s.timers) :
    Done (s.resume i c) i := by
  have stays (idle : c.phase.isReady = false) (still : c.phase.isDialing = false) : Done s i := by
    refine ⟨by simp [ready, at_, idle], fun permit t at' => ?_⟩
    rw [Option.some.inj (at_.symm.trans at')] at still
    cases still
  unfold resume
  cases hc : c.phase with
  | fresh | notified => exact done_enter h (at_.trans (congrArg some hc)) rfl c.dial
  | granted =>
    rw [hc] at at_
    simp only
    split
    · exact done_startDial at_ ((Move.dialGranted at_ _ ‹_›).sound h)
    · exact done_setPhase _ i (p := .parked) rfl rfl
  | dialing permit due =>
    refine done_finishIfDue h (at_.trans (congrArg some hc)) (fun t ht future => ?_) c.dial
    exact timer permit t (hc.trans (congrArg _ ht)) future
  | _ => exact stays (by rw [hc]; rfl) (by rw [hc]; rfl)

/-- A call that is over is not brought on. -/
theorem resume_of_over {c : Call} (ended : c.phase.isPending = false) : s.resume i c = s := by
  unfold resume
  cases hc : c.phase <;> first | rfl | (rw [hc] at ended; cases ended)

theorem not_pending_cancel (s : Connector) (i : Nat) {p : Phase} (ended : p.isPending = false) :
    ¬ (s.cancel i p).pending i := by
  unfold cancel
  split
  · rename_i q at_
    split
    · exact not_any_setPhase _ i ended
    · rename_i done
      rwa [pending, at_]
  · rename_i none
    simp [pending, none]

theorem rests_expire (h : Done s i)
    (timer : ∀ t, s.pending i → s.deadline? i = some t → s.now < t → ⟨t, i⟩ ∈ s.timers) :
    Rests (s.expire i) i := by
  have watched (late : ∀ t, s.deadline? i = some t → s.now < t) : Rests s i := by
    refine ⟨h.idle, fun t awaits => ?_⟩
    rcases awaits with ⟨permit, at_⟩ | ⟨pending, deadline⟩
    · exact h.dial permit t at_
    · exact ⟨late t deadline, timer t pending deadline (late t deadline)⟩
  unfold expire
  split
  · rename_i t deadline
    split
    · exact .of_not_pending (not_pending_cancel s i rfl)
    · rename_i future
      refine watched fun t' ht => ?_
      cases deadline.symm.trans ht
      exact Nat.not_le.mp future
  · rename_i none
    exact watched fun t ht => by cases none.symm.trans ht

/-- The timer for a deadline that has just been fixed is set in the same turn. -/
theorem mem_timers_watch (s : Connector) (i : Nat) (h : s.pending i) :
    ⟨s.now + s.limit, i⟩ ∈ (s.watch i).timers := by
  unfold watch
  split
  · exact List.mem_append_right _ (List.mem_singleton.mpr rfl)
  · exact absurd h ‹_›

/-- The first turn of a call: its deadline is fixed, and watched if anything is left to wait for. -/
theorem rests_first_turn {s₁ : Connector} (fresh : s.phase? i = some .fresh)
    (spared : Spares i (s.atTurn i) s₁) (done : Done s₁ i) : Rests ((s₁.watch i).expire i) i := by
  have watched := idle_watch s₁ i
  refine rests_expire (watched.done done) fun t pending deadline _ => ?_
  rw [watched.deadline, spared.deadline, deadline?_atTurn_self fresh] at deadline
  cases deadline
  rw [Connector.pending, watched.phase?] at pending
  have timer := mem_timers_watch s₁ i pending
  rwa [spared.now, spared.limit, now_atTurn, limit_atTurn] at timer

theorem rests_later_turn {c : Call} (h : Sound s 1) (tended : Tended s i)
    (at_ : s.phase? i = some c.phase) (begun : c.phase ≠ .fresh)
    (done : Done ((s.atTurn i).resume i c) i) : Rests (((s.atTurn i).resume i c).expire i) i := by
  have same := alike_atTurn s i
  have spared := Moves.spares (resume_moves c ((same.phase? i).trans at_)) (h.alike same)
  refine rests_expire done fun t pending deadline future => ?_
  have under_way : s.pending i := by
    by_contra ended
    rw [Connector.pending, at_] at ended
    rw [resume_of_over (by simpa using ended), Connector.pending, same.phase?, at_] at pending
    exact ended pending
  have not_first : s.phase? i = some .fresh → i ≠ i := by
    rw [at_]
    exact fun fresh => absurd (Option.some.inj fresh) begun
  rw [spared.deadline, deadline?_atTurn_of_ne not_first] at deadline
  rw [spared.now, now_atTurn] at future
  rcases tended.awaits t (.inr ⟨under_way, deadline⟩) with ⟨-, timer⟩ | ⟨past, -⟩
  · exact spared.timers _ (timers_atTurn s i ▸ timer)
  · omega

theorem done_turn {c : Call} (h : Sound s 1) (tended : Tended s i) (hc : s.calls[i]? = some c) :
    Done ((s.atTurn i).resume i c) i := by
  have at_ : s.phase? i = some c.phase := by simp [phase?, hc]
  have same := alike_atTurn s i
  refine done_resume (h.alike same) ((same.phase? i).trans at_) fun permit t hp future => ?_
  rw [now_atTurn] at future
  rw [timers_atTurn]
  rcases tended.awaits t (.inl ⟨permit, at_.trans (congrArg some hp)⟩) with ⟨-, timer⟩ | ⟨past, -⟩
  · exact timer
  · omega

/-- After its turn a call has nothing to do, whether it was woken or not. -/
theorem rests_turn (h : Sound s 1) (tended : Tended s i) : Rests (s.turn i) i := by
  cases hc : s.calls[i]? with
  | none =>
    refine .of_not_pending ?_
    unfold turn poll
    rw [hc]
    simp [pending, phase?, hc]
  | some c =>
    have at_ : s.phase? i = some c.phase := by simp [phase?, hc]
    have same := alike_atTurn s i
    have done := done_turn h tended hc
    rw [turn_eq hc]
    split
    · rename_i fresh
      have spared := Moves.spares (resume_moves c ((same.phase? i).trans at_)) (h.alike same)
      exact rests_first_turn (at_.trans (congrArg some fresh)) spared done
    · exact rests_later_turn h tended at_ ‹_› done

end Turn

/-! ### A step forgets no call -/

section Frame

variable {s s' : Connector} {i j t : Nat}

/-- Who is called awaits what it awaited before. -/
theorem Spares.awaits (h : Spares i s s') (hj : j ≠ i) (awaits : s'.Awaits j t) :
    s.Awaits j t := by
  rcases h.phase j hj with same | called
  · rwa [Awaits, pending, same, h.deadline] at awaits
  · rcases awaits with ⟨permit, at_⟩ | ⟨-, deadline⟩
    · rcases called.phase with ⟨-, now⟩ | ⟨-, now⟩ <;> cases now.symm.trans at_
    · refine .inr ⟨?_, (h.deadline j).symm.trans deadline⟩
      rcases called.phase with ⟨waits, -⟩ | ⟨waits, -⟩ <;> rw [pending, waits] <;> rfl

theorem Spares.tended (h : Spares i s s') (hj : j ≠ i) (tended : Tended s j) : Tended s' j := by
  refine ⟨fun ready => ?_, fun t awaits => ?_⟩
  · rcases h.phase j hj with same | called
    · refine h.woken j (tended.ready ?_)
      rwa [Connector.ready, same] at ready
    · exact called.woken
  · rcases tended.awaits t (h.awaits hj awaits) with ⟨future, timer⟩ | ⟨past, woken⟩
    · exact .inl ⟨h.now.symm ▸ future, h.timers _ timer⟩
    · exact .inr ⟨h.now.symm ▸ past, h.woken j woken⟩

theorem awaits_atTurn (hj : j ≠ i) (awaits : (s.atTurn i).Awaits j t) : s.Awaits j t := by
  rwa [Awaits, pending, (alike_atTurn s i).phase?, deadline?_atTurn_of_ne fun _ => hj] at awaits

theorem tended_atTurn (hj : j ≠ i) (tended : Tended s j) : Tended (s.atTurn i) j := by
  have woken (h : j ∈ s.woken) : j ∈ (s.atTurn i).woken := by
    rw [woken_atTurn]
    exact (List.mem_erase_of_ne hj).mpr h
  refine ⟨fun ready => woken (tended.ready ?_), fun t awaits => ?_⟩
  · rwa [Connector.ready, (alike_atTurn s i).phase?] at ready
  · rw [Watches, now_atTurn, timers_atTurn]
    exact (tended.awaits t (awaits_atTurn hj awaits)).imp id (And.imp_right woken)

end Frame

/-- Another call makes no difference to those that are there. -/
theorem spares_concat (s : Connector) {c : Call} (hc : c.deadline = none) :
    Spares s.calls.length s { s with calls := s.calls ++ [c] } := by
  refine ⟨rfl, rfl, fun j => ?_, fun _ h => h, fun _ h => h, fun j hj => .inl ?_⟩
  · simp only [deadline?, List.getElem?_append]
    split
    · rfl
    · rw [List.getElem?_singleton, List.getElem?_eq_none (by omega)]
      split
      · exact hc
      · rfl
  · simp only [Connector.phase?, List.getElem?_append]
    split
    · rfl
    · rw [List.getElem?_singleton, if_neg (by omega), List.getElem?_eq_none (by omega)]

theorem spares_call (s : Connector) (d : Dial) : Spares s.calls.length s (s.call d) :=
  (spares_concat s rfl).trans ((idle_wake _ _).spares _)

theorem not_awaits_call (s : Connector) (d : Dial) (t : Nat) :
    ¬ (s.call d).Awaits s.calls.length t := by
  have same := idle_wake { s with calls := s.calls ++ [Call.mk d .fresh none] } s.calls.length
  rintro (⟨permit, at_⟩ | ⟨-, deadline⟩)
  · have fresh : (s.call d).phase? s.calls.length = some .fresh :=
      (same.phase? _).trans (by simp [Connector.phase?])
    cases fresh.symm.trans at_
  · have none : (s.call d).deadline? s.calls.length = none :=
      ((spares_call s d).deadline _).trans (by simp [deadline?])
    cases none.symm.trans deadline

theorem tended_call {s : Connector} (d : Dial) (tended : ∀ j, Tended s j) (j : Nat) :
    Tended (s.call d) j := by
  by_cases hj : j = s.calls.length
  · subst hj
    exact ⟨fun _ => mem_woken_wake _ _, fun t awaits => absurd awaits (not_awaits_call s d t)⟩
  · exact (spares_call s d).tended hj (tended j)

theorem rests_reject (s : Connector) (f : Fault) : Rests (s.reject f) s.calls.length := by
  have failed : (s.reject f).phase? s.calls.length = some (.failed f) := by
    simp [reject, Connector.phase?]
  exact Rests.of_phase failed rfl

theorem tended_reject {s : Connector} (f : Fault) (tended : ∀ j, Tended s j) (j : Nat) :
    Tended (s.reject f) j := by
  by_cases hj : j = s.calls.length
  · subst hj
    exact (rests_reject s f).tended
  · exact (spares_concat s rfl).tended hj (tended j)

theorem phase?_drop {s : Connector} {i number : Nat} {p : Protocol} (h : Sound s 1)
    (at_ : s.phase? i = some (.live p number)) :
    (s.drop i).phase? i = some (.dropped p number) := by
  have closed : (s.close i p number).phase? i = some (.dropped p number) :=
    (phase?_setPhase (s := { s with stats := s.stats.close p }) at_ _ i).trans (if_pos rfl)
  unfold drop
  rw [at_]
  simp only
  split
  · rw [phase?_eq, phases_notifyParked _ (h.toCounted.close at_).parked, List.getElem?_map,
      ← phase?_eq, closed]
    rfl
  · exact closed

theorem tended_drop {s : Connector} (h : Sound s 1) (i : Nat) (tended : ∀ j, Tended s j) (j : Nat) :
    Tended (s.drop i) j := by
  by_cases live : ∃ p number, s.phase? i = some (.live p number)
  · obtain ⟨p, number, at_⟩ := live
    by_cases hj : j = i
    · subst hj
      exact (Rests.of_phase (phase?_drop h at_) rfl).tended
    · exact (spares_drop h).tended hj (tended j)
  · rw [drop_eq_self fun p number at_ => live ⟨p, number, at_⟩]
    exact tended j

theorem tended_abort {s : Connector} (h : Sound s 1) (i : Nat) (tended : ∀ j, Tended s j)
    (j : Nat) : Tended (s.abort i) j := by
  by_cases hj : j = i
  · subst hj
    exact (Rests.of_not_pending (not_pending_cancel s j rfl)).tended
  · exact (Moves.spares (cancel_moves (.inr rfl)) h).tended hj (tended j)

theorem tended_fire {s : Connector} {time : Nat} (later : s.now ≤ time) (tended : ∀ j, Tended s j)
    (j : Nat) : Tended (s.fire time) j := by
  have same := idle_fire s time
  have now : (s.fire time).now = time := same.now
  refine ⟨fun ready => same.woken j ((tended j).ready ?_), fun t awaits => ?_⟩
  · rwa [same.ready] at ready
  · rw [Awaits, pending, same.phase?, same.deadline] at awaits
    rw [Watches, now]
    rcases (tended j).awaits t awaits with ⟨future, timer⟩ | ⟨past, woken⟩
    · by_cases due : t ≤ time
      · refine .inr ⟨due, mem_woken_wakes _ _ ⟨t, j⟩ ?_⟩
        exact List.mem_filter.mpr ⟨timer, by simpa using due⟩
      · refine .inl ⟨Nat.not_le.mp due, same.timers _ ?_⟩
        exact List.mem_filter.mpr ⟨timer, by simpa using due⟩
    · exact .inr ⟨Nat.le_trans past later, same.woken j woken⟩

theorem tended_step {s : Connector} (h : Sound s 1) (tended : ∀ j, Tended s j) (e : Event)
    (j : Nat) : Tended (s.step e) j := by
  cases e with
  | call d => exact tended_call d tended j
  | reject f => exact tended_reject f tended j
  | turn i =>
    by_cases hj : j = i
    · subst hj
      exact (rests_turn h (tended j)).tended
    · have spared := Moves.spares turn_moves (h.alike (alike_atTurn s i))
      exact spared.tended hj (tended_atTurn hj (tended j))
  | drop i => exact tended_drop h i tended j
  | abort i => exact tended_abort h i tended j
  | wait span => exact tended_fire (Nat.le_add_right _ _) tended j

/-- No wake-up is lost. -/
theorem tended_run (limit : Nat) (events : List Event) (j : Nat) :
    Tended ((new limit).run events) j := by
  induction events using List.reverseRecOn generalizing j with
  | nil => exact (Rests.of_not_pending (by simp [pending, run, new, phase?])).tended
  | append_singleton events e ih =>
    rw [run_concat]
    exact tended_step (sound_run limit events) ih e j

end Funnel.Connector
