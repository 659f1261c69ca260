import Funnel.Proofs.Connector.Sound

/-! What the turn of a call does apart from bringing the call on: it leaves the other calls alone,
except that it may end the wait of some, and it begins a dial or joins the queue only if the
connector, as the call finds it, demands so. -/

namespace Funnel.Connector

/-! ### The other calls -/

/-- Without its doing, call `j` comes to the end of a wait, and it is woken. -/
structure Called (s s' : Connector) (j : Nat) : Prop where
  phase : s.phase? j = some .queued ∧ s'.phase? j = some .granted ∨
    s.phase? j = some .parked ∧ s'.phase? j = some .notified
  woken : j ∈ s'.woken

/-- What call `i` leaves as it is when it does something. -/
structure Spares (i : Nat) (s s' : Connector) : Prop where
  now : s'.now = s.now
  limit : s'.limit = s.limit
  deadline : ∀ j, s'.deadline? j = s.deadline? j
  timers : ∀ t ∈ s.timers, t ∈ s'.timers
  woken : ∀ j ∈ s.woken, j ∈ s'.woken
  phase : ∀ j, j ≠ i → s'.phase? j = s.phase? j ∨ Called s s' j

theorem Idle.spares {s s' : Connector} (h : Idle s s') (i : Nat) : Spares i s s' :=
  ⟨h.now, h.limit, h.deadline, h.timers, h.woken, fun j _ => .inl (h.phase? j)⟩

namespace Spares

variable {s s' s'' : Connector} {i : Nat} {p : Phase}

theorem refl (i : Nat) (s : Connector) : Spares i s s := (Idle.refl s).spares i

theorem trans (h : Spares i s s') (h' : Spares i s' s'') : Spares i s s'' := by
  refine ⟨h'.now.trans h.now, h'.limit.trans h.limit,
    fun j => (h'.deadline j).trans (h.deadline j), fun t ht => h'.timers t (h.timers t ht),
    fun j hj => h'.woken j (h.woken j hj), fun j hj => ?_⟩
  rcases h.phase j hj with same | called
  · rw [← same]
    refine (h'.phase j hj).imp id fun called => ⟨?_, called.woken⟩
    rw [← same]
    exact called.phase
  · rcases h'.phase j hj with same | again
    · refine .inr ⟨?_, h'.woken j called.woken⟩
      rw [same]
      exact called.phase
    · -- Nobody is called twice, since a call that was called waits no more.
      rcases called.phase with ⟨-, now⟩ | ⟨-, now⟩ <;>
        rcases again.phase with ⟨waits, -⟩ | ⟨waits, -⟩ <;> cases now.symm.trans waits

/-- To set the call's own phase touches nobody else; `t` has the counters and lists changed. -/
theorem setPhase {t : Connector} (p : Phase) (calls : t.calls = s.calls) (now : t.now = s.now)
    (limit : t.limit = s.limit) (timers : t.timers = s.timers) (woken : t.woken = s.woken) :
    Spares i s (t.setPhase i p) where
  now := now
  limit := limit
  deadline j := by rw [deadline?_setPhase, deadline?, calls, deadline?]
  timers _ ht := timers.symm ▸ ht
  woken _ hj := woken.symm ▸ hj
  phase j hj := by
    rw [phase?_setPhase_ne hj, Connector.phase?, calls]
    exact .inl rfl

theorem giveBack (listed : ∀ k ∈ s.queue, k ≠ i → s.phase? k = some .queued) :
    Spares i s s.giveBack := by
  unfold Connector.giveBack
  split
  · exact ⟨rfl, rfl, fun _ => rfl, fun _ h => h, fun _ h => h, fun _ _ => .inl rfl⟩
  · rename_i k rest hqueue
    have same := idle_wake ({ s with queue := rest }.setPhase k .granted) k
    refine ⟨same.now, same.limit, fun j => ?_, same.timers, same.woken, fun j hj => ?_⟩
    · exact (same.deadline j).trans (deadline?_setPhase _ k j _)
    · by_cases hk : j = k
      · subst hk
        have waits := listed j (by simp [hqueue]) hj
        refine .inr ⟨.inl ⟨waits, ?_⟩, mem_woken_wake _ j⟩
        rw [same.phase?, phase?_setPhase (s := { s with queue := rest }) waits, if_pos rfl]
      · rw [same.phase?, phase?_setPhase_ne hk]
        exact .inl rfl

theorem giveBackIf {permit : Bool} (listed : ∀ k ∈ s.queue, k ≠ i → s.phase? k = some .queued) :
    Spares i s (s.giveBackIf permit) := by
  cases permit
  · exact refl i s
  · exact giveBack listed

theorem notifyParked (listed : ∀ k ∈ s.parked, k ≠ i → s.phase? k = some .parked) :
    Spares i s s.notifyParked := by
  have same := idle_tell s.parked { s with parked := [] }
  refine ⟨same.now, same.limit, deadline?_tell s.parked { s with parked := [] }, same.timers,
    same.woken, fun j hj => ?_⟩
  have phase := getElem?_phases_tell s.parked { s with parked := [] } j
  change s.notifyParked.phases[j]? =
    if j ∈ s.parked then s.phases[j]?.map _ else s.phases[j]? at phase
  rw [← phase?_eq, ← phase?_eq] at phase
  split at phase
  · rename_i told
    have waits := listed j told hj
    refine .inr ⟨.inr ⟨waits, ?_⟩, mem_woken_tell s.parked _ j told⟩
    rw [phase, waits]
    rfl
  · exact .inl phase

end Spares

section Frame

variable {s s' : Connector} {i : Nat}

theorem Counted.queued {n : Nat} (h : Counted s n) :
    ∀ k ∈ s.queue, k ≠ i → s.phase? k = some .queued :=
  fun _ hk _ => h.mem_queue.mp hk

theorem spares_finish (h : Sound s 1) (permit : Bool) (result : Except Fault Protocol) :
    Spares i s (s.finish i permit result) := by
  have own : Spares i s ((s.tally result).setPhase i (s.outcome result)) := by
    cases result <;> exact .setPhase _ rfl rfl rfl rfl rfl
  refine own.trans (.giveBackIf fun k hk ne => ?_)
  rw [phase?_setPhase_ne ne]
  cases result <;> exact h.mem_queue.mp hk

theorem spares_withdraw (h : Sound s 1) (p : Phase) : Spares i s (s.withdraw i p) := by
  unfold withdraw
  split
  · exact ⟨rfl, rfl, fun _ => rfl, fun _ h => h, fun _ h => h, fun _ _ => .inl rfl⟩
  · exact ⟨rfl, rfl, fun _ => rfl, fun _ h => h, fun _ h => h, fun _ _ => .inl rfl⟩
  · exact .giveBack h.queued
  · exact .giveBack h.queued
  · exact .refl i s

theorem spares_drop (h : Sound s 1) : Spares i s (s.drop i) := by
  unfold drop
  split
  · rename_i p number at_
    have closed : Spares i s (s.close i p number) := .setPhase _ rfl rfl rfl rfl rfl
    split
    · refine closed.trans (.notifyParked fun k hk ne => ?_)
      exact (phase?_setPhase_ne ne _).trans (h.mem_parked.mp hk)
    · exact closed
  · exact .refl i s

theorem Move.spares (m : Move i s s') (h : Sound s 1) : Spares i s s' := by
  cases m with
  | idle same => exact same.spares i
  | park | enqueue | dialFreely | dialTaking | dialGranted =>
    exact .setPhase _ rfl rfl rfl rfl rfl
  | yield at_ live => exact (Spares.giveBack h.queued).trans (.setPhase _ rfl rfl rfl rfl rfl)
  | finish result at_ due => exact spares_finish h _ result
  | cancel at_ pending ends =>
    exact (spares_withdraw h _).trans (.setPhase _ rfl rfl rfl rfl rfl)

theorem Moves.spares (m : Moves i s s') (h : Sound s 1) : Spares i s s' := by
  induction m with
  | refl => exact .refl i s
  | tail m last ih => exact ih.trans (last.spares (Moves.sound m h))

/-- Only waiting takes time. -/
theorem now_step (h : Sound s 1) {e : Event} (he : ∀ span, e ≠ .wait span) :
    (s.step e).now = s.now := by
  cases e with
  | call d => exact (idle_wake _ _).now
  | reject f => rfl
  | turn i =>
    exact (Moves.spares turn_moves (h.alike (alike_atTurn s i))).now.trans (now_atTurn s i)
  | drop i => exact (spares_drop (i := i) h).now
  | abort i => exact (Moves.spares (cancel_moves (.inr rfl)) h).now
  | wait span => exact absurd rfl (he span)

theorem limit_step (h : Sound s 1) (e : Event) : (s.step e).limit = s.limit := by
  cases e with
  | call d => exact (idle_wake _ _).limit
  | reject f => rfl
  | turn i =>
    exact (Moves.spares turn_moves (h.alike (alike_atTurn s i))).limit.trans (limit_atTurn s i)
  | drop i => exact (spares_drop (i := i) h).limit
  | abort i => exact (Moves.spares (cancel_moves (.inr rfl)) h).limit
  | wait span => exact (idle_fire s _).limit

theorem Move.plans (m : Move i s s') : s'.plans = s.plans := by
  cases m with
  | idle same => exact same.plans
  | park | enqueue | dialFreely | dialTaking | dialGranted => exact plans_setPhase _ i _
  | yield => exact (plans_setPhase _ i _).trans (plans_giveBack s)
  | @finish t permit result =>
    have own : ((s.tally result).setPhase i (s.outcome result)).plans = s.plans := by
      cases result <;> exact plans_setPhase _ i _
    cases permit
    · exact own
    · exact (plans_giveBack _).trans own
  | @cancel p q =>
    refine (plans_setPhase _ i p).trans ?_
    unfold withdraw
    split <;> first | rfl | exact plans_giveBack s

theorem Moves.plans (m : Moves i s s') : s'.plans = s.plans := by
  induction m with
  | refl => rfl
  | tail _ m ih => exact m.plans.trans ih

/-- How a call is going to dial does not change. -/
theorem plan?_step {d : Dial} (plan : s.plan? i = some d) (e : Event) :
    (s.step e).plan? i = some d := by
  have stays (more : List Dial) (plans : (s.step e).plans = s.plans ++ more) :
      (s.step e).plan? i = some d := by
    obtain ⟨bound, -⟩ := List.getElem?_eq_some_iff.mp plan
    rw [plan?, plans, List.getElem?_append_left bound]
    exact plan
  have same (plans : (s.step e).plans = s.plans) : (s.step e).plan? i = some d := by
    rw [plan?, plans]
    exact plan
  cases e with
  | call d' => exact stays [d'] ((idle_wake _ _).plans.trans (by simp [plans]))
  | reject f => exact stays [⟨none, .error f⟩] (by simp [Connector.step, reject, plans])
  | turn j => exact same ((Moves.plans turn_moves).trans (alike_atTurn s j).plans)
  | drop j =>
    refine same ?_
    show (s.drop j).plans = s.plans
    unfold drop
    split
    · split
      · exact (plans_tell _ _).trans (plans_setPhase _ j _)
      · exact plans_setPhase _ j _
    · rfl
  | abort j => exact same (Moves.plans (cancel_moves (.inr rfl)))
  | wait span => exact same (alike_fire s _).plans

end Frame

/-! ### The call itself -/

/-- From `s`, call `i` begins to dial, as the rules of admission have it. -/
def Begins (s : Connector) (i : Nat) (s' : Connector) : Prop :=
  ∃ permit, s'.starts = s.starts ++ [⟨i, s.now, permit⟩] ∧ s.stats.liveMultiplexed = 0 ∧
    (permit = false → s.stats.speaksHttp1 = true)

/-- A call that looks at the state of the connections now has to wait for the permit. -/
def Asks (s : Connector) : Prop :=
  s.stats.liveMultiplexed = 0 ∧ s.stats.speaksHttp1 = false ∧ s.permits = 0

/-- What call `i` begins, it begins from the connector as it finds it: as long as it can still go
on, it has done nothing. -/
structure Opens (i : Nat) (s s' : Connector) : Prop where
  ready : s'.ready i → s.ready i ∧ Alike s s' ∧ s'.now = s.now
  starts : s'.starts = s.starts ∨ s.ready i ∧ s.Begins i s'
  queue : ∀ j ∈ s'.queue, j ∈ s.queue ∨ j = i ∧ s.ready i ∧ s.Asks

namespace Opens

variable {s s' s'' : Connector} {i : Nat}

theorem refl (i : Nat) (s : Connector) : Opens i s s :=
  ⟨fun h => ⟨h, .refl s, rfl⟩, .inl rfl, fun _ h => .inl h⟩

theorem trans (h : Opens i s s') (h' : Opens i s' s'') : Opens i s s'' where
  ready last := by
    obtain ⟨mid, same', now'⟩ := h'.ready last
    obtain ⟨first, same, now⟩ := h.ready mid
    exact ⟨first, same.trans same', now'.trans now⟩
  starts := by
    rcases h'.starts with none | ⟨mid, permit, starts, live, http1⟩
    · unfold Begins
      rw [none]
      exact h.starts
    · obtain ⟨first, same, now⟩ := h.ready mid
      rw [same.starts, now] at starts
      rw [same.stats] at live http1
      exact .inr ⟨first, permit, starts, live, http1⟩
  queue j hj := by
    rcases h'.queue j hj with hj | ⟨rfl, mid, asks⟩
    · exact h.queue j hj
    · obtain ⟨first, same, -⟩ := h.ready mid
      unfold Asks at asks
      rw [same.stats, same.permits] at asks
      exact .inr ⟨rfl, first, asks⟩

end Opens

section Openings

variable {s s' : Connector} {i : Nat}

theorem ready_of_isEntering {q : Phase} (at_ : s.phase? i = some q) (enters : q.isEntering) :
    s.ready i := by
  rw [ready, at_]
  cases q <;> first | rfl | cases enters

theorem ready_of_granted (at_ : s.phase? i = some .granted) : s.ready i := by
  rw [ready, at_]
  rfl

theorem queue_finish (s : Connector) (i : Nat) (permit : Bool) (result : Except Fault Protocol) :
    (s.finish i permit result).queue = if permit then s.queue.tail else s.queue := by
  cases result <;> cases permit <;> first | rfl | exact queue_giveBack _

theorem mem_queue_of_withdraw {p : Phase} {j : Nat} (h : j ∈ (s.withdraw i p).queue) :
    j ∈ s.queue := by
  unfold withdraw at h
  split at h
  · exact h
  · exact List.mem_of_mem_filter h
  · exact List.mem_of_mem_tail (queue_giveBack s ▸ h)
  · exact List.mem_of_mem_tail (queue_giveBack s ▸ h)
  · exact h

theorem phase?_finish {permit : Bool} {due : Option Nat} (h : Sound s 1)
    (at_ : s.phase? i = some (.dialing permit due)) (result : Except Fault Protocol) :
    (s.finish i permit result).phase? i = some (s.outcome result) := by
  have set : ((s.tally result).setPhase i (s.outcome result)).phase? i =
      some (s.outcome result) := by
    have tallied : (s.tally result).phase? i = some (.dialing permit due) := by
      cases result <;> exact at_
    rw [phase?_setPhase tallied, if_pos rfl]
  cases permit with
  | false => exact set
  | true =>
    refine (phase?_giveBack ?_).trans set
    cases result <;> exact h.not_mem_queue at_ nofun

theorem Move.opens (m : Move i s s') (h : Sound s 1) : Opens i s s' := by
  have waits {p : Phase} {t : Connector} (hp : p.isReady = false) (at_ : s' = t.setPhase i p) :
      s'.ready i → s.ready i ∧ Alike s s' ∧ s'.now = s.now :=
    fun ready => absurd (at_ ▸ ready) (not_any_setPhase t i hp)
  cases m with
  | idle same =>
    refine ⟨fun ready => ⟨same.ready i ▸ ready, same.toAlike, same.now⟩, .inl same.starts, ?_⟩
    rw [same.queue]
    exact fun _ h => .inl h
  | park at_ enters live =>
    exact ⟨waits (p := .parked) rfl rfl, .inl rfl, fun _ h => .inl h⟩
  | enqueue at_ enters live unknown taken =>
    refine ⟨waits (p := .queued) rfl rfl, .inl rfl, fun j hj => ?_⟩
    rcases List.mem_append.mp hj with hj | hj
    · exact .inl hj
    · exact .inr ⟨List.mem_singleton.mp hj, ready_of_isEntering at_ enters, live, unknown, taken⟩
  | dialFreely at_ enters due live http1 =>
    exact ⟨waits (p := .dialing false due) rfl rfl,
      .inr ⟨ready_of_isEntering at_ enters, false, rfl, live, fun _ => http1⟩, fun _ h => .inl h⟩
  | dialTaking at_ enters due live unknown there =>
    exact ⟨waits (p := .dialing true due) rfl rfl,
      .inr ⟨ready_of_isEntering at_ enters, true, rfl, live, nofun⟩, fun _ h => .inl h⟩
  | dialGranted at_ due live =>
    exact ⟨waits (p := .dialing true due) rfl rfl,
      .inr ⟨ready_of_granted at_, true, rfl, live, nofun⟩, fun _ h => .inl h⟩
  | yield at_ live =>
    refine ⟨waits (p := .parked) rfl rfl, .inl (starts_giveBack s), fun j hj => .inl ?_⟩
    exact List.mem_of_mem_tail (queue_giveBack s ▸ hj)
  | finish result at_ due =>
    refine ⟨fun ready => ?_, .inl (starts_finish s i _ result), fun j hj => .inl ?_⟩
    · rw [Connector.ready, phase?_finish h at_] at ready
      cases result <;> cases ready
    · rw [queue_finish] at hj
      split at hj
      · exact List.mem_of_mem_tail hj
      · exact hj
  | cancel at_ pending ends =>
    refine ⟨waits (by rcases ends with rfl | rfl <;> rfl) rfl, .inl (starts_withdraw s i _),
      fun j hj => .inl (mem_queue_of_withdraw hj)⟩

theorem Moves.opens (m : Moves i s s') (h : Sound s 1) : Opens i s s' := by
  induction m with
  | refl => exact .refl i s
  | tail m last ih => exact ih.trans (last.opens (Moves.sound m h))

theorem turn_opens (h : Sound s 1) : Opens i s (s.turn i) := by
  have same := alike_atTurn s i
  refine Opens.trans ⟨fun ready => ⟨?_, same, now_atTurn s i⟩, .inl same.starts, ?_⟩
    (Moves.opens turn_moves (h.alike same))
  · rwa [Connector.ready, same.phase?] at ready
  · rw [same.queue]
    exact fun _ h => .inl h

end Openings

end Funnel.Connector
