import Funnel.Proofs.Connector.Phases
import Mathlib.Logic.Relation

/-! What a call can do: its turn is a chain of moves, and a move takes the call from one phase to
the next, under the conditions that the program tests. -/

namespace Funnel.Connector

/-- `s` and `s'` differ at most in the clock, timers, deadlines and woken calls. -/
structure Alike (s s' : Connector) : Prop where
  phases : s'.phases = s.phases
  plans : s'.plans = s.plans
  stats : s'.stats = s.stats
  metrics : s'.metrics = s.metrics
  permits : s'.permits = s.permits
  queue : s'.queue = s.queue
  parked : s'.parked = s.parked
  starts : s'.starts = s.starts

/-- At most, a timer has been set or a call woken. -/
structure Idle (s s' : Connector) : Prop extends Alike s s' where
  now : s'.now = s.now
  limit : s'.limit = s.limit
  deadline : ∀ i, s'.deadline? i = s.deadline? i
  timers : ∀ t ∈ s.timers, t ∈ s'.timers
  woken : ∀ i ∈ s.woken, i ∈ s'.woken

theorem Alike.refl (s : Connector) : Alike s s := ⟨rfl, rfl, rfl, rfl, rfl, rfl, rfl, rfl⟩

theorem Alike.trans {s s' s'' : Connector} (h : Alike s s') (h' : Alike s' s'') : Alike s s'' :=
  ⟨h'.phases.trans h.phases, h'.plans.trans h.plans, h'.stats.trans h.stats,
    h'.metrics.trans h.metrics, h'.permits.trans h.permits, h'.queue.trans h.queue,
    h'.parked.trans h.parked, h'.starts.trans h.starts⟩

theorem Alike.phase? {s s' : Connector} (h : Alike s s') (i : Nat) : s'.phase? i = s.phase? i := by
  rw [phase?_eq, phase?_eq, h.phases]

namespace Idle

variable {s s' : Connector}

theorem refl (s : Connector) : Idle s s :=
  ⟨.refl s, rfl, rfl, fun _ => rfl, fun _ h => h, fun _ h => h⟩

theorem trans {s'' : Connector} (h : Idle s s') (h' : Idle s' s'') : Idle s s'' :=
  ⟨h.toAlike.trans h'.toAlike,
    h'.now.trans h.now, h'.limit.trans h.limit, fun i => (h'.deadline i).trans (h.deadline i),
    fun t ht => h'.timers t (h.timers t ht), fun i hi => h'.woken i (h.woken i hi)⟩

theorem phase? (h : Idle s s') (i : Nat) : s'.phase? i = s.phase? i := h.toAlike.phase? i

theorem ready (h : Idle s s') (i : Nat) : s'.ready i = s.ready i := by
  rw [Connector.ready, h.phase?, Connector.ready]

end Idle

theorem idle_wake (s : Connector) (i : Nat) : Idle s (s.wake i) := by
  unfold wake
  split
  · exact .refl s
  · exact ⟨⟨rfl, rfl, rfl, rfl, rfl, rfl, rfl, rfl⟩, rfl, rfl, fun _ => rfl, fun _ h => h,
      fun _ h => List.mem_append_left _ h⟩

theorem mem_woken_wake (s : Connector) (i : Nat) : i ∈ (s.wake i).woken := by
  unfold wake
  split
  · assumption
  · simp

theorem idle_setTimer (s : Connector) (due i : Nat) : Idle s (s.setTimer due i) :=
  ⟨⟨rfl, rfl, rfl, rfl, rfl, rfl, rfl, rfl⟩, rfl, rfl, fun _ => rfl,
    fun _ h => List.mem_append_left _ h, fun _ h => h⟩

theorem idle_watch (s : Connector) (i : Nat) : Idle s (s.watch i) := by
  unfold watch
  split
  · exact idle_setTimer s _ i
  · exact .refl s

theorem woken_watch (s : Connector) (i : Nat) : (s.watch i).woken = s.woken := by
  unfold watch
  split <;> rfl

theorem idle_watchDial (s : Connector) (i : Nat) (due : Option Nat) :
    Idle s (s.watchDial i due) := by
  unfold watchDial
  split
  · split
    · exact idle_setTimer s _ i
    · exact .refl s
  · exact .refl s

theorem woken_watchDial (s : Connector) (i : Nat) (due : Option Nat) :
    (s.watchDial i due).woken = s.woken := by
  unfold watchDial
  split
  · split <;> rfl
  · rfl

/-! ### Giving back the permit -/

@[simp] theorem stats_giveBack (s : Connector) : s.giveBack.stats = s.stats := by
  unfold giveBack
  split
  · rfl
  · exact (idle_wake _ _).stats

@[simp] theorem metrics_giveBack (s : Connector) : s.giveBack.metrics = s.metrics := by
  unfold giveBack
  split
  · rfl
  · exact (idle_wake _ _).metrics

@[simp] theorem plans_giveBack (s : Connector) : s.giveBack.plans = s.plans := by
  unfold giveBack
  split
  · rfl
  · exact (idle_wake _ _).plans.trans (plans_setPhase _ _ _)

@[simp] theorem parked_giveBack (s : Connector) : s.giveBack.parked = s.parked := by
  unfold giveBack
  split
  · rfl
  · exact (idle_wake _ _).parked

@[simp] theorem starts_giveBack (s : Connector) : s.giveBack.starts = s.starts := by
  unfold giveBack
  split
  · rfl
  · exact (idle_wake _ _).starts

@[simp] theorem queue_giveBack (s : Connector) : s.giveBack.queue = s.queue.tail := by
  unfold giveBack
  split
  · rename_i none
    simp [none]
  · rename_i j rest hqueue
    rw [(idle_wake _ _).queue, hqueue]
    rfl

theorem permits_giveBack (s : Connector) :
    s.giveBack.permits = if s.queue = [] then s.permits + 1 else s.permits := by
  unfold giveBack
  split
  · rename_i none
    rw [if_pos none]
  · rename_i j rest hqueue
    rw [(idle_wake _ _).permits, if_neg (by simp [hqueue])]
    rfl

/-- Only the first call in the queue sees the permit come back. -/
theorem phase?_giveBack_eq (s : Connector) (j : Nat) :
    s.giveBack.phase? j =
      if s.queue.head? = some j then (s.phase? j).map fun _ => .granted else s.phase? j := by
  unfold giveBack
  split
  · rename_i none
    rw [none, if_neg (by simp)]
    rfl
  · rename_i k rest hqueue
    rw [(idle_wake _ _).phase?, phase?_setPhase_eq, hqueue]
    by_cases hk : j = k
    · rw [if_pos hk, if_pos (by rw [hk]; rfl)]
      rfl
    · rw [if_neg hk, if_neg (by simpa using Ne.symm hk)]
      rfl

theorem phase?_giveBack {s : Connector} {i : Nat} (hi : i ∉ s.queue) :
    s.giveBack.phase? i = s.phase? i := by
  rw [phase?_giveBack_eq, if_neg fun first => hi (List.mem_of_head? first)]

/-! ### Telling the parked calls -/

section Tell

variable (l : List Nat) (s : Connector)

theorem idle_tell :
    Idle { s with calls := (l.foldl tell s).calls } (l.foldl tell s) := by
  induction l generalizing s with
  | nil => exact .refl s
  | cons i l ih =>
    have first := idle_wake (s.setPhase i .notified) i
    have rest := ih (s.tell i)
    exact ⟨⟨rfl, rfl, rest.stats.trans first.stats, rest.metrics.trans first.metrics,
      rest.permits.trans first.permits, rest.queue.trans first.queue,
      rest.parked.trans first.parked, rest.starts.trans first.starts⟩,
      rest.now.trans first.now, rest.limit.trans first.limit, fun _ => rfl,
      fun t ht => rest.timers t (first.timers t ht), fun j hj => rest.woken j (first.woken j hj)⟩

theorem mem_woken_tell : ∀ i ∈ l, i ∈ (l.foldl tell s).woken := by
  induction l generalizing s with
  | nil => exact nofun
  | cons i l ih =>
    intro j hj
    rcases List.mem_cons.mp hj with rfl | hj
    · exact (idle_tell l (s.tell j)).woken j (mem_woken_wake _ j)
    · exact ih (s.tell i) j hj

theorem deadline?_tell (j : Nat) : (l.foldl tell s).deadline? j = s.deadline? j := by
  induction l generalizing s with
  | nil => rfl
  | cons i l ih =>
    refine (ih (s.tell i)).trans ?_
    exact ((idle_wake _ i).deadline j).trans (deadline?_setPhase s i j _)

theorem plans_tell : (l.foldl tell s).plans = s.plans := by
  induction l generalizing s with
  | nil => rfl
  | cons i l ih => exact (ih (s.tell i)).trans ((idle_wake _ i).plans.trans (plans_setPhase s i _))

theorem getElem?_phases_tell (j : Nat) :
    (l.foldl tell s).phases[j]? =
      if j ∈ l then s.phases[j]?.map fun _ => .notified else s.phases[j]? := by
  induction l generalizing s with
  | nil => simp
  | cons i l ih =>
    have first : (s.tell i).phases = s.phases.set i .notified :=
      (idle_wake _ i).phases.trans (phases_setPhase s i _)
    rw [List.foldl_cons, ih (s.tell i), first, List.getElem?_set']
    by_cases hj : i = j <;> by_cases hl : j ∈ l <;> cases s.phases[j]? <;> simp_all [eq_comm]

@[simp] theorem stats_notifyParked : s.notifyParked.stats = s.stats :=
  (idle_tell s.parked { s with parked := [] }).stats

@[simp] theorem metrics_notifyParked : s.notifyParked.metrics = s.metrics :=
  (idle_tell s.parked { s with parked := [] }).metrics

@[simp] theorem permits_notifyParked : s.notifyParked.permits = s.permits :=
  (idle_tell s.parked { s with parked := [] }).permits

@[simp] theorem queue_notifyParked : s.notifyParked.queue = s.queue :=
  (idle_tell s.parked { s with parked := [] }).queue

@[simp] theorem parked_notifyParked : s.notifyParked.parked = [] :=
  (idle_tell s.parked { s with parked := [] }).parked

@[simp] theorem starts_notifyParked : s.notifyParked.starts = s.starts :=
  (idle_tell s.parked { s with parked := [] }).starts

/-- Told of the end of the last HTTP/2 connection, all parked calls look again, and none waits for
it any more. -/
theorem phases_notifyParked (h : Lists s.phases s.parked .parked) :
    s.notifyParked.phases = s.phases.map Phase.told := by
  apply List.ext_getElem?
  intro j
  rw [List.getElem?_map]
  refine (getElem?_phases_tell s.parked { s with parked := [] } j).trans ?_
  show (if j ∈ s.parked then s.phases[j]?.map _ else s.phases[j]?) = _
  split
  · rename_i hj
    rw [(h.2 j).mp hj]
    rfl
  · rename_i hj
    cases hp : s.phases[j]? with
    | none => rfl
    | some p =>
      cases p with
      | parked => exact absurd ((h.2 j).mpr hp) hj
      | _ => rfl

end Tell

/-- One thing that call `i` does once it runs. -/
inductive Move (i : Nat) : Connector → Connector → Prop
  | idle {s s' : Connector} (same : Idle s s') (woken : s'.woken = s.woken) : Move i s s'
  /-- An HTTP/2 connection is alive: the call waits for the last one to go. -/
  | park {s : Connector} {q : Phase} (at_ : s.phase? i = some q) (enters : q.isEntering)
      (live : s.stats.liveMultiplexed ≠ 0) : Move i s (s.park i)
  /-- The permit is taken: the call waits for it. -/
  | enqueue {s : Connector} {q : Phase} (at_ : s.phase? i = some q) (enters : q.isEntering)
      (live : s.stats.liveMultiplexed = 0) (unknown : s.stats.speaksHttp1 = false)
      (taken : s.permits = 0) : Move i s (s.enqueue i)
  /-- The origin speaks HTTP/1.1: the call dials without the permit. -/
  | dialFreely {s : Connector} {q : Phase} (at_ : s.phase? i = some q) (enters : q.isEntering)
      (due : Option Nat) (live : s.stats.liveMultiplexed = 0)
      (http1 : s.stats.speaksHttp1 = true) : Move i s (s.markDialing i false due)
  /-- The permit is there: the call takes it and dials. -/
  | dialTaking {s : Connector} {q : Phase} (at_ : s.phase? i = some q) (enters : q.isEntering)
      (due : Option Nat) (live : s.stats.liveMultiplexed = 0)
      (unknown : s.stats.speaksHttp1 = false) (there : 0 < s.permits) :
      Move i s ({ s with permits := s.permits - 1 }.markDialing i true due)
  /-- The call was handed the permit, and dials. -/
  | dialGranted {s : Connector} (at_ : s.phase? i = some .granted) (due : Option Nat)
      (live : s.stats.liveMultiplexed = 0) : Move i s (s.markDialing i true due)
  /-- The call was handed the permit, but an HTTP/2 connection has come up. -/
  | yield {s : Connector} (at_ : s.phase? i = some .granted)
      (live : s.stats.liveMultiplexed ≠ 0) : Move i s (s.giveBack.park i)
  /-- The dial is over. -/
  | finish {s : Connector} {t : Nat} {permit : Bool} (result : Except Fault Protocol)
      (at_ : s.phase? i = some (.dialing permit (some t))) (due : t ≤ s.now) :
      Move i s (s.finish i permit result)
  /-- The call ends before anything has come of it. -/
  | cancel {s : Connector} {p q : Phase} (at_ : s.phase? i = some q) (pending : q.isPending)
      (ends : p = .expired ∨ p = .aborted) : Move i s ((s.withdraw i q).setPhase i p)

/-- Moves one after the other. -/
abbrev Moves (i : Nat) : Connector → Connector → Prop := Relation.ReflTransGen (Move i)

theorem Move.moves {i : Nat} {s s' : Connector} (h : Move i s s') : Moves i s s' := .single h

/-! ### A turn is a chain of moves -/

section Turn

variable {s : Connector} {i : Nat}

theorem finishIfDue_moves {permit : Bool} {due : Option Nat} (d : Dial)
    (at_ : s.phase? i = some (.dialing permit due)) :
    Moves i s (s.finishIfDue i permit due d) := by
  cases due with
  | none => exact .refl
  | some t =>
    simp only [finishIfDue]
    split
    · exact (Move.finish d.result at_ ‹_›).moves
    · exact .refl

/-- Whatever comes between, a call that dials goes on to what `startDial` makes of it. -/
theorem startDial_moves {s₀ : Connector} {permit : Bool} {q : Phase} (d : Dial)
    (at_ : s.phase? i = some q)
    (start : Move i s₀ (s.markDialing i permit (d.takes.map (s.now + ·)))) :
    Moves i s₀ (s.startDial i permit d) := by
  have watched := idle_watchDial (s.markDialing i permit (d.takes.map (s.now + ·))) i
    (d.takes.map (s.now + ·))
  refine start.moves.trans (.trans (Move.idle watched (woken_watchDial _ i _)).moves
    (finishIfDue_moves d ?_))
  rw [watched.phase?, phase?_eq, phases_markDialing,
    getElem?_set_of_eq ((phase?_eq s i).symm.trans at_), if_pos rfl]

theorem enter_moves {q : Phase} (d : Dial) (at_ : s.phase? i = some q) (enters : q.isEntering) :
    Moves i s (s.enter i d) := by
  unfold enter
  split
  · exact (Move.park at_ enters ‹_›).moves
  rename_i live
  have live : s.stats.liveMultiplexed = 0 := not_not.mp live
  split
  · exact startDial_moves d at_ (.dialFreely at_ enters _ live ‹_›)
  rename_i unknown
  have unknown : s.stats.speaksHttp1 = false := by simpa using unknown
  split
  · exact startDial_moves (s := { s with permits := s.permits - 1 }) d at_
      (.dialTaking at_ enters _ live unknown ‹_›)
  · exact (Move.enqueue at_ enters live unknown (by omega)).moves

theorem resume_moves (c : Call) (at_ : s.phase? i = some c.phase) : Moves i s (s.resume i c) := by
  unfold resume
  split
  · rename_i hc
    exact enter_moves c.dial (at_.trans (by rw [hc])) rfl
  · rename_i hc
    exact enter_moves c.dial (at_.trans (by rw [hc])) rfl
  · rename_i hc
    rw [hc] at at_
    split
    · exact startDial_moves c.dial at_ (.dialGranted at_ _ ‹_›)
    · exact (Move.yield at_ ‹_›).moves
  · rename_i hc
    exact finishIfDue_moves c.dial (at_.trans (by rw [hc]))
  · exact .refl

theorem cancel_moves {p : Phase} (ends : p = .expired ∨ p = .aborted) :
    Moves i s (s.cancel i p) := by
  unfold cancel
  split
  · split
    · exact (Move.cancel ‹_› ‹_› ends).moves
    · exact .refl
  · exact .refl

theorem expire_moves : Moves i s (s.expire i) := by
  unfold expire
  split
  · split
    · exact cancel_moves (.inl rfl)
    · exact .refl
  · exact .refl

/-- The connector as call `i` finds it in its turn: the call is no longer woken, and when it runs
for the first time its deadline is fixed. -/
def atTurn (s : Connector) (i : Nat) : Connector :=
  if s.phase? i = some .fresh then { s with woken := s.woken.erase i }.fixDeadline i
  else { s with woken := s.woken.erase i }

theorem alike_atTurn (s : Connector) (i : Nat) : Alike s (s.atTurn i) := by
  unfold atTurn
  split
  · exact ⟨phases_fixDeadline _ i, plans_fixDeadline _ i, rfl, rfl, rfl, rfl, rfl, rfl⟩
  · exact ⟨rfl, rfl, rfl, rfl, rfl, rfl, rfl, rfl⟩

theorem now_atTurn (s : Connector) (i : Nat) : (s.atTurn i).now = s.now := by
  unfold atTurn
  split <;> rfl

theorem limit_atTurn (s : Connector) (i : Nat) : (s.atTurn i).limit = s.limit := by
  unfold atTurn
  split <;> rfl

theorem timers_atTurn (s : Connector) (i : Nat) : (s.atTurn i).timers = s.timers := by
  unfold atTurn
  split <;> rfl

theorem woken_atTurn (s : Connector) (i : Nat) : (s.atTurn i).woken = s.woken.erase i := by
  unfold atTurn
  split <;> rfl

theorem deadline?_atTurn_self {s : Connector} {i : Nat} (h : s.phase? i = some .fresh) :
    (s.atTurn i).deadline? i = some (s.now + s.limit) := by
  rw [atTurn, if_pos h]
  cases hc : s.calls[i]? with
  | none => simp [phase?, hc] at h
  | some c => simp [deadline?, fixDeadline, hc]

theorem deadline?_atTurn_of_ne {s : Connector} {i j : Nat} (h : s.phase? i = some .fresh → j ≠ i) :
    (s.atTurn i).deadline? j = s.deadline? j := by
  unfold atTurn
  split
  · rename_i fresh
    exact deadline?_fixDeadline_ne (h fresh)
  · rfl

/-- The turn of a call that is there. -/
theorem turn_eq {c : Call} (hc : s.calls[i]? = some c) :
    s.turn i =
      if c.phase = .fresh then (((s.atTurn i).resume i c).watch i).expire i
      else ((s.atTurn i).resume i c).expire i := by
  have at_ : s.phase? i = some c.phase := by simp [phase?, hc]
  unfold turn poll atTurn
  rw [at_, hc]
  dsimp only
  cases c.phase <;> simp

theorem turn_moves : Moves i (s.atTurn i) (s.turn i) := by
  cases hc : s.calls[i]? with
  | none =>
    have none : s.phase? i = none := by simp [phase?, hc]
    have same : s.turn i = s.atTurn i := by
      unfold turn poll atTurn
      rw [hc, none]
      rfl
    exact same ▸ .refl
  | some c =>
    have at_ : s.phase? i = some c.phase := by simp [phase?, hc]
    have resumed := resume_moves c (((alike_atTurn s i).phase? i).trans at_)
    rw [turn_eq hc]
    split
    · exact (resumed.trans (Move.idle (idle_watch _ i) (woken_watch _ i)).moves).trans expire_moves
    · exact resumed.trans expire_moves

end Turn

/-! ### What comes from outside -/

section Fire

variable (due : List Timer) (s : Connector)

theorem idle_wakes : Idle s (due.foldl (fun s t => s.wake t.call) s) := by
  induction due generalizing s with
  | nil => exact .refl s
  | cons t due ih => exact (idle_wake s t.call).trans (ih _)

theorem mem_woken_wakes : ∀ t ∈ due, t.call ∈ (due.foldl (fun s t => s.wake t.call) s).woken := by
  induction due generalizing s with
  | nil => exact nofun
  | cons t due ih =>
    intro t' ht
    rcases List.mem_cons.mp ht with rfl | ht
    · exact (idle_wakes due _).woken _ (mem_woken_wake s _)
    · exact ih _ t' ht

end Fire

/-- The connector when the clock shows `time`, before any call is woken. -/
def clock (s : Connector) (time : Nat) : Connector :=
  { s with now := time, timers := s.timers.filter fun t => !decide (t.due ≤ time) }

theorem idle_fire (s : Connector) (time : Nat) : Idle (s.clock time) (s.fire time) :=
  idle_wakes _ (s.clock time)

theorem alike_fire (s : Connector) (time : Nat) : Alike s (s.fire time) :=
  have same := idle_fire s time
  ⟨same.phases, same.plans, same.stats, same.metrics, same.permits, same.queue, same.parked,
    same.starts⟩

theorem drop_eq_self {s : Connector} {i : Nat}
    (h : ∀ p number, s.phase? i ≠ some (.live p number)) : s.drop i = s := by
  unfold drop
  split
  · rename_i p number at_
    exact absurd at_ (h p number)
  · rfl

end Funnel.Connector
