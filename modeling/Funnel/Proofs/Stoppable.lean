import Funnel.Proofs.StopSignal
import Funnel.Stoppable

/-! An accepting server stops when a stop request follows its subscription, or when all handles are
gone, and for no other reason. -/

namespace Funnel

theorem Server.isListening_step {e : Server.Event} (s : Server) (other : e ≠ .takeStop) :
    (s.step e).stage.isListening = s.stage.isListening := by
  cases e with
  | takeStop => exact absurd rfl other
  | arrive | accept | requestStop =>
    simp only [step]
    split <;> rfl
  | acceptFails =>
    simp only [step]
    split
    next accepting =>
      rw [accepting]
      rfl
    next => rfl
  | look =>
    simp only [step, look]
    split
    next at_ =>
      rw [at_]
      split
      · rfl
      · split <;> rfl
    next => rfl
  | run id => rfl
  | finish id =>
    simp only [step, remove]
    split
    · dsimp only
      split
      · cases s.stage <;> rfl
      · rfl
    · rfl
  | advance span =>
    simp only [step, Stage.atTime]
    split
    next at_ =>
      rw [at_]
      split <;> rfl
    next at_ =>
      rw [at_]
      rfl
    next => rfl

namespace Stoppable

open StopSignal (Behind Due)

variable {a : Stoppable} {events : List Event} {e : Event} {k : Nat}

theorem stop_hear (a : Stoppable) : a.hear.stop = a.stop.step (.receive a.subscriber) := by
  rw [hear, StopSignal.step]
  split <;> simp only [*]

theorem subscriber_step (a : Stoppable) (e : Event) : (a.step e).subscriber = a.subscriber := by
  cases e with
  | signal e =>
    simp only [step]
    split <;> rfl
  | serve e => cases e <;> rfl
  | hear =>
    simp only [step, hear]
    split
    · split <;> rfl
    · rfl

/-- What happens to the stop signal at an event. -/
def signal? (a : Stoppable) : Event → Option StopSignal.Event
  | .signal e => if e.subscriber? = some a.subscriber then none else some e
  | .serve _ => none
  | .hear => if a.server.stage = .accepting then some (.receive a.subscriber) else none

/-- What happens to the stop signal. -/
def signals (a : Stoppable) : List Event → List StopSignal.Event
  | [] => []
  | e :: rest => (a.signal? e).toList ++ (a.step e).signals rest

theorem stop_step (a : Stoppable) (e : Event) :
    (a.step e).stop = a.stop.run (a.signal? e).toList := by
  cases e with
  | signal e =>
    simp only [step, signal?]
    split <;> rfl
  | serve e => cases e <;> rfl
  | hear =>
    simp only [step, signal?]
    split
    · exact a.stop_hear
    · rfl

theorem stop_run (a : Stoppable) (events : List Event) :
    (a.run events).stop = a.stop.run (a.signals events) := by
  induction events generalizing a with
  | nil => rfl
  | cons e rest ih =>
    rw [signals, StopSignal.run, List.foldl_append]
    change ((a.step e).run rest).stop = (a.stop.run _).run _
    rw [ih, stop_step]

/-! ### The end of accepting -/

/-- What is received ends the accepting, unless nothing has come and something still can. -/
theorem isListening_hear (h : Behind a.stop a.subscriber k)
    (accepting : a.server.stage = .accepting) :
    a.hear.server.stage.isListening ↔ k = 0 ∧ ∃ j, a.stop.hasHandle j := by
  obtain ⟨r, stop, k', received, due, -⟩ := h.receive
  have stops : (a.server.run [.requestStop, .takeStop]).stage.isListening = false := by
    simp [Server.run, Server.step, Server.takeStop, accepting, Server.Stage.isListening]
  have nothing : a.hear.server.stage.isListening ↔ r = .empty := by
    rw [hear, received]
    cases r with
    | empty =>
      dsimp only
      rw [accepting]
      exact iff_of_true rfl rfl
    | stop | closed | lagged missed =>
      dsimp only
      rw [stops]
      exact iff_of_false Bool.false_ne_true nofun
  rw [nothing]
  constructor
  · rintro rfl
    cases due with
    | empty alive => exact ⟨rfl, alive⟩
  · rintro ⟨rfl, alive⟩
    exact due.unique (.empty alive)

/-- Of a server that subscribed when `sent` messages had been sent: it has read none as long as it
listens, and had a reason to stop. -/
structure Heard (sent : Nat) (a : Stoppable) : Prop where
  listening : a.server.stage.isListening →
    ∃ k, a.stop.sent = sent + k ∧ Behind a.stop a.subscriber k
  stopped : a.server.stage.isListening = false →
    sent < a.stop.sent ∨ ¬ ∃ j, a.stop.hasHandle j

namespace Heard

variable {sent : Nat}

theorem start (grace : Duration) (stop : StopSignal) : Heard stop.sent (start grace stop) where
  listening _ := ⟨0, rfl, stop.behind_subscribe⟩
  stopped := nofun

theorem signal (h : Heard sent a) {e : StopSignal.Event}
    (other : e.subscriber? ≠ some a.subscriber) :
    Heard sent { a with stop := a.stop.step e } where
  listening listens := by
    obtain ⟨k, sum, behind⟩ := h.listening listens
    have stays : e ≠ .dropSubscriber a.subscriber := by
      rintro rfl
      exact other rfl
    have deaf : a.stop.reads a.subscriber e = 0 := by
      rw [StopSignal.reads, StopSignal.hears, if_neg]
      · rfl
      · rintro rfl
        exact other rfl
    obtain ⟨k', behind', sum'⟩ := behind.step stays
    refine ⟨k', ?_, behind'⟩
    change (a.stop.step e).sent = _
    rw [StopSignal.sent_step, sum]
    omega
  stopped stops := by
    rcases h.stopped stops with requested | dead
    · left
      change sent < (a.stop.step e).sent
      rw [StopSignal.sent_step]
      exact Nat.lt_add_right _ requested
    · exact .inr (mt StopSignal.alive_of_step dead)

theorem serve (h : Heard sent a) {e : Server.Event} (other : e ≠ .takeStop) :
    Heard sent { a with server := a.server.step e } where
  listening listens := h.listening (a.server.isListening_step other ▸ listens)
  stopped stops := h.stopped (a.server.isListening_step other ▸ stops)

theorem hear (h : Heard sent a) (accepting : a.server.stage = .accepting) : Heard sent a.hear := by
  obtain ⟨k, sum, behind⟩ := h.listening (by rw [accepting]; rfl)
  have listens := isListening_hear behind accepting
  have stop := a.stop_hear
  have subscriber : a.hear.subscriber = a.subscriber := by
    simpa [step, accepting] using a.subscriber_step .hear
  have same : a.hear.stop.sent = a.stop.sent := by
    rw [stop, StopSignal.sent_step]
    rfl
  have alive : (∃ j, a.hear.stop.hasHandle j) ↔ ∃ j, a.stop.hasHandle j := by
    have shape := a.stop.shape_step (e := .receive a.subscriber) rfl
    simp only [stop, StopSignal.hasHandle_congr shape]
  constructor
  · -- It has received that nothing came, and its position is what it was.
    intro goesOn
    obtain ⟨rfl, -⟩ := listens.mp goesOn
    obtain ⟨k', behind', sum'⟩ := behind.step (e := .receive a.subscriber) nofun
    obtain rfl : k' = 0 := by
      simp only [StopSignal.sends, Bool.toNat_false] at sum'
      omega
    rw [same, stop, subscriber]
    exact ⟨0, sum, behind'⟩
  · intro stops
    rw [alive, same]
    by_contra! none
    have : a.hear.server.stage.isListening := listens.mpr ⟨by omega, none.2⟩
    rw [stops] at this
    cases this

theorem step (h : Heard sent a) (e : Event) : Heard sent (a.step e) := by
  cases e with
  | signal e =>
    simp only [Stoppable.step]
    split
    next => exact h
    next other => exact h.signal other
  | serve e =>
    cases e with
    | requestStop | takeStop => exact h
    | _ => exact h.serve nofun
  | hear =>
    simp only [Stoppable.step]
    split
    next accepting => exact h.hear accepting
    next => exact h

theorem run (h : Heard sent a) (events : List Event) : Heard sent (a.run events) := by
  induction events generalizing a with
  | nil => exact h
  | cons e rest ih => exact ih (h.step e)

end Heard

/-- No stop request is lost, and none from before comes back. Somebody subscribes after any `past`,
and then anything happens. While the subscriber is there it is behind by the requests that followed
its subscription and that it did not read, and receives accordingly: after the report that it missed
some, exactly one stop. Without the earlier requests, and without what other subscribers do at any
time, it receives the same. A server that subscribes at the same time ends its accepting for a
request that follows or when no handle is left, as it next looks, and never else. -/
theorem stop_never_lost (past : List StopSignal.Event) (handle : Nat)
    (rest : List StopSignal.Event) (grace : Duration) (events : List Event)
    (there : (StopSignal.new.run past).hasHandle handle) :
    let begun := StopSignal.new.run past
    let i := begun.subscribers.length
    let subscribed := begun.step (.subscribe handle)
    let s := subscribed.run rest
    let quiet := (StopSignal.new.run (past.filter (·.shapes))).step (.subscribe handle)
    let a := (start grace begun).run events
    let history := (start grace begun).signals events
    let mustStop := 0 < subscribed.triggers history ∨ ¬ ∃ j, a.stop.hasHandle j
    (s.hasSubscriber i → ∃ k,
      k + subscribed.consumed i rest = subscribed.triggers rest ∧
      (∀ r, (∃ s₁, s.receive i = some (r, s₁)) ↔ Due (∃ j, s.hasHandle j) k r) ∧
      ∀ missed s₁, s.receive i = some (.lagged missed, s₁) → ∃ s₂,
        s₁.receive i = some (.stop, s₂) ∧
        ∀ r, (∃ s₃, s₂.receive i = some (r, s₃)) ↔ Due (∃ j, s₂.hasHandle j) 0 r) ∧
    subscribed.received i rest = quiet.received i (rest.filter (·.concerns i)) ∧
    a.stop = subscribed.run history ∧
    (a.server.stage.isListening = false → mustStop) ∧
    (a.server.stage = .accepting →
      ((a.step .hear).server.stage.isListening = false ↔ mustStop)) := by
  intro begun i subscribed s quiet a history mustStop
  have fresh : subscribed = begun.subscribe := if_pos there
  have behind : Behind subscribed i 0 := fresh ▸ begun.behind_subscribe
  have stop : a.stop = subscribed.run history := by
    rw [fresh]
    exact stop_run _ _
  have heard : Heard begun.sent a := (Heard.start grace begun).run events
  have sent : a.stop.sent = begun.sent + subscribed.triggers history := by
    rw [stop, StopSignal.sent_run, fresh]
    rfl
  refine ⟨fun stays => ?_, ?_, stop, fun stopped => ?_, fun accepting => ?_⟩
  · obtain ⟨k, behind, sum⟩ := behind.run stays
    refine ⟨k, by omega, behind.receive_iff, fun missed s₁ lagged => ?_⟩
    obtain ⟨s₂, received, read⟩ := behind.receive_lagged lagged
    exact ⟨s₂, received, read.receive_iff⟩
  · apply StopSignal.Alike.received_filter
    have shape := StopSignal.shape_run_filter (s := .new) rfl past
    have there' := (StopSignal.hasHandle_congr shape handle).symm.trans there
    have fresh' : quiet = _ := if_pos there'
    refine ⟨StopSignal.shape_step_congr shape _, .inr ⟨0, behind, ?_⟩⟩
    rw [fresh', show i = _ from (Prod.mk.inj shape).2]
    exact StopSignal.behind_subscribe _
  · rcases heard.stopped stopped with more | dead
    · exact .inl (by omega)
    · exact .inr dead
  · obtain ⟨k, sum, behind⟩ := heard.listening (by rw [accepting]; rfl)
    have goesOn : a.hear.server.stage.isListening ↔ k = 0 ∧ ∃ j, a.stop.hasHandle j :=
      isListening_hear behind accepting
    have none : k = 0 ↔ ¬ 0 < subscribed.triggers history := by omega
    rw [step, if_pos accepting, ← Bool.not_eq_true, goesOn, none, not_and_or, not_not]

/-- The subscriber missed one of two requests, by different handles and before another subscriber
received anything. The server stops for the first one. -/
theorem stop_never_lost_lagged :
    let begun := StopSignal.new.run [.subscribe 0, .trigger 0, .copy 0]
    let s := (begun.step (.subscribe 1)).run [.trigger 0, .dropHandle 0, .trigger 1, .receive 0]
    let a := (start (.ofSecs 1) begun).run [.serve .arrive, .serve .accept, .signal (.trigger 1)]
    begun.hasHandle 1 ∧ s.hasSubscriber 1 ∧ (∃ s₁, s.receive 1 = some (.lagged 1, s₁)) ∧
      a.server.stage = .accepting ∧ (a.step .hear).server.stage.isListening = false := by
  intro begun s a
  have there : begun.hasHandle 1 := by decide
  have stays : s.hasSubscriber 1 := by decide
  have accepting : a.server.stage = .accepting := by decide
  obtain ⟨kept, -, -, -, ends⟩ := stop_never_lost _ 1 [.trigger 0, .dropHandle 0, .trigger 1,
    .receive 0] (.ofSecs 1) [.serve .arrive, .serve .accept, .signal (.trigger 1)] there
  obtain ⟨k, sum, due, -⟩ := kept stays
  obtain rfl : k = 2 := sum
  exact ⟨there, stays, (due _).mpr (.lagged Nat.one_pos), accepting,
    (ends accepting).mpr (.inl (by decide))⟩

end Stoppable

end Funnel
