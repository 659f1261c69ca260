import Funnel.Proofs.Connector.Counters
import Funnel.Proofs.Connector.Course
import Funnel.Proofs.Connector.Ending
import Funnel.Proofs.Connector.Punctual
import Funnel.Proofs.Connector.Settle

/-! One deadline for all that a call waits for. It is fixed when the call first runs; by then the
call has its dial's result, if that comes in time, and otherwise its deadline passes, and whatever
its dial comes to later is not counted. -/

namespace Funnel.Connector

/-- Call `i` has run for the first time, and its deadline is fixed. -/
structure Timed (s : Connector) (i : Nat) (d : Dial) (deadline : Nat) : Prop where
  fixed : s.deadline? i = some deadline
  plan : s.plan? i = some d
  fits : ∃ p, s.phase? i = some p ∧ p ≠ .fresh ∧ Fits s i d deadline p

section Step

variable {s : Connector} {i deadline : Nat} {d : Dial} {p : Phase} {e : Event}

/-- A call begins to dial in its own turn only, and only if it can go on. -/
theorem mem_starts_of_step (h : Sound s 1) (quiet : e = .turn i → ¬ s.ready i) :
    ∀ b ∈ (s.step e).starts, b.call = i → b ∈ s.starts := by
  intro b hb own
  by_cases turn : e = .turn i
  · subst turn
    rcases (turn_opens h).starts with same | ⟨ready, -⟩
    · exact same ▸ hb
    · exact absurd ready (quiet rfl)
  · rcases step_begins h e with same | ⟨j, rfl, permit, starts, -⟩
    · exact same ▸ hb
    · rw [starts, List.mem_append, List.mem_singleton] at hb
      refine hb.resolve_right fun new => turn ?_
      rw [← own, new]

theorem starts_subset_step (h : Sound s 1) (e : Event) : s.starts ⊆ (s.step e).starts := by
  rcases step_begins h e with same | ⟨j, -, permit, starts, -⟩
  · rw [same]
    exact List.Subset.refl _
  · rw [starts]
    exact List.subset_append_left _ _

theorem deadline?_step (h : Sound s 1) (fixed : s.deadline? i = some deadline)
    (begun : s.phase? i ≠ some .fresh) (e : Event) : (s.step e).deadline? i = some deadline := by
  cases e with
  | call d => exact ((spares_call s d).deadline i).trans fixed
  | reject f => exact ((spares_concat s rfl).deadline i).trans fixed
  | turn j =>
    have spared := Moves.spares turn_moves (h.alike (alike_atTurn s j))
    refine (spared.deadline i).trans ((deadline?_atTurn_of_ne ?_).trans fixed)
    rintro fresh rfl
    exact begun fresh
  | drop j => exact ((spares_drop (i := j) h).deadline i).trans fixed
  | abort j => exact ((Moves.spares (cancel_moves (i := j) (.inr rfl)) h).deadline i).trans fixed
  | wait span => exact ((idle_fire s _).deadline i).trans fixed

/-- The turn of a call on its course keeps it there, or its deadline passes. -/
theorem timed_turn {c : Call} (h : Sound s 1) (tended : Tended s i) (hc : s.calls[i]? = some c)
    (plan : s.plan? i = some d) (course : Course s i d deadline c.phase)
    (fixed : (s.atTurn i).deadline? i = some deadline) (inTime : s.now ≤ deadline) :
    Timed (s.turn i) i d deadline ∧ ((s.turn i).phase? i = some .expired → deadline ≤ s.now) := by
  have kept := ((Moves.spares turn_moves (h.alike (alike_atTurn s i))).deadline i).trans fixed
  have own : c.dial = d := by
    rw [plan?, plans, List.getElem?_map, hc] at plan
    exact Option.some.inj plan
  subst own
  obtain ⟨p, hp, fits, late⟩ := fits_turn h tended hc course fixed inTime
  refine ⟨⟨kept, plan?_step plan (.turn i), p, hp, ?_, fits⟩, fun expired => late ?_⟩
  · rintro rfl
    exact (rests_turn h tended).idle (by rw [ready, hp]; rfl)
  · exact Option.some.inj (hp.symm.trans expired)

theorem timed_first (h : Sound s 1) (tended : Tended s i) (fresh : s.phase? i = some .fresh)
    (none : ∀ b ∈ s.starts, b.call ≠ i) (plan : s.plan? i = some d) :
    Timed (s.turn i) i d (s.now + s.limit) ∧
      ((s.turn i).phase? i = some .expired → s.now + s.limit ≤ s.now) := by
  obtain ⟨c, hc, at_⟩ := Option.map_eq_some_iff.mp fresh
  refine timed_turn h tended hc plan ?_ (deadline?_atTurn_self fresh) (Nat.le_add_right _ _)
  rw [at_]
  exact .waits rfl none

/-- In its turn, a call that is under way goes on, or its deadline passes if it is there. -/
theorem Timed.turn (timed : Timed s i d deadline) (h : Sound s 1) (tended : Tended s i)
    (pending : s.pending i) (inTime : s.now ≤ deadline) :
    Timed (s.turn i) i d deadline ∧ ((s.turn i).phase? i = some .expired → deadline ≤ s.now) := by
  obtain ⟨p, at_, begun, fits⟩ := timed.fits
  have not_first : s.phase? i = some .fresh → i ≠ i := by
    rw [at_]
    exact fun fresh => absurd (Option.some.inj fresh) begun
  rw [Connector.pending, at_] at pending
  obtain ⟨c, hc, rfl⟩ := Option.map_eq_some_iff.mp at_
  exact timed_turn h tended hc timed.plan (Course.of_pending fits pending)
    ((deadline?_atTurn_of_ne not_first).trans timed.fixed) inTime

/-- A call that is over keeps what it has come to, though its connection may go. -/
theorem phase?_step_of_ended (h : Sound s 1) (at_ : s.phase? i = some p)
    (ended : p.isPending = false) (e : Event) :
    (s.step e).phase? i = some p ∨
      ∃ q n, p = .live q n ∧ (s.step e).phase? i = some (.dropped q n) := by
  by_cases turn : e = .turn i
  · subst turn
    have found := ((alike_atTurn s i).phase? i).trans at_
    exact .inl (Moves.phase?_of_ended turn_moves found ended)
  by_cases abort : e = .abort i
  · subst abort
    exact .inl (Moves.phase?_of_ended (cancel_moves (.inr rfl)) at_ ended)
  rcases phase?_step h at_ turn abort with still | called | gone
  · exact .inl still
  · rcases called.phase with ⟨waits, -⟩ | ⟨waits, -⟩ <;> cases at_.symm.trans waits <;> cases ended
  · exact .inr gone

theorem Timed.step (timed : Timed s i d deadline) (h : Sound s 1) (tended : Tended s i) (e : Event)
    (inTime : s.pending i → s.now ≤ deadline) :
    Timed (s.step e) i d deadline ∧
      (s.pending i → (s.step e).phase? i = some .expired → deadline ≤ s.now) := by
  obtain ⟨p, at_, begun, fits⟩ := timed.fits
  have fixed := deadline?_step h timed.fixed (by rw [at_]; simpa using begun) e
  have plan := plan?_step timed.plan e
  have pending : s.pending i = p.isPending := by rw [Connector.pending, at_]; rfl
  have ready (quiet : p.isReady = false) : ¬ s.ready i := by simp [Connector.ready, at_, quiet]
  cases under_way : p.isPending with
  | false =>
    have idle : p.isReady = false := by
      cases p <;> first | rfl | cases under_way
    have starts := mem_starts_of_step (e := e) h fun _ => ready idle
    refine ⟨?_, fun waits => by rw [pending, under_way] at waits; cases waits⟩
    rcases phase?_step_of_ended h at_ under_way e with still | ⟨q, n, rfl, gone⟩
    · exact ⟨fixed, plan, p, still, begun, fits.of_starts starts⟩
    · refine ⟨fixed, plan, _, gone, Phase.noConfusion, ?_⟩
      cases fits with
      | course course =>
        cases course with
        | waits waits => cases waits
        | ends result ends =>
          exact (Fits.course (.ends (p := .dropped q n) result ends)).of_starts starts
  | true =>
    by_cases turn : e = .turn i
    · subst turn
      have now := timed.turn h tended (pending.trans under_way) (inTime (pending.trans under_way))
      exact ⟨now.1, fun _ => now.2⟩
    have starts := mem_starts_of_step (e := e) h fun same => absurd same turn
    by_cases abort : e = .abort i
    · subst abort
      have now : (s.step (.abort i)).phase? i = some .aborted := phase?_cancel at_ under_way _
      refine ⟨⟨fixed, plan, _, now, Phase.noConfusion, .aborts⟩, fun _ expired => ?_⟩
      cases now.symm.trans expired
    rcases phase?_step h at_ turn abort with still | called | ⟨q, n, rfl, -⟩
    · refine ⟨⟨fixed, plan, p, still, begun, fits.of_starts starts⟩, fun _ expired => ?_⟩
      cases still.symm.trans expired
      cases under_way
    · have none : ∀ b ∈ s.starts, b.call ≠ i := by
        cases Course.of_pending fits under_way with
        | waits _ none => exact none
        | dials => rcases called.phase with ⟨waits, -⟩ | ⟨waits, -⟩ <;> cases at_.symm.trans waits
        | ends result => cases p <;> first | cases result | cases under_way
      have none' : ∀ b ∈ (s.step e).starts, b.call ≠ i :=
        fun b hb own => none b (starts b hb own) own
      have told {q : Phase} (now : (s.step e).phase? i = some q) (waits : q.shown = .fresh)
          (begun : q ≠ .fresh) :
          Timed (s.step e) i d deadline ∧
            (s.pending i → (s.step e).phase? i = some .expired → deadline ≤ s.now) := by
        refine ⟨⟨fixed, plan, q, now, begun, .course (.waits waits none')⟩, fun _ expired => ?_⟩
        cases now.symm.trans expired
        cases waits
      rcases called.phase with ⟨-, now⟩ | ⟨-, now⟩
      · exact told now rfl Phase.noConfusion
      · exact told now rfl Phase.noConfusion
    · cases under_way

/-- What a call that is under way waits for. -/
theorem Timed.awaits (timed : Timed s i d deadline) (pending : s.pending i) :
    s.Awaits i deadline ∧
      ∀ b ∈ s.starts, b.call = i → ∀ n, d.takes = some n → s.Awaits i (b.time + n) := by
  refine ⟨.inr ⟨pending, timed.fixed⟩, fun b hb own n takes => ?_⟩
  obtain ⟨p, at_, -, fits⟩ := timed.fits
  rw [Connector.pending, at_] at pending
  cases Course.of_pending fits pending with
  | waits _ none => exact absurd own (none b hb)
  | @dials permit due starts =>
    refine .inl ⟨permit, at_.trans ?_⟩
    rw [starts b hb own, takes]
    rfl
  | ends result => cases p <;> first | cases result | cases pending

end Step

/-! ### Whole runs -/

theorem limit_run (limit : Nat) (events : List Event) :
    ((new limit).run events).limit = limit := by
  induction events using List.reverseRecOn with
  | nil => rfl
  | append_singleton events e ih =>
    rw [run_concat, limit_step (sound_run limit events), ih]

theorem starts_subset_run {s : Connector} (h : Sound s 1) (events : List Event) :
    s.starts ⊆ (s.run events).starts := by
  induction events using List.reverseRecOn with
  | nil => exact List.Subset.refl _
  | append_singleton events e ih =>
    rw [run_concat]
    exact List.Subset.trans ih (starts_subset_step (h.run events) e)

theorem now_turns {s : Connector} (h : Sound s 1) (turns : List Nat) :
    (s.run (turns.map .turn)).now = s.now := by
  induction turns generalizing s with
  | nil => rfl
  | cons j turns ih => exact (ih (h.step (.turn j))).trans (now_step h nofun)

theorem punctual_turns (s : Connector) (turns : List Nat) : s.Punctual (turns.map .turn) := by
  induction turns generalizing s with
  | nil => trivial
  | cons j turns ih => exact ⟨trivial, ih _⟩

/-- Call `i` ends by time `t`: the clock is not past `t`, and once it shows `t` and every woken call
has run, the call has ended. -/
def EndsBy (s : Connector) (i t : Nat) : Prop := s.now ≤ t ∧ (t ≤ s.now → ¬ s.settle.pending i)

theorem endsBy_of_awaits {limit : Nat} {events : List Event} {i t : Nat}
    (punctual : (new limit).Punctual events) (awaits : ((new limit).run events).Awaits i t)
    (still : ∀ turns : List Nat, let s := (new limit).run (events ++ turns.map .turn)
      s.pending i → s.Awaits i t) : ((new limit).run events).EndsBy i t := by
  refine ⟨now_le_of_awaits punctual awaits, fun past pending => ?_⟩
  obtain ⟨rest, turns, same⟩ := settle_atRest limit events
  rw [same] at rest pending
  have future := ((rests_of_atRest rest i).watches t (still turns pending)).1
  rw [run_append, now_turns (sound_run limit events)] at future
  omega

section Run

variable {limit i : Nat} {before after : List Event} {d : Dial}

theorem timed_run (fresh : ((new limit).run before).phase? i = some .fresh)
    (plan : ((new limit).run before).plan? i = some d)
    (punctual : (new limit).Punctual (before ++ .turn i :: after)) :
    Timed ((new limit).run (before ++ .turn i :: after)) i d
      (((new limit).run before).now + limit) := by
  induction after using List.reverseRecOn with
  | nil =>
    have first := timed_first (sound_run limit before) (tended_run limit before i) fresh
      (not_started_of_fresh fresh) plan
    rw [limit_run] at first
    rw [run_concat]
    exact first.1
  | append_singleton after e ih =>
    have split : before ++ .turn i :: (after ++ [e]) = (before ++ .turn i :: after) ++ [e] := by
      simp
    rw [split] at punctual ⊢
    have earlier := ((punctual_concat _ _ e).mp punctual).1
    have timed := ih earlier
    rw [run_concat]
    -- What carries the call over a step is that its deadline is not past while it is under way.
    refine (timed.step (sound_run limit _) (tended_run limit _ i) e fun pending => ?_).1
    exact now_le_of_awaits earlier (timed.awaits pending).1

/-- The deadline passes at its time, in whatever step it does. -/
theorem now_of_expires (fresh : ((new limit).run before).phase? i = some .fresh)
    (plan : ((new limit).run before).plan? i = some d)
    (punctual : (new limit).Punctual (before ++ .turn i :: after))
    {earlier : List Event} {e : Event}
    (past : earlier ++ [e] <+: .turn i :: after)
    (pending : ((new limit).run (before ++ earlier)).pending i)
    (expired : (((new limit).run (before ++ earlier)).step e).phase? i = some .expired) :
    ((new limit).run (before ++ earlier)).now = ((new limit).run before).now + limit := by
  cases earlier with
  | nil =>
    obtain ⟨rfl, -⟩ := List.cons_prefix_cons.mp past
    rw [List.append_nil] at expired ⊢
    have first := timed_first (sound_run limit before) (tended_run limit before i) fresh
      (not_started_of_fresh fresh) plan
    rw [limit_run] at first
    have := first.2 expired
    omega
  | cons first earlier =>
    rw [List.cons_append] at past
    obtain ⟨rfl, more, rfl⟩ := List.cons_prefix_cons.mp past
    have split : before ++ .turn i :: (earlier ++ [e] ++ more) =
        (before ++ .turn i :: earlier) ++ (e :: more) := by simp
    rw [split] at punctual
    have inTime := ((punctual_append _ _ _).mp punctual).1
    have timed := timed_run fresh plan inTime
    have early := now_le_of_awaits inTime (timed.awaits pending).1
    have late := (timed.step (sound_run limit _) (tended_run limit _ i) e fun _ => early).2 pending
      expired
    omega

end Run

/-- The connections of all calls but `i`. -/
def otherConnections (s : Connector) (i : Nat) : List Connection :=
  (s.phases.eraseIdx i).filterMap Phase.connection?

theorem counters_of_connection?_eq_none {limit : Nat} {events : List Event} {i : Nat} {p : Phase}
    (at_ : ((new limit).run events).phase? i = some p) (none : p.connection? = none) :
    let s := (new limit).run events
    s.stats.opened = (s.otherConnections i).length ∧
      s.stats.active = (s.otherConnections i).countP Connection.alive := by
  intro s
  have exact := exact_run limit events
  have perm := (filterMap_perm_set p Phase.connection? ((phase?_eq _ _).symm.trans at_)).1
  rw [none] at perm
  exact ⟨exact.opened.trans perm.length_eq, exact.active.trans (perm.countP_eq _)⟩

/-- One deadline for each call, fixed when it first runs, however long it waits for admission and
whatever the other calls do. In a run whose clock is not ahead of the calls, a call that is not
given up ends by its deadline; the deadline passes for it only at that time; and once its dial has
begun, a result that is due by the deadline is what it comes to, and one that is due later is never
counted. -/
theorem one_deadline (limit : Nat) (before after : List Event) (i : Nat) (d : Dial)
    (fresh : ((new limit).run before).phase? i = some .fresh)
    (plan : ((new limit).run before).plan? i = some d)
    (punctual : (new limit).Punctual (before ++ .turn i :: after)) :
    let s := (new limit).run (before ++ .turn i :: after)
    let deadline := ((new limit).run before).now + limit
    (s.pending i → s.EndsBy i deadline) ∧
    (s.phase? i = some .expired →
      s.answer? i = some (.error (.last (.connectTimeout (.ofMillis limit))))) ∧
    (∀ earlier e, earlier ++ [e] <+: .turn i :: after →
      let t := (new limit).run (before ++ earlier)
      t.pending i → (t.step e).phase? i = some .expired → t.now = deadline) ∧
    ∀ b ∈ s.starts, b.call = i →
      (∀ n, d.takes = some n → b.time + n ≤ deadline →
        s.phase? i = some .aborted ∨ s.pending i ∧ s.EndsBy i (b.time + n) ∨
          (s.phase? i).bind Phase.result? = some d.result) ∧
      ((∀ n, d.takes = some n → deadline < b.time + n) →
        s.connection? i = none ∧ s.stats.opened = (s.otherConnections i).length ∧
          s.stats.active = (s.otherConnections i).countP Connection.alive) := by
  intro s deadline
  have timed : Timed s i d deadline := timed_run fresh plan punctual
  have later (turns : List Nat) :
      Timed ((new limit).run ((before ++ .turn i :: after) ++ turns.map .turn)) i d deadline := by
    have inTime := (punctual_append _ _ _).mpr ⟨punctual, punctual_turns s turns⟩
    rw [List.append_assoc, List.cons_append] at inTime ⊢
    exact timed_run fresh plan inTime
  obtain ⟨p, at_, -, fits⟩ := timed.fits
  refine ⟨fun pending => ?_, fun expired => ?_, ?_,
    fun b hb own => ⟨fun n takes inTime => ?_, fun late => ?_⟩⟩
  · exact endsBy_of_awaits punctual (timed.awaits pending).1 fun turns waits =>
      ((later turns).awaits waits).1
  · rw [answer?, expired, timeout, limit_run]
  · intro earlier e past t pending expired
    exact now_of_expires fresh plan punctual past pending expired
  · have kept (turns : List Nat) :
        b ∈ ((new limit).run ((before ++ .turn i :: after) ++ turns.map .turn)).starts := by
      rw [run_append]
      exact starts_subset_run (sound_run limit _) _ hb
    by_cases pending : s.pending i
    · refine .inr (.inl ⟨pending, endsBy_of_awaits punctual ?_ fun turns waits => ?_⟩)
      · exact (timed.awaits pending).2 b hb own n takes
      · exact ((later turns).awaits waits).2 b (kept turns) own n takes
    · have ended : ¬ p.isPending := by rwa [Connector.pending, at_] at pending
      cases fits with
      | course course =>
        cases course with
        | waits _ none => exact absurd own (none b hb)
        | dials => exact absurd rfl ended
        | ends result => exact .inr (.inr (by rw [at_]; exact result))
      | expires late =>
        have := late b hb own n takes
        omega
      | aborts => exact .inl at_
  · have none : p.connection? = none := by
      cases fits with
      | course course =>
        cases course with
        | waits _ none => exact absurd own (none b hb)
        | dials => rfl
        | ends _ ends =>
          obtain ⟨n, takes, inTime⟩ := ends b hb own
          have := late n takes
          omega
      | expires => rfl
      | aborts => rfl
    refine ⟨?_, counters_of_connection?_eq_none at_ none⟩
    rw [connection?, at_]
    exact none

/-- A call parks behind an HTTP/2 connection for part of its time; when that goes it dials, but what
is left is too short for the dial. -/
theorem one_deadline_overdue :
    let d : Dial := ⟨some 70, .ok .http1⟩
    let before : List Event := [.call ⟨some 20, .ok .http2⟩, .turn 0, .wait 20, .turn 0, .call d]
    let after : List Event := [.wait 40, .drop 0, .turn 1, .wait 40, .turn 0, .wait 20, .turn 1]
    let s := (new 100).run (before ++ .turn 1 :: after)
    ((new 100).run before).phase? 1 = some .fresh ∧ ((new 100).run before).plan? 1 = some d ∧
      (new 100).Punctual (before ++ .turn 1 :: after) ∧ s.phase? 1 = some .expired ∧
      s.answer? 1 = some (.error (.last (.connectTimeout (.ofMillis 100)))) ∧
      s.connection? 1 = none := by
  intro d before after s
  have fresh : ((new 100).run before).phase? 1 = some .fresh := by decide
  have punctual : (new 100).Punctual (before ++ .turn 1 :: after) := by
    refine ⟨trivial, trivial, ⟨atRest_of_woken ?_, ?_⟩, trivial, trivial, trivial,
      ⟨atRest_of_woken ?_, ?_⟩, trivial, trivial, ⟨atRest_of_woken ?_, ?_⟩, trivial,
      ⟨atRest_of_woken ?_, ?_⟩, trivial, trivial⟩ <;> decide +kernel
  have expired : s.phase? 1 = some .expired := by decide
  have begun : ⟨1, 60, true⟩ ∈ s.starts := by decide
  obtain ⟨-, answer, -, dial⟩ := one_deadline 100 before after 1 d fresh rfl punctual
  have late : ∀ n, d.takes = some n → ((new 100).run before).now + 100 < 60 + n := by
    rintro n ⟨⟩
    decide
  exact ⟨fresh, rfl, punctual, expired, answer expired, ((dial _ begun rfl).2 late).1⟩

end Funnel.Connector
