import Funnel.Proofs.Connector.Rest
import Funnel.Timed

/-! One call alone. Nobody is in its way, so it dials at once, and it gets its answer when its dial
is over or at its deadline, whichever is first. -/

namespace Funnel.Connector

/-! ### Once every call has ended, nothing happens any more -/

/-- No call is under way. -/
def Ended (s : Connector) : Prop := ∀ p ∈ s.phases, p.isPending = false

/-- Callers have got the same in both. -/
structure Agrees (s s' : Connector) : Prop where
  phases : s'.phases = s.phases
  limit : s'.limit = s.limit

section Ended

variable {s s' : Connector}

theorem Agrees.trans {s'' : Connector} (h : Agrees s s') (h' : Agrees s' s'') : Agrees s s'' :=
  ⟨h'.phases.trans h.phases, h'.limit.trans h.limit⟩

theorem Agrees.answer? (h : Agrees s s') (i : Nat) : s'.answer? i = s.answer? i := by
  unfold Connector.answer?
  rw [phase?_eq, phase?_eq, h.phases, timeout, timeout, h.limit]

theorem Agrees.ended (h : Agrees s s') (ended : s.Ended) : s'.Ended := by
  rw [Ended, h.phases]
  exact ended

theorem agrees_fire (s : Connector) (time : Nat) : Agrees s (s.fire time) :=
  ⟨(alike_fire s time).phases, (idle_fire s time).limit⟩

theorem Ended.not_pending (h : s.Ended) (i : Nat) : ¬ s.pending i := by
  rw [pending, phase?_eq, Option.any_eq_true]
  rintro ⟨p, at_, under_way⟩
  exact absurd under_way (by simp [h p (List.mem_of_getElem? at_)])

theorem Ended.rests (h : s.Ended) (i : Nat) : Rests s i := .of_not_pending (h.not_pending i)

theorem Ended.agrees_turn (h : s.Ended) (i : Nat) : Agrees s (s.turn i) := by
  rw [(h.rests i).turn]
  exact ⟨rfl, rfl⟩

theorem Ended.agrees_settleWithin (h : s.Ended) (fuel : Nat) :
    Agrees s (settleWithin fuel s) := by
  induction fuel generalizing s with
  | zero => exact ⟨rfl, rfl⟩
  | succ fuel ih =>
    unfold settleWithin
    split
    · exact ⟨rfl, rfl⟩
    · rename_i i _ _
      have turned := h.agrees_turn i
      exact turned.trans (ih (turned.ended h))

theorem Ended.agrees_advanceWithin (h : s.Ended) (target fuel : Nat) :
    Agrees s (advanceWithin target fuel s) := by
  induction fuel generalizing s with
  | zero => exact agrees_fire s target
  | succ fuel ih =>
    unfold advanceWithin
    split
    · rename_i t _
      split
      · have fired := agrees_fire s (max s.now t)
        have settled : Agrees s (s.fire (max s.now t)).settle :=
          fired.trans ((fired.ended h).agrees_settleWithin _)
        exact settled.trans (ih (settled.ended h))
      · exact agrees_fire s target
    · exact agrees_fire s target

end Ended

/-! ### The call -/

/-- When the only call ends, and what its caller gets. -/
def fate (limit : Nat) (d : Dial) : Nat × Except Fault Protocol :=
  Timed.within limit (.error (new limit).timeout) (d.takes.map (·, d.result))

/-- The caller of the first call has got `a`, and nobody else gets anything any more. -/
structure Has (s : Connector) (a : Except Fault Protocol) : Prop where
  ended : s.Ended
  answer : s.answer? 0 = some a

/-- The only call dials, with the permit. -/
structure Alone (limit : Nat) (d : Dial) (s : Connector) : Prop where
  calls : s.calls = [⟨d, .dialing true d.takes, some limit⟩]
  limit : s.limit = limit
  queue : s.queue = []

section Alone

variable {limit : Nat} {d : Dial} {s s' : Connector} {a : Except Fault Protocol}

theorem Agrees.has (h : Agrees s s') (has : s.Has a) : s'.Has a :=
  ⟨h.ended has.ended, (h.answer? 0).trans has.answer⟩

/-- The end of the dial, and of the whole call, comes at the deadline if the dial does not come to
its end before. -/
theorem fate_cases (limit : Nat) (d : Dial) :
    (∃ t ≤ limit, d.takes = some t ∧ fate limit d = (t, d.result)) ∨
      (∀ t, d.takes = some t → limit < t) ∧ fate limit d = (limit, .error (new limit).timeout) := by
  unfold fate Timed.within
  cases takes : d.takes with
  | none => exact .inr ⟨nofun, rfl⟩
  | some t =>
    by_cases inTime : t ≤ limit
    · exact .inl ⟨t, inTime, rfl, if_pos inTime⟩
    · refine .inr ⟨?_, if_neg inTime⟩
      rintro _ ⟨⟩
      omega

namespace Alone

theorem phases (h : Alone limit d s) : s.phases = [.dialing true d.takes] := by
  rw [Connector.phases, h.calls]
  rfl

theorem answer? (h : Alone limit d s) : s.answer? 0 = none := by
  rw [Connector.answer?, phase?_eq, h.phases]
  rfl

theorem finish (h : Alone limit d s) : (s.finish 0 true d.result).Has d.result := by
  have phases : (s.finish 0 true d.result).phases = [s.outcome d.result] := by
    cases d.result <;>
      simp [Connector.finish, tally, giveBackIf, giveBack, setPhase, h.queue, h.calls,
        Connector.phases]
  constructor
  · rw [Ended, phases]
    cases d.result <;> simp [outcome, Phase.isPending]
  · rw [Connector.answer?, phase?_eq, phases]
    cases d.result <;> rfl

theorem expire (h : Alone limit d s) (late : limit ≤ s.now) :
    (s.expire 0).Has (.error (new limit).timeout) := by
  have expired : s.expire 0 = { s with permits := s.permits + 1 }.setPhase 0 .expired := by
    simp [Connector.expire, cancel, withdraw, giveBack, Connector.phase?, Phase.isPending, h.queue,
      h.calls, late]
  have phases : (s.expire 0).phases = [.expired] := by
    rw [expired, phases_setPhase]
    exact congrArg (·.set 0 .expired) h.phases
  constructor
  · simp [Ended, phases, Phase.isPending]
  · rw [Connector.answer?, phase?_eq, phases, expired]
    simp [timeout, setPhase, h.limit, new]

theorem expire_early (h : Alone limit d s) (early : s.now < limit) : s.expire 0 = s := by
  have unfinished : ¬ limit ≤ s.now := by omega
  simp [Connector.expire, h.calls, unfinished]

theorem finishIfDue_early (early : s.now < (fate limit d).1) :
    s.finishIfDue 0 true d.takes d = s ∧ s.now < limit := by
  rcases fate_cases limit d with ⟨t, inTime, takes, fate⟩ | ⟨later, fate⟩
  · rw [fate] at early
    rw [takes]
    exact ⟨if_neg (Nat.not_le.mpr early), Nat.lt_of_lt_of_le early inTime⟩
  · rw [fate] at early
    refine ⟨?_, early⟩
    unfold Connector.finishIfDue
    cases takes : d.takes with
    | none => rfl
    | some t => exact if_neg (Nat.not_le.mpr (Nat.lt_trans early (later t takes)))

theorem finishIfDue_due (h : Alone limit d s) (due : s.now = (fate limit d).1) :
    (s.finishIfDue 0 true d.takes d).Has (fate limit d).2 ∨
      s.finishIfDue 0 true d.takes d = s ∧ limit ≤ s.now ∧
        (fate limit d).2 = .error (new limit).timeout := by
  rcases fate_cases limit d with ⟨t, -, takes, fate⟩ | ⟨later, fate⟩
  · left
    rw [fate] at due ⊢
    have ends : s.finishIfDue 0 true d.takes d = s.finish 0 true d.result := by
      rw [takes]
      exact if_pos (Nat.le_of_eq due.symm)
    rw [ends]
    exact h.finish
  · right
    rw [fate] at due ⊢
    refine ⟨?_, Nat.le_of_eq due.symm, rfl⟩
    unfold Connector.finishIfDue
    cases takes : d.takes with
    | none => rfl
    | some t => exact if_neg (Nat.not_le.mpr (due ▸ later t takes))

theorem poll (h : Alone limit d s) (due : s.now = (fate limit d).1) :
    (s.poll 0).Has (fate limit d).2 := by
  have poll : s.poll 0 = (s.finishIfDue 0 true d.takes d).expire 0 := by
    simp [Connector.poll, h.calls, resume]
  rw [poll]
  rcases h.finishIfDue_due due with has | ⟨same, late, timeout⟩
  · rw [(has.ended.rests 0).expire]
    exact has
  · rw [same, timeout]
    exact h.expire late

end Alone

theorem Has.settle {rest : List Nat} (has : (s.turn 0).Has a) (woken : s.woken = 0 :: rest) :
    s.settle.Has a := by
  have settle : s.settle = settleWithin (rest.length + s.calls.length) (s.turn 0) := by
    rw [Connector.settle, woken, List.length_cons, Nat.add_right_comm, settleWithin, woken]
  rw [settle]
  exact (has.ended.agrees_settleWithin _).has has

/-- The only call, as it begins to dial. -/
def begun (limit : Nat) (d : Dial) : Connector :=
  { new limit with
    calls := [⟨d, .dialing true d.takes, some limit⟩]
    permits := 0
    timers := (d.takes.toList.filter (0 < ·)).map (⟨·, 0⟩)
    starts := [⟨0, 0, true⟩] }

/-- The only call, as it waits for the end of its dial or for its deadline. -/
def waiting (limit : Nat) (d : Dial) : Connector := (begun limit d).setTimer limit 0

theorem alone_begun (limit : Nat) (d : Dial) : Alone limit d (begun limit d) := ⟨rfl, rfl, rfl⟩

theorem alone_waiting (limit : Nat) (d : Dial) : Alone limit d (waiting limit d) := ⟨rfl, rfl, rfl⟩

theorem watch_begun (limit : Nat) (d : Dial) : (begun limit d).watch 0 = waiting limit d := by
  simp [watch, waiting, begun, new, Connector.phase?, Phase.isPending]

theorem turn_call (limit : Nat) (d : Dial) :
    ((new limit).call d).turn 0 =
      (((begun limit d).finishIfDue 0 true d.takes d).watch 0).expire 0 := by
  obtain ⟨takes, result⟩ := d
  rcases takes with _ | _ | takes <;>
    simp [begun, new, call, wake, turn, Connector.poll, fixDeadline, resume, enter, startDial,
      markDialing, watchDial, setPhase, Stats.empty, setTimer]

theorem settle_call (future : 0 < (fate limit d).1) :
    ((new limit).call d).settle = waiting limit d := by
  have turn : ((new limit).call d).turn 0 = waiting limit d := by
    obtain ⟨same, early⟩ := Alone.finishIfDue_early (s := begun limit d) future
    rw [turn_call, same, watch_begun]
    exact (alone_waiting limit d).expire_early early
  have settle : ((new limit).call d).settle = settleWithin 1 (((new limit).call d).turn 0) := rfl
  rw [settle, turn]
  rfl

theorem settle_call_at_once (atOnce : (fate limit d).1 = 0) :
    ((new limit).call d).settle.Has (fate limit d).2 := by
  have turn : (((new limit).call d).turn 0).Has (fate limit d).2 := by
    rw [turn_call]
    rcases (alone_begun limit d).finishIfDue_due atOnce.symm with has | ⟨same, late, timeout⟩
    · have watch : ((begun limit d).finishIfDue 0 true d.takes d).watch 0 = _ :=
        if_neg (has.ended.not_pending 0)
      rw [watch, (has.ended.rests 0).expire]
      exact has
    · rw [same, timeout, watch_begun]
      exact (alone_waiting limit d).expire late
  exact turn.settle rfl

theorem dues_waiting (limit : Nat) (d : Dial) :
    (waiting limit d).timers.map (·.due) = d.takes.toList.filter (0 < ·) ++ [limit] := by
  simp [waiting, begun, setTimer, Function.comp_def]

/-- The first timer is the one for the end of the call. -/
theorem nextTimer?_waiting (future : 0 < (fate limit d).1) :
    (waiting limit d).nextTimer? = some (fate limit d).1 := by
  rw [nextTimer?, dues_waiting]
  rcases fate_cases limit d with ⟨t, inTime, takes, fate⟩ | ⟨later, fate⟩
  · rw [fate] at future ⊢
    have dial : d.takes.toList.filter (0 < ·) = [t] := by
      have positive : 0 < t := future
      simp [takes, positive]
    rw [dial]
    exact congrArg some (Nat.min_eq_left inTime)
  · rw [fate]
    cases takes : d.takes with
    | none => rfl
    | some t =>
      have past : limit < t := later t takes
      have dial : (some t).toList.filter (0 < ·) = [t] := by
        have positive : 0 < t := by omega
        simp [positive]
      rw [dial]
      exact congrArg some (Nat.min_eq_right (Nat.le_of_lt past))

theorem wakes_only {due : List Timer} (only : ∀ t ∈ due, t.call = 0) (some_ : due ≠ [])
    (quiet : s.woken = []) :
    due.foldl (fun s t => s.wake t.call) s = { s with woken := [0] } := by
  obtain ⟨first, rest, rfl⟩ := List.exists_cons_of_ne_nil some_
  have woken : s.wake first.call = { s with woken := [0] } := by
    simp [wake, quiet, only first List.mem_cons_self]
  rw [List.foldl_cons, woken]
  have others : ∀ t ∈ rest, t.call = 0 := fun t ht => only t (List.mem_cons_of_mem _ ht)
  clear woken only some_
  induction rest with
  | nil => rfl
  | cons t rest ih =>
    have again : Connector.wake { s with woken := [0] } t.call = { s with woken := [0] } := by
      simp [wake, others t List.mem_cons_self]
    rw [List.foldl_cons, again]
    exact ih fun t ht => others t (List.mem_cons_of_mem _ ht)

theorem fire_waiting (future : 0 < (fate limit d).1) :
    ((waiting limit d).fire (fate limit d).1).settle.Has (fate limit d).2 := by
  let time := (fate limit d).1
  let due := (waiting limit d).timers.filter (·.due ≤ time)
  have only : ∀ t ∈ due, t.call = 0 := by
    intro t ht
    have member := (List.mem_filter.mp ht).1
    simp only [waiting, begun, setTimer, List.mem_append, List.mem_map, List.mem_singleton]
      at member
    rcases member with ⟨_, -, rfl⟩ | rfl <;> rfl
  have first : due ≠ [] := by
    have next := nextTimer?_waiting future
    obtain ⟨timer, member, at_⟩ := List.mem_map.mp (List.min?_mem next)
    have isDue : timer.due ≤ time := Nat.le_of_eq at_
    exact List.ne_nil_of_mem (List.mem_filter.mpr ⟨member, decide_eq_true isDue⟩)
  have fired : (waiting limit d).fire time =
      { (waiting limit d).clock time with woken := [0] } :=
    wakes_only only first rfl
  have alone : Alone limit d { (waiting limit d).clock time with woken := [] } := ⟨rfl, rfl, rfl⟩
  rw [fired]
  exact Has.settle (alone.poll rfl) rfl

/-- The only call has its answer exactly from the time on at which it ends. -/
theorem answer?_alone (limit : Nat) (d : Dial) (time : Nat) :
    (((new limit).call d).settle.advance time).answer? 0 =
      if (fate limit d).1 ≤ time then some (fate limit d).2 else none := by
  rcases Nat.eq_zero_or_pos (fate limit d).1 with atOnce | future
  · have has := settle_call_at_once atOnce
    have agrees : Agrees _ (((new limit).call d).settle.advance time) :=
      has.ended.agrees_advanceWithin _ _
    rw [if_pos (by omega)]
    exact (agrees.has has).answer
  · -- Only the first step of the clock matters: with it, the call has ended.
    let s := waiting limit d
    have advance : s.advance time = if (fate limit d).1 ≤ time then
        advanceWithin time (2 + s.timers.length) (s.fire (fate limit d).1).settle
        else s.fire time := by
      have fuel : s.advance time = advanceWithin (0 + time) (2 + s.timers.length + 1) s := rfl
      have now : max s.now (fate limit d).1 = (fate limit d).1 := Nat.zero_max _
      rw [fuel, Nat.zero_add, advanceWithin, nextTimer?_waiting future]
      simp only [now]
    rw [settle_call future, advance]
    split
    · have has := fire_waiting future
      exact ((has.ended.agrees_advanceWithin _ _).has has).answer
    · rw [(agrees_fire s time).answer?]
      exact (alone_waiting limit d).answer?

end Alone

end Funnel.Connector
