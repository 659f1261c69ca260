import Funnel.Tracker.Drain
import Funnel.Proofs.Tracker.Counted

/-! What a wait for the end of a tracker's connections comes to. It ends well once all guards of the
tracker are gone, if they go before its limit, and badly at its limit if one of them is still there
then. What carries the proof is that the wait is awake whenever the count is zero. -/

namespace Funnel.Tracker

namespace Wait

/-- What happens to connections. -/
def Event.connection? : Event → Option Trackers.Event
  | .connection e => some e
  | _ => none

theorem mem_connections {c : Trackers.Event} {events : List Event} :
    c ∈ events.filterMap Event.connection? ↔ .connection c ∈ events := by
  have only (e : Event) : e.connection? = some c ↔ e = .connection c := by
    cases e <;> simp [Event.connection?]
  simp only [List.mem_filterMap, only, exists_eq_right]

variable {w : Wait} {events : List Event} {e : Event}

theorem run_append (w : Wait) (past rest : List Event) :
    w.run (past ++ rest) = (w.run past).run rest :=
  List.foldl_append

theorem run_concat (w : Wait) (past : List Event) (e : Event) :
    w.run (past ++ [e]) = (w.run past).step e :=
  w.run_append past [e]

/-- What comes of a look: nothing, the end of the wait, or sleep. -/
theorem look_cases (w : Wait) :
    (∃ drained, w.stage = .ended drained ∧ w.look = w) ∨
      ∃ awake, w.stage = .waiting awake ∧
        (awake ∧ w.trackers.active w.tracker = 0 ∧ w.look = { w with stage := .ended true } ∨
          ¬ (awake ∧ w.trackers.active w.tracker = 0) ∧
            (w.limit ≤ w.now ∧ w.look = { w with stage := .ended false } ∨
              w.now < w.limit ∧ w.look = { w with stage := .waiting false })) := by
  cases at_ : w.stage with
  | ended drained => exact .inl ⟨drained, rfl, by rw [look, at_]⟩
  | waiting awake =>
    refine .inr ⟨awake, rfl, ?_⟩
    simp only [look, at_]
    by_cases empty : awake ∧ w.trackers.active w.tracker = 0
    · exact .inl ⟨empty.1, empty.2, if_pos empty⟩
    · rw [if_neg empty]
      by_cases late : w.limit ≤ w.now
      · exact .inr ⟨empty, .inl ⟨late, if_pos late⟩⟩
      · exact .inr ⟨empty, .inr ⟨Nat.lt_of_not_le late, if_neg late⟩⟩

/-- Looking changes the stage alone. -/
theorem look_frame (w : Wait) : ∃ stage, w.look = { w with stage } := by
  rcases w.look_cases with ⟨_, _, looked⟩ | ⟨_, _, ⟨-, -, looked⟩ | ⟨-, ⟨-, looked⟩ | ⟨-, looked⟩⟩⟩
  all_goals exact ⟨_, looked⟩

section Frame

theorem tracker_step (w : Wait) (e : Event) : (w.step e).tracker = w.tracker := by
  obtain ⟨stage, looked⟩ := w.look_frame
  cases e with
  | look => rw [step, looked]
  | connection c => cases c <;> rfl
  | advance span => rfl

theorem limit_step (w : Wait) (e : Event) : (w.step e).limit = w.limit := by
  obtain ⟨stage, looked⟩ := w.look_frame
  cases e with
  | look => rw [step, looked]
  | connection c => cases c <;> rfl
  | advance span => rfl

/-- Connections come and go as if nobody waited for them. -/
theorem trackers_step (w : Wait) (e : Event) :
    (w.step e).trackers = w.trackers.run e.connection?.toList := by
  obtain ⟨stage, looked⟩ := w.look_frame
  cases e with
  | look =>
    rw [step, looked]
    rfl
  | connection c => cases c <;> rfl
  | advance span => rfl

theorem tracker_run (w : Wait) (events : List Event) : (w.run events).tracker = w.tracker := by
  induction events using List.reverseRecOn with
  | nil => rfl
  | append_singleton events e ih => rw [run_concat, tracker_step, ih]

theorem limit_run (w : Wait) (events : List Event) : (w.run events).limit = w.limit := by
  induction events using List.reverseRecOn with
  | nil => rfl
  | append_singleton events e ih => rw [run_concat, limit_step, ih]

theorem trackers_run (w : Wait) (events : List Event) :
    (w.run events).trackers = w.trackers.run (events.filterMap Event.connection?) := by
  induction events using List.reverseRecOn with
  | nil => rfl
  | append_singleton events e ih =>
    rw [run_concat, trackers_step, ih, ← Trackers.run_append, List.filterMap_append]
    cases e <;> rfl

end Frame

/-! ### When guards go -/

/-- The guard of connection `id` goes at `time`. -/
def GoesAt (w : Wait) (events : List Event) (id time : Nat) : Prop :=
  ∃ past rest, events = past ++ .connection (.drop id) :: rest ∧ (w.run past).now = time

theorem GoesAt.append {id time : Nat} (goes : w.GoesAt events id time) (rest : List Event) :
    w.GoesAt (events ++ rest) id time := by
  obtain ⟨past, between, rfl, at_⟩ := goes
  exact ⟨past, between ++ rest, by simp, at_⟩

theorem goesAt_concat {id time : Nat} :
    w.GoesAt (events ++ [e]) id time ↔
      w.GoesAt events id time ∨ e = .connection (.drop id) ∧ (w.run events).now = time := by
  constructor
  · rintro ⟨past, rest, split, at_⟩
    rcases List.eq_nil_or_concat rest with rfl | ⟨rest, last, rfl⟩
    · obtain ⟨rfl, same⟩ := List.append_inj' split rfl
      exact .inr ⟨List.singleton_inj.mp same, at_⟩
    · rw [List.concat_eq_append, ← List.cons_append, ← List.append_assoc] at split
      obtain ⟨rfl, -⟩ := List.append_inj' split rfl
      exact .inl ⟨past, rest, rfl, at_⟩
  · rintro (goes | ⟨rfl, at_⟩)
    · exact goes.append [e]
    · exact ⟨events, [], rfl, at_⟩

theorem mem_iff_exists_goesAt {id : Nat} :
    .connection (.drop id) ∈ events ↔ ∃ time, w.GoesAt events id time := by
  constructor
  · intro member
    obtain ⟨past, rest, rfl⟩ := List.append_of_mem member
    exact ⟨_, past, rest, rfl, rfl⟩
  · rintro ⟨time, past, rest, rfl, -⟩
    exact List.mem_append_right _ List.mem_cons_self

/-- While no connection comes on its tracker, a guard is there until it goes. -/
theorem mem_guards_run {g : Guard} (alone : .connection (.track g.tracker) ∉ events) :
    g ∈ (w.run events).trackers.guards ↔
      g ∈ w.trackers.guards ∧ ∀ time, ¬ w.GoesAt events g.id time := by
  rw [trackers_run, Trackers.mem_guards_run (mt mem_connections.mp alone), mem_connections,
    mem_iff_exists_goesAt (w := w), not_exists]

/-! ### No wake-up is lost -/

/-- A wait that sleeps has a connection to wait for. -/
def Told (w : Wait) : Prop := w.trackers.active w.tracker = 0 → w.stage ≠ .waiting false

theorem Told.drop (h : Told w) (id : Nat) : Told (w.drop id) := by
  intro empty
  unfold Wait.drop at empty ⊢
  dsimp only at empty ⊢
  split
  next => cases w.stage <;> nofun
  next others =>
    -- A guard that is not the last one leaves others, or was not counted here.
    apply h
    unfold Trackers.drop at empty
    split at empty
    next g found =>
      simp only [Trackers.isLastOf, found, Option.any_some, Bool.and_eq_true, decide_eq_true_eq,
        not_and] at others
      dsimp only at empty
      split at empty
      next own =>
        have := others own.symm
        omega
      next => exact empty
    next => exact empty

theorem Told.look (h : Told w) : Told w.look := by
  intro empty
  obtain ⟨stage, looked⟩ := w.look_frame
  have before : w.trackers.active w.tracker = 0 := by
    rw [looked] at empty
    exact empty
  rcases w.look_cases with ⟨_, at_, looked⟩ | ⟨awake, at_, ⟨-, -, looked⟩ | ⟨asleep, looks⟩⟩
  · rw [looked, at_]
    nofun
  · rw [looked]
    nofun
  · -- It is awake, so it finds that there is none.
    cases awake with
    | false => exact absurd at_ (h before)
    | true => exact absurd ⟨rfl, before⟩ asleep

theorem Told.step (h : Told w) (e : Event) : Told (w.step e) := by
  cases e with
  | look => exact h.look
  | advance span => exact h
  | connection c =>
    cases c with
    | drop id => exact h.drop id
    | track k =>
      intro empty
      apply h
      simp only [Wait.step, Trackers.track] at empty
      split at empty
      · exact absurd empty (Nat.succ_ne_zero _)
      · exact empty

theorem told_run (t : Trackers) (now tracker deadline : Nat) (events : List Event) :
    Told ((start t now tracker deadline).run events) := by
  induction events using List.reverseRecOn with
  | nil => exact fun _ => nofun
  | append_singleton events e ih =>
    rw [run_concat]
    exact ih.step e

/-! ### The end of the wait -/

theorem ended_step {drained : Bool} (ended : w.stage = .ended drained) (e : Event) :
    (w.step e).stage = .ended drained := by
  cases e with
  | look => rw [step, look, ended, ended]
  | advance span => exact ended
  | connection c =>
    cases c with
    | track k => exact ended
    | drop id =>
      simp only [step, drop, ended]
      split <;> rfl

/-- A wait ends as it looks, and finds no connection or its time over. -/
theorem ended_of_step {drained : Bool} (ended : (w.step e).stage = .ended drained) :
    w.stage = .ended drained ∨ e = .look ∧ ∃ awake, w.stage = .waiting awake ∧
      (drained = true ∧ w.trackers.active w.tracker = 0 ∨
        drained = false ∧ ¬ (awake ∧ w.trackers.active w.tracker = 0) ∧ w.limit ≤ w.now) := by
  cases e with
  | look =>
    rw [step] at ended
    rcases w.look_cases with ⟨_, _, looked⟩ |
      ⟨awake, at_, ⟨-, empty, looked⟩ | ⟨missed, ⟨late, looked⟩ | ⟨-, looked⟩⟩⟩
    · exact .inl (looked ▸ ended)
    · rw [looked] at ended
      cases ended
      exact .inr ⟨rfl, awake, at_, .inl ⟨rfl, empty⟩⟩
    · rw [looked] at ended
      cases ended
      exact .inr ⟨rfl, awake, at_, .inr ⟨rfl, missed, late⟩⟩
    · rw [looked] at ended
      cases ended
  | advance span => exact .inl ended
  | connection c =>
    cases c with
    | track k => exact .inl ended
    | drop id =>
      simp only [step, drop] at ended
      split at ended
      · cases at_ : w.stage with
        | ended _ => exact .inl (by rwa [at_] at ended)
        | waiting _ =>
          rw [at_] at ended
          cases ended
      · exact .inl ended

theorem now_le_step (w : Wait) (e : Event) : w.now ≤ (w.step e).now := by
  obtain ⟨stage, looked⟩ := w.look_frame
  cases e with
  | look => exact Nat.le_of_eq (by rw [step, looked])
  | connection c => cases c <;> exact Nat.le_refl _
  | advance span => exact Nat.le_add_right _ _

theorem GoesAt.le_now {id time : Nat} (goes : w.GoesAt events id time) :
    time ≤ (w.run events).now := by
  induction events using List.reverseRecOn with
  | nil =>
    obtain ⟨past, rest, split, -⟩ := goes
    simp at split
  | append_singleton events e ih =>
    have later := (w.run events).now_le_step e
    rw [run_concat]
    rcases goesAt_concat.mp goes with old | ⟨-, rfl⟩
    · exact Nat.le_trans (ih old) later
    · exact later

section Start

variable {t : Trackers} {now tracker deadline : Nat}

theorem sound_trackers_run (sound : Trackers.Sound t) (events : List Event) :
    Trackers.Sound ((start t now tracker deadline).run events).trackers := by
  rw [trackers_run]
  exact sound.run _

/-- While a guard of the tracker is there, the count is not zero. -/
theorem exists_guard_iff (sound : Trackers.Sound t)
    (alone : .connection (.track tracker) ∉ events) :
    let w := start t now tracker deadline
    (w.run events).trackers.active (w.run events).tracker ≠ 0 ↔
      ∃ g ∈ t.guards, g.tracker = tracker ∧ ∀ time, ¬ w.GoesAt events g.id time := by
  intro w
  have sound' : Trackers.Sound (w.run events).trackers := sound_trackers_run sound events
  have own : (w.run events).tracker = tracker := w.tracker_run events
  rw [ne_eq, sound'.active_eq_zero_iff, own]
  push Not
  constructor
  · rintro ⟨g, member, rfl⟩
    obtain ⟨old, stays⟩ := (mem_guards_run alone).mp member
    exact ⟨g, old, rfl, stays⟩
  · rintro ⟨g, old, rfl, stays⟩
    exact ⟨g, (mem_guards_run alone).mpr ⟨old, stays⟩, rfl⟩

/-- A wait that was given up was at its limit, and some guard had not gone before that. -/
theorem exists_late_of_ended (sound : Trackers.Sound t)
    (alone : .connection (.track tracker) ∉ events)
    (ended : ((start t now tracker deadline).run events).stage = .ended false) :
    let w := start t now tracker deadline
    w.limit ≤ (w.run events).now ∧ ∃ g ∈ t.guards, g.tracker = tracker ∧
      ∀ time, w.GoesAt events g.id time → w.limit ≤ time := by
  intro w
  change (w.run events).stage = .ended false at ended
  induction events using List.reverseRecOn with
  | nil => cases ended
  | append_singleton events e ih =>
    rw [List.mem_append, not_or] at alone
    have later := (w.run events).now_le_step e
    rw [run_concat] at ended ⊢
    rcases ended_of_step ended with before | ⟨rfl, awake, at_, ⟨⟨⟩, -⟩ | ⟨-, missed, late⟩⟩
    · obtain ⟨late, g, member, own, goes⟩ := ih alone.1 before
      refine ⟨Nat.le_trans late later, g, member, own, fun time at_ => ?_⟩
      rcases goesAt_concat.mp at_ with old | ⟨-, rfl⟩
      · exact goes time old
      · exact late
    · rw [limit_run] at late
      have there : (w.run events).trackers.active (w.run events).tracker ≠ 0 := by
        intro empty
        have told : Told (w.run events) := told_run t now tracker deadline events
        cases awake with
        | false => exact told empty at_
        | true => exact missed ⟨rfl, empty⟩
      obtain ⟨g, member, own, stays⟩ := (exists_guard_iff sound alone.1).mp there
      refine ⟨Nat.le_trans late later, g, member, own, fun time at_ => ?_⟩
      rcases goesAt_concat.mp at_ with old | ⟨⟨⟩, -⟩
      exact absurd old (stays time)

end Start

/-- Time passes only while the wait sleeps, and not past its limit, until it is over. -/
def isInTime (w : Wait) : Event → Bool
  | .advance span =>
    match w.stage with
    | .waiting awake => span = 0 || !awake && w.now + span ≤ w.limit
    | .ended _ => true
  | _ => true

/-- The wait is not late for anything. -/
def isPunctual (w : Wait) : List Event → Bool
  | [] => true
  | e :: rest => w.isInTime e && (w.step e).isPunctual rest

theorem isPunctual_append (w : Wait) (past rest : List Event) :
    w.isPunctual (past ++ rest) = (w.isPunctual past && (w.run past).isPunctual rest) := by
  induction past generalizing w with
  | nil => simp [isPunctual, run]
  | cons first past ih =>
    rw [List.cons_append, isPunctual, ih, isPunctual, Bool.and_assoc]
    rfl

theorem now_le_limit_step {awake awake' : Bool} (before : w.stage = .waiting awake)
    (inTime : w.isInTime e) (limit : w.now ≤ w.limit) (after : (w.step e).stage = .waiting awake') :
    (w.step e).now ≤ w.limit := by
  obtain ⟨stage, looked⟩ := w.look_frame
  cases e with
  | look => rwa [step, looked]
  | connection c => cases c <;> exact limit
  | advance span =>
    simp only [isInTime, before, Bool.or_eq_true, Bool.and_eq_true, decide_eq_true_eq] at inTime
    rcases inTime with rfl | ⟨-, inTime⟩
    · exact limit
    · exact inTime

/-- A wait that is not late does not outlast its limit. -/
theorem now_le_limit_run {t : Trackers} {now tracker deadline : Nat}
    (punctual : (start t now tracker deadline).isPunctual events) {awake : Bool} :
    let w := start t now tracker deadline
    (w.run events).stage = .waiting awake → (w.run events).now ≤ w.limit := by
  intro w after
  change w.isPunctual events = true at punctual
  induction events using List.reverseRecOn generalizing awake with
  | nil => exact Nat.le_add_right _ _
  | append_singleton events e ih =>
    rw [isPunctual_append, Bool.and_eq_true] at punctual
    rw [run_concat] at after ⊢
    cases before : (w.run events).stage with
    | ended drained =>
      rw [ended_step before e] at after
      cases after
    | waiting awake' =>
      have inTime : (w.run events).isInTime e := by simpa [isPunctual] using punctual.2
      have limit := w.limit_run events
      have := now_le_limit_step before inTime (limit ▸ ih before punctual.1) after
      rwa [limit] at this

/-- A wait for a guard that stays, or goes after the limit while the wait is not late, has a
connection to wait for. -/
theorem active_ne_zero_of_waiting {t : Trackers} {now tracker deadline : Nat}
    (sound : Trackers.Sound t) {g : Guard} (member : g ∈ t.guards) (own : g.tracker = tracker)
    (alone : .connection (.track tracker) ∉ events) {awake : Bool} :
    let w := start t now tracker deadline
    (∀ time, w.GoesAt events g.id time → w.isPunctual events ∧ w.limit < time) →
      (w.run events).stage = .waiting awake →
        (w.run events).trackers.active (w.run events).tracker ≠ 0 := by
  intro w held at_
  refine (exists_guard_iff sound alone).mpr ⟨g, member, own, fun time goes => ?_⟩
  obtain ⟨punctual, after⟩ := held time goes
  have inside : (w.run events).now ≤ w.limit := now_le_limit_run punctual at_
  have gone : time ≤ (w.run events).now := goes.le_now
  omega

/-- Such a wait does not end well. -/
theorem undrained_run {t : Trackers} {now tracker deadline : Nat} (sound : Trackers.Sound t)
    {g : Guard} (member : g ∈ t.guards) (own : g.tracker = tracker)
    (alone : .connection (.track tracker) ∉ events) :
    let w := start t now tracker deadline
    (∀ time, w.GoesAt events g.id time → w.isPunctual events ∧ w.limit < time) →
      (w.run events).stage ≠ .ended true := by
  intro w held
  induction events using List.reverseRecOn with
  | nil => exact nofun
  | append_singleton events e ih =>
    rw [List.mem_append, not_or] at alone
    have held' : ∀ time, w.GoesAt events g.id time → w.isPunctual events ∧ w.limit < time := by
      intro time goes
      obtain ⟨punctual, after⟩ := held time (goes.append [e])
      rw [isPunctual_append, Bool.and_eq_true] at punctual
      exact ⟨punctual.1, after⟩
    rw [run_concat]
    intro ended
    rcases ended_of_step ended with before | ⟨rfl, awake, at_, ⟨-, empty⟩ | ⟨⟨⟩, -⟩⟩
    · exact ih alone.1 held' before
    · exact active_ne_zero_of_waiting sound member own alone.1 held' at_ empty

/-- A wait on a tracker on which no connection comes meanwhile, after any history of any number of
trackers. Connections come and go as if nobody waited. If all guards of the tracker go before the
limit, the wait ends well, at the latest as it next looks. If one of them stays, or goes after the
limit while the wait is not late for anything, the wait never ends well, and it ends at its
limit. -/
theorem drain_outcome (history : List Trackers.Event) (now tracker deadline : Nat)
    (events : List Event) (alone : .connection (.track tracker) ∉ events) :
    let t := Trackers.new.run history
    let w := start t now tracker deadline
    let s := w.run events
    s.trackers = t.run (events.filterMap Event.connection?) ∧
      ((∀ g ∈ t.guards, g.tracker = tracker →
          ∃ time, w.GoesAt events g.id time ∧ time < w.limit) →
        s.look.stage = .ended true) ∧
      ∀ g ∈ t.guards, g.tracker = tracker →
        (∀ time, w.GoesAt events g.id time → w.isPunctual events ∧ w.limit < time) →
          s.stage ≠ .ended true ∧ (w.limit ≤ s.now → s.look.stage = .ended false) := by
  intro t w s
  have sound : Trackers.Sound t := Trackers.sound_new.run history
  have told : Told s := told_run t now tracker deadline events
  refine ⟨w.trackers_run events, fun gone => ?_, fun g member own held => ?_⟩
  · have empty : s.trackers.active s.tracker = 0 := by
      by_contra there
      obtain ⟨g, member, own, stays⟩ := (exists_guard_iff sound alone).mp there
      obtain ⟨time, goes, -⟩ := gone g member own
      exact stays time goes
    rcases s.look_cases with ⟨drained, at_, looked⟩ |
      ⟨awake, at_, ⟨-, -, looked⟩ | ⟨missed, -⟩⟩
    · cases drained with
      | true => rw [looked, at_]
      | false =>
        obtain ⟨-, g, member, own, late⟩ := exists_late_of_ended sound alone at_
        obtain ⟨time, goes, early⟩ := gone g member own
        exact absurd (late time goes) (Nat.not_le_of_lt early)
    · rw [looked]
    · cases awake with
      | false => exact absurd at_ (told empty)
      | true => exact absurd ⟨rfl, empty⟩ missed
  · have undrained : s.stage ≠ .ended true := undrained_run sound member own alone held
    refine ⟨undrained, fun ended => ?_⟩
    have limit : s.limit = w.limit := w.limit_run events
    rcases s.look_cases with ⟨drained, at_, looked⟩ |
      ⟨awake, at_, ⟨-, empty, -⟩ | ⟨-, ⟨-, looked⟩ | ⟨early, -⟩⟩⟩
    · cases drained with
      | true => exact absurd at_ undrained
      | false => rw [looked, at_]
    · exact absurd empty (active_ne_zero_of_waiting sound member own alone held at_)
    · rw [looked]
    · omega

/-- One guard of two goes at the same time as one of another tracker comes, and the other one just
before the limit or, in a second run, after it. -/
theorem drain_outcome_two_guards :
    let t := Trackers.new.run [.track 0, .track 1, .track 0, .drop 1, .track 0]
    let w := start t 10 0 50
    let begun : List Event :=
      [.look, .advance 20, .connection (.drop 4), .connection (.track 1), .look]
    let inTime := begun ++ [.advance 29, .connection (.drop 3)]
    let late := begun ++ [.advance 30, .look, .advance 1] ++ [.connection (.drop 3)]
    t.guards = [⟨1, 2⟩, ⟨0, 3⟩, ⟨0, 4⟩] ∧ w.limit = 60 ∧
      .connection (.track 0) ∉ inTime ∧ (w.run inTime).look.stage = .ended true ∧
      .connection (.track 0) ∉ late ∧ w.isPunctual late ∧
        (w.run late).look.stage = .ended false := by
  intro t w begun inTime late
  have guards : t.guards = [⟨1, 2⟩, ⟨0, 3⟩, ⟨0, 4⟩] := rfl
  have alone : .connection (.track 0) ∉ inTime := by decide
  have alone' : .connection (.track 0) ∉ late := by decide
  have punctual : w.isPunctual late := by decide
  obtain ⟨-, well, -⟩ := drain_outcome _ 10 0 50 inTime alone
  obtain ⟨-, -, badly⟩ := drain_outcome _ 10 0 50 late alone'
  refine ⟨guards, rfl, alone, well fun g member own => ?_, alone', punctual, ?_⟩
  · change g ∈ [(⟨1, 2⟩ : Guard), ⟨0, 3⟩, ⟨0, 4⟩] at member
    simp only [List.mem_cons, List.not_mem_nil, or_false] at member
    rcases member with rfl | rfl | rfl
    · cases own
    · exact ⟨59, ⟨begun ++ [.advance 29], [], rfl, rfl⟩, by decide⟩
    · exact ⟨30, ⟨[.look, .advance 20], _, rfl, rfl⟩, by decide⟩
  · refine (badly ⟨0, 3⟩ (by decide) rfl fun time goes => ⟨punctual, ?_⟩).2 (by decide)
    rcases goesAt_concat.mp goes with old | ⟨-, rfl⟩
    · exact absurd (mem_iff_exists_goesAt.mpr ⟨time, old⟩) (by decide)
    · decide

end Wait

/-! ### On a timeline -/

namespace Timeline

open Wait

/-- The wait comes from `w` to `w'` and is late for nothing, while the guards in `gone` go and
nothing else happens. -/
def Passes (w : Wait) (gone : List Leaving) (w' : Wait) : Prop :=
  ∃ events, w.isPunctual events ∧
    events.filterMap Event.connection? = gone.map (fun l => .drop l.id) ∧ w.run events = w'

theorem Passes.refl (w : Wait) : Passes w [] w := ⟨[], rfl, rfl, rfl⟩

theorem Passes.trans {w w' w'' : Wait} {gone gone' : List Leaving} (h : Passes w gone w')
    (h' : Passes w' gone' w'') : Passes w (gone ++ gone') w'' := by
  obtain ⟨events, punctual, drops, rfl⟩ := h
  obtain ⟨events', punctual', drops', rfl⟩ := h'
  refine ⟨events ++ events', ?_, ?_, w.run_append events events'⟩
  · rw [isPunctual_append, punctual, punctual', Bool.and_self]
  · rw [List.filterMap_append, drops, drops', List.map_append]

theorem Passes.look {w w' : Wait} {gone : List Leaving} (h : Passes w gone w') :
    Passes w gone w'.look :=
  List.append_nil gone ▸ h.trans ⟨[.look], rfl, rfl, rfl⟩

/-- The clock goes to the time that is set for a guard, and the guard goes. -/
theorem passes_to_next {w : Wait} {l : Leaving} {awake : Bool} (at_ : w.stage = .waiting awake)
    (early : w.now < w.limit) (free : awake = false ∨ l.due ≤ w.now) (soon : l.due < w.limit) :
    let w' := w.run [.advance (l.due - w.now), .connection (.drop l.id)]
    Passes w [l] w' ∧ (∃ awake, w'.stage = .waiting awake) ∧ w'.now < w'.limit := by
  intro w'
  refine ⟨⟨_, ?_, rfl, rfl⟩, ?_, ?_⟩
  · simp only [isPunctual, isInTime, at_, Bool.and_true, Bool.or_eq_true, Bool.and_eq_true,
      Bool.not_eq_true', decide_eq_true_eq]
    rcases free with asleep | due
    · exact .inr ⟨asleep, by omega⟩
    · exact .inl (by omega)
  · simp only [w', run, List.foldl_cons, List.foldl_nil, step, Wait.drop, at_]
    split
    · exact ⟨_, rfl⟩
    · exact ⟨_, rfl⟩
  · change w.now + (l.due - w.now) < w.limit
    omega

/-- The wait sleeps until its limit, and is given up there. -/
theorem passes_to_limit {w : Wait} (asleep : w.stage = .waiting false) (early : w.now < w.limit) :
    let w' := w.run [.advance (w.limit - w.now), .look]
    Passes w [] w' ∧ w'.isEnded := by
  have there : w.limit ≤ w.now + (w.limit - w.now) := by omega
  refine ⟨⟨_, ?_, rfl, rfl⟩, ?_⟩
  · simp only [isPunctual, isInTime, asleep, Bool.and_true, Bool.or_eq_true, Bool.and_eq_true,
      Bool.not_false, decide_eq_true_eq, true_and]
    right
    omega
  · simp [run, step, Wait.look, asleep, there, isEnded]

/-- The wait is over, or sleeps, or some guard is due. -/
def Ready (w : Wait) (leaving : List Leaving) : Prop :=
  w.isEnded ∨ w.now < w.limit ∧ ∃ awake, w.stage = .waiting awake ∧
    (awake = false ∨ leaving.head?.any (·.due ≤ w.now))

theorem ready_look {w : Wait} {awake : Bool} (at_ : w.stage = .waiting awake)
    (leaving : List Leaving) : Ready w.look leaving := by
  rcases w.look_cases with ⟨_, ended, -⟩ |
    ⟨_, -, ⟨-, -, looked⟩ | ⟨-, ⟨-, looked⟩ | ⟨early, looked⟩⟩⟩
  · rw [at_] at ended
    cases ended
  · rw [looked]
    exact .inl rfl
  · rw [looked]
    exact .inl rfl
  · rw [looked]
    exact .inr ⟨early, false, rfl, .inl rfl⟩

theorem passes_pass {w : Wait} {leaving : List Leaving} (ready : Ready w leaving) :
    (∃ gone, leaving = gone ++ (pass w leaving).2 ∧ Passes w gone (pass w leaving).1) ∧
      (pass w leaving).1.isEnded := by
  induction leaving generalizing w with
  | nil =>
    unfold pass
    split
    next ended => exact ⟨⟨[], rfl, .refl w⟩, ended⟩
    next goesOn =>
      obtain ⟨early, awake, at_, rfl | ⟨⟨⟩⟩⟩ := ready.resolve_left goesOn
      obtain ⟨passes, ended⟩ := passes_to_limit at_ early
      exact ⟨⟨[], rfl, passes⟩, ended⟩
  | cons l rest ih =>
    unfold pass
    split
    next ended => exact ⟨⟨[], rfl, .refl w⟩, ended⟩
    next goesOn =>
      obtain ⟨early, awake, at_, free⟩ := ready.resolve_left goesOn
      replace free : awake = false ∨ l.due ≤ w.now := by simpa using free
      split
      next soon =>
        obtain ⟨passes, ⟨awake', at'⟩, early'⟩ := passes_to_next at_ early free soon
        dsimp only
        split
        next more =>
          obtain ⟨⟨gone, split, later⟩, ended⟩ := ih (.inr ⟨early', awake', at', .inr more⟩)
          exact ⟨⟨l :: gone, congrArg (List.cons l) split, passes.trans later⟩, ended⟩
        next =>
          obtain ⟨⟨gone, split, later⟩, ended⟩ := ih (ready_look at' rest)
          exact ⟨⟨l :: gone, congrArg (List.cons l) split, passes.look.trans later⟩, ended⟩
      next late =>
        have asleep : w.stage = .waiting false := by
          rcases free with rfl | due
          · exact at_
          · omega
        obtain ⟨passes, ended⟩ := passes_to_limit asleep early
        exact ⟨⟨[], rfl, passes⟩, ended⟩

/-- A wait on a timeline is late for nothing and comes to an end. Guards go that were set to, the
earliest first, and nothing else happens. -/
theorem passes_waitForDrain (t : Timeline) (tracker deadline : Nat) :
    ∃ gone w, t.leaving = gone ++ (t.waitForDrain tracker deadline).2.leaving ∧
      Passes (start t.trackers t.now tracker deadline) gone w ∧
      w.stage = .ended (t.waitForDrain tracker deadline).1 ∧
      w.trackers = (t.waitForDrain tracker deadline).2.trackers := by
  obtain ⟨⟨gone, split, passes⟩, ended⟩ :=
    passes_pass (ready_look (w := start t.trackers t.now tracker deadline) rfl t.leaving)
  refine ⟨gone, _, split, (Passes.refl _).look.trans passes, ?_, rfl⟩
  unfold waitForDrain
  dsimp only
  generalize (pass _ _).1 = w at ended
  cases at_ : w.stage with
  | waiting awake => simp [isEnded, at_] at ended
  | ended drained => cases drained <;> simp

end Timeline

end Funnel.Tracker
