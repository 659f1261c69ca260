import Funnel.Proofs.Connector.Admission
import Funnel.Proofs.Connector.Tended

/-! The course of a call: it waits, dials once, and comes to the result of its dial if that is there
in time; otherwise its deadline passes. -/

namespace Funnel.Connector

/-- What the dial of the call has come to. -/
def Phase.result? : Phase → Option (Except Fault Protocol)
  | live p _ | dropped p _ => some (.ok p)
  | failed f => some (.error f)
  | _ => none

/-! ### Dials that have begun -/

/-- No call that still waits has begun to dial. -/
def Begun (s : Connector) : Prop := ∀ b ∈ s.starts, ∃ p, s.shown[b.call]? = some p ∧ p ≠ .fresh

theorem Deed.begun {s s' : Connector} (d : Deed s s') (h : Begun s) : Begun s' := by
  have set {i : Nat} {p q : Phase} (at_ : s.shown[i]? = some q) (shown : s'.shown = s.shown.set i p)
      (hp : p ≠ .fresh) (b : Start) (hb : b ∈ s.starts ∨ b.call = i) :
      ∃ p, s'.shown[b.call]? = some p ∧ p ≠ .fresh := by
    rw [shown, getElem?_set_of_eq at_]
    split
    · exact ⟨p, rfl, hp⟩
    · rename_i other
      exact h b (hb.resolve_right other)
  intro b hb
  cases d with
  | waits shown stats starts =>
    rw [shown]
    exact h b (starts ▸ hb)
  | begins at_ live http1 shown stats starts =>
    refine set at_ shown nofun b ?_
    rw [starts, List.mem_append, List.mem_singleton] at hb
    exact hb.imp id fun same => congrArg Start.call same
  | establishes at_ shown stats starts => exact set at_ shown nofun b (.inl (starts ▸ hb))
  | fails at_ pending ends shown stats starts =>
    obtain rfl | rfl | ⟨f, rfl⟩ := ends <;> exact set at_ shown nofun b (.inl (starts ▸ hb))
  | closes at_ shown stats starts => exact set at_ shown nofun b (.inl (starts ▸ hb))
  | comes fresh shown stats starts =>
    obtain ⟨p, hp, begun⟩ := h b (starts ▸ hb)
    have bound := (List.getElem?_eq_some_iff.mp hp).1
    exact ⟨p, by rw [shown, List.getElem?_append_left bound, hp], begun⟩

theorem not_started_of_fresh {limit : Nat} {events : List Event} {i : Nat}
    (fresh : ((new limit).run events).phase? i = some .fresh) :
    ∀ b ∈ ((new limit).run events).starts, b.call ≠ i := by
  have begun : Begun ((new limit).run events) :=
    run_of_deeds (P := Begun) (sound_new limit) nofun (fun d _ h => d.begun h) events
  rintro b hb rfl
  obtain ⟨p, hp, other⟩ := begun b hb
  exact other (Option.some.inj (hp.symm.trans (shown_of_phase? fresh)))

/-! ### How a call goes on -/

/-- Call `i`, which will dial like `d`, goes on towards the result of its dial, if that comes by the
deadline. -/
inductive Course (s : Connector) (i : Nat) (d : Dial) (deadline : Nat) : Phase → Prop
  | waits {p : Phase} (waits : p.shown = .fresh) (none : ∀ b ∈ s.starts, b.call ≠ i) :
      Course s i d deadline p
  | dials {permit : Bool} {due : Option Nat}
      (starts : ∀ b ∈ s.starts, b.call = i → due = d.takes.map (b.time + ·)) :
      Course s i d deadline (.dialing permit due)
  | ends {p : Phase} (result : p.result? = some d.result)
      (starts : ∀ b ∈ s.starts, b.call = i → ∃ n, d.takes = some n ∧ b.time + n ≤ deadline) :
      Course s i d deadline p

/-- Moreover, the deadline may have passed, if the result was not to come by then, or the call was
given up. -/
inductive Fits (s : Connector) (i : Nat) (d : Dial) (deadline : Nat) : Phase → Prop
  | course {p : Phase} (course : Course s i d deadline p) : Fits s i d deadline p
  | expires (late : ∀ b ∈ s.starts, b.call = i → ∀ n, d.takes = some n → deadline < b.time + n) :
      Fits s i d deadline .expired
  | aborts : Fits s i d deadline .aborted

section Course

variable {s s' : Connector} {i deadline : Nat} {d : Dial} {p q : Phase}

theorem Course.of_starts (h : Course s i d deadline p)
    (starts : ∀ b ∈ s'.starts, b.call = i → b ∈ s.starts) : Course s' i d deadline p := by
  cases h with
  | waits waits none => exact .waits waits fun b hb own => none b (starts b hb own) own
  | dials dials => exact .dials fun b hb own => dials b (starts b hb own) own
  | ends result ends => exact .ends result fun b hb own => ends b (starts b hb own) own

theorem Fits.of_starts (h : Fits s i d deadline p)
    (starts : ∀ b ∈ s'.starts, b.call = i → b ∈ s.starts) : Fits s' i d deadline p := by
  cases h with
  | course course => exact .course (course.of_starts starts)
  | expires late => exact .expires fun b hb own => late b (starts b hb own) own
  | aborts => exact .aborts

/-- Call `i` is in a phase that fits its course. -/
def Courses (s : Connector) (i : Nat) (d : Dial) (deadline : Nat) : Prop :=
  ∃ p, s.phase? i = some p ∧ Course s i d deadline p

theorem course_finish {permit : Bool} {t : Nat} (h : Sound s 1)
    (at_ : s.phase? i = some (.dialing permit (some t)))
    (starts : ∀ b ∈ s.starts, b.call = i → some t = d.takes.map (b.time + ·))
    (inTime : t ≤ deadline) : (s.finish i permit d.result).Courses i d deadline := by
  refine ⟨_, phase?_finish h at_ d.result, .ends ?_ fun b hb own => ?_⟩
  · cases d.result <;> rfl
  · rw [starts_finish] at hb
    obtain ⟨n, takes, due⟩ := Option.map_eq_some_iff.mp (starts b hb own).symm
    exact ⟨n, takes, due ▸ inTime⟩

theorem course_finishIfDue {permit : Bool} {due : Option Nat} (h : Sound s 1)
    (at_ : s.phase? i = some (.dialing permit due))
    (starts : ∀ b ∈ s.starts, b.call = i → due = d.takes.map (b.time + ·))
    (inTime : s.now ≤ deadline) : (s.finishIfDue i permit due d).Courses i d deadline := by
  cases due with
  | none => exact ⟨_, at_, .dials starts⟩
  | some t =>
    simp only [finishIfDue]
    split
    · exact course_finish h at_ starts (by omega)
    · exact ⟨_, at_, .dials starts⟩

theorem course_startDial {permit : Bool} (at_ : s.phase? i = some q)
    (h : Sound (s.markDialing i permit (d.takes.map (s.now + ·))) 1)
    (none : ∀ b ∈ s.starts, b.call ≠ i) (inTime : s.now ≤ deadline) :
    (s.startDial i permit d).Courses i d deadline := by
  have same := idle_watchDial (s.markDialing i permit (d.takes.map (s.now + ·))) i
    (d.takes.map (s.now + ·))
  refine course_finishIfDue (h.alike same.toAlike) ?_ (fun b hb own => ?_) ?_
  · rw [same.phase?, phase?_eq, phases_markDialing,
      getElem?_set_of_eq ((phase?_eq s i).symm.trans at_), if_pos rfl]
  · rw [same.starts] at hb
    rcases List.mem_append.mp hb with old | new
    · exact absurd own (none b old)
    · rw [List.mem_singleton.mp new]
  · rw [same.now]
    exact inTime

theorem course_enter (h : Sound s 1) (at_ : s.phase? i = some q) (enters : q.isEntering)
    (none : ∀ b ∈ s.starts, b.call ≠ i) (inTime : s.now ≤ deadline) :
    (s.enter i d).Courses i d deadline := by
  unfold enter
  split
  · exact ⟨.parked, (phase?_setPhase (s := { s with parked := _ }) at_ _ i).trans (if_pos rfl),
      .waits rfl none⟩
  rename_i live
  have live : s.stats.liveMultiplexed = 0 := not_not.mp live
  split
  · exact course_startDial at_ ((Move.dialFreely at_ enters _ live ‹_›).sound h) none inTime
  rename_i unknown
  have unknown : s.stats.speaksHttp1 = false := by simpa using unknown
  split
  · exact course_startDial (s := { s with permits := s.permits - 1 }) at_
      ((Move.dialTaking at_ enters _ live unknown ‹_›).sound h) none inTime
  · exact ⟨.queued, (phase?_setPhase (s := { s with queue := _ }) at_ _ i).trans (if_pos rfl),
      .waits rfl none⟩

theorem course_resume {c : Call} (h : Sound s 1) (at_ : s.phase? i = some c.phase)
    (course : Course s i c.dial deadline c.phase) (inTime : s.now ≤ deadline) :
    (s.resume i c).Courses i c.dial deadline := by
  have none (waits : c.phase.isReady) : ∀ b ∈ s.starts, b.call ≠ i := by
    generalize c.phase = p at course waits
    cases course with
    | waits _ none => exact none
    | dials => cases waits
    | ends result => cases p <;> first | cases result | cases waits
  have stays : s.Courses i c.dial deadline := ⟨_, at_, course⟩
  unfold resume
  cases hc : c.phase with
  | fresh | notified =>
    exact course_enter h (at_.trans (congrArg some hc)) rfl (none (by rw [hc]; rfl)) inTime
  | granted =>
    rw [hc] at at_
    simp only
    split
    · exact course_startDial at_ ((Move.dialGranted at_ _ ‹_›).sound h) (none (by rw [hc]; rfl))
        inTime
    · refine ⟨.parked, ?_, .waits rfl ?_⟩
      · exact (phase?_setPhase (h.phase?_giveBack at_ nofun) _ i).trans (if_pos rfl)
      · show ∀ b ∈ s.giveBack.starts, b.call ≠ i
        rw [starts_giveBack]
        exact none (by rw [hc]; rfl)
  | dialing permit due =>
    rw [hc] at at_ course
    cases course with
    | waits waits => cases waits
    | dials starts => exact course_finishIfDue h at_ starts inTime
    | ends result => cases result
  | _ => exact stays

theorem phase?_cancel (at_ : s.phase? i = some q) (pending : q.isPending) (p : Phase) :
    (s.cancel i p).phase? i = some p := by
  have there : ((s.withdraw i q).phase? i).isSome := by
    have given : (s.giveBack.phase? i).isSome := by
      rw [phase?_giveBack_eq, at_]
      split <;> rfl
    have kept : (s.phase? i).isSome := by rw [at_]; rfl
    unfold withdraw
    split <;> first | exact given | exact kept
  obtain ⟨r, hr⟩ := Option.isSome_iff_exists.mp there
  unfold cancel
  rw [at_]
  simp only [pending, if_true]
  rw [phase?_setPhase hr, if_pos rfl]

theorem Course.of_pending (h : Fits s i d deadline p) (pending : p.isPending) :
    Course s i d deadline p := by
  cases h with
  | course course => exact course
  | expires | aborts => cases pending

/-- The deadline passes only as it comes, and only if the dial's result is not there. -/
theorem fits_expire (done : Done s i) (course : s.Courses i d deadline)
    (fixed : s.deadline? i = some deadline) :
    ∃ p, (s.expire i).phase? i = some p ∧ Fits (s.expire i) i d deadline p ∧
      (p = .expired → deadline ≤ s.now) := by
  obtain ⟨p, at_, course⟩ := course
  have stays : ∃ p, s.phase? i = some p ∧ Fits s i d deadline p ∧
      (p = .expired → deadline ≤ s.now) := by
    refine ⟨p, at_, .course course, ?_⟩
    rintro rfl
    cases course with
    | waits waits => cases waits
    | ends result => cases result
  unfold expire
  rw [show s.calls[i]?.bind (·.deadline) = some deadline from fixed]
  simp only
  split
  · rename_i past
    by_cases pending : p.isPending
    · refine ⟨.expired, phase?_cancel at_ pending _, .expires fun b hb own n takes => ?_,
        fun _ => past⟩
      rw [starts_cancel] at hb
      cases course with
      | waits _ none => exact absurd own (none b hb)
      | dials starts =>
        have due := starts b hb own
        rw [takes] at due
        have future := (done.dial _ (b.time + n) (at_.trans (by rw [due]; rfl))).1
        omega
      | ends result => cases p <;> first | cases result | cases pending
    · have same : s.cancel i .expired = s := by
        unfold cancel
        rw [at_]
        simp only [pending]
        rfl
      rw [same]
      exact stays
  · exact stays

/-- A turn of a call that has not come to its end. -/
theorem fits_turn {c : Call} (h : Sound s 1) (tended : Tended s i) (hc : s.calls[i]? = some c)
    (course : Course s i c.dial deadline c.phase)
    (fixed : (s.atTurn i).deadline? i = some deadline) (inTime : s.now ≤ deadline) :
    ∃ p, (s.turn i).phase? i = some p ∧ Fits (s.turn i) i c.dial deadline p ∧
      (p = .expired → deadline ≤ s.now) := by
  have at_ : s.phase? i = some c.phase := by simp [phase?, hc]
  have same := alike_atTurn s i
  have at' := (same.phase? i).trans at_
  have done := done_turn h tended hc
  have spared := Moves.spares (resume_moves c at') (h.alike same)
  have resumed : ((s.atTurn i).resume i c).Courses i c.dial deadline := by
    refine course_resume (h.alike same) at' (course.of_starts fun b hb _ => ?_) ?_
    · exact same.starts ▸ hb
    · rw [now_atTurn]
      exact inTime
  have deadline' := (spared.deadline i).trans fixed
  have now : ((s.atTurn i).resume i c).now = s.now := spared.now.trans (now_atTurn s i)
  rw [turn_eq hc]
  split
  · have watched := idle_watch ((s.atTurn i).resume i c) i
    rw [← now, ← watched.now]
    obtain ⟨p, hp, course⟩ := resumed
    refine fits_expire (watched.done done) ⟨p, (watched.phase? i).trans hp, ?_⟩
      ((watched.deadline i).trans deadline')
    exact course.of_starts fun b hb _ => watched.starts ▸ hb
  · rw [← now]
    exact fits_expire done resumed deadline'

end Course

end Funnel.Connector
