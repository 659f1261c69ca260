import Funnel.Proofs.Connector.Numbering
import Funnel.Proofs.Connector.Turn

/-! Which dials are admitted. As long as the origin has never fallen back to HTTP/1.1, at most one
connection is being dialed or alive. In general, a dial begins only while no HTTP/2 connection is
alive, without the permit only after a fallback to HTTP/1.1, and the permit is never lost or
doubled. -/

namespace Funnel.Connector

/-! ### One connection for all -/

/-- No connection has fallen back to HTTP/1.1 so far. -/
def Http2Only (s : Connector) : Prop := ∀ c ∈ s.established, c.1 = .http2

instance (s : Connector) : Decidable s.Http2Only :=
  inferInstanceAs (Decidable (∀ c ∈ s.established, c.1 = .http2))

/-- All dials have the permit, and one connection at most is being dialed or alive. -/
structure FanIn (s : Connector) : Prop where
  permit : ∀ due, .dialing false due ∉ s.shown
  one : s.dialing + s.liveHttp2 ≤ 1

theorem Http2Only.not_http1 {s : Connector} (h : s.Http2Only) (numbered : Numbered s) :
    s.stats.speaksHttp1 = false := by
  by_contra known
  obtain ⟨n, hn, -⟩ := numbered.latest_http1_iff.mpr (by simpa using known)
  cases h _ hn

theorem Deed.http2Only {s s' : Connector} (d : Deed s s') (h : s'.Http2Only) : s.Http2Only := by
  obtain ⟨same, -⟩ | ⟨p, more, -⟩ := d.established
  · exact fun c hc => h c (same.mem_iff.mpr hc)
  · exact fun c hc => h c (more.mem_iff.mpr (List.mem_cons_of_mem _ hc))

/-- While all dials have the permit, there is one at most. -/
theorem dialing_le_one {s : Connector} (h : Sound s 1)
    (permit : ∀ due, .dialing false due ∉ s.shown) : s.dialing ≤ 1 := by
  have held : s.dialing ≤ s.count Phase.holdsPermit := by
    refine List.countP_mono_left fun p hp dials => ?_
    cases p with
    | dialing b due =>
      cases b with
      | true => rfl
      | false => exact absurd (List.mem_map_of_mem (f := Phase.shown) hp) (permit due)
    | _ => cases dials
  have := h.permits
  omega

/-- What a call adds to the dials and live HTTP/2 connections. -/
def Phase.weight (p : Phase) : Nat := p.isDialing.toNat + p.isLiveHttp2.toNat

theorem weight_set_le {ps : List Phase} {i : Nat} {p q : Phase} (hq : ps[i]? = some q)
    (h : p.weight ≤ q.weight) :
    (ps.set i p).countP Phase.isDialing + (ps.set i p).countP Phase.isLiveHttp2 ≤
      ps.countP Phase.isDialing + ps.countP Phase.isLiveHttp2 := by
  have dials := countP_set_add hq p Phase.isDialing
  have alive := countP_set_add hq p Phase.isLiveHttp2
  unfold Phase.weight at h
  omega

theorem not_mem_set {ps : List Phase} {i : Nat} {p : Phase}
    (h : ∀ due, .dialing false due ∉ ps) (hp : ∀ due, p ≠ .dialing false due) :
    ∀ due, .dialing false due ∉ ps.set i p := by
  intro due hd
  rcases List.mem_or_eq_of_mem_set hd with hd | hd
  · exact h due hd
  · exact hp due hd.symm

/-- A call that weighs no more than before leaves the sum where it was. -/
theorem FanIn.set {s s' : Connector} {i : Nat} {p q : Phase} (h : FanIn s)
    (at_ : s.shown[i]? = some q) (shown : s'.shown = s.shown.set i p)
    (hp : ∀ due, p ≠ .dialing false due) (weight : p.weight ≤ q.weight) : FanIn s' := by
  have one := h.one
  rw [dialing_eq, liveHttp2_eq] at one
  refine ⟨shown ▸ not_mem_set h.permit hp, ?_⟩
  rw [dialing_eq, liveHttp2_eq, shown]
  exact (weight_set_le at_ weight).trans one

/-- A dial that begins with the permit is alone: no other dial has it, and nothing is alive. -/
theorem FanIn.begin {s s' : Connector} {i : Nat} {due : Option Nat} (h : FanIn s)
    (sound : Sound s' 1) (shown : s'.shown = s.shown.set i (.dialing true due))
    (live : s'.stats.liveMultiplexed = 0) : FanIn s' := by
  have permits : ∀ due, .dialing false due ∉ s'.shown := by
    rw [shown]
    exact not_mem_set h.permit nofun
  have alone := dialing_le_one sound permits
  have none : s'.liveHttp2 = 0 := sound.live.symm.trans live
  exact ⟨permits, by omega⟩

theorem FanIn.comes {s s' : Connector} {p : Phase} (h : FanIn s) (shown : s'.shown = s.shown ++ [p])
    (fresh : p = .fresh ∨ ∃ f, p = .failed f) : FanIn s' := by
  have one := h.one
  rw [dialing_eq, liveHttp2_eq] at one
  refine ⟨fun due hd => ?_, ?_⟩
  · rw [shown, List.mem_append, List.mem_singleton] at hd
    rcases hd with hd | hd
    · exact h.permit due hd
    · obtain rfl | ⟨f, rfl⟩ := fresh <;> cases hd
  · rw [dialing_eq, liveHttp2_eq, shown, List.countP_append, List.countP_append]
    obtain rfl | ⟨f, rfl⟩ := fresh <;> exact one

theorem Deed.fanIn {s s' : Connector} (d : Deed s s') (sound : Sound s' 1) (numbered : Numbered s)
    (h : s.Http2Only → FanIn s) (only : s'.Http2Only) : FanIn s' := by
  have before := h (d.http2Only only)
  have unknown := (d.http2Only only).not_http1 numbered
  cases d with
  | waits shown =>
    refine ⟨shown ▸ before.permit, ?_⟩
    have one := before.one
    rw [dialing_eq, liveHttp2_eq] at one ⊢
    rwa [shown]
  | @begins i permit due at_ live http1 shown stats =>
    cases permit with
    | false => cases unknown.symm.trans (http1 rfl)
    | true => exact before.begin sound shown ((congrArg Stats.liveMultiplexed stats).trans live)
  | @establishes i permit due p at_ shown =>
    refine before.set at_ shown nofun ?_
    cases p <;> simp [Phase.weight, Phase.isDialing, Phase.isLiveHttp2]
  | fails at_ pending ends shown =>
    obtain rfl | rfl | ⟨f, rfl⟩ := ends <;> exact before.set at_ shown nofun (Nat.zero_le _)
  | closes at_ shown => exact before.set at_ shown nofun (Nat.zero_le _)
  | comes fresh shown => exact before.comes shown fresh

theorem fanIn_run (limit : Nat) (events : List Event) :
    ((new limit).run events).Http2Only → FanIn ((new limit).run events) := by
  have first : FanIn (new limit) := ⟨by simp [new, shown, phases], Nat.zero_le _⟩
  refine (run_of_deeds (P := fun s => Numbered s ∧ (s.Http2Only → FanIn s)) (sound_new limit)
    ⟨numbered_new limit, fun _ => first⟩ ?_ events).2
  exact fun d sound h => ⟨d.numbered h.1, d.fanIn sound h.1 h.2⟩

/-- As long as no connection has fallen back to HTTP/1.1, at most one connection is being dialed or
alive at any time, whatever happens in whatever order. -/
theorem dialing_add_liveHttp2_le_one (limit : Nat) (events : List Event)
    (only : ((new limit).run events).Http2Only) :
    ((new limit).run events).dialing + ((new limit).run events).liveHttp2 ≤ 1 :=
  (fanIn_run limit events only).one

/-- Three calls share a connection; when it goes, one of the two that waited is given up, and the
other dials. -/
theorem dialing_add_liveHttp2_after_drop :
    let d : Dial := ⟨some 20, .ok .http2⟩
    let s := (new 5000).run [.call d, .call d, .call d, .turn 0, .turn 1, .turn 2, .wait 20,
      .turn 0, .turn 1, .turn 2, .drop 0, .turn 2, .abort 1]
    s.Http2Only ∧ s.dialing + s.liveHttp2 ≤ 1 :=
  ⟨by decide, dialing_add_liveHttp2_le_one 5000 _ (by decide)⟩

/-! ### When a dial begins -/

theorem starts_cancel (s : Connector) (i : Nat) (p : Phase) :
    (s.cancel i p).starts = s.starts := by
  unfold cancel
  split
  · split
    · exact starts_withdraw s i _
    · rfl
  · rfl

/-- A dial begins in the turn of its call only. -/
theorem step_begins {s : Connector} (h : Sound s 1) (e : Event) :
    (s.step e).starts = s.starts ∨ ∃ i, e = .turn i ∧ s.Begins i (s.step e) := by
  cases e with
  | call d => exact .inl (idle_wake _ _).starts
  | reject f => exact .inl rfl
  | turn i => exact (turn_opens h).starts.imp id fun ⟨_, begins⟩ => ⟨i, rfl, begins⟩
  | drop i => exact .inl (starts_drop s i)
  | abort i => exact .inl (starts_cancel s i .aborted)
  | wait span => exact .inl (alike_fire s _).starts

/-- Every dial in progress has begun, with the permit or without as it is now. -/
def Started (s : Connector) : Prop :=
  ∀ i permit due, s.shown[i]? = some (.dialing permit due) → ∃ t, ⟨i, t, permit⟩ ∈ s.starts

theorem Deed.started {s s' : Connector} (d : Deed s s') (h : Started s) : Started s' := by
  -- A call that comes to a phase other than dialing takes nothing from the dials of the others.
  have settles {i : Nat} {p q : Phase} (at_ : s.shown[i]? = some q)
      (shown : s'.shown = s.shown.set i p) (starts : s'.starts = s.starts)
      (hp : ∀ permit due, p ≠ .dialing permit due) : Started s' := by
    intro j permit due hj
    rw [shown, getElem?_set_of_eq at_] at hj
    rw [starts]
    split at hj
    · exact absurd (Option.some.inj hj) (hp permit due)
    · exact h j permit due hj
  cases d with
  | waits shown stats starts =>
    intro j permit due hj
    rw [starts]
    exact h j permit due (shown ▸ hj)
  | @begins i held until_ at_ live http1 shown stats starts =>
    intro j permit due hj
    rw [shown, getElem?_set_of_eq at_] at hj
    rw [starts]
    split at hj
    · subst j
      cases hj
      exact ⟨s.now, by simp⟩
    · obtain ⟨t, ht⟩ := h j permit due hj
      exact ⟨t, List.mem_append_left _ ht⟩
  | establishes at_ shown stats starts => exact settles at_ shown starts nofun
  | fails at_ pending ends shown stats starts =>
    obtain rfl | rfl | ⟨f, rfl⟩ := ends <;> exact settles at_ shown starts nofun
  | closes at_ shown stats starts => exact settles at_ shown starts nofun
  | comes fresh shown stats starts =>
    intro j permit due hj
    rw [shown, List.getElem?_append] at hj
    rw [starts]
    split at hj
    · exact h j permit due hj
    · rw [List.getElem?_singleton] at hj
      obtain rfl | ⟨f, rfl⟩ := fresh <;> split at hj <;> cases hj

theorem started_run (limit : Nat) (events : List Event) : Started ((new limit).run events) :=
  run_of_deeds (P := Started) (sound_new limit) (by simp [Started, new, shown, phases])
    (fun d _ h => d.started h) events

theorem dialsWithPermit_le_one {s : Connector} (h : Sound s 1) :
    s.count Phase.dialsWithPermit ≤ 1 := by
  have held : s.count Phase.dialsWithPermit ≤ s.count Phase.holdsPermit := by
    refine List.countP_mono_left fun p _ dials => ?_
    cases p with
    | dialing permit due => cases permit <;> first | rfl | cases dials
    | _ => cases dials
  have := h.permits
  omega

/-- The rules of admission, in every state and for every step from it. A step begins one dial at
most, in the turn of its call, while no HTTP/2 connection is alive, and without the permit only if
the connection established last speaks HTTP/1.1; every dial in progress has begun in this way. One
dial in progress at most has the permit, and the permit is with nobody, with a dial, or with a call
that was handed it. -/
theorem dials_admitted (limit : Nat) (events : List Event) (e : Event) :
    let s := (new limit).run events
    ((s.step e).starts = s.starts ∨
      ∃ b : Start, (s.step e).starts = s.starts ++ [b] ∧ e = .turn b.call ∧ s.liveHttp2 = 0 ∧
        (b.permit = false → s.Latest .http1)) ∧
    (∀ i permit due, s.phase? i = some (.dialing permit due) → ∃ t, ⟨i, t, permit⟩ ∈ s.starts) ∧
    s.count Phase.dialsWithPermit ≤ 1 ∧
    s.permits + s.count Phase.holdsPermit = 1 := by
  intro s
  have sound : Sound s 1 := sound_run limit events
  have numbered : Numbered s := numbered_run limit events
  refine ⟨?_, ?_, dialsWithPermit_le_one sound, sound.permits⟩
  · refine (step_begins sound e).imp id ?_
    rintro ⟨i, rfl, permit, starts, live, http1⟩
    refine ⟨⟨i, s.now, permit⟩, starts, rfl, sound.live.symm.trans live, fun free => ?_⟩
    exact numbered.latest_http1_iff.mpr (http1 free)
  · intro i permit due at_
    exact started_run limit events i permit due (shown_of_phase? at_)

end Funnel.Connector
