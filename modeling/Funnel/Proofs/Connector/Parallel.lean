import Funnel.Proofs.Connector.Numbering
import Funnel.Proofs.Connector.Rest

/-! Who waits although the origin speaks HTTP/1.1. A call that looks at the state of the connections
then dials at once; but a call that asked for the permit before goes on waiting for it, behind the
dial of another. -/

namespace Funnel.Connector

/-! ### How a call comes to the queue -/

section Queue

variable {s : Connector} {i : Nat}

theorem queue_drop : (s.drop i).queue = s.queue := by
  unfold drop
  split
  · split
    · exact queue_notifyParked _
    · rfl
  · rfl

theorem mem_queue_of_cancel {j : Nat} {p : Phase} (h : j ∈ (s.cancel i p).queue) : j ∈ s.queue := by
  unfold cancel at h
  split at h
  · split at h
    · exact mem_queue_of_withdraw h
    · exact h
  · exact h

/-- A call joins the queue in its own turn only. -/
theorem mem_queue_of_step (sound : Sound s 1) {e : Event} (h : i ∈ (s.step e).queue) :
    i ∈ s.queue ∨ e = .turn i ∧ s.Asks := by
  cases e with
  | call d =>
    change i ∈ (wake _ _).queue at h
    rw [(idle_wake _ _).queue] at h
    exact .inl h
  | reject f => exact .inl h
  | turn k =>
    refine ((turn_opens sound).queue i h).imp id ?_
    rintro ⟨rfl, -, asks⟩
    exact ⟨rfl, asks⟩
  | drop k =>
    change i ∈ (s.drop k).queue at h
    rw [queue_drop] at h
    exact .inl h
  | abort k => exact .inl (mem_queue_of_cancel h)
  | wait span =>
    change i ∈ (s.fire (s.now + span)).queue at h
    rw [(alike_fire s _).queue] at h
    exact .inl h

end Queue

/-- A call that is in the queue after a run joined it in one of its turns and has stayed since. -/
theorem exists_turn_of_mem_queue (limit : Nat) (events : List Event) (i : Nat)
    (h : i ∈ ((new limit).run events).queue) :
    ∃ before after, events = before ++ .turn i :: after ∧ ((new limit).run before).Asks ∧
      ∀ later, later <+: after → i ∈ ((new limit).run (before ++ .turn i :: later)).queue := by
  induction events using List.reverseRecOn with
  | nil => cases h
  | append_singleton events e ih =>
    have stays := h
    rw [run_concat] at h
    rcases mem_queue_of_step (sound_run limit events) h with h | ⟨rfl, asks⟩
    · obtain ⟨before, after, rfl, asks, since⟩ := ih h
      refine ⟨before, after ++ [e], by simp, asks, fun later hl => ?_⟩
      rcases List.prefix_concat_iff.mp hl with rfl | hl
      · simpa using stays
      · exact since later hl
    · refine ⟨events, [], rfl, asks, fun later hl => ?_⟩
      rw [List.prefix_nil.mp hl]
      exact stays

/-- Connections that have been established are never forgotten. -/
theorem established_subset_run {s : Connector} (h : Sound s 1) (events : List Event) :
    s.established ⊆ (s.run events).established := by
  refine run_of_deeds (P := fun t => s.established ⊆ t.established) h (List.Subset.refl _)
    (fun d _ before => ?_) events
  obtain ⟨same, -⟩ | ⟨p, more, -⟩ := d.established
  · exact fun c hc => same.mem_iff.mpr (before hc)
  · exact fun c hc => more.mem_iff.mpr (List.mem_cons_of_mem _ (before hc))

/-! ### Overtaken by the protocol -/

/-- Call `i` asked for the permit when another call had it and the origin was not known to speak
HTTP/1.1, it has been in the queue ever since, and an HTTP/1.1 connection has come up meanwhile. -/
def Overtaken (limit : Nat) (events : List Event) (i : Nat) : Prop :=
  ∃ before after, events = before ++ .turn i :: after ∧
    ((new limit).run before).liveHttp2 = 0 ∧
    ¬ ((new limit).run before).Latest .http1 ∧
    ((new limit).run before).permits = 0 ∧
    (∀ later, later <+: after → i ∈ ((new limit).run (before ++ .turn i :: later)).queue) ∧
    ∃ n, (.http1, n) ∈ ((new limit).run events).established ∧
      (.http1, n) ∉ ((new limit).run before).established

theorem Overtaken.mem_queue {limit : Nat} {events : List Event} {i : Nat}
    (h : Overtaken limit events i) : i ∈ ((new limit).run events).queue := by
  obtain ⟨before, after, rfl, -, -, -, since, -⟩ := h
  exact since after (List.prefix_refl after)

/-- The protocol that is known now was not when the call joined the queue. -/
theorem overtaken_of_mem_queue {limit : Nat} {events : List Event} {i : Nat}
    (known : ((new limit).run events).Latest .http1)
    (h : i ∈ ((new limit).run events).queue) : Overtaken limit events i := by
  obtain ⟨before, after, rfl, ⟨live, unknown, taken⟩, since⟩ :=
    exists_turn_of_mem_queue limit events i h
  have sound := sound_run limit before
  have unknown : ¬ ((new limit).run before).Latest .http1 := by
    rw [(numbered_run limit before).latest_http1_iff, unknown]
    nofun
  refine ⟨before, after, rfl, sound.live.symm.trans live, unknown, taken, since, ?_⟩
  obtain ⟨n, hn, greatest⟩ := known
  refine ⟨n, hn, fun old => unknown ⟨n, old, fun c hc => greatest c ?_⟩⟩
  rw [run_append]
  exact established_subset_run sound _ hc

/-- Once every woken call has run, while no HTTP/2 connection is alive and the connection
established last speaks HTTP/1.1, a pending call dials, unless it was overtaken: then it goes on
waiting for the permit, behind the dial of another call. -/
theorem dials_iff_not_overtaken (limit : Nat) (events : List Event) (i : Nat)
    (rest : ((new limit).run events).AtRest) (none : ((new limit).run events).liveHttp2 = 0)
    (known : ((new limit).run events).Latest .http1)
    (pending : ((new limit).run events).pending i) :
    (Wait.dial.Of ((new limit).run events) i ↔ ¬ Overtaken limit events i) ∧
      (Wait.permit.Of ((new limit).run events) i ↔ Overtaken limit events i) := by
  have sound := sound_run limit events
  have dials_not_queued : Wait.dial.Of ((new limit).run events) i →
      i ∉ ((new limit).run events).queue := by
    rintro ⟨permit, due, dials, -⟩
    rw [sound.mem_queue, dials]
    nofun
  obtain ⟨w, hw⟩ := exists_wait sound (rests_of_atRest rest) pending
  cases w with
  | dial =>
    have free : ¬ Overtaken limit events i := fun waits => dials_not_queued hw waits.mem_queue
    exact ⟨iff_of_true hw free, iff_of_false (fun waits => dials_not_queued hw waits.1) free⟩
  | close => exact absurd none (Nat.ne_of_gt hw.2)
  | permit =>
    have waits := overtaken_of_mem_queue known hw.1
    exact ⟨iff_of_false (fun dials => dials_not_queued dials hw.1) (not_not_intro waits),
      iff_of_true hw waits⟩

/-- Three calls at once to an origin that speaks HTTP/1.1: after the first connection has told so,
the second call dials with the permit, and the third goes on waiting for it. -/
theorem third_call_overtaken :
    let d : Dial := ⟨some 20, .ok .http1⟩
    let events : List Event :=
      [.call d, .turn 0, .call d, .turn 1, .call d, .turn 2, .wait 20, .turn 0, .turn 1]
    let s := (new 5000).run events
    s.AtRest ∧ s.liveHttp2 = 0 ∧ s.Latest .http1 ∧ s.phase? 2 = some .queued ∧
      (Wait.dial.Of s 2 ↔ ¬ Overtaken 5000 events 2) ∧
      (Wait.permit.Of s 2 ↔ Overtaken 5000 events 2) :=
  have rest := atRest_of_woken (by decide)
  have known := ⟨1, by decide, by decide⟩
  ⟨rest, by decide, known, by decide,
    dials_iff_not_overtaken 5000 _ 2 rest (by decide) known (by decide)⟩

end Funnel.Connector
