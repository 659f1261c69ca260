import Funnel.Proofs.Connector.Rest

/-! Runs in which the clock is not ahead of the calls: it goes on only once every woken call has
run, and not past a timer. In such a run no call still waits for a time that is past. -/

namespace Funnel.Connector

/-- Time passes only at rest, and at most until the next timer. -/
def InTime (s : Connector) : Event → Prop
  | .wait span => s.AtRest ∧ ∀ t ∈ s.timers, s.now + span ≤ t.due
  | _ => True

def Punctual (s : Connector) : List Event → Prop
  | [] => True
  | e :: rest => s.InTime e ∧ (s.step e).Punctual rest

theorem punctual_append (s : Connector) (events more : List Event) :
    s.Punctual (events ++ more) ↔ s.Punctual events ∧ (s.run events).Punctual more := by
  induction events generalizing s with
  | nil => simp [Punctual, run]
  | cons e events ih =>
    rw [List.cons_append, Punctual, ih, Punctual, and_assoc]
    rfl

theorem punctual_concat (s : Connector) (events : List Event) (e : Event) :
    s.Punctual (events ++ [e]) ↔ s.Punctual events ∧ (s.run events).InTime e := by
  rw [punctual_append, Punctual, Punctual, and_true]

/-- What a call waits for after a step, it waited for before, or it is still to come. -/
theorem awaits_of_step {s : Connector} {j t : Nat} (h : Sound s 1) (tended : ∀ j, Tended s j)
    (e : Event) (awaits : (s.step e).Awaits j t) : s.Awaits j t ∨ (s.step e).now < t := by
  cases e with
  | call d =>
    by_cases hj : j = s.calls.length
    · exact absurd (hj ▸ awaits) (not_awaits_call s d t)
    · exact .inl ((spares_call s d).awaits hj awaits)
  | reject f =>
    by_cases hj : j = s.calls.length
    · exact .inr ((hj ▸ rests_reject s f : Rests _ j).watches t awaits).1
    · exact .inl ((spares_concat s rfl).awaits hj awaits)
  | turn i =>
    by_cases hj : j = i
    · subst hj
      exact .inr ((rests_turn h (tended j)).watches t awaits).1
    · have spared := Moves.spares turn_moves (h.alike (alike_atTurn s i))
      exact .inl (awaits_atTurn hj (spared.awaits hj awaits))
  | drop i =>
    by_cases hj : j = i
    · subst hj
      by_cases live : ∃ p number, s.phase? j = some (.live p number)
      · obtain ⟨p, number, at_⟩ := live
        exact .inr ((Rests.of_phase (phase?_drop h at_) rfl).watches t awaits).1
      · rw [step, drop_eq_self fun p number at_ => live ⟨p, number, at_⟩] at awaits
        exact .inl awaits
    · exact .inl ((spares_drop h).awaits hj awaits)
  | abort i =>
    by_cases hj : j = i
    · subst hj
      exact absurd (pending_of_awaits awaits) (not_pending_cancel s j rfl)
    · have spared : Spares i s (s.abort i) := Moves.spares (cancel_moves (.inr rfl)) h
      exact .inl (spared.awaits hj awaits)
  | wait span =>
    have same := idle_fire s (s.now + span)
    rw [step, Awaits, pending, same.phase?, same.deadline] at awaits
    exact .inl awaits

/-- Nobody still waits for what is past. -/
theorem now_le_of_awaits {limit : Nat} {events : List Event} {i t : Nat}
    (punctual : (new limit).Punctual events) (awaits : ((new limit).run events).Awaits i t) :
    ((new limit).run events).now ≤ t := by
  induction events using List.reverseRecOn with
  | nil => exact Nat.zero_le t
  | append_singleton events e ih =>
    obtain ⟨before, inTime⟩ := (punctual_concat _ events e).mp punctual
    have sound := sound_run limit events
    rw [run_concat] at awaits ⊢
    rcases awaits_of_step sound (tended_run limit events) e awaits with old | future
    · by_cases time : ∃ span, e = .wait span
      · obtain ⟨span, rfl⟩ := time
        have timer := ((rests_of_atRest inTime.1 i).watches t old).2
        rw [step, (idle_fire _ _).now]
        exact inTime.2 _ timer
      · rw [now_step sound fun span he => time ⟨span, he⟩]
        exact ih before old
    · exact Nat.le_of_lt future

end Funnel.Connector
