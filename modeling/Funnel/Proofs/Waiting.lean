import Funnel.Waiting
import Mathlib.Data.List.Induction
import Mathlib.Logic.Function.Iterate

/-! No wake-up is lost: whenever the count is zero, whoever sleeps is about to be notified. What
carries the proof is that a waiter asks before it reads: having read more than zero, it hears of the
notification that the last holder sends, however the steps of all others fall between its own. -/

namespace Funnel.Waiting

namespace Waiter

/-- It read more than zero, has not been notified since it asked, and sleeps or goes to sleep. -/
def isUntold : Waiter → Bool
  | sleep false | asleep => true
  | _ => false

theorem isUntold_notified (w : Waiter) : w.notified.isUntold = false := by
  cases w <;> rfl

theorem isUntold_giveUp (w : Waiter) : w.giveUp.isUntold = false := by
  cases w <;> rfl

/-- While the count is zero, no step of its own makes a waiter one that has to be told. -/
theorem isUntold_next (g : Goal) {w : Waiter} (h : w.isUntold = false) :
    (w.next g 0).isUntold = false := by
  cases w with
  | ask => cases g <;> rfl
  | sleep notified => cases notified <;> first | rfl | cases h
  | asleep => cases h
  | _ => rfl

end Waiter

/-- The count is that of the holders that have not let go, and once it is zero, everybody is told
who has to be, or is about to be. -/
structure Sound (s : Waiting) : Prop where
  count : s.count = s.holders.count .release
  told : s.count = 0 → .notify ∉ s.holders → ∀ w ∈ s.waiters, w.isUntold = false

theorem sound_new (g : Goal) : Sound (new g) := ⟨rfl, fun _ _ => nofun⟩

theorem forall_mem_modify {α : Type} {P : α → Prop} {f : α → α} {l : List α} (i : Nat)
    (hf : ∀ a, P a → P (f a)) (h : ∀ a ∈ l, P a) : ∀ a ∈ l.modify i f, P a := by
  intro a ha
  obtain ⟨j, hj⟩ := List.mem_iff_getElem?.mp ha
  rw [List.getElem?_modify] at hj
  obtain ⟨b, hb, rfl⟩ := Option.map_eq_some_iff.mp hj
  have := h b (List.mem_of_getElem? hb)
  split
  · exact hf b this
  · exact this

namespace Sound

variable {s : Waiting}

theorem newWaiter (h : Sound s) : Sound (s.step .newWaiter) where
  count := h.count
  told zero quiet w hw := by
    rcases List.mem_append.mp hw with hw | hw
    · exact h.told zero quiet w hw
    · rw [List.mem_singleton.mp hw]
      rfl

/-- A new holder raises the count, if it holds anything. -/
theorem addHolder (h : Sound s) (p : Protocol) : Sound (s.addHolder p) := by
  unfold Waiting.addHolder
  split
  · exact ⟨by simp [h.count], fun zero => nomatch zero⟩
  · refine ⟨by simp [h.count], fun zero quiet => h.told zero fun hn => quiet ?_⟩
    exact List.mem_append_left _ hn

/-- A waiter has to be told only if it read more than zero. -/
theorem waiter (h : Sound s) (i : Nat) : Sound (s.step (.waiter i)) where
  count := h.count
  told (zero : s.count = 0) quiet := by
    change ∀ w ∈ s.waiters.modify i (Waiter.next s.goal s.count), _
    rw [zero]
    exact forall_mem_modify i (fun _ => Waiter.isUntold_next s.goal) (h.told zero quiet)

theorem giveUp (h : Sound s) (i : Nat) : Sound (s.step (.giveUp i)) where
  count := h.count
  told zero quiet := forall_mem_modify i (fun w _ => w.isUntold_giveUp) (h.told zero quiet)

/-- Whoever takes off the last one is to notify from then on. -/
theorem release (h : Sound s) {i : Nat} (hi : s.holders[i]? = some .release) :
    Sound { s with
      count := s.count - 1
      holders := s.holders.set i (if s.count = 1 then .notify else .done) } := by
  obtain ⟨lt, at_⟩ := List.getElem?_eq_some_iff.mp hi
  have pos : 0 < s.holders.count .release :=
    List.count_pos_iff.mpr (at_ ▸ List.getElem_mem lt)
  have count := h.count
  refine ⟨?_, fun zero quiet => ?_⟩
  · rw [List.count_set lt, at_]
    split <;> simp [count]
  · have one : s.count = 1 := by
      change s.count - 1 = 0 at zero
      omega
    rw [if_pos one] at quiet
    exact absurd (List.mem_set lt _) quiet

/-- After a notification nobody has to be told any more. -/
theorem notify (h : Sound s) {i : Nat} (hi : s.holders[i]? = some .notify) :
    Sound { s with
      waiters := s.waiters.map Waiter.notified, holders := s.holders.set i .done } := by
  obtain ⟨lt, at_⟩ := List.getElem?_eq_some_iff.mp hi
  refine ⟨by simp [List.count_set lt, at_, h.count], fun _ _ w hw => ?_⟩
  obtain ⟨v, -, rfl⟩ := List.mem_map.mp hw
  exact v.isUntold_notified

theorem leave (h : Sound s) {i : Nat} (hi : s.holders[i]? = some .leave) :
    Sound { s with holders := s.holders.set i .done } := by
  obtain ⟨lt, at_⟩ := List.getElem?_eq_some_iff.mp hi
  refine ⟨by simp [List.count_set lt, at_, h.count], fun zero quiet => h.told zero fun hn => ?_⟩
  obtain ⟨j, hj⟩ := List.mem_iff_getElem?.mp hn
  have ne : i ≠ j := by
    rintro rfl
    cases hi.symm.trans hj
  exact quiet (List.mem_of_getElem? ((List.getElem?_set_ne ne).trans hj))

theorem holder (h : Sound s) (i : Nat) : Sound (s.stepHolder i) := by
  unfold stepHolder
  split
  next hi => exact h.release hi
  next hi => exact h.notify hi
  next hi => exact h.leave hi
  next => exact h

theorem step (h : Sound s) (e : Event) : Sound (s.step e) := by
  cases e with
  | newWaiter => exact h.newWaiter
  | newHolder p => exact h.addHolder p
  | waiter i => exact h.waiter i
  | holder i => exact h.holder i
  | giveUp i => exact h.giveUp i

end Sound

theorem sound_run (g : Goal) (events : List Event) : Sound ((new g).run events) := by
  induction events using List.reverseRecOn with
  | nil => exact sound_new g
  | append_singleton events e ih =>
    rw [run, List.foldl_append]
    exact ih.step e

end Funnel.Waiting
