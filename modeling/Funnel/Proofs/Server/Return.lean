import Funnel.Proofs.Server.Stop
import Mathlib.Order.Bounds.Basic

/-! When a stopped server returns: as it looks, and finds no connection open or its grace period
over. If nothing is late, that is at the earlier of the two times. -/

namespace Funnel.Server

section Return

variable {s : Server} {since : Nat} {past : List Event} {e : Event}

/-- Time passes only while the server has nothing to do, and not past the end of its grace
period. -/
def isInTime (s : Server) : Event → Bool
  | .advance span =>
    match s.stage with
    | .draining since awake => !awake && s.now + span ≤ since + s.grace
    | _ => true
  | _ => true

/-- The server is not late for anything. -/
def isPunctual (s : Server) : List Event → Bool
  | [] => true
  | e :: rest => s.isInTime e && (s.step e).isPunctual rest

end Return

section Timely

variable {s₀ s : Server} {since : Nat} {events : List Event} {e : Event}

theorem now_step (quiet : s.stage.isListening = false) (h : ∀ span, e ≠ .advance span) :
    (s.step e).now = s.now := by
  cases e with
  | look => exact s.look_frame.2.1
  | run id => rfl
  | finish id => exact (s.remove_frame id).2.1
  | advance span => exact absurd rfl (h span)
  | _ => rw [step_of_isForListener quiet rfl]

end Timely

end Funnel.Server
