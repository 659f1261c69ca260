import Funnel.Exchange.Client
import Funnel.Forward.Deadline
import Funnel.Proofs.Connector.Alone

/-! A request that is sent through a connector of its own comes to what the forward with the two
deadlines comes to, and at the same time. -/

namespace Funnel.Exchange

open Http Forward

/-- What the sender gets, if anything comes: the status and the body of the response, or an
error. -/
def Outcome.result? : Outcome → Option (Except ClientError (Nat × Option Bytes))
  | .answered status body => some (.ok (status, body))
  | .failed error => some (.error error)
  | .silent => none

/-- An origin that is dialed like `d` and at once does all that it does along `w`. -/
def encounter (d : Connector.Dial) (w : Wire) (r : Request Body) :
    Encounter (Nat × Option Bytes) where
  dial := d
  exchange p := (overProtocol w r p).result?.map (0, ·)

section Send

variable (limit patience : Nat) (d : Connector.Dial) (w : Wire) (r : Request Body)

/-- What the only call of a connector comes to, is passed on or exchanged on. -/
theorem send_of_accepted (accepted : refusal? r = none) :
    (send (.new limit) patience d w r).1 =
      if (Connector.fate limit d).1 ≤ patience then
        match (Connector.fate limit d).2 with
        | .ok p => overProtocol w r p
        | .error f => .failed ⟨.connect, some f⟩
      else .silent := by
  have answer := Connector.answer?_alone limit d patience
  have first : (Connector.new limit).calls.length = 0 := rfl
  simp only [send, accepted]
  rw [first, answer]
  by_cases inTime : (Connector.fate limit d).1 ≤ patience
  · rw [if_pos inTime, if_pos inTime]
    cases (Connector.fate limit d).2 <;> rfl
  · rw [if_neg inTime, if_neg inTime]

/-- The sender gets what the client has come to by then. -/
theorem result?_send : (send (.new limit) patience d w r).1.result? =
    ((encounter d w r).client limit r).at? patience := by
  cases accepted : refusal? r with
  | some stage =>
    simp only [send, Encounter.client, accepted]
    rfl
  | none =>
    have connect : (encounter d w r).connect limit = Connector.fate limit d := rfl
    rw [send_of_accepted limit patience d w r accepted, Encounter.client, accepted]
    simp only [connect, Timed.at?_andThen]
    by_cases dialed : (Connector.fate limit d).1 ≤ patience
    · rw [if_pos dialed, if_pos dialed]
      cases (Connector.fate limit d).2 with
      | error f => rfl
      | ok p => exact (Timed.at?_start _).symm
    · rw [if_neg dialed, if_neg dialed]
      rfl

/-- A forward comes to what its sender gets within its deadline, or else to that deadline; and it is
over as soon as a sender would get anything. -/
theorem forward_eq_send :
    let forward := (encounter d w r).forward limit patience r
    forward.2 = ((send (.new limit) patience d w r).1.result?.map Encounter.judge).getD
        (.error (.responseTimeout (.ofMillis patience))) ∧
    ∀ time < patience,
      forward.1 ≤ time ↔ (send (.new limit) time d w r).1.result?.isSome := by
  have verdict (time : Nat) : ((encounter d w r).verdict limit r).at? time =
      (send (.new limit) time d w r).1.result?.map Encounter.judge := by
    rw [result?_send]
    exact Timed.at?_map _ _
  refine ⟨?_, fun time early => ?_⟩
  · rw [Encounter.forward, Timed.snd_within, verdict]
  · rw [Encounter.forward, Timed.fst_within_le_iff early, verdict, Option.isSome_map]

end Send

end Funnel.Exchange
