import Funnel.Connector.Run
import Funnel.Proofs.Counting

/-! The phases of a connector's calls: what they say of the permit, the waits and the connections,
and what each operation of a connector does to them. -/

namespace Funnel.Connector

namespace Phase

/-- The call goes on as soon as it runs. -/
def isReady : Phase → Bool
  | fresh | notified | granted => true
  | _ => false

/-- The call looks at the state of the connections when it runs next, without a permit. -/
def isEntering : Phase → Bool
  | fresh | notified => true
  | _ => false

/-- The call has the permit, or was handed it and has not run since. -/
def holdsPermit : Phase → Bool
  | granted | dialing true _ => true
  | _ => false

def isDialing : Phase → Bool
  | dialing _ _ => true
  | _ => false

def dialsWithPermit : Phase → Bool
  | dialing true _ => true
  | _ => false

def isLiveHttp2 : Phase → Bool
  | live .http2 _ => true
  | _ => false

/-- What is left of the wait for the last HTTP/2 connection once that has gone. -/
def told : Phase → Phase
  | parked => notified
  | p => p

/-- The protocol and the number of the connection that the call got, alive or gone. -/
def established? : Phase → Option (Protocol × Nat)
  | live p n | dropped p n => some (p, n)
  | _ => none

end Phase

def phases (s : Connector) : List Phase := s.calls.map (·.phase)

/-- How many calls are in a phase of the kind. -/
def count (s : Connector) (kind : Phase → Bool) : Nat := s.phases.countP kind

/-- Dials that have begun and are not over. -/
def dialing (s : Connector) : Nat := s.count Phase.isDialing

/-- HTTP/2 connections that are alive. -/
def liveHttp2 (s : Connector) : Nat := s.count Phase.isLiveHttp2

/-- The protocol and the number of each connection established so far. -/
def established (s : Connector) : List (Protocol × Nat) := s.phases.filterMap Phase.established?

/-- The connection established last speaks `p`. -/
def Latest (s : Connector) (p : Protocol) : Prop :=
  ∃ n, (p, n) ∈ s.established ∧ ∀ c ∈ s.established, c.2 ≤ n

/-- Call `i` goes on as soon as it runs. -/
def ready (s : Connector) (i : Nat) : Bool := (s.phase? i).any Phase.isReady

/-- Nothing has come of call `i` so far. -/
def pending (s : Connector) (i : Nat) : Bool := (s.phase? i).any Phase.isPending

def deadline? (s : Connector) (i : Nat) : Option Nat := s.calls[i]?.bind (·.deadline)

/-- How the calls are going to dial. -/
def plans (s : Connector) : List Dial := s.calls.map (·.dial)

def plan? (s : Connector) (i : Nat) : Option Dial := s.plans[i]?

theorem phase?_eq (s : Connector) (i : Nat) : s.phase? i = s.phases[i]? := by
  simp [phase?, phases]

@[simp] theorem phases_setPhase (s : Connector) (i : Nat) (p : Phase) :
    (s.setPhase i p).phases = s.phases.set i p := by
  apply List.ext_getElem?
  intro j
  simp only [phases, setPhase, List.getElem?_map, List.getElem?_modify, List.getElem?_set,
    List.length_map]
  by_cases hj : i = j
  · subst hj
    by_cases hi : i < s.calls.length <;> simp [hi]
  · simp [hj]

theorem phase?_setPhase_eq (s : Connector) (i : Nat) (p : Phase) (j : Nat) :
    (s.setPhase i p).phase? j =
      if j = i then (s.phase? j).map fun _ => p else s.phase? j := by
  rw [phase?_eq, phase?_eq, phases_setPhase, List.getElem?_set']
  by_cases hj : i = j
  · rw [if_pos hj, if_pos hj.symm]
    cases s.phases[j]? <;> rfl
  · rw [if_neg hj, if_neg (Ne.symm hj)]

theorem phase?_setPhase_ne {s : Connector} {i j : Nat} (hj : j ≠ i) (p : Phase) :
    (s.setPhase i p).phase? j = s.phase? j := by
  rw [phase?_setPhase_eq, if_neg hj]

@[simp] theorem deadline?_setPhase (s : Connector) (i j : Nat) (p : Phase) :
    (s.setPhase i p).deadline? j = s.deadline? j := by
  simp only [deadline?, setPhase, List.getElem?_modify]
  by_cases hj : i = j <;> cases s.calls[j]? <;> simp [hj]

@[simp] theorem phases_park (s : Connector) (i : Nat) :
    (s.park i).phases = s.phases.set i .parked := phases_setPhase _ _ _

@[simp] theorem phases_enqueue (s : Connector) (i : Nat) :
    (s.enqueue i).phases = s.phases.set i .queued := phases_setPhase _ _ _

@[simp] theorem phases_markDialing (s : Connector) (i : Nat) (permit : Bool) (due : Option Nat) :
    (s.markDialing i permit due).phases = s.phases.set i (.dialing permit due) :=
  phases_setPhase _ _ _

@[simp] theorem phases_fixDeadline (s : Connector) (i : Nat) :
    (s.fixDeadline i).phases = s.phases := by
  apply List.ext_getElem?
  intro j
  simp only [phases, fixDeadline, List.getElem?_map, List.getElem?_modify]
  by_cases hj : i = j <;> simp [hj, Function.comp_def]

@[simp] theorem plans_setPhase (s : Connector) (i : Nat) (p : Phase) :
    (s.setPhase i p).plans = s.plans := by
  apply List.ext_getElem?
  intro j
  simp only [plans, setPhase, List.getElem?_map, List.getElem?_modify]
  by_cases hj : i = j <;> simp [hj, Function.comp_def]

@[simp] theorem plans_fixDeadline (s : Connector) (i : Nat) :
    (s.fixDeadline i).plans = s.plans := by
  apply List.ext_getElem?
  intro j
  simp only [plans, fixDeadline, List.getElem?_map, List.getElem?_modify]
  by_cases hj : i = j <;> simp [hj, Function.comp_def]

/-- A call that is set to phase `p` is in no phase of a kind that `p` is not of. -/
theorem not_any_setPhase (s : Connector) (i : Nat) {p : Phase} {kind : Phase → Bool}
    (hp : kind p = false) : ¬ ((s.setPhase i p).phase? i).any kind := by
  rw [phase?_eq, phases_setPhase, List.getElem?_set']
  cases s.phases[i]? <;> simp [hp]

theorem deadline?_fixDeadline_ne {s : Connector} {i j : Nat} (hj : j ≠ i) :
    (s.fixDeadline i).deadline? j = s.deadline? j := by
  simp [deadline?, fixDeadline, Ne.symm hj]

@[simp] theorem phases_call (s : Connector) (d : Dial) :
    (s.call d).phases = s.phases ++ [.fresh] := by
  unfold call wake
  split <;> simp [phases]

@[simp] theorem phases_reject (s : Connector) (f : Fault) :
    (s.reject f).phases = s.phases ++ [.failed f] := by
  simp [phases, reject]

/-! ### Lists of phases -/

/-- `l` lists the calls in phase `p`, each once. -/
def Lists (ps : List Phase) (l : List Nat) (p : Phase) : Prop :=
  l.Nodup ∧ ∀ i, i ∈ l ↔ ps[i]? = some p

theorem getElem?_set_of_eq {α : Type} {ps : List α} {i : Nat} {q : α} (hq : ps[i]? = some q)
    (p : α) (j : Nat) : (ps.set i p)[j]? = if j = i then some p else ps[j]? := by
  obtain ⟨hi, -⟩ := List.getElem?_eq_some_iff.mp hq
  by_cases hj : j = i
  · subst hj
    simp [hi]
  · rw [if_neg hj, List.getElem?_set_ne (Ne.symm hj)]

theorem phase?_setPhase {s : Connector} {i : Nat} {q : Phase} (hq : s.phase? i = some q)
    (p : Phase) (j : Nat) : (s.setPhase i p).phase? j = if j = i then some p else s.phase? j := by
  rw [phase?_setPhase_eq]
  split
  · subst j
    rw [hq]
    rfl
  · rfl

namespace Lists

variable {ps : List Phase} {l : List Nat} {i : Nat} {p q r : Phase}

theorem keep (h : Lists ps l r) (hq : ps[i]? = some q) (hqr : q ≠ r) (hpr : p ≠ r) :
    Lists (ps.set i p) l r := by
  refine ⟨h.1, fun j => ?_⟩
  rw [getElem?_set_of_eq hq, h.2]
  split
  · subst j
    simp [hq, hqr, hpr]
  · rfl

theorem append (h : Lists ps l r) (hq : ps[i]? = some q) (hqr : q ≠ r) :
    Lists (ps.set i r) (l ++ [i]) r := by
  have hi : i ∉ l := by
    rw [h.2, hq]
    simpa using hqr
  refine ⟨?_, fun j => ?_⟩
  · rw [List.nodup_append]
    refine ⟨h.1, by simp, ?_⟩
    rintro a ha b hb rfl
    exact hi (by simpa using List.mem_singleton.mp hb ▸ ha)
  · rw [getElem?_set_of_eq hq, List.mem_append, h.2]
    by_cases hj : j = i <;> simp [hj]

theorem filter (h : Lists ps l r) (hq : ps[i]? = some q) (hpr : p ≠ r) :
    Lists (ps.set i p) (l.filter (· ≠ i)) r := by
  refine ⟨h.1.filter _, fun j => ?_⟩
  rw [getElem?_set_of_eq hq, List.mem_filter, h.2]
  by_cases hj : j = i <;> simp [hj, hpr]

theorem tail (h : Lists ps (i :: l) r) (hpr : p ≠ r) : Lists (ps.set i p) l r := by
  have hq : ps[i]? = some r := (h.2 i).mp (by simp)
  have hi : i ∉ l := (List.nodup_cons.mp h.1).1
  refine ⟨(List.nodup_cons.mp h.1).2, fun j => ?_⟩
  rw [getElem?_set_of_eq hq]
  split
  · subst j
    simp [hi, hpr]
  · rename_i hj
    rw [← h.2, List.mem_cons]
    simp [hj]

theorem concat (h : Lists ps l r) (hpr : p ≠ r) : Lists (ps ++ [p]) l r := by
  refine ⟨h.1, fun j => ?_⟩
  rw [h.2, List.getElem?_append]
  split
  · rfl
  · rename_i hj
    rw [List.getElem?_eq_none (by omega), List.getElem?_singleton]
    split <;> simp [hpr]

end Lists

end Funnel.Connector
