import Funnel.Forward.Traffic
import Funnel.Proofs.Counting
import Mathlib.Algebra.BigOperators.Finprod
import Mathlib.Data.List.Induction

/-! Metrics account for every request. However requests come to their outcomes and get answered, the
counters by status count the responses that clients got, those by kind the forwards that failed, and
the two agree on what became of a failure. -/

namespace Funnel.Forward

open Http

/-- The status that stands in for an origin's answer, by the kind of the failure. -/
def Failure.statusOf (kind : String) : Nat :=
  if kind = "connect_timeout" ∨ kind = "response_timeout" then 504 else 502

theorem Failure.status_inbound (f : Failure) :
    (inbound (.error f)).status = statusOf f.kind := by
  cases f <;> rfl

theorem Failure.countP_statusOf (status : Nat) (failures : List Failure) :
    failures.countP (statusOf ·.kind = status) =
      ((kinds.filter (statusOf · = status)).map fun kind =>
        failures.countP (·.kind = kind)).sum := by
  induction failures with
  | nil => simp
  | cons f rest ih =>
    -- One failure has one kind, and counts where the status of that kind is asked for.
    have one : (if statusOf f.kind = status then 1 else 0) =
        ((kinds.filter (statusOf · = status)).map fun kind =>
          if f.kind = kind then 1 else 0).sum := by
      by_cases timeout : status = 504
      · subst timeout
        cases f <;> rfl
      by_cases bad : status = 502
      · subst bad
        cases f <;> rfl
      have other (kind : String) : statusOf kind ≠ status := by
        unfold statusOf
        split <;> omega
      simp [other]
    simp only [List.countP_cons, decide_eq_true_eq, List.sum_map_add, ih, one]

namespace Traffic

variable {β : Type} {s : Traffic β} {p q : Progress β} {events : List MetricEvent} {x : Series}

/-- What its client got. -/
def Progress.response? : Progress β → Option (Response Stream)
  | .answered _ r => some r
  | _ => none

/-- Why it failed. -/
def Progress.failure? : Progress β → Option Failure
  | .settled (.error f) | .answered (.error f) _ => some f
  | _ => none

/-- The origin's response that was handed on to the client. -/
def Progress.relayed? : Progress β → Option (Response Stream)
  | .answered (.ok r) _ => some r
  | _ => none

def responses (s : Traffic β) : List (Response Stream) := s.requests.filterMap Progress.response?

def failures (s : Traffic β) : List Failure := s.requests.filterMap Progress.failure?

def relayed (s : Traffic β) : List (Response Stream) := s.requests.filterMap Progress.relayed?

/-- The series is about requests, not about connections. -/
def countsRequests : Series → Bool
  | .requests _ | .requestDurations | .failures _ => true
  | _ => false

/-- The request is one of those that the series counts. -/
def Progress.isCounted (x : Series) (p : Progress β) : Bool :=
  match x with
  | .requests status => p.response?.any (·.status = status)
  | .requestDurations => p.response?.isSome
  | .failures kind => p.failure?.any (·.kind = kind)
  | _ => false

/-- How a request gets on, and what metrics count then. -/
inductive Progress.Moves : Progress β → Progress β → List MetricEvent → Prop
  | settle (r : Request β) (o : Outcome) : Moves (.sent r) (.settled o) o.events
  | answer (o : Outcome) :
      Moves (.settled o) (.answered o (inbound o)) [.request (inbound o).status]
  | abandon (r : Request β) : Moves (.sent r) .abandoned []

/-- All that a step can do. -/
theorem step_cases (s : Traffic β) (e : Event β) :
    s.step e = s ∨
    (∃ r, s.step e = { s with requests := s.requests ++ [.sent r] }) ∨
    (∃ c : MetricEvent, c.isConnection ∧ s.step e = { s with metrics := s.metrics.record c }) ∨
    ∃ i p q events, s.requests[i]? = some p ∧ Progress.Moves p q events ∧
      s.step e = { s with
        metrics := events.foldl Metrics.record s.metrics
        requests := s.requests.set i q } := by
  cases e with
  | receive r => exact .inr (.inl ⟨_, rfl⟩)
  | settle i o =>
    simp only [step]
    split
    next r at_ => exact .inr (.inr (.inr ⟨i, _, _, _, at_, .settle r o, rfl⟩))
    next => exact .inl rfl
  | answer i =>
    simp only [step]
    split
    next o at_ => exact .inr (.inr (.inr ⟨i, _, _, _, at_, .answer o, rfl⟩))
    next => exact .inl rfl
  | abandon i =>
    simp only [step]
    split
    next r at_ => exact .inr (.inr (.inr ⟨i, _, _, _, at_, .abandon r, rfl⟩))
    next => exact .inl rfl
  | connection c =>
    simp only [step]
    split
    next h => exact .inr (.inr (.inl ⟨c, h, rfl⟩))
    next => exact .inl rfl

/-- A series rises by one exactly as a request becomes one of those that it counts. -/
theorem Progress.Moves.value (h : Moves p q events) (hx : countsRequests x) (m : Metrics) :
    (events.foldl Metrics.record m).value x + (p.isCounted x).toNat =
      m.value x + (q.isCounted x).toNat := by
  cases h with
  | settle r o =>
    cases o with
    | ok => cases x <;> simp [Outcome.events, isCounted, response?, failure?]
    | error f =>
      cases x with
      | failures kind =>
        by_cases same : f.kind = kind <;>
          simp [Outcome.events, isCounted, failure?, Metrics.record, same]
      | _ => simp [Outcome.events, isCounted, response?, Metrics.record]
  | answer o =>
    cases x with
    | requests status =>
      by_cases same : (inbound o).status = status <;>
        simp [isCounted, response?, Metrics.record, same]
    | requestDurations => simp [isCounted, response?, Metrics.record]
    | failures kind => cases o <;> simp [isCounted, failure?, Metrics.record]
    | _ => cases hx
  | abandon r => cases x <;> simp [isCounted, response?, failure?]

theorem value_record_connection {c : MetricEvent} (hc : c.isConnection) (hx : countsRequests x)
    (m : Metrics) : (m.record c).value x = m.value x := by
  cases x with
  | requests | requestDurations | failures =>
    cases c with
    | request | failure => cases hc
    | _ => simp [Metrics.record]
  | _ => cases hx

/-- Each series about requests has counted those that it is to count, and a client gets no response
but the one that the outcome is turned into. -/
structure Accounted (s : Traffic β) : Prop where
  counted : ∀ x, countsRequests x → s.metrics.value x = s.requests.countP (·.isCounted x)
  inbound : ∀ o r, .answered o r ∈ s.requests → r = inbound o

theorem accounted_new (d : Director) : Accounted (new d : Traffic β) where
  counted _ _ := rfl
  inbound := nofun

theorem Accounted.step (h : Accounted s) (e : Event β) : Accounted (s.step e) := by
  obtain same | ⟨r, received⟩ | ⟨c, hc, recorded⟩ | ⟨i, p, q, events, at_, move, moved⟩ :=
    step_cases s e
  · rwa [same]
  · rw [received]
    constructor
    · intro x hx
      cases x <;> simp [h.counted _ hx, Progress.isCounted, Progress.response?, Progress.failure?]
    · intro o r' member
      have old : .answered o r' ∈ s.requests := by simpa using member
      exact h.inbound o r' old
  · rw [recorded]
    constructor
    · intro x hx
      rw [value_record_connection hc hx]
      exact h.counted x hx
    · exact h.inbound
  · rw [moved]
    constructor
    · intro x hx
      have value := move.value hx s.metrics
      have count := countP_set_add at_ q (·.isCounted x)
      have before := h.counted x hx
      dsimp only
      omega
    · intro o r member
      rcases List.mem_or_eq_of_mem_set member with old | new
      · exact h.inbound o r old
      · subst new
        cases move
        rfl

theorem accounted_run (d : Director) (events : List (Event β)) :
    Accounted ((new d).run events) := by
  induction events using List.reverseRecOn with
  | nil => exact accounted_new d
  | append_singleton events e ih =>
    rw [run, List.foldl_append]
    exact ih.step e

namespace Accounted

theorem requests (h : Accounted s) (status : Nat) :
    s.metrics.value (.requests status) = s.responses.countP (·.status = status) := by
  rw [h.counted _ rfl, responses, List.countP_filterMap]
  congr 2
  funext p
  cases p <;> rfl

theorem requestDurations (h : Accounted s) :
    s.metrics.value .requestDurations = s.responses.length := by
  rw [h.counted _ rfl, responses, List.length_filterMap_eq_countP]
  rfl

theorem failures (h : Accounted s) (kind : String) :
    s.metrics.value (.failures kind) = s.failures.countP (·.kind = kind) := by
  rw [h.counted _ rfl, Traffic.failures, List.countP_filterMap]
  congr 2
  funext p
  rcases p with _ | (_ | _) | ⟨_ | _, _⟩ | _ <;> rfl

theorem sum_requests (h : Accounted s) :
    ∑ᶠ status, s.metrics.value (.requests status) = s.metrics.value .requestDurations := by
  let statuses := s.responses.map (·.status)
  have count (status : Nat) : s.metrics.value (.requests status) = statuses.count status := by
    rw [h.requests, List.count, List.countP_map]
    rfl
  have support : (Function.support fun status => s.metrics.value (.requests status)) ⊆
      ↑statuses.toFinset := by
    intro status touched
    rw [Function.mem_support, count] at touched
    have pos : 0 < statuses.count status := by omega
    exact List.mem_toFinset.mpr (List.count_pos_iff.mp pos)
  calc ∑ᶠ status, s.metrics.value (.requests status)
      = ∑ status ∈ statuses.toFinset, s.metrics.value (.requests status) :=
        finsum_eq_sum_of_support_subset _ support
    _ = ((∑ status ∈ statuses.toFinset, statuses.count status : Nat) : Int) := by
        rw [Nat.cast_sum]
        exact Finset.sum_congr rfl fun status _ => count status
    _ = s.metrics.value .requestDurations := by
        rw [List.sum_toFinset_count_eq_length, List.length_map, h.requestDurations]

/-- What clients got is what origins answered and what stands in for failures, once every outcome
has been answered. -/
theorem countP_responses (h : Accounted s) (answered : ∀ o, .settled o ∉ s.requests)
    (status : Nat) :
    s.responses.countP (·.status = status) = s.relayed.countP (·.status = status) +
      s.failures.countP (Failure.statusOf ·.kind = status) := by
  have inbound := h.inbound
  unfold responses relayed Traffic.failures
  generalize s.requests = progress at answered inbound ⊢
  induction progress with
  | nil => rfl
  | cons p rest ih =>
    have tail := ih (fun o member => answered o (List.mem_cons_of_mem p member))
      fun o r member => inbound o r (List.mem_cons_of_mem p member)
    cases p with
    | sent r => exact tail
    | abandoned => exact tail
    | settled o => exact absurd List.mem_cons_self (answered o)
    | answered o r =>
      obtain rfl := inbound o r List.mem_cons_self
      cases o with
      | ok u =>
        simp only [List.filterMap_cons, Progress.response?, Progress.relayed?, Progress.failure?,
          List.countP_cons, tail]
        have kept : (Forward.inbound (.ok u)).status = u.status := rfl
        rw [kept]
        omega
      | error f =>
        simp only [List.filterMap_cons, Progress.response?, Progress.relayed?, Progress.failure?,
          List.countP_cons, tail, Failure.status_inbound]
        omega

end Accounted

/-- At any time, metrics agree with what became of the requests: each response is counted once,
under the status that the client got, and each failure once, under its kind. The status of a failure
is 504 for the two timeouts and 502 for all others; where every outcome has been answered, a status
counts the failures that it stands for and the origin's own responses with it, which no kind
counts. -/
theorem metrics_accounted (d : Director) (events : List (Event β)) :
    let s := (new d).run events
    let value := s.metrics.value
    (∀ status, value (.requests status) = s.responses.countP (·.status = status)) ∧
    ∑ᶠ status, value (.requests status) = value .requestDurations ∧
    value .requestDurations = s.responses.length ∧
    (∀ kind, value (.failures kind) = s.failures.countP (·.kind = kind)) ∧
    (∀ f r, .answered (.error f) r ∈ s.requests →
      r.status = if f.kind = "connect_timeout" ∨ f.kind = "response_timeout" then 504 else 502) ∧
    (∀ u r, .answered (.ok u) r ∈ s.requests → r.status = u.status) ∧
    ((∀ o, .settled o ∉ s.requests) → ∀ status,
      value (.requests status) = s.relayed.countP (·.status = status) +
        ((Failure.kinds.filter (Failure.statusOf · = status)).map fun kind =>
          value (.failures kind)).sum) := by
  intro s value
  have h : Accounted s := accounted_run d events
  refine ⟨h.requests, h.sum_requests, h.requestDurations, h.failures, ?_, ?_, ?_⟩
  · intro f r answered
    rw [h.inbound _ r answered]
    exact f.status_inbound
  · intro u r answered
    rw [h.inbound _ r answered]
    rfl
  · intro answered status
    have failures : ((Failure.kinds.filter (Failure.statusOf · = status)).map fun kind =>
        value (.failures kind)).sum = s.failures.countP (Failure.statusOf ·.kind = status) := by
      rw [Failure.countP_statusOf, Nat.cast_list_sum, List.map_map]
      exact congrArg List.sum (List.map_congr_left fun kind _ => h.failures kind)
    calc value (.requests status) = s.responses.countP (·.status = status) := h.requests status
      _ = s.relayed.countP (·.status = status) +
          s.failures.countP (Failure.statusOf ·.kind = status) := by
        rw [h.countP_responses answered, Nat.cast_add]
      _ = _ := by rw [failures]

/-- A timeout and an origin's own 504: two responses with that status, but one failure. -/
theorem metrics_accounted_own_timeout :
    let r : Request Unit := ⟨"GET", ⟨none, none, some .root⟩, .http11, .empty, ()⟩
    let own : Response Stream := ⟨504, .http11, .empty, []⟩
    let late : Failure := .responseTimeout (.ofSecs 60)
    let s := (new ⟨⟨"build.example.com"⟩⟩).run
      [.receive r, .receive r, .settle 1 (.error late), .settle 0 (.ok own), .answer 0, .answer 1]
    s.requests = [.answered (.ok own) (inbound (.ok own)),
        .answered (.error late) (inbound (.error late))] ∧
      (inbound (.error late)).status = 504 ∧ (inbound (.ok own)).status = 504 ∧
      s.metrics.value (.requests 504) = 2 ∧ s.metrics.value (.failures "response_timeout") = 1 := by
  intro r own late s
  have requests : s.requests = [.answered (.ok own) (inbound (.ok own)),
      .answered (.error late) (inbound (.error late))] := rfl
  obtain ⟨counted, -, -, failures, reported, relayed, -⟩ :=
    metrics_accounted ⟨⟨"build.example.com"⟩⟩ [.receive r, .receive r, .settle 1 (.error late),
      .settle 0 (.ok own), .answer 0, .answer 1]
  have lateStatus : (inbound (.error late)).status = 504 :=
    reported late _ (requests ▸ .tail _ (.head _))
  have ownStatus : (inbound (.ok own)).status = 504 := relayed own _ (requests ▸ .head _)
  refine ⟨requests, lateStatus, ownStatus, ?_, ?_⟩
  · have responses : s.responses = [inbound (.ok own), inbound (.error late)] := by
      rw [Traffic.responses, requests]
      rfl
    rw [counted 504]
    change ((s.responses.countP (·.status = 504) : Nat) : Int) = 2
    simp [responses, lateStatus, ownStatus]
  · have failed : s.failures = [late] := by
      rw [Traffic.failures, requests]
      rfl
    rw [failures "response_timeout"]
    change ((s.failures.countP (·.kind = "response_timeout") : Nat) : Int) = 1
    rw [failed]
    rfl

end Traffic

end Funnel.Forward
