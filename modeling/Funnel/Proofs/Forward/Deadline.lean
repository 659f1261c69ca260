import Funnel.Forward.Deadline
import Funnel.Forward.Pipeline
import Funnel.Proofs.Connector.Alone
import Funnel.Proofs.Forward.Classification

/-! A forward ends by its deadline at the latest, and says which deadline passed, if one did. What
the local client is told follows: 504 for the two deadlines, 502 for all other failures. -/

namespace Funnel.Forward

open Http

/-- A client error that no connector's deadline is behind, is none of the timeouts. -/
theorem ClientError.isTimeout_toFailure {e : ClientError}
    (h : ∀ n ∈ e.chain, n.connectTimeout? = none) : e.toFailure.isTimeout = false := by
  have missed : e.find Node.connectTimeout? = none := by
    rw [find_eq_findSome?, List.findSome?_eq_none_iff]
    exact h
  unfold toFailure
  rw [missed]
  dsimp only
  split
  · rfl
  · split
    · rfl
    · split <;> rfl

theorem ClientError.toFailure_timeout (limit : Nat) :
    toFailure ⟨.connect, some (Connector.new limit).timeout⟩ =
      .connectTimeout (.ofMillis limit) := by
  have found : find ⟨.connect, some (Connector.new limit).timeout⟩ Node.connectTimeout? =
      some (.ofMillis limit) := by
    rw [find_eq_findSome?]
    rfl
  rw [toFailure, found]

theorem Failure.status_inbound_of_isTimeout (f : Failure) :
    (inbound (.error f)).status = if f.isTimeout then 504 else 502 := by
  cases f <;> rfl

namespace Encounter

variable {β Head : Type} {c t : Nat} {r : Request β} {e : Encounter Head}
  {o : Except Failure Head}

/-- The client dials, and the dial is not over at `time`. -/
def Unfinished (r : Request β) (e : Encounter Head) (time : Nat) : Prop :=
  Exchange.refusal? r = none ∧ ∀ t, e.dial.takes = some t → time < t

/-- What comes, and when, as long as nobody stops waiting for it: the deadline of connecting while
the dial is not over, a failure, or the head. -/
inductive Comes (c : Nat) (r : Request β) (e : Encounter Head) : Nat → Except Failure Head → Prop
  | refused {stage : Stage} : Exchange.refusal? r = some stage →
      Comes c r e 0 (.error (ClientError.toFailure ⟨stage, none⟩))
  | connectTimeout : e.Unfinished r c → Comes c r e c (.error (.connectTimeout (.ofMillis c)))
  | dialFailed {t : Nat} {f : Fault} : Exchange.refusal? r = none → e.dial.takes = some t → t < c →
      e.dial.result = .error f → Comes c r e t (.error (ClientError.toFailure ⟨.connect, some f⟩))
  | exchanged {t span : Nat} {p : Protocol} {result : Except ClientError Head} :
      Exchange.refusal? r = none → e.dial.takes = some t → t < c → e.dial.result = .ok p →
      e.exchange p = some (span, result) → Comes c r e (t + span) (judge result)

/-- The faults of dialing and of the exchange do not speak of the connector's deadline; only the
connector itself does. -/
structure Genuine (e : Encounter Head) : Prop where
  dial : ∀ f, e.dial.result = .error f → ∀ n ∈ f.toList, n.connectTimeout? = none
  exchange : ∀ p span error, e.exchange p = some (span, .error error) →
    ∀ n ∈ error.chain, n.connectTimeout? = none

theorem verdict_refused {stage : Stage} (refused : Exchange.refusal? r = some stage) :
    e.verdict c r = some (0, .error (ClientError.toFailure ⟨stage, none⟩)) := by
  simp only [verdict, client, refused]
  rfl

theorem verdict_unfinished (unfinished : e.Unfinished r c) :
    e.verdict c r = some (c, .error (.connectTimeout (.ofMillis c))) := by
  have connect : e.connect c = (c, .error (Connector.new c).timeout) := by
    rcases Connector.fate_cases c e.dial with ⟨t, inTime, takes, -⟩ | ⟨-, fate⟩
    · have := unfinished.2 t takes
      omega
    · exact fate
  rw [← ClientError.toFailure_timeout]
  simp only [verdict, client, unfinished.1, connect]
  rfl

theorem connect_of_takes (takes : e.dial.takes = some t) (inTime : t < c) :
    e.connect c = (t, e.dial.result) := by
  rcases Connector.fate_cases c e.dial with ⟨t', -, takes', fate⟩ | ⟨later, -⟩
  · cases takes.symm.trans takes'
    exact fate
  · have := later t takes
    omega

theorem verdict_dialFailed {f : Fault} (accepted : Exchange.refusal? r = none)
    (takes : e.dial.takes = some t) (inTime : t < c) (failed : e.dial.result = .error f) :
    e.verdict c r = some (t, .error (ClientError.toFailure ⟨.connect, some f⟩)) := by
  simp only [verdict, client, accepted, connect_of_takes takes inTime, failed]
  rfl

theorem verdict_connected {p : Protocol} (accepted : Exchange.refusal? r = none)
    (takes : e.dial.takes = some t) (inTime : t < c) (up : e.dial.result = .ok p) :
    e.verdict c r = (e.exchange p).map fun (span, result) => (t + span, judge result) := by
  simp only [verdict, client, accepted, connect_of_takes takes inTime, up, Timed.andThen,
    Option.map_map]
  rfl

/-- The client comes to what comes, and to nothing if nothing does. -/
theorem comes_iff (noTie : e.dial.takes ≠ some c) :
    e.Comes c r t o ↔ e.verdict c r = some (t, o) := by
  constructor
  · intro comes
    cases comes with
    | refused refused => exact verdict_refused refused
    | connectTimeout unfinished => exact verdict_unfinished unfinished
    | dialFailed accepted takes inTime failed =>
      exact verdict_dialFailed accepted takes inTime failed
    | exchanged accepted takes inTime up exchange =>
      rw [verdict_connected accepted takes inTime up, exchange]
      rfl
  · intro verdict
    cases accepted : Exchange.refusal? r with
    | some stage =>
      cases (verdict_refused accepted).symm.trans verdict
      exact .refused accepted
    | none =>
      by_cases unfinished : ∀ t, e.dial.takes = some t → c < t
      · cases (verdict_unfinished ⟨accepted, unfinished⟩).symm.trans verdict
        exact .connectTimeout ⟨accepted, unfinished⟩
      · push Not at unfinished
        obtain ⟨t', takes, le⟩ := unfinished
        have inTime : t' < c := by
          have : t' ≠ c := fun same => noTie (same ▸ takes)
          omega
        cases dialed : e.dial.result with
        | error f =>
          cases (verdict_dialFailed accepted takes inTime dialed).symm.trans verdict
          exact .dialFailed accepted takes inTime dialed
        | ok p =>
          have exchanged := (verdict_connected accepted takes inTime dialed).symm.trans verdict
          obtain ⟨⟨span, result⟩, exchange, same⟩ := Option.map_eq_some_iff.mp exchanged
          cases same
          exact .exchanged accepted takes inTime dialed exchange

theorem Comes.unique {t' : Nat} {o' : Except Failure Head} (noTie : e.dial.takes ≠ some c)
    (comes : e.Comes c r t o) (comes' : e.Comes c r t' o') : t = t' ∧ o = o' := by
  have same := ((comes_iff noTie).mp comes).symm.trans ((comes_iff noTie).mp comes')
  cases same
  exact ⟨rfl, rfl⟩

theorem Genuine.isTimeout {f : Failure} (genuine : e.Genuine) (comes : e.Comes c r t (.error f)) :
    f.isTimeout ↔ e.Unfinished r c := by
  generalize outcome : Except.error f = o at comes
  cases comes with
  | @refused stage refused =>
    cases outcome
    have kept := ClientError.isTimeout_toFailure (e := ⟨stage, none⟩) nofun
    simp [kept, Unfinished, refused]
  | connectTimeout unfinished =>
    cases outcome
    exact ⟨fun _ => unfinished, fun _ => rfl⟩
  | @dialFailed t f accepted takes inTime failed =>
    cases outcome
    have kept := ClientError.isTimeout_toFailure (e := ⟨.connect, some f⟩) (genuine.dial f failed)
    rw [kept]
    refine ⟨nofun, fun unfinished => ?_⟩
    have := unfinished.2 t takes
    omega
  | @exchanged t span p result accepted takes inTime up exchange =>
    cases result with
    | ok head => cases outcome
    | error error =>
      cases outcome
      have kept := ClientError.isTimeout_toFailure (genuine.exchange p span error exchange)
      rw [kept]
      refine ⟨nofun, fun unfinished => ?_⟩
      have := unfinished.2 t takes
      omega

variable {limit : Nat}

theorem forward_of_comes (noTie : e.dial.takes ≠ some c) (comes : e.Comes c r t o)
    (inTime : t < limit) : e.forward c limit r = (t, o) := by
  rw [forward, (comes_iff noTie).mp comes]
  exact Timed.within_of_le (Nat.le_of_lt inTime)

theorem forward_of_late (noTie : e.dial.takes ≠ some c)
    (late : ∀ t o, e.Comes c r t o → limit < t) :
    e.forward c limit r = (limit, .error (.responseTimeout (.ofMillis limit))) := by
  rw [forward]
  cases verdict : e.verdict c r with
  | none => rfl
  | some x =>
    obtain ⟨t, o⟩ := x
    exact Timed.within_of_lt (late t o ((comes_iff noTie).mpr verdict))

/-- Without ties, a forward comes to what comes first: the deadline of connecting, while the dial is
not over, the head or a failure; and to its own deadline, if that comes before them all. -/
theorem forward_cases (noTie : e.dial.takes ≠ some c) (noTie' : ∀ o, ¬ e.Comes c r limit o) :
    (∃ t o, e.Comes c r t o ∧ t < limit) ∨ ∀ t o, e.Comes c r t o → limit < t := by
  cases verdict : e.verdict c r with
  | none =>
    right
    intro t o comes
    cases verdict.symm.trans ((comes_iff noTie).mp comes)
  | some x =>
    obtain ⟨t, o⟩ := x
    have comes := (comes_iff noTie).mpr verdict
    rcases Nat.lt_trichotomy t limit with before | same | after
    · exact .inl ⟨t, o, comes, before⟩
    · subst same
      exact absurd comes (noTie' o)
    · right
      intro t' o' comes'
      cases verdict.symm.trans ((comes_iff noTie).mp comes')
      exact after

/-- Whatever an origin does for a request on a new connection, the forward is over by its deadline:
with the connector's timeout where the dial is not over by the connector's deadline and that is
first, with its own where nothing comes before, and else with what comes first. The local client
gets 504 in these two cases and 502 for all other failures. The connection is what the connector's
only call comes to. -/
theorem forward_deadlines (connect response : Nat) (r : Request β) (e : Encounter (Response Stream))
    (noTie : e.dial.takes ≠ some connect) (noTie' : ∀ o, ¬ e.Comes connect r response o) :
    let result := e.forward connect response r
    let connectLate := e.Unfinished r connect ∧ connect < response
    let responseLate := ∀ t o, e.Comes connect r t o → response < t
    result.1 ≤ response ∧
    (connectLate → result = (connect, .error (.connectTimeout (.ofMillis connect)))) ∧
    (responseLate → result = (response, .error (.responseTimeout (.ofMillis response)))) ∧
    (∀ t o, e.Comes connect r t o → t < response → result = (t, o)) ∧
    (e.Genuine → ∀ f, result.2 = .error f →
      (connectLate ∨ responseLate) ∧ (inbound result.2).status = 504 ∨
        ¬ (connectLate ∨ responseLate) ∧ (inbound result.2).status = 502) ∧
    ∀ time, (((Connector.new connect).call e.dial).settle.advance time).answer? 0 =
      if (e.connect connect).1 ≤ time then some (e.connect connect).2 else none := by
  intro result connectLate responseLate
  refine ⟨Timed.within_le _ _ _, ?_, forward_of_late noTie, fun t o => forward_of_comes noTie, ?_,
    Connector.answer?_alone connect e.dial⟩
  · rintro ⟨unfinished, before⟩
    exact forward_of_comes noTie (.connectTimeout unfinished) before
  · intro genuine f failed
    rw [failed, Failure.status_inbound_of_isTimeout]
    rcases forward_cases noTie noTie' with ⟨t, o, comes, before⟩ | late
    · have first : result = (t, o) := forward_of_comes noTie comes before
      have inTime : ¬ responseLate := fun late => by
        have := late t o comes
        omega
      have same : o = .error f := by rw [← failed, first]
      subst same
      have timeout := genuine.isTimeout comes
      by_cases unfinished : e.Unfinished r connect
      · obtain ⟨rfl, -⟩ := comes.unique noTie (.connectTimeout unfinished)
        exact .inl ⟨.inl ⟨unfinished, before⟩, if_pos (timeout.mpr unfinished)⟩
      · refine .inr ⟨?_, if_neg (mt timeout.mp unfinished)⟩
        rintro (connectLate | responseLate)
        · exact unfinished connectLate.1
        · exact inTime responseLate
    · have timeout : result = _ := forward_of_late noTie late
      rw [timeout] at failed
      cases failed
      exact .inl ⟨.inr late, rfl⟩

/-- An origin that never answers, with either deadline first. -/
theorem forward_deadlines_unreachable :
    let r : Request Unit :=
      ⟨"GET", ⟨some "https", some ⟨"build.example.com"⟩, some .root⟩, .http11, .empty, ()⟩
    let e : Encounter (Response Stream) := ⟨⟨none, .ok .http2⟩, fun _ => none⟩
    e.forward 5000 60000 r = (5000, .error (.connectTimeout (.ofMillis 5000))) ∧
      e.forward 60000 5000 r = (5000, .error (.responseTimeout (.ofMillis 5000))) ∧
      (inbound (e.forward 5000 60000 r).2).status = 504 := by
  intro r e
  have unfinished (time : Nat) : e.Unfinished r time := ⟨rfl, nofun⟩
  have endless (time : Nat) : e.dial.takes ≠ some time := by
    intro takes
    cases takes
  have only {c t : Nat} {o : Except Failure (Response Stream)} (comes : e.Comes c r t o) :
      t = c := (comes.unique (endless c) (.connectTimeout (unfinished c))).1
  have genuine : e.Genuine := ⟨nofun, fun _ _ _ => nofun⟩
  obtain ⟨-, connectLate, -, -, status, -⟩ :=
    forward_deadlines 5000 60000 r e (endless _) fun o comes => absurd (only comes) (by decide)
  obtain ⟨-, -, responseLate, -, -, -⟩ :=
    forward_deadlines 60000 5000 r e (endless _) fun o comes => absurd (only comes) (by decide)
  have late : e.Unfinished r 5000 ∧ 5000 < 60000 := ⟨unfinished 5000, by decide⟩
  refine ⟨connectLate late, responseLate fun t o comes => ?_, ?_⟩
  · rw [only comes]
    decide
  · have failed := congrArg Prod.snd (connectLate late)
    rcases status genuine _ failed with ⟨-, timeout⟩ | ⟨other, -⟩
    · exact timeout
    · exact absurd (.inl late) other

end Encounter

end Funnel.Forward
