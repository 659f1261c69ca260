import Funnel.StopSignal
import Mathlib.Data.List.Basic

/-! No stop request is lost. A subscriber is behind by as many messages as were sent since it
subscribed and it did not read, and that number alone, with whether a handle is left, decides what
it receives. -/

namespace Funnel.StopSignal

/-- How many messages are done with as it is received. -/
def Received.read : Received → Nat
  | stop => 1
  | empty | closed => 0
  | lagged missed => missed

/-- What is received when `behind` messages were not read, where `alive` says that a handle is
left. -/
inductive Due (alive : Prop) : Nat → Received → Prop
  | empty : alive → Due alive 0 .empty
  | closed : ¬ alive → Due alive 0 .closed
  | stop : Due alive 1 .stop
  | lagged {missed : Nat} : 0 < missed → Due alive (missed + 1) (.lagged missed)

theorem Due.unique {alive : Prop} {k : Nat} {r r' : Received} (h : Due alive k r)
    (h' : Due alive k r') : r = r' := by
  cases h with
  | empty yes =>
    cases h' with
    | empty => rfl
    | closed no => exact absurd yes no
  | closed no =>
    cases h' with
    | empty yes => exact absurd yes no
    | closed => rfl
  | stop =>
    cases h' with
    | stop => rfl
    | lagged some_ => exact absurd some_ (Nat.lt_irrefl 0)
  | lagged some_ =>
    cases h' with
    | stop => exact absurd some_ (Nat.lt_irrefl 0)
    | lagged => rfl

theorem Due.read_le {alive : Prop} {k : Nat} {r : Received} (h : Due alive k r) : r.read ≤ k := by
  cases h with
  | empty | closed | stop => exact Nat.le_refl _
  | lagged => exact Nat.le_succ _

/-- Some message is sent. -/
def sends (s : StopSignal) : Event → Bool
  | .trigger handle => s.hasHandle handle
  | _ => false

/-- How many messages are sent. -/
def triggers (s : StopSignal) : List Event → Nat
  | [] => 0
  | e :: rest => (s.sends e).toNat + (s.step e).triggers rest

/-- What subscriber `i` receives at an event. -/
def hears (s : StopSignal) (i : Nat) (e : Event) : Option Received :=
  if e = .receive i then (s.receive i).map Prod.fst else none

/-- How many messages subscriber `i` is done with at an event. -/
def reads (s : StopSignal) (i : Nat) (e : Event) : Nat := (s.hears i e).elim 0 Received.read

/-- How many messages subscriber `i` is done with. -/
def consumed (s : StopSignal) (i : Nat) : List Event → Nat
  | [] => 0
  | e :: rest => s.reads i e + (s.step e).consumed i rest

/-- What subscriber `i` receives. -/
def received (s : StopSignal) (i : Nat) : List Event → List Received
  | [] => []
  | e :: rest => (s.hears i e).toList ++ (s.step e).received i rest

variable {s s' : StopSignal} {i k : Nat} {e : Event}

theorem isOpen_iff : s.isOpen ↔ ∃ j, s.hasHandle j := by
  simp only [isOpen, hasHandle, List.any_eq_true, id_eq]
  constructor
  · rintro ⟨_, member, rfl⟩
    obtain ⟨j, at_⟩ := List.mem_iff_getElem?.mp member
    exact ⟨j, by rw [at_]; rfl⟩
  · rintro ⟨j, there⟩
    cases at_ : s.handles[j]? with
    | none => simp [at_] at there
    | some here => exact ⟨here, List.mem_of_getElem? at_, by simpa [at_] using there⟩

/-! ### Frames -/

theorem receive_frame {r : Received} (h : s.receive i = some (r, s')) :
    ∃ next, s' = { s with subscribers := s.subscribers.set i (some next) } := by
  unfold receive at h
  split at h
  · cases h
    exact ⟨_, rfl⟩
  · cases h

theorem step_receive (s : StopSignal) (i : Nat) :
    s.step (.receive i) = s ∨
      ∃ next, s.step (.receive i) = { s with subscribers := s.subscribers.set i (some next) } := by
  rw [step]
  split
  next h => exact .inr (receive_frame h)
  next => exact .inl rfl

theorem sent_step (s : StopSignal) (e : Event) :
    (s.step e).sent = s.sent + (s.sends e).toNat := by
  cases e with
  | subscribe handle | copy handle =>
    simp only [step]
    split <;> rfl
  | trigger handle =>
    simp only [step, sends]
    split
    next there =>
      rw [there]
      rfl
    next gone =>
      rw [Bool.eq_false_iff.mpr gone]
      rfl
  | dropHandle handle | dropSubscriber subscriber => rfl
  | receive subscriber =>
    rcases s.step_receive subscriber with same | ⟨next, same⟩
    · rw [same]
      rfl
    · rw [same]
      rfl

theorem sent_run (s : StopSignal) (events : List Event) :
    (s.run events).sent = s.sent + s.triggers events := by
  induction events generalizing s with
  | nil => rfl
  | cons e rest ih =>
    change ((s.step e).run rest).sent = _
    rw [ih, sent_step, triggers, Nat.add_assoc]

/-- What a subscriber does not do itself leaves it where it is. -/
theorem subscribers_step (came : i < s.subscribers.length) (other : e.subscriber? ≠ some i) :
    (s.step e).subscribers[i]? = s.subscribers[i]? := by
  cases e with
  | subscribe handle =>
    simp only [step]
    split
    · exact List.getElem?_append_left came
    · rfl
  | copy handle | trigger handle =>
    simp only [step]
    split <;> rfl
  | dropHandle handle => rfl
  | dropSubscriber j =>
    have other : j ≠ i := fun same => other (congrArg some same)
    exact List.getElem?_set_ne other
  | receive j =>
    have other : j ≠ i := fun same => other (congrArg some same)
    rcases s.step_receive j with same | ⟨next, same⟩
    · rw [same]
    · rw [same]
      exact List.getElem?_set_ne other

/-- The handles, and how many subscribers ever came. -/
def shape (s : StopSignal) : List Bool × Nat := (s.handles, s.subscribers.length)

theorem hasHandle_congr (shape : s.shape = s'.shape) (j : Nat) :
    s.hasHandle j = s'.hasHandle j := by
  rw [hasHandle, (Prod.mk.inj shape).1, hasHandle]

/-- It can change the shape. -/
def Event.shapes : Event → Bool
  | .subscribe _ | .copy _ | .dropHandle _ => true
  | .trigger _ | .dropSubscriber _ | .receive _ => false

theorem shape_step (s : StopSignal) (still : e.shapes = false) : (s.step e).shape = s.shape := by
  cases e with
  | subscribe j | copy j | dropHandle j => cases still
  | trigger j =>
    rw [step]
    split <;> rfl
  | dropSubscriber j => simp [shape, step, dropSubscriber]
  | receive j =>
    rcases s.step_receive j with same | ⟨_, same⟩
    all_goals simp [same, shape]

theorem shape_step_congr (h : s.shape = s'.shape) (e : Event) :
    (s.step e).shape = (s'.step e).shape := by
  obtain ⟨handles, length⟩ := Prod.mk.inj h
  have has := hasHandle_congr h
  cases e with
  | subscribe j =>
    simp only [step, has]
    split
    · simp [shape, subscribe, handles, length]
    · exact h
  | copy j =>
    simp only [step, has]
    split
    · simp [shape, addHandle, handles, length]
    · exact h
  | dropHandle j => simp [shape, step, dropHandle, handles, length]
  | trigger j | dropSubscriber j | receive j => rw [s.shape_step rfl, s'.shape_step rfl, h]

/-- A handle comes from a handle. -/
theorem alive_of_step (alive : ∃ j, (s.step e).hasHandle j) : ∃ j, s.hasHandle j := by
  obtain ⟨j, there⟩ := alive
  cases e with
  | subscribe handle | copy handle | trigger handle =>
    by_cases here : s.hasHandle handle
    · exact ⟨handle, here⟩
    · rw [step, if_neg here] at there
      exact ⟨j, there⟩
  | dropHandle handle =>
    have same : handle ≠ j := by
      rintro rfl
      rw [step, dropHandle, hasHandle, List.getElem?_set_self'] at there
      cases at_ : s.handles[handle]? <;> simp [at_] at there
    refine ⟨j, ?_⟩
    rwa [step, dropHandle, hasHandle, List.getElem?_set_ne same] at there
  | dropSubscriber subscriber => exact ⟨j, there⟩
  | receive subscriber =>
    rcases s.step_receive subscriber with same | ⟨_, same⟩
    all_goals
      rw [same] at there
      exact ⟨j, there⟩

/-! ### How far behind a subscriber is -/

/-- Subscriber `i` is there, and reads the message next that is the last but `k`. -/
def Behind (s : StopSignal) (i k : Nat) : Prop :=
  ∃ next, s.subscribers[i]? = some (some next) ∧ next + k = s.sent

/-- Subscriber `i` came, and is not there. -/
def Gone (s : StopSignal) (i : Nat) : Prop := s.subscribers[i]? = some none

theorem Behind.lt_length (h : Behind s i k) : i < s.subscribers.length := by
  obtain ⟨next, at_, -⟩ := h
  exact (List.getElem?_eq_some_iff.mp at_).1

theorem Gone.lt_length (h : Gone s i) : i < s.subscribers.length :=
  (List.getElem?_eq_some_iff.mp h).1

theorem behind_subscribe (s : StopSignal) : Behind s.subscribe s.subscribers.length 0 :=
  ⟨s.sent, by simp [subscribe], rfl⟩

theorem Gone.hasSubscriber (h : Gone s i) : s.hasSubscriber i = false := by
  simp only [StopSignal.hasSubscriber, show s.subscribers[i]? = _ from h]
  rfl

theorem Gone.receive (h : Gone s i) : s.receive i = none := by
  simp only [StopSignal.receive, show s.subscribers[i]? = _ from h]

theorem receiveAt_due {next : Nat} (sum : next + k = s.sent) :
    Due (∃ j, s.hasHandle j) k (s.receiveAt next).1 ∧
      (s.receiveAt next).2 = next + (s.receiveAt next).1.read := by
  unfold receiveAt
  split
  next all =>
    obtain rfl : k = 0 := by omega
    dsimp only
    split
    next alive => exact ⟨.empty (isOpen_iff.mp alive), rfl⟩
    next dead => exact ⟨.closed (mt isOpen_iff.mpr dead), rfl⟩
  next =>
    split
    next one =>
      obtain rfl : k = 1 := by omega
      exact ⟨.stop, one⟩
    next =>
      have split : k = (s.sent - 1 - next) + 1 := by omega
      refine ⟨split ▸ .lagged (by omega), ?_⟩
      change s.sent - 1 = next + (s.sent - 1 - next)
      omega

/-- A subscriber receives what is due, and has read that much less to read. -/
theorem Behind.receive (h : Behind s i k) :
    ∃ r s' k', s.receive i = some (r, s') ∧ Due (∃ j, s.hasHandle j) k r ∧
      Behind s' i k' ∧ k' + r.read = k := by
  obtain ⟨next, at_, sum⟩ := h
  obtain ⟨due, next'⟩ := receiveAt_due sum
  have le : (s.receiveAt next).1.read ≤ k := due.read_le
  let after : StopSignal :=
    { s with subscribers := s.subscribers.set i (some (s.receiveAt next).2) }
  have received : s.receive i = some ((s.receiveAt next).1, after) := by
    simp only [StopSignal.receive, at_, after]
  have stands : after.subscribers[i]? = some (some (s.receiveAt next).2) :=
    List.getElem?_set_self (List.getElem?_eq_some_iff.mp at_).1
  refine ⟨_, after, k - (s.receiveAt next).1.read, received, due, ⟨_, stands, ?_⟩, ?_⟩
  · change (s.receiveAt next).2 + (k - (s.receiveAt next).1.read) = s.sent
    omega
  · omega

/-- An event adds what is sent to what a subscriber is behind, and takes off what it reads. -/
theorem Behind.step (h : Behind s i k) (stays : e ≠ .dropSubscriber i) :
    ∃ k', Behind (s.step e) i k' ∧ k' + s.reads i e = k + (s.sends e).toNat := by
  by_cases own : e = .receive i
  · subst own
    obtain ⟨r, s', k', received, -, behind, sum⟩ := h.receive
    refine ⟨k', by rwa [StopSignal.step, received], ?_⟩
    rw [reads, hears, if_pos rfl, received]
    exact sum
  · have other : e.subscriber? ≠ some i := by
      cases e with
      | dropSubscriber j => simpa [Event.subscriber?] using stays
      | receive j => simpa [Event.subscriber?] using own
      | _ => nofun
    have still := subscribers_step h.lt_length other
    obtain ⟨next, at_, sum⟩ := h
    rw [reads, hears, if_neg own]
    refine ⟨k + (s.sends e).toNat, ⟨next, still.trans at_, ?_⟩, rfl⟩
    rw [sent_step, ← sum, Nat.add_assoc]

theorem gone_dropSubscriber (came : i < s.subscribers.length) :
    Gone (s.step (.dropSubscriber i)) i :=
  List.getElem?_set_self came

theorem Gone.step (h : Gone s i) (e : Event) : Gone (s.step e) i := by
  by_cases own : e.subscriber? = some i
  · cases e with
    | dropSubscriber j =>
      cases own
      exact gone_dropSubscriber h.lt_length
    | receive j =>
      cases own
      rw [StopSignal.step, h.receive]
      exact h
    | _ => cases own
  · exact (subscribers_step h.lt_length own).trans h

theorem Gone.run (h : Gone s i) (events : List Event) : Gone (s.run events) i := by
  induction events generalizing s with
  | nil => exact h
  | cons e rest ih => exact ih (h.step e)

/-- As long as a subscriber is there, it is behind by what was sent and it did not read. -/
theorem Behind.run {events : List Event} (h : Behind s i k)
    (there : (s.run events).hasSubscriber i) :
    ∃ k', Behind (s.run events) i k' ∧ k' + s.consumed i events = k + s.triggers events := by
  induction events generalizing s k with
  | nil => exact ⟨k, h, rfl⟩
  | cons e rest ih =>
    -- A place is not taken again, so it was not dropped before the end.
    have stays : e ≠ .dropSubscriber i := by
      rintro rfl
      have gone := (gone_dropSubscriber h.lt_length).run rest
      exact absurd (gone.hasSubscriber.symm.trans there) Bool.false_ne_true
    obtain ⟨k₁, h₁, sum₁⟩ := h.step stays
    obtain ⟨k', h', sum'⟩ := ih h₁ there
    refine ⟨k', h', ?_⟩
    rw [consumed, triggers]
    omega

theorem Behind.receive_iff (h : Behind s i k) (r : Received) :
    (∃ s', s.receive i = some (r, s')) ↔ Due (∃ j, s.hasHandle j) k r := by
  obtain ⟨r₀, s₀, -, received, due, -⟩ := h.receive
  constructor
  · rintro ⟨s', received'⟩
    rw [received] at received'
    cases received'
    exact due
  · intro due'
    rw [due'.unique due]
    exact ⟨s₀, received⟩

/-- After the report that some were missed, there is exactly one stop. -/
theorem Behind.receive_lagged (h : Behind s i k) {missed : Nat}
    (lagged : s.receive i = some (.lagged missed, s')) :
    ∃ s'', s'.receive i = some (.stop, s'') ∧ Behind s'' i 0 := by
  obtain ⟨r, s₁, k₁, received, due, h₁, sum⟩ := h.receive
  rw [lagged] at received
  cases received
  cases due with
  | lagged =>
    obtain rfl : k₁ = 1 := by
      rw [Received.read] at sum
      omega
    obtain ⟨r, s₂, k₂, received, due, h₂, sum₂⟩ := h₁.receive
    cases due with
    | stop =>
      obtain rfl : k₂ = 0 := by
        rw [Received.read] at sum₂
        omega
      exact ⟨s₂, received, h₂⟩
    | lagged some_ => exact absurd some_ (Nat.lt_irrefl 0)

/-! ### What does not matter to a subscriber -/

/-- No other subscriber than `i` does it. -/
def Event.concerns (i : Nat) (e : Event) : Bool := e.subscriber?.all (· = i)

/-- The same can be done in both, and subscriber `i` is there in both or in neither, and behind by
as many messages. -/
structure Alike (i : Nat) (s s' : StopSignal) : Prop where
  shape : s.shape = s'.shape
  here : Gone s i ∧ Gone s' i ∨ ∃ k, Behind s i k ∧ Behind s' i k

namespace Alike

theorem sends (h : Alike i s s') (e : Event) : s.sends e = s'.sends e := by
  cases e with
  | trigger j => exact hasHandle_congr h.shape j
  | _ => rfl

theorem hears (h : Alike i s s') (e : Event) : s.hears i e = s'.hears i e := by
  unfold StopSignal.hears
  split
  next =>
    rcases h.here with ⟨gone, gone'⟩ | ⟨k, behind, behind'⟩
    · rw [gone.receive, gone'.receive]
    · obtain ⟨r, _, _, received, due, -⟩ := behind.receive
      obtain ⟨r', _, _, received', due', -⟩ := behind'.receive
      simp only [← hasHandle_congr h.shape] at due'
      rw [received, received', due.unique due']
      rfl
  next => rfl

/-- It stays so when the same happens in both. -/
theorem step (h : Alike i s s') (e : Event) : Alike i (s.step e) (s'.step e) where
  shape := shape_step_congr h.shape e
  here := by
    rcases h.here with ⟨gone, gone'⟩ | ⟨k, behind, behind'⟩
    · exact .inl ⟨gone.step e, gone'.step e⟩
    · by_cases drops : e = .dropSubscriber i
      · subst drops
        exact .inl ⟨gone_dropSubscriber behind.lt_length, gone_dropSubscriber behind'.lt_length⟩
      · obtain ⟨k₁, behind₁, sum⟩ := behind.step drops
        obtain ⟨k₂, behind₂, sum'⟩ := behind'.step drops
        rw [reads, ← h.hears e, ← reads, ← h.sends e] at sum'
        obtain rfl : k₁ = k₂ := by omega
        exact .inr ⟨k₁, behind₁, behind₂⟩

/-- Nor does it matter what another subscriber does. -/
theorem step_other (h : Alike i s s') {j : Nat} (by_ : e.subscriber? = some j) (other : j ≠ i) :
    Alike i (s.step e) s' where
  shape := by
    have still : e.shapes = false := by
      cases e with
      | dropSubscriber | receive => rfl
      | _ => cases by_
    exact (s.shape_step still).trans h.shape
  here := by
    have notOwn : e.subscriber? ≠ some i := by
      rw [by_]
      exact fun same => other (Option.some_inj.mp same)
    have still : s.sends e = false := by
      cases e with
      | trigger => cases by_
      | _ => rfl
    rcases h.here with ⟨gone, gone'⟩ | ⟨k, behind, behind'⟩
    · exact .inl ⟨gone.step e, gone'⟩
    · have same := subscribers_step behind.lt_length notOwn
      obtain ⟨next, at_, sum⟩ := behind
      refine .inr ⟨k, ⟨next, same.trans at_, ?_⟩, behind'⟩
      rw [sent_step, still]
      exact sum

/-- A subscriber receives the same when the others do nothing. -/
theorem received_filter (h : Alike i s s') (events : List Event) :
    s.received i events = s'.received i (events.filter (·.concerns i)) := by
  induction events generalizing s s' with
  | nil => rfl
  | cons e rest ih =>
    by_cases own : e.concerns i
    · rw [List.filter_cons_of_pos own, received, received, h.hears e, ih (h.step e)]
    · rw [List.filter_cons_of_neg own]
      obtain ⟨j, by_, other⟩ : ∃ j, e.subscriber? = some j ∧ j ≠ i := by
        rw [Event.concerns, Option.all_eq_true] at own
        push Not at own
        simpa using own
      have deaf : s.hears i e = none := by
        rw [StopSignal.hears, if_neg]
        rintro rfl
        exact other (Option.some_inj.mp by_).symm
      rw [received, deaf]
      exact ih (h.step_other by_ other)

end Alike

/-- What is sent and received has no effect on which handles there are and how many subscribers
came. -/
theorem shape_run_filter (h : s.shape = s'.shape) (events : List Event) :
    (s.run events).shape = (s'.run (events.filter (·.shapes))).shape := by
  induction events generalizing s s' with
  | nil => exact h
  | cons e rest ih =>
    by_cases shapes : e.shapes
    · rw [List.filter_cons_of_pos shapes]
      exact ih (shape_step_congr h e)
    · rw [List.filter_cons_of_neg shapes]
      exact ih ((s.shape_step (Bool.eq_false_iff.mpr shapes)).trans h)

end Funnel.StopSignal
