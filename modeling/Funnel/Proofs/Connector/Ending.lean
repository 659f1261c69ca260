import Funnel.Proofs.Connector.Tended

/-! Calls that end without a connection: their dial fails, their deadline passes, or they are given
up. Whatever such a call waited for or held, it leaves no trace but the permit, which goes to the
first call that waits for it. -/

namespace Funnel.Connector

namespace Phase

/-- The call has ended without a connection. -/
def isFailure : Phase → Bool
  | failed _ | expired | aborted => true
  | _ => false

/-- The call does not have the permit, and does not ask for it before it is woken. -/
def isSpent (p : Phase) : Bool := !p.isReady && !p.isDialing

variable {p : Phase}

theorem holdsPermit_of_isSpent (h : p.isSpent) : p.holdsPermit = false := by
  cases p <;> first | rfl | cases h

theorem isSpent_of_isFailure (h : p.isFailure) : p.isSpent := by
  cases p <;> first | rfl | cases h

theorem isListed_of_isFailure (h : p.isFailure) : p.isListed = false := by
  cases p <;> first | rfl | cases h

theorem not_isSpent_of_isEntering (h : p.isEntering) : ¬ p.isSpent := by
  cases p <;> first | exact Bool.false_ne_true | cases h

end Phase

/-- Call `i` has the permit, or was handed it and has not run since. -/
def holds (s : Connector) (i : Nat) : Bool := (s.phase? i).any Phase.holdsPermit

def Spent (s : Connector) (i : Nat) : Prop := ∀ p, s.phase? i = some p → p.isSpent

/-- Between call `i` and the permits that are with nobody nothing gets lost, and the others go on
waiting as before. -/
structure Keeps (i : Nat) (s s' : Connector) : Prop where
  permits : s'.permits + (s'.holds i).toNat = s.permits + (s.holds i).toNat
  queue : s'.queue.filter (· ≠ i) = s.queue.filter (· ≠ i)
  others : ∀ j, j ≠ i → s'.phase? j = s.phase? j

/-- Call `i` had the permit, and has handed it to `j`, which was the first to wait for it. -/
structure Hands (i j : Nat) (s s' : Connector) : Prop where
  held : s.holds i
  spent : s'.Spent i
  queue : s.queue.filter (· ≠ i) = j :: s'.queue.filter (· ≠ i)
  granted : s'.phase? j = some .granted
  others : ∀ k, k ≠ i → k ≠ j → s'.phase? k = s.phase? k

/-- Call `i` has come to no connection on its way from `s` to `s'`. -/
structure Vain (i : Nat) (s s' : Connector) : Prop where
  stats : s'.stats = s.stats
  metrics : s'.metrics = s.metrics
  parked : s'.parked.filter (· ≠ i) = s.parked.filter (· ≠ i)
  spent : s.Spent i → s'.Spent i
  permit : Keeps i s s' ∨ ∃ j, Hands i j s s'

section Vain

variable {s s' s'' t : Connector} {i : Nat} {p q : Phase}

theorem spent_of_phase? (at_ : s.phase? i = some p) (hp : p.isSpent) : s.Spent i := by
  intro q hq
  cases at_.symm.trans hq
  exact hp

theorem holds_of_phase? (at_ : s.phase? i = some p) : s.holds i = p.holdsPermit := by
  rw [holds, at_]
  rfl

theorem Spent.not_holds (h : s.Spent i) : s.holds i = false := by
  unfold holds
  cases at_ : s.phase? i with
  | none => rfl
  | some p => exact Phase.holdsPermit_of_isSpent (h p at_)

/-- Who has the permit has no match. -/
theorem Sound.permits_of_holds (h : Sound s 1) (held : s.holds i) : s.permits = 0 := by
  have one := h.permits
  obtain ⟨p, at_, hp⟩ := (Option.any_eq_true _ _).mp held
  rw [phase?_eq] at at_
  have some : 0 < s.count Phase.holdsPermit :=
    List.countP_pos_iff.mpr ⟨p, List.mem_of_getElem? at_, hp⟩
  omega

theorem Alike.vain (same : Alike s s') (i : Nat) : Vain i s s' := by
  have holds : s'.holds i = s.holds i := by rw [Connector.holds, same.phase?, Connector.holds]
  refine ⟨same.stats, same.metrics, by rw [same.parked], fun spent p at_ => ?_, .inl ⟨?_, ?_, ?_⟩⟩
  · exact spent p ((same.phase? i).symm.trans at_)
  · rw [holds, same.permits]
  · rw [same.queue]
  · exact fun j _ => same.phase? j

theorem Vain.trans (h : Sound s 1) (first : Vain i s s') (then_ : Vain i s' s'') :
    Vain i s s'' := by
  refine ⟨then_.stats.trans first.stats, then_.metrics.trans first.metrics,
    then_.parked.trans first.parked, fun spent => then_.spent (first.spent spent), ?_⟩
  rcases first.permit with keeps | ⟨j, hands⟩ <;> rcases then_.permit with keeps' | ⟨k, hands'⟩
  · exact .inl ⟨keeps'.permits.trans keeps.permits, keeps'.queue.trans keeps.queue,
      fun j hj => (keeps'.others j hj).trans (keeps.others j hj)⟩
  · -- A permit that the call has taken meanwhile, nobody waits for.
    have held : s.holds i := by
      by_contra without
      have account := keeps.permits
      rw [hands'.held, Bool.eq_false_iff.mpr without] at account
      have nobody : s.queue = [] := h.queue_eq_nil (by simp at account; omega)
      have queue := keeps.queue.symm.trans hands'.queue
      rw [nobody] at queue
      cases queue
    refine .inr ⟨k, held, hands'.spent, keeps.queue.symm.trans hands'.queue, hands'.granted, ?_⟩
    exact fun l hi hk => (hands'.others l hi hk).trans (keeps.others l hi)
  · have queue := hands.queue
    have hj : j ≠ i := by
      have first : j ∈ s.queue.filter (· ≠ i) := queue.symm ▸ List.mem_cons_self
      simpa using (List.mem_filter.mp first).2
    refine .inr ⟨j, hands.held, then_.spent hands.spent, ?_, ?_, fun l hi hl => ?_⟩
    · rw [queue, keeps'.queue]
    · exact (keeps'.others j hj).trans hands.granted
    · exact (keeps'.others l hi).trans (hands.others l hi hl)
  · have lost := hands.spent.not_holds
    rw [hands'.held] at lost
    cases lost

/-- The call goes from `q` to `p`, and `t` has the lists and the permits changed accordingly. -/
theorem vain_setPhase (at_ : s.phase? i = some q) (spent : q.isSpent → p.isSpent)
    (calls : t.calls = s.calls) (stats : t.stats = s.stats) (metrics : t.metrics = s.metrics)
    (permits : t.permits + p.holdsPermit.toNat = s.permits + q.holdsPermit.toNat)
    (queue : t.queue.filter (· ≠ i) = s.queue.filter (· ≠ i))
    (parked : t.parked.filter (· ≠ i) = s.parked.filter (· ≠ i)) : Vain i s (t.setPhase i p) := by
  have same (j : Nat) : t.phase? j = s.phase? j := by rw [phase?, calls, phase?]
  have after : (t.setPhase i p).phase? i = some p := by
    rw [phase?_setPhase ((same i).trans at_), if_pos rfl]
  refine ⟨stats, metrics, parked, fun h => spent_of_phase? after (spent (h q at_)),
    .inl ⟨?_, queue, fun j hj => ?_⟩⟩
  · rw [holds_of_phase? after, holds_of_phase? at_]
    exact permits
  · rw [phase?_setPhase_ne hj, same]

/-- The call gives the permit back, and goes on to `p`. -/
theorem vain_giveBack (h : Sound s 1) (at_ : s.phase? i = some q) (held : q.holdsPermit)
    (after : s'.phase? i = some p) (spent : p.isSpent)
    (others : ∀ j, j ≠ i → s'.phase? j = s.giveBack.phase? j) (stats : s'.stats = s.stats)
    (metrics : s'.metrics = s.metrics) (permits : s'.permits = s.giveBack.permits)
    (queue : s'.queue = s.queue.tail)
    (parked : s'.parked.filter (· ≠ i) = s.parked.filter (· ≠ i)) : Vain i s s' := by
  have holds : s.holds i := (holds_of_phase? at_).trans held
  have spent' := spent_of_phase? after spent
  refine ⟨stats, metrics, parked, fun _ => spent', ?_⟩
  rw [permits_giveBack] at permits
  cases hqueue : s.queue with
  | nil =>
    rw [if_pos hqueue] at permits
    refine .inl ⟨?_, by rw [queue, hqueue]; rfl, fun j hj => ?_⟩
    · rw [spent'.not_holds, holds, permits]
      rfl
    · rw [others j hj, phase?_giveBack_eq, hqueue, if_neg (by simp)]
  | cons j rest =>
    have waits : s.phase? j = some .queued := h.mem_queue.mp (by simp [hqueue])
    have hj : j ≠ i := by
      rintro rfl
      cases at_.symm.trans waits
      cases held
    refine .inr ⟨j, holds, spent', ?_, ?_, fun k hi hk => ?_⟩
    · rw [queue, hqueue]
      simp [hj]
    · rw [others j hj, phase?_giveBack_eq, hqueue, waits, if_pos List.head?_cons]
      rfl
    · rw [others k hi, phase?_giveBack_eq, hqueue, if_neg (by simpa using Ne.symm hk)]

theorem vain_fail {f : Fault} {permit : Bool} {due : Option Nat} (h : Sound s 1)
    (at_ : s.phase? i = some (.dialing permit due)) : Vain i s (s.finish i permit (.error f)) := by
  cases permit with
  | false => exact vain_setPhase at_ nofun rfl rfl rfl rfl rfl rfl
  | true =>
    refine vain_giveBack h at_ rfl (phase?_finish h at_ _) rfl (fun j hj => ?_)
      (stats_finish s i _ _) (metrics_finish s i _ _) ?_ (queue_finish s i _ _)
      (by rw [parked_finish])
    · show ((s.setPhase i (.failed f)).giveBack).phase? j = _
      rw [phase?_giveBack_eq, phase?_giveBack_eq, phase?_setPhase_ne hj]
      rfl
    · show ((s.setPhase i (.failed f)).giveBack).permits = _
      rw [permits_giveBack, permits_giveBack]
      rfl

theorem vain_cancel (h : Sound s 1) (at_ : s.phase? i = some q) (hp : p.isFailure) :
    Vain i s ((s.withdraw i q).setPhase i p) := by
  have spent := Phase.isSpent_of_isFailure hp
  have none := Phase.holdsPermit_of_isSpent spent
  have giving (held : q.holdsPermit) : Vain i s (s.giveBack.setPhase i p) := by
    have hq : q ≠ .queued := by
      rintro rfl
      cases held
    have after := (phase?_setPhase (h.phase?_giveBack at_ hq) p i).trans (if_pos rfl)
    exact vain_giveBack h at_ held after spent (fun j hj => phase?_setPhase_ne hj p)
      (stats_giveBack s) (metrics_giveBack s) rfl (queue_giveBack s)
      (congrArg _ (parked_giveBack s))
  have plain (held : q.holdsPermit = false) : Vain i s (s.setPhase i p) :=
    vain_setPhase at_ (fun _ => spent) rfl rfl rfl (by rw [none, held]) rfl rfl
  cases q with
  | granted => exact giving rfl
  | dialing permit due =>
    cases permit
    · exact plain rfl
    · exact giving rfl
  | queued =>
    refine vain_setPhase at_ (fun _ => spent) rfl rfl rfl (by rw [none]; rfl) ?_ rfl
    exact List.filter_filter.trans (by simp)
  | parked =>
    refine vain_setPhase at_ (fun _ => spent) rfl rfl rfl (by rw [none]; rfl) rfl ?_
    exact List.filter_filter.trans (by simp)
  | _ => exact plain rfl

theorem Move.vain (m : Move i s s') (h : Sound s 1) :
    Vain i s s' ∨ ∃ p n, s'.phase? i = some (.live p n) := by
  cases m with
  | idle same => exact .inl (same.toAlike.vain i)
  | park at_ enters =>
    refine .inl (vain_setPhase at_ (fun _ => rfl) rfl rfl rfl ?_ rfl (by simp))
    rw [Phase.holdsPermit_of_isEntering enters]
    rfl
  | enqueue at_ enters =>
    refine .inl (vain_setPhase at_ (fun _ => rfl) rfl rfl rfl ?_ (by simp) rfl)
    rw [Phase.holdsPermit_of_isEntering enters]
    rfl
  | dialFreely at_ enters due =>
    have begun := Phase.not_isSpent_of_isEntering enters
    refine .inl (vain_setPhase at_ (fun h => absurd h begun) rfl rfl rfl ?_ rfl rfl)
    rw [Phase.holdsPermit_of_isEntering enters]
    rfl
  | dialTaking at_ enters due live unknown there =>
    have begun := Phase.not_isSpent_of_isEntering enters
    refine .inl (vain_setPhase at_ (fun h => absurd h begun) rfl rfl rfl ?_ rfl rfl)
    rw [Phase.holdsPermit_of_isEntering enters]
    exact Nat.sub_add_cancel there
  | dialGranted at_ due => exact .inl (vain_setPhase at_ nofun rfl rfl rfl rfl rfl rfl)
  | yield at_ =>
    have after : (s.giveBack.park i).phase? i = some .parked := by
      refine (phase?_setPhase (q := .granted) ?_ _ i).trans (if_pos rfl)
      exact h.phase?_giveBack at_ nofun
    refine .inl (vain_giveBack h at_ rfl after rfl (fun j hj => phase?_setPhase_ne hj _)
      (stats_giveBack s) (metrics_giveBack s) rfl (queue_giveBack s) ?_)
    show (s.giveBack.parked ++ [i]).filter (· ≠ i) = _
    rw [parked_giveBack]
    simp
  | @finish t permit result at_ =>
    cases result with
    | error f => exact .inl (vain_fail h at_)
    | ok p => exact .inr ⟨p, _, phase?_finish h at_ _⟩
  | cancel at_ pending ends =>
    refine .inl (vain_cancel h at_ ?_)
    rcases ends with rfl | rfl <;> rfl

/-- A call that is over is not brought on. -/
theorem Move.phase?_of_ended (m : Move i s s') (at_ : s.phase? i = some p)
    (ended : p.isPending = false) : s'.phase? i = some p := by
  have ready (h : s.ready i) : s'.phase? i = some p := by
    have under_way := pending_of_ready h
    rw [pending, at_, Option.any_some, ended] at under_way
    cases under_way
  cases m with
  | idle same => exact (same.phase? i).trans at_
  | park at' enters => exact ready (ready_of_isEntering at' enters)
  | enqueue at' enters => exact ready (ready_of_isEntering at' enters)
  | dialFreely at' enters => exact ready (ready_of_isEntering at' enters)
  | dialTaking at' enters => exact ready (ready_of_isEntering at' enters)
  | dialGranted at' => exact ready (ready_of_granted at')
  | yield at' => exact ready (ready_of_granted at')
  | finish result at' =>
    cases at_.symm.trans at'
    cases ended
  | cancel at' pending =>
    cases at_.symm.trans at'
    rw [ended] at pending
    cases pending

theorem Moves.phase?_of_ended (m : Moves i s s') (at_ : s.phase? i = some p)
    (ended : p.isPending = false) : s'.phase? i = some p := by
  induction m with
  | refl => exact at_
  | tail _ last ih => exact last.phase?_of_ended ih ended

theorem Moves.vain (m : Moves i s s') (h : Sound s 1) :
    Vain i s s' ∨ ∃ p n, s'.phase? i = some (.live p n) := by
  induction m with
  | refl => exact .inl ((Alike.refl s).vain i)
  | tail m last ih =>
    -- With a connection, the call has nothing more to do.
    rcases ih with vain | ⟨p, n, up⟩
    · exact (last.vain (Moves.sound m h)).imp (vain.trans h) id
    · exact .inr ⟨p, n, last.phase?_of_ended up rfl⟩

end Vain

/-! ### The step in which a call ends -/

section Step

variable {s : Connector} {i : Nat} {p : Phase} {e : Event}

/-- What becomes of a call otherwise than by its own turn or by being given up: it may be told that
its wait is over, and its connection may go. -/
theorem phase?_step (h : Sound s 1) (at_ : s.phase? i = some p) (turn : e ≠ .turn i)
    (abort : e ≠ .abort i) :
    (s.step e).phase? i = some p ∨ Called s (s.step e) i ∨
      ∃ q n, p = .live q n ∧ (s.step e).phase? i = some (.dropped q n) := by
  have bound : i < s.phases.length := by
    rw [phase?_eq] at at_
    exact (List.getElem?_eq_some_iff.mp at_).1
  have stays {ps : List Phase} (phases : (s.step e).phases = s.phases ++ ps) :
      (s.step e).phase? i = some p := by
    rw [phase?_eq, phases, List.getElem?_append_left bound, ← phase?_eq, at_]
  have spares {j : Nat} (spared : Spares j s (s.step e)) (hj : i ≠ j) :
      (s.step e).phase? i = some p ∨ Called s (s.step e) i :=
    (spared.phase i hj).imp (fun same => same.trans at_) id
  cases e with
  | call d => exact .inl (stays (phases_call s d))
  | reject f => exact .inl (stays (phases_reject s f))
  | turn j =>
    have hj : i ≠ j := fun same => turn (by rw [same])
    have same := alike_atTurn s j
    rcases (Moves.spares turn_moves (h.alike same)).phase i hj with still | ⟨phase, woken⟩
    · exact .inl (still.trans ((same.phase? i).trans at_))
    · rw [same.phase?] at phase
      exact .inr (.inl ⟨phase, woken⟩)
  | abort j =>
    have hj : i ≠ j := fun same => abort (by rw [same])
    exact (spares (Moves.spares (cancel_moves (.inr rfl)) h) hj).imp id .inl
  | drop j =>
    by_cases hj : i = j
    · subst hj
      by_cases live : ∃ q n, s.phase? i = some (.live q n)
      · obtain ⟨q, n, up⟩ := live
        cases at_.symm.trans up
        exact .inr (.inr ⟨q, n, rfl, phase?_drop h up⟩)
      · rw [step, drop_eq_self fun q n up => live ⟨q, n, up⟩]
        exact .inl at_
    · exact (spares (spares_drop h) hj).imp id .inl
  | wait span => exact .inl (((alike_fire s _).phase? i).trans at_)

/-- A call ends in its own turn, or as it is given up. -/
theorem turn_or_abort_of_ends (h : Sound s 1) (pending : s.pending i)
    (ended : ¬ (s.step e).pending i) : e = .turn i ∨ e = .abort i := by
  by_contra neither
  rw [not_or] at neither
  obtain ⟨p, at_, under_way⟩ := (Option.any_eq_true _ _).mp pending
  refine ended ?_
  rcases phase?_step h at_ neither.1 neither.2 with still | called | ⟨q, n, rfl, -⟩
  · rw [Connector.pending, still]
    exact under_way
  · rcases called.phase with ⟨-, now⟩ | ⟨-, now⟩ <;> rw [Connector.pending, now] <;> rfl
  · cases under_way

/-- What a call does in the step in which it ends; before it moves at most its deadline is fixed. -/
theorem moves_of_ends (h : Sound s 1) (pending : s.pending i) (ended : ¬ (s.step e).pending i) :
    ∃ t, Alike s t ∧ t.timers = s.timers ∧ (∀ j, j ≠ i → t.deadline? j = s.deadline? j) ∧
      Moves i t (s.step e) := by
  rcases turn_or_abort_of_ends h pending ended with rfl | rfl
  · exact ⟨s.atTurn i, alike_atTurn s i, timers_atTurn s i,
      fun j hj => deadline?_atTurn_of_ne fun _ => hj, turn_moves⟩
  · exact ⟨s, .refl s, rfl, fun _ _ => rfl, cancel_moves (.inr rfl)⟩

end Step

/-- What becomes of the permit as call `i` ends. -/
inductive Releases (i : Nat) (s s' : Connector) : Prop
  /-- The call did not have it. -/
  | nothing (held : ¬ s.holds i) (permits : s'.permits = s.permits)
      (queue : s'.queue = s.queue.filter (· ≠ i)) (others : ∀ j, j ≠ i → s'.phase? j = s.phase? j)
  /-- Nobody waits for it. -/
  | free (held : s.holds i) (before : s.permits = 0) (after : s'.permits = 1)
      (nobody : s.queue = []) (still : s'.queue = [])
      (others : ∀ j, j ≠ i → s'.phase? j = s.phase? j)
  /-- The first call that waits for it is handed it, and woken. -/
  | next {j : Nat} {rest : List Nat} (held : s.holds i) (before : s.permits = 0)
      (after : s'.permits = 0) (first : s.queue = j :: rest) (left : s'.queue = rest)
      (waits : s.phase? j = some .queued) (granted : s'.phase? j = some .granted)
      (woken : j ∈ s'.woken) (others : ∀ k, k ≠ i → k ≠ j → s'.phase? k = s.phase? k)

theorem filter_ne_eq_self {l : List Nat} {i : Nat} (h : i ∉ l) : l.filter (· ≠ i) = l := by
  rw [List.filter_eq_self]
  intro j hj
  have : j ≠ i := fun same => h (same ▸ hj)
  simpa using this

theorem Vain.releases {s s' : Connector} {i : Nat} {p : Phase} (vain : Vain i s s')
    (h : Sound s 1) (h' : Sound s' 1)
    (called : ∀ j, j ≠ i → s'.phase? j = s.phase? j ∨ Called s s' j)
    (at_ : s'.phase? i = some p) (hp : p.isFailure) : Releases i s s' := by
  have gone : s'.queue.filter (· ≠ i) = s'.queue :=
    filter_ne_eq_self (h'.not_mem_queue at_ (Phase.ne_queued (Phase.isListed_of_isFailure hp)))
  have without := (spent_of_phase? at_ (Phase.isSpent_of_isFailure hp)).not_holds
  have apart (held : s.holds i) : s.queue.filter (· ≠ i) = s.queue := by
    refine filter_ne_eq_self fun listed => ?_
    rw [holds_of_phase? (h.mem_queue.mp listed)] at held
    cases held
  rcases vain.permit with keeps | ⟨j, hands⟩
  · have account := keeps.permits
    have queue := keeps.queue
    rw [without] at account
    rw [gone] at queue
    cases held : s.holds i with
    | false =>
      rw [held] at account
      exact .nothing (by simp [held]) account queue keeps.others
    | true =>
      have none := h.permits_of_holds held
      rw [held, none] at account
      have nobody : s'.queue = [] := h'.queue_eq_nil (by simp at account; omega)
      rw [apart held, nobody] at queue
      exact .free held none account queue.symm nobody keeps.others
  · have queue := hands.queue
    rw [gone, apart hands.held] at queue
    have waits : s.phase? j = some .queued := h.mem_queue.mp (queue.symm ▸ List.mem_cons_self)
    have hj : j ≠ i := by
      rintro rfl
      cases (holds_of_phase? waits).symm.trans hands.held
    have woken : j ∈ s'.woken := by
      rcases called j hj with same | called
      · cases waits.symm.trans (same.symm.trans hands.granted)
      · exact called.woken
    have taken : s'.permits = 0 := h'.permits_of_holds (holds_of_phase? hands.granted)
    exact .next hands.held (h.permits_of_holds hands.held) taken queue rfl waits hands.granted woken
      hands.others

/-- A call that ends without a connection, be it that its dial fails, that its deadline passes or
that it is given up, leaves no trace: the counters and the metrics stay, the permit goes on exactly
once if the call had it, and stays where it is otherwise, and the deadlines and dials of the other
calls are as they were. -/
theorem failure_leaves_no_trace (limit : Nat) (events : List Event) (e : Event) (i : Nat)
    (pending : ((new limit).run events).pending i)
    (failure : ((((new limit).run events).step e).phase? i).any Phase.isFailure) :
    let s := (new limit).run events
    let s' := s.step e
    s'.stats = s.stats ∧ s'.metrics = s.metrics ∧ Releases i s s' ∧
    s'.parked = s.parked.filter (· ≠ i) ∧
    ∀ j, j ≠ i → s'.deadline? j = s.deadline? j ∧ s'.plan? j = s.plan? j ∧
      (∀ t ∈ s.timers, t ∈ s'.timers) ∧
      ∀ permit due, s.phase? j = some (.dialing permit due) →
        s'.phase? j = some (.dialing permit due) := by
  intro s s'
  have sound : Sound s 1 := sound_run limit events
  have sound' : Sound s' 1 := sound.step e
  obtain ⟨p, at_, hp⟩ := (Option.any_eq_true _ _).mp failure
  have ended : ¬ s'.pending i := by
    rw [Connector.pending, at_]
    cases p <;> first | exact Bool.false_ne_true | cases hp
  obtain ⟨t, same, timers, deadlines, moves⟩ := moves_of_ends sound pending ended
  have vain : Vain i s s' := by
    rcases Moves.vain moves (sound.alike same) with vain | ⟨q, n, up⟩
    · exact (same.vain i).trans sound vain
    · cases at_.symm.trans up
      cases hp
  have spared := Moves.spares moves (sound.alike same)
  have called (j : Nat) (hj : j ≠ i) : s'.phase? j = s.phase? j ∨ Called s s' j := by
    rcases spared.phase j hj with still | ⟨phase, woken⟩
    · exact .inl (still.trans (same.phase? j))
    · rw [same.phase?] at phase
      exact .inr ⟨phase, woken⟩
  refine ⟨vain.stats, vain.metrics, vain.releases sound sound' called at_ hp, ?_, fun j hj =>
    ⟨?_, ?_, fun u hu => spared.timers u (timers.symm ▸ hu), fun permit due dials => ?_⟩⟩
  · have gone : i ∉ s'.parked := by
      rw [sound'.mem_parked, at_, Option.some.injEq]
      exact Phase.ne_parked (Phase.isListed_of_isFailure hp)
    rw [← vain.parked, filter_ne_eq_self gone]
  · rw [spared.deadline, deadlines j hj]
  · rw [plan?, Moves.plans moves, same.plans, plan?]
  · rcases called j hj with still | ⟨⟨waits, -⟩ | ⟨waits, -⟩, -⟩
    · exact still.trans dials
    · cases dials.symm.trans waits
    · cases dials.symm.trans waits

/-- The deadline of the call that dials passes; the permit goes by the call that was given up, to
the next in the queue. -/
theorem failure_leaves_no_trace_timeout :
    let d : Dial := ⟨none, .ok .http2⟩
    let s := (new 100).run [.call d, .call d, .call d, .turn 0, .wait 50, .turn 1, .turn 2,
      .abort 1, .wait 50]
    s.pending 0 ∧ ((s.step (.turn 0)).phase? 0).any Phase.isFailure ∧
      Releases 0 s (s.step (.turn 0)) ∧ s.queue = [2] ∧
      (s.step (.turn 0)).phase? 2 = some .granted := by
  intro d s
  have pending : s.pending 0 := by decide
  have failure : ((s.step (.turn 0)).phase? 0).any Phase.isFailure := by decide
  obtain ⟨-, -, releases, -⟩ := failure_leaves_no_trace 100 _ (.turn 0) 0 pending failure
  exact ⟨pending, failure, releases, by decide, by decide⟩

end Funnel.Connector
