import Funnel.Proofs.Connector.Move
import Mathlib.Data.List.Induction

/-! The books of a connector, which every run keeps in order: the two lists of waiting calls hold
the calls in the phases that they stand for, the permits that are with nobody and those that calls
have make one, the counter of live HTTP/2 connections is exact, nobody waits for a permit that is
there, and nobody waits for an HTTP/2 connection to go when none is alive. -/

namespace Funnel.Connector

namespace Phase

/-- The call is on a list of waiting calls. -/
def isListed : Phase → Bool
  | queued | parked => true
  | _ => false

/-- The call is on no list and has no HTTP/2 connection. -/
def isLoose : Phase → Bool
  | queued | parked | live .http2 _ => false
  | _ => true

variable {p : Phase}

theorem ne_queued (h : p.isListed = false) : p ≠ queued := by
  rintro rfl
  cases h

theorem ne_parked (h : p.isListed = false) : p ≠ parked := by
  rintro rfl
  cases h

theorem isListed_of_isLoose (h : p.isLoose) : p.isListed = false := by
  cases p <;> first | rfl | cases h

theorem isListed_of_isEntering (h : p.isEntering) : p.isListed = false := by
  cases p <;> first | rfl | cases h

theorem isListed_of_isEnding (h : p = expired ∨ p = aborted) : p.isListed = false := by
  rcases h with rfl | rfl <;> rfl

theorem isLiveHttp2_of_isLoose (h : p.isLoose) : p.isLiveHttp2 = false := by
  cases p with
  | live protocol _ => cases protocol <;> first | rfl | cases h
  | _ => rfl

theorem isLoose_of_isEntering (h : p.isEntering) : p.isLoose := by
  cases p <;> first | rfl | cases h

theorem holdsPermit_of_isEntering (h : p.isEntering) : p.holdsPermit = false := by
  cases p <;> first | rfl | cases h

end Phase

/-- The two lists of waiting calls hold the calls in the phases that they stand for. -/
structure Listed (s : Connector) : Prop where
  queue : Lists s.phases s.queue .queued
  parked : Lists s.phases s.parked .parked

/-- The books of the calls are right, with `n` permits in all. -/
structure Counted (s : Connector) (n : Nat) : Prop extends Listed s where
  permits : s.permits + s.count Phase.holdsPermit = n
  queue_eq_nil : 0 < s.permits → s.queue = []
  live : s.stats.liveMultiplexed = s.liveHttp2

/-- Moreover, nobody waits for an HTTP/2 connection to go when none is alive. -/
structure Sound (s : Connector) (n : Nat) : Prop extends Counted s n where
  parked_eq_nil : s.stats.liveMultiplexed = 0 → s.parked = []

theorem listed_new (limit : Nat) : Listed (new limit) :=
  ⟨⟨List.nodup_nil, by simp [new, phases]⟩, ⟨List.nodup_nil, by simp [new, phases]⟩⟩

theorem sound_new (limit : Nat) : Sound (new limit) 1 where
  toListed := listed_new limit
  permits := rfl
  queue_eq_nil _ := rfl
  live := rfl
  parked_eq_nil _ := rfl

/-! ### The lists -/

namespace Listed

variable {s s' : Connector} {i : Nat} {p q : Phase}

theorem of_same (h : Listed s) (phases : s'.phases = s.phases) (queue : s'.queue = s.queue)
    (parked : s'.parked = s.parked) : Listed s' :=
  ⟨by rw [phases, queue]; exact h.queue, by rw [phases, parked]; exact h.parked⟩

theorem alike (h : Listed s) (same : Alike s s') : Listed s' :=
  h.of_same same.phases same.queue same.parked

theorem mem_queue (h : Listed s) : i ∈ s.queue ↔ s.phase? i = some .queued := by
  rw [phase?_eq]
  exact h.queue.2 i

theorem mem_parked (h : Listed s) : i ∈ s.parked ↔ s.phase? i = some .parked := by
  rw [phase?_eq]
  exact h.parked.2 i

theorem not_mem_queue (h : Listed s) (at_ : s.phase? i = some q) (hq : q ≠ .queued) :
    i ∉ s.queue := by
  rw [h.mem_queue, at_, Option.some.injEq]
  exact hq

/-- A call that does not wait for the permit does not see it come back. -/
theorem phase?_giveBack (h : Listed s) (at_ : s.phase? i = some q) (hq : q ≠ .queued) :
    s.giveBack.phase? i = some q :=
  (Connector.phase?_giveBack (h.not_mem_queue at_ hq)).trans at_

theorem queue_keep (h : Listed s) (at_ : s.phase? i = some q) (hq : q ≠ .queued)
    (hp : p ≠ .queued) : Lists (s.phases.set i p) s.queue .queued :=
  h.queue.keep ((phase?_eq s i).symm.trans at_) hq hp

theorem parked_keep (h : Listed s) (at_ : s.phase? i = some q) (hq : q ≠ .parked)
    (hp : p ≠ .parked) : Lists (s.phases.set i p) s.parked .parked :=
  h.parked.keep ((phase?_eq s i).symm.trans at_) hq hp

/-- A call that is on no list before and after. -/
theorem set (h : Listed s) (at_ : s.phase? i = some q) (hq : q.isListed = false)
    (hp : p.isListed = false) (phases : s'.phases = s.phases.set i p)
    (queue : s'.queue = s.queue) (parked : s'.parked = s.parked) : Listed s' where
  queue := by
    rw [phases, queue]
    exact h.queue_keep at_ (Phase.ne_queued hq) (Phase.ne_queued hp)
  parked := by
    rw [phases, parked]
    exact h.parked_keep at_ (Phase.ne_parked hq) (Phase.ne_parked hp)

theorem setPhase (h : Listed s) (at_ : s.phase? i = some q) (hq : q.isListed = false)
    (hp : p.isListed = false) : Listed (s.setPhase i p) :=
  h.set at_ hq hp (phases_setPhase s i p) rfl rfl

theorem park (h : Listed s) (at_ : s.phase? i = some q) (hq : q.isListed = false) :
    Listed (s.park i) where
  queue := by
    rw [phases_park]
    exact h.queue_keep at_ (Phase.ne_queued hq) nofun
  parked := by
    rw [phases_park]
    exact h.parked.append ((phase?_eq s i).symm.trans at_) (Phase.ne_parked hq)

theorem enqueue (h : Listed s) (at_ : s.phase? i = some q) (hq : q.isListed = false) :
    Listed (s.enqueue i) where
  queue := by
    rw [phases_enqueue]
    exact h.queue.append ((phase?_eq s i).symm.trans at_) (Phase.ne_queued hq)
  parked := by
    rw [phases_enqueue]
    exact h.parked_keep at_ (Phase.ne_parked hq) nofun

theorem markDialing (h : Listed s) (at_ : s.phase? i = some q) (hq : q.isListed = false)
    (permit : Bool) (due : Option Nat) : Listed (s.markDialing i permit due) :=
  h.set at_ hq rfl (phases_markDialing s i permit due) rfl rfl

/-- Who is handed the permit waits no longer for it. -/
theorem hand {j : Nat} {rest : List Nat} (h : Listed s) (hqueue : s.queue = j :: rest) :
    s.phase? j = some .queued ∧ Listed ({ s with queue := rest }.setPhase j .granted) := by
  have at_ : s.phase? j = some .queued := h.mem_queue.mp (by simp [hqueue])
  have listed := h.queue
  rw [hqueue] at listed
  refine ⟨at_, ?_, ?_⟩
  · rw [phases_setPhase]
    exact listed.tail nofun
  · rw [phases_setPhase]
    exact h.parked_keep at_ nofun nofun

theorem giveBack (h : Listed s) : Listed s.giveBack := by
  unfold Connector.giveBack
  split
  · exact h.of_same rfl rfl rfl
  · rename_i j rest hqueue
    exact (h.hand hqueue).2.alike (idle_wake _ j).toAlike

theorem giveBackIf (h : Listed s) (permit : Bool) : Listed (s.giveBackIf permit) := by
  cases permit
  · exact h
  · exact h.giveBack

theorem tally {permit : Bool} {due : Option Nat} (h : Listed s)
    (at_ : s.phase? i = some (.dialing permit due)) (result : Except Fault Protocol) :
    Listed ((s.tally result).setPhase i (s.outcome result)) := by
  cases result <;> exact h.set at_ rfl rfl (phases_setPhase _ i _) rfl rfl

theorem close {number : Nat} {protocol : Protocol} (h : Listed s)
    (at_ : s.phase? i = some (.live protocol number)) : Listed (s.close i protocol number) :=
  h.set at_ rfl rfl (phases_setPhase _ i _) rfl rfl

theorem withdraw (h : Listed s) (at_ : s.phase? i = some q) (hp : p.isListed = false) :
    Listed ((s.withdraw i q).setPhase i p) := by
  have at' := (phase?_eq s i).symm.trans at_
  cases q with
  | parked =>
    refine ⟨?_, ?_⟩ <;> rw [phases_setPhase]
    · exact h.queue_keep at_ nofun (Phase.ne_queued hp)
    · exact h.parked.filter at' (Phase.ne_parked hp)
  | queued =>
    refine ⟨?_, ?_⟩ <;> rw [phases_setPhase]
    · exact h.queue.filter at' (Phase.ne_queued hp)
    · exact h.parked_keep at_ nofun (Phase.ne_parked hp)
  | granted => exact h.giveBack.setPhase (h.phase?_giveBack at_ nofun) rfl hp
  | dialing permit due =>
    cases permit
    · exact h.setPhase at_ rfl hp
    · exact h.giveBack.setPhase (h.phase?_giveBack at_ nofun) rfl hp
  | _ => exact h.setPhase at_ rfl hp

/-- A further call, on no list. -/
theorem concat (h : Listed s) (phases : s'.phases = s.phases ++ [p]) (hp : p.isListed = false)
    (queue : s'.queue = s.queue) (parked : s'.parked = s.parked) : Listed s' where
  queue := by
    rw [phases, queue]
    exact h.queue.concat (Phase.ne_queued hp)
  parked := by
    rw [phases, parked]
    exact h.parked.concat (Phase.ne_parked hp)

theorem notifyParked (h : Listed s) : Listed s.notifyParked := by
  have phases := phases_notifyParked s h.parked
  refine ⟨⟨?_, fun j => ?_⟩, ⟨?_, fun j => ?_⟩⟩
  · rw [queue_notifyParked]
    exact h.queue.1
  · rw [queue_notifyParked, h.queue.2 j, phases, List.getElem?_map]
    cases s.phases[j]? with
    | none => rfl
    | some q => cases q <;> simp [Phase.told]
  · rw [parked_notifyParked]
    exact List.nodup_nil
  · rw [parked_notifyParked, phases, List.getElem?_map]
    cases s.phases[j]? with
    | none => simp
    | some q => cases q <;> simp [Phase.told]

end Listed

/-! ### The counts -/

namespace Counted

variable {s s' : Connector} {n n' i : Nat} {p q : Phase}

theorem alike (h : Counted s n) (same : Alike s s') : Counted s' n where
  toListed := h.toListed.alike same
  permits := by rw [count, same.phases, same.permits]; exact h.permits
  queue_eq_nil := by rw [same.permits, same.queue]; exact h.queue_eq_nil
  live := by rw [liveHttp2, count, same.phases, same.stats]; exact h.live

/-- One call goes from phase `q` to phase `p`: the counts follow if the permits with nobody and the
counter of live connections make up for the two phases. -/
theorem move (h : Counted s n) (at_ : s.phase? i = some q) (phases : s'.phases = s.phases.set i p)
    (listed : Listed s')
    (permits : s'.permits + p.holdsPermit.toNat + n = s.permits + q.holdsPermit.toNat + n')
    (queue_eq_nil : 0 < s'.permits → s'.queue = [])
    (live : s'.stats.liveMultiplexed + q.isLiveHttp2.toNat =
      s.stats.liveMultiplexed + p.isLiveHttp2.toNat) : Counted s' n' := by
  rw [phase?_eq] at at_
  have held := countP_set_add at_ p Phase.holdsPermit
  have alive := countP_set_add at_ p Phase.isLiveHttp2
  have permits_eq := h.permits
  have live_eq := h.live
  rw [liveHttp2] at live_eq
  unfold count at permits_eq live_eq
  refine ⟨listed, ?_, queue_eq_nil, ?_⟩
  · rw [count, phases]
    omega
  · rw [liveHttp2, count, phases]
    omega

/-- A call that is on no list before and after, and got no HTTP/2 connection. -/
theorem setPhase (h : Counted s n) (at_ : s.phase? i = some q) (hq : q.isLoose) (hp : p.isLoose)
    (permits : p.holdsPermit.toNat + n = q.holdsPermit.toNat + n') :
    Counted (s.setPhase i p) n' := by
  refine h.move at_ (phases_setPhase s i p)
    (h.toListed.setPhase at_ (Phase.isListed_of_isLoose hq) (Phase.isListed_of_isLoose hp))
    ?_ h.queue_eq_nil ?_
  · show s.permits + _ + _ = _
    omega
  · rw [Phase.isLiveHttp2_of_isLoose hq, Phase.isLiveHttp2_of_isLoose hp]
    rfl

theorem park (h : Counted s n) (at_ : s.phase? i = some q) (hq : q.isLoose)
    (permits : n = q.holdsPermit.toNat + n') : Counted (s.park i) n' := by
  refine h.move at_ (phases_park s i) (h.toListed.park at_ (Phase.isListed_of_isLoose hq)) ?_
    h.queue_eq_nil ?_
  · show s.permits + 0 + _ = _
    omega
  · rw [Phase.isLiveHttp2_of_isLoose hq]
    rfl

theorem enqueue (h : Counted s n) (at_ : s.phase? i = some q) (hq : q.isLoose)
    (holds : q.holdsPermit = false) (taken : s.permits = 0) : Counted (s.enqueue i) n := by
  refine h.move at_ (phases_enqueue s i) (h.toListed.enqueue at_ (Phase.isListed_of_isLoose hq))
    ?_ ?_ ?_
  · rw [holds]
    rfl
  · intro there
    exact absurd taken (Nat.ne_of_gt there)
  · rw [Phase.isLiveHttp2_of_isLoose hq]
    rfl

theorem take (h : Counted s (n + 1)) (there : 0 < s.permits) :
    Counted { s with permits := s.permits - 1 } n := by
  refine ⟨⟨h.queue, h.parked⟩, ?_, fun _ => h.queue_eq_nil there, h.live⟩
  have := h.permits
  show s.permits - 1 + s.count Phase.holdsPermit = n
  omega

theorem markDialing {permit : Bool} (h : Counted s n) (at_ : s.phase? i = some q)
    (hq : q.isLoose) (due : Option Nat)
    (permits : permit.toNat + n = q.holdsPermit.toNat + n') :
    Counted (s.markDialing i permit due) n' := by
  have holds : (Phase.dialing permit due).holdsPermit = permit := by cases permit <;> rfl
  refine h.move at_ (phases_markDialing s i permit due)
    (h.toListed.markDialing at_ (Phase.isListed_of_isLoose hq) permit due) ?_ h.queue_eq_nil ?_
  · rw [holds]
    show s.permits + _ + _ = _
    omega
  · rw [Phase.isLiveHttp2_of_isLoose hq]
    rfl

/-- The permit that is given back is one more in the books, until its holder is seen to have it no
longer. -/
theorem giveBack (h : Counted s n) : Counted s.giveBack (n + 1) := by
  unfold Connector.giveBack
  split
  · rename_i none
    refine ⟨⟨h.queue, h.parked⟩, ?_, fun _ => none, h.live⟩
    have := h.permits
    show s.permits + 1 + s.count Phase.holdsPermit = n + 1
    omega
  · rename_i j rest hqueue
    obtain ⟨at_, listed⟩ := h.toListed.hand hqueue
    have taken : s.permits = 0 := by
      by_contra there
      have := h.queue_eq_nil (Nat.pos_of_ne_zero there)
      simp [hqueue] at this
    have granted : Counted ({ s with queue := rest }.setPhase j .granted) (n + 1) := by
      refine h.move at_ (phases_setPhase _ j _) listed ?_ ?_ rfl
      · show s.permits + 1 + n = s.permits + 0 + (n + 1)
        omega
      · intro there
        exact absurd taken (Nat.ne_of_gt there)
    exact granted.alike (idle_wake _ j).toAlike

theorem giveBackIf (h : Counted s n) (permit : Bool) :
    Counted (s.giveBackIf permit) (n + permit.toNat) := by
  cases permit
  · exact h
  · exact h.giveBack

/-- A live HTTP/2 connection is in the counter. -/
theorem live_pos {number : Nat} (h : Counted s n)
    (at_ : s.phase? i = some (.live .http2 number)) : 0 < s.stats.liveMultiplexed := by
  rw [phase?_eq] at at_
  rw [h.live]
  exact List.countP_pos_iff.mpr ⟨_, List.mem_of_getElem? at_, rfl⟩

/-- A dial that is over has the permit no longer; that is still to go on. -/
theorem tally {permit : Bool} {due : Option Nat} (h : Counted s (n + permit.toNat))
    (at_ : s.phase? i = some (.dialing permit due)) (result : Except Fault Protocol) :
    Counted ((s.tally result).setPhase i (s.outcome result)) n := by
  have holds : (Phase.dialing permit due).holdsPermit = permit := by cases permit <;> rfl
  have listed := h.toListed.tally at_ result
  cases result with
  | error f =>
    refine h.setPhase at_ rfl rfl ?_
    rw [holds]
    show 0 + (n + permit.toNat) = permit.toNat + n
    omega
  | ok p =>
    refine h.move at_ (phases_setPhase _ i _) listed ?_ h.queue_eq_nil ?_
    · rw [holds]
      show s.permits + 0 + (n + permit.toNat) = s.permits + permit.toNat + n
      omega
    · cases p <;> rfl

theorem close {number : Nat} {protocol : Protocol} (h : Counted s n)
    (at_ : s.phase? i = some (.live protocol number)) :
    Counted (s.close i protocol number) n := by
  refine h.move at_ (phases_setPhase _ i _) (h.toListed.close at_) rfl h.queue_eq_nil ?_
  cases protocol with
  | http1 => rfl
  | http2 => exact Nat.sub_add_cancel (h.live_pos at_)

/-- A call that has come to nothing leaves no trace in the books. -/
theorem withdraw (h : Counted s n) (at_ : s.phase? i = some q) (pending : q.isPending)
    (hp : p.isLoose) (holds : p.holdsPermit = false) :
    Counted ((s.withdraw i q).setPhase i p) n := by
  have loose (hq : q.isLoose) (hold : q.holdsPermit = false) : Counted (s.setPhase i p) n :=
    h.setPhase at_ hq hp (by rw [holds, hold])
  have giving (hq : q.isLoose) (hold : q.holdsPermit = true) :
      Counted (s.giveBack.setPhase i p) n := by
    have still := h.phase?_giveBack at_ (Phase.ne_queued (Phase.isListed_of_isLoose hq))
    refine h.giveBack.setPhase still hq hp ?_
    rw [holds, hold]
    exact Nat.add_comm 0 (n + 1) |>.trans (Nat.add_comm n 1)
  have listed := h.toListed.withdraw at_ (Phase.isListed_of_isLoose hp)
  cases q with
  | fresh | notified => exact loose rfl rfl
  | granted => exact giving rfl rfl
  | dialing permit due =>
    cases permit
    · exact loose rfl rfl
    · exact giving rfl rfl
  | parked =>
    refine h.move at_ (phases_setPhase _ i p) listed ?_ h.queue_eq_nil ?_
    · rw [holds]
      rfl
    · rw [Phase.isLiveHttp2_of_isLoose hp]
      rfl
  | queued =>
    refine h.move at_ (phases_setPhase _ i p) listed ?_ ?_ ?_
    · rw [holds]
      rfl
    · intro there
      show s.queue.filter (· ≠ i) = []
      rw [h.queue_eq_nil there]
      rfl
    · rw [Phase.isLiveHttp2_of_isLoose hp]
      rfl
  | live _ _ | dropped _ _ | failed _ | expired | aborted => cases pending

/-- A further call, which has neither the permit nor an HTTP/2 connection. -/
theorem concat (h : Counted s n) (phases : s'.phases = s.phases ++ [p]) (hp : p.isLoose)
    (holds : p.holdsPermit = false) (stats : s'.stats = s.stats) (permits : s'.permits = s.permits)
    (queue : s'.queue = s.queue) (parked : s'.parked = s.parked) : Counted s' n where
  toListed := h.toListed.concat phases (Phase.isListed_of_isLoose hp) queue parked
  permits := by
    rw [count, phases, permits, List.countP_append, List.countP_singleton, holds]
    exact h.permits
  queue_eq_nil := by
    rw [permits, queue]
    exact h.queue_eq_nil
  live := by
    rw [liveHttp2, count, phases, stats, List.countP_append, List.countP_singleton,
      Phase.isLiveHttp2_of_isLoose hp]
    exact h.live

/-- Whatever the parked calls waited for, none waits any more. -/
theorem notifyParked (h : Counted s n) : Sound s.notifyParked n := by
  have phases := phases_notifyParked s h.parked
  have counts (kind : Phase → Bool) (hk : kind .parked = kind .notified) :
      s.notifyParked.count kind = s.count kind := by
    rw [count, phases, List.countP_map, count]
    congr 1
    funext q
    cases q <;> simp [Phase.told, hk]
  refine ⟨⟨h.toListed.notifyParked, ?_, ?_, ?_⟩, fun _ => parked_notifyParked s⟩
  · rw [counts _ rfl, permits_notifyParked]
    exact h.permits
  · rw [permits_notifyParked, queue_notifyParked]
    exact h.queue_eq_nil
  · rw [liveHttp2, counts _ rfl, stats_notifyParked]
    exact h.live

end Counted

/-! ### Moves keep the lists -/

section Lists

variable {s s' : Connector} {i : Nat}

theorem Move.listed (m : Move i s s') (h : Listed s) : Listed s' := by
  cases m with
  | idle same => exact h.alike same.toAlike
  | park at_ enters => exact h.park at_ (Phase.isListed_of_isEntering enters)
  | enqueue at_ enters => exact h.enqueue at_ (Phase.isListed_of_isEntering enters)
  | dialFreely at_ enters due =>
    exact h.markDialing at_ (Phase.isListed_of_isEntering enters) false due
  | dialTaking at_ enters due =>
    have taken : Listed { s with permits := s.permits - 1 } := h.of_same rfl rfl rfl
    exact taken.markDialing at_ (Phase.isListed_of_isEntering enters) true due
  | dialGranted at_ due => exact h.markDialing at_ rfl true due
  | yield at_ => exact h.giveBack.park (h.phase?_giveBack at_ nofun) rfl
  | @finish t permit result at_ => exact (h.tally at_ result).giveBackIf permit
  | cancel at_ pending ends => exact h.withdraw at_ (Phase.isListed_of_isEnding ends)

theorem Moves.listed (m : Moves i s s') (h : Listed s) : Listed s' := by
  induction m with
  | refl => exact h
  | tail _ m ih => exact m.listed ih

theorem Listed.drop (h : Listed s) : Listed (s.drop i) := by
  unfold Connector.drop
  split
  · rename_i at_
    split
    · exact (h.close at_).notifyParked
    · exact h.close at_
  · exact h

theorem Listed.step (h : Listed s) (e : Event) : Listed (s.step e) := by
  cases e with
  | call d =>
    have same := idle_wake { s with calls := s.calls ++ [Call.mk d .fresh none] } s.calls.length
    exact h.concat (phases_call s d) rfl same.queue same.parked
  | reject f => exact h.concat (phases_reject s f) rfl rfl rfl
  | turn i => exact Moves.listed turn_moves (h.alike (alike_atTurn s i))
  | drop i => exact h.drop
  | abort i => exact Moves.listed (cancel_moves (.inr rfl)) h
  | wait span => exact h.alike (alike_fire s _)

end Lists

/-! ### Moves keep the books -/

theorem stats_finish (s : Connector) (i : Nat) (permit : Bool) (result : Except Fault Protocol) :
    (s.finish i permit result).stats = (s.tally result).stats := by
  cases permit
  · rfl
  · exact stats_giveBack _

theorem metrics_finish (s : Connector) (i : Nat) (permit : Bool) (result : Except Fault Protocol) :
    (s.finish i permit result).metrics = (s.tally result).metrics := by
  cases permit
  · rfl
  · exact metrics_giveBack _

theorem parked_finish (s : Connector) (i : Nat) (permit : Bool) (result : Except Fault Protocol) :
    (s.finish i permit result).parked = s.parked := by
  cases result <;> cases permit <;> first | rfl | exact parked_giveBack _

theorem stats_withdraw (s : Connector) (i : Nat) (q : Phase) :
    (s.withdraw i q).stats = s.stats := by
  unfold withdraw
  split <;> first | rfl | exact stats_giveBack s

theorem metrics_withdraw (s : Connector) (i : Nat) (q : Phase) :
    (s.withdraw i q).metrics = s.metrics := by
  unfold withdraw
  split <;> first | rfl | exact metrics_giveBack s

theorem parked_withdraw (s : Connector) (i : Nat) (q : Phase) :
    (s.withdraw i q).parked = if q = .parked then s.parked.filter (· ≠ i) else s.parked := by
  unfold withdraw
  split <;> simp_all

theorem starts_finish (s : Connector) (i : Nat) (permit : Bool) (result : Except Fault Protocol) :
    (s.finish i permit result).starts = s.starts := by
  cases result <;> cases permit <;> first | rfl | exact starts_giveBack _

theorem starts_withdraw (s : Connector) (i : Nat) (q : Phase) :
    (s.withdraw i q).starts = s.starts := by
  unfold withdraw
  split <;> first | rfl | exact starts_giveBack s

theorem starts_drop (s : Connector) (i : Nat) : (s.drop i).starts = s.starts := by
  unfold Connector.drop
  split
  · split
    · exact starts_notifyParked _
    · rfl
  · rfl

theorem Sound.alike {s s' : Connector} {n : Nat} (h : Sound s n) (same : Alike s s') :
    Sound s' n := by
  refine ⟨h.toCounted.alike same, ?_⟩
  rw [same.stats, same.parked]
  exact h.parked_eq_nil

theorem Sound.drop {s : Connector} {i n number : Nat} {p : Protocol} (h : Sound s n)
    (at_ : s.phase? i = some (.live p number)) : Sound (s.drop i) n := by
  have closed := h.toCounted.close at_
  unfold Connector.drop
  rw [at_]
  simp only
  split
  · exact closed.notifyParked
  · rename_i last
    refine ⟨closed, fun none => h.parked_eq_nil ?_⟩
    change s.stats.liveMultiplexed - Stats.share p = 0 at none
    cases p with
    | http1 => exact none
    | http2 =>
      have up := h.live_pos at_
      change s.stats.liveMultiplexed - 1 = 0 at none
      exact absurd ⟨rfl, by omega⟩ last

theorem Move.sound {s s' : Connector} {i : Nat} (m : Move i s s') (h : Sound s 1) :
    Sound s' 1 := by
  cases m with
  | idle same => exact h.alike same.toAlike
  | park at_ enters live =>
    refine ⟨h.toCounted.park at_ (Phase.isLoose_of_isEntering enters) ?_,
      fun none => absurd none live⟩
    rw [Phase.holdsPermit_of_isEntering enters]
    rfl
  | enqueue at_ enters live unknown taken =>
    exact ⟨h.toCounted.enqueue at_ (Phase.isLoose_of_isEntering enters)
      (Phase.holdsPermit_of_isEntering enters) taken, h.parked_eq_nil⟩
  | dialFreely at_ enters due =>
    refine ⟨h.toCounted.markDialing at_ (Phase.isLoose_of_isEntering enters) due ?_,
      h.parked_eq_nil⟩
    rw [Phase.holdsPermit_of_isEntering enters]
  | dialTaking at_ enters due live unknown there =>
    refine ⟨(h.toCounted.take there).markDialing at_ (Phase.isLoose_of_isEntering enters) due ?_,
      h.parked_eq_nil⟩
    rw [Phase.holdsPermit_of_isEntering enters]
    rfl
  | dialGranted at_ due live => exact ⟨h.toCounted.markDialing at_ rfl due rfl, h.parked_eq_nil⟩
  | yield at_ live =>
    refine ⟨h.giveBack.park (h.phase?_giveBack at_ nofun) rfl rfl, fun none => ?_⟩
    exact absurd ((congrArg Stats.liveMultiplexed (stats_giveBack s)).symm.trans none) live
  | @finish t permit result at_ due =>
    have held : 1 - permit.toNat + permit.toNat = 1 := by cases permit <;> rfl
    have counted := h.toCounted
    rw [← held] at counted
    refine ⟨held ▸ (counted.tally at_ result).giveBackIf permit, fun none => ?_⟩
    rw [parked_finish]
    apply h.parked_eq_nil
    rw [stats_finish] at none
    cases result with
    | error f => exact none
    | ok p => exact Nat.eq_zero_of_add_eq_zero_right none
  | @cancel p q at_ pending ends =>
    have hp : p.isLoose ∧ p.holdsPermit = false := by
      rcases ends with rfl | rfl <;> exact ⟨rfl, rfl⟩
    refine ⟨h.toCounted.withdraw at_ pending hp.1 hp.2, fun none => ?_⟩
    have nobody := h.parked_eq_nil
      ((congrArg Stats.liveMultiplexed (stats_withdraw s i q)).symm.trans none)
    show (s.withdraw i q).parked = []
    rw [parked_withdraw, nobody]
    split <;> rfl

theorem Moves.sound {s s' : Connector} {i : Nat} (m : Moves i s s') (h : Sound s 1) :
    Sound s' 1 := by
  induction m with
  | refl => exact h
  | tail _ m ih => exact m.sound ih

theorem Sound.call {s : Connector} (h : Sound s 1) (d : Dial) : Sound (s.call d) 1 := by
  have same := idle_wake { s with calls := s.calls ++ [Call.mk d .fresh none] } s.calls.length
  refine ⟨h.toCounted.concat (phases_call s d) rfl rfl same.stats same.permits same.queue
    same.parked, fun none => same.parked.trans (h.parked_eq_nil ?_)⟩
  exact (congrArg Stats.liveMultiplexed same.stats).symm.trans none

theorem Sound.reject {s : Connector} (h : Sound s 1) (f : Fault) : Sound (s.reject f) 1 :=
  ⟨h.toCounted.concat (phases_reject s f) rfl rfl rfl rfl rfl rfl, h.parked_eq_nil⟩

theorem Sound.step {s : Connector} (h : Sound s 1) (e : Event) : Sound (s.step e) 1 := by
  cases e with
  | call d => exact h.call d
  | reject f => exact h.reject f
  | turn i => exact Moves.sound turn_moves (h.alike (alike_atTurn s i))
  | drop i =>
    by_cases live : ∃ p number, s.phase? i = some (.live p number)
    · obtain ⟨p, number, at_⟩ := live
      exact h.drop at_
    · rw [Connector.step, drop_eq_self fun p number at_ => live ⟨p, number, at_⟩]
      exact h
  | abort i => exact Moves.sound (cancel_moves (.inr rfl)) h
  | wait span => exact h.alike (alike_fire s _)

theorem run_append (s : Connector) (events more : List Event) :
    s.run (events ++ more) = (s.run events).run more := List.foldl_append

theorem run_concat (s : Connector) (events : List Event) (e : Event) :
    s.run (events ++ [e]) = (s.run events).step e := run_append s events [e]

theorem Sound.run {s : Connector} (h : Sound s 1) (events : List Event) :
    Sound (s.run events) 1 := by
  induction events using List.reverseRecOn with
  | nil => exact h
  | append_singleton events e ih =>
    rw [run_concat]
    exact ih.step e

theorem sound_run (limit : Nat) (events : List Event) : Sound ((new limit).run events) 1 :=
  (sound_new limit).run events

end Funnel.Connector
