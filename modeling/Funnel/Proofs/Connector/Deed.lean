import Funnel.Proofs.Connector.Sound

/-! What a move does to the dials and connections: all kinds of waiting look alike from there, and
what is left is that a dial begins, comes to a connection or to nothing, and that a connection
goes. -/

namespace Funnel.Connector

/-- What shows of a phase: a call waits, dials, or is over. -/
def Phase.shown : Phase → Phase
  | parked | notified | queued | granted => fresh
  | p => p

def shown (s : Connector) : List Phase := s.phases.map Phase.shown

/-- A kind of phase that does not tell one way of waiting from another. -/
theorem countP_shown (s : Connector) {kind : Phase → Bool} (h : ∀ p, kind p.shown = kind p) :
    s.shown.countP kind = s.count kind := by
  rw [shown, List.countP_map, count]
  congr 1
  funext p
  exact h p

theorem dialing_eq (s : Connector) : s.dialing = s.shown.countP Phase.isDialing :=
  (s.countP_shown fun p => by cases p <;> rfl).symm

theorem liveHttp2_eq (s : Connector) : s.liveHttp2 = s.shown.countP Phase.isLiveHttp2 :=
  (s.countP_shown fun p => by cases p <;> rfl).symm

theorem shown_of_phase? {s : Connector} {i : Nat} {p : Phase} (at_ : s.phase? i = some p) :
    s.shown[i]? = some p.shown := by
  rw [phase?_eq] at at_
  rw [shown, List.getElem?_map, at_]
  rfl

theorem shown_set (s : Connector) (i : Nat) (p : Phase) :
    (s.phases.set i p).map Phase.shown = s.shown.set i p.shown := List.map_set

theorem shown_setPhase (s : Connector) (i : Nat) (p : Phase) :
    (s.setPhase i p).shown = s.shown.set i p.shown :=
  (congrArg (List.map Phase.shown) (phases_setPhase s i p)).trans (shown_set s i p)

theorem shown_markDialing (s : Connector) (i : Nat) (permit : Bool) (due : Option Nat) :
    (s.markDialing i permit due).shown = s.shown.set i (.dialing permit due) :=
  shown_setPhase _ i _

theorem Alike.shown {s s' : Connector} (same : Alike s s') : s'.shown = s.shown :=
  congrArg (List.map Phase.shown) same.phases

/-- To set a phase to what shows already changes nothing that shows. -/
theorem shown_setPhase_of_eq {s : Connector} {i : Nat} {p q : Phase} (at_ : s.phase? i = some q)
    (h : p.shown = q.shown) : (s.phases.set i p).map Phase.shown = s.shown := by
  rw [shown_set, h]
  have := shown_of_phase? at_
  obtain ⟨hi, hq⟩ := List.getElem?_eq_some_iff.mp this
  rw [← hq, List.set_getElem_self]

theorem shown_giveBack {s : Connector} (h : Lists s.phases s.queue .queued) :
    s.giveBack.shown = s.shown := by
  unfold giveBack
  split
  · rfl
  · rename_i j rest hqueue
    have at_ : s.phase? j = some .queued := by
      rw [phase?_eq]
      exact (h.2 j).mp (by simp [hqueue])
    rw [(idle_wake _ j).toAlike.shown, shown, phases_setPhase]
    exact shown_setPhase_of_eq at_ rfl

theorem shown_giveBackIf {s : Connector} (h : Lists s.phases s.queue .queued) (permit : Bool) :
    (s.giveBackIf permit).shown = s.shown := by
  cases permit
  · rfl
  · exact shown_giveBack h

theorem shown_notifyParked {s : Connector} (h : Lists s.phases s.parked .parked) :
    s.notifyParked.shown = s.shown := by
  rw [shown, phases_notifyParked s h, List.map_map, shown]
  congr 1
  funext p
  cases p <;> rfl

/-- What a move does, as far as dials, connections and metrics go. -/
inductive Deed (s s' : Connector) : Prop
  | waits (shown : s'.shown = s.shown) (stats : s'.stats = s.stats) (starts : s'.starts = s.starts)
      (metrics : s'.metrics = s.metrics)
  | begins {i : Nat} {permit : Bool} {due : Option Nat} (at_ : s.shown[i]? = some .fresh)
      (live : s.stats.liveMultiplexed = 0)
      (http1 : permit = false → s.stats.speaksHttp1 = true)
      (shown : s'.shown = s.shown.set i (.dialing permit due)) (stats : s'.stats = s.stats)
      (starts : s'.starts = s.starts ++ [⟨i, s.now, permit⟩]) (metrics : s'.metrics = s.metrics)
  | establishes {i : Nat} {permit : Bool} {due : Option Nat} {p : Protocol}
      (at_ : s.shown[i]? = some (.dialing permit due))
      (shown : s'.shown = s.shown.set i (.live p (s.stats.opened + 1)))
      (stats : s'.stats = s.stats.establish p) (starts : s'.starts = s.starts)
      (metrics : s'.metrics = s.metrics.record (.originOpened p))
  | fails {i : Nat} {p q : Phase} (at_ : s.shown[i]? = some q) (pending : q.isPending)
      (ends : p = .expired ∨ p = .aborted ∨ ∃ f, p = .failed f)
      (shown : s'.shown = s.shown.set i p) (stats : s'.stats = s.stats)
      (starts : s'.starts = s.starts) (metrics : s'.metrics = s.metrics)
  | closes {i number : Nat} {p : Protocol} (at_ : s.shown[i]? = some (.live p number))
      (shown : s'.shown = s.shown.set i (.dropped p number)) (stats : s'.stats = s.stats.close p)
      (starts : s'.starts = s.starts) (metrics : s'.metrics = s.metrics.record .originClosed)
  | comes {p : Phase} (fresh : p = .fresh ∨ ∃ f, p = .failed f)
      (shown : s'.shown = s.shown ++ [p]) (stats : s'.stats = s.stats)
      (starts : s'.starts = s.starts) (metrics : s'.metrics = s.metrics)

theorem Alike.deed {s s' : Connector} (same : Alike s s') : Deed s s' :=
  .waits same.shown same.stats same.starts same.metrics

namespace Move

variable {s s' : Connector}

theorem shown_of_isEntering {q : Phase} (enters : q.isEntering) : q.shown = .fresh := by
  cases q <;> first | rfl | cases enters

theorem deed_finish {i t : Nat} {permit : Bool} (h : Listed s)
    (at_ : s.phase? i = some (.dialing permit (some t))) (result : Except Fault Protocol) :
    Deed s (s.finish i permit result) := by
  have phases : ((s.tally result).setPhase i (s.outcome result)).phases =
      s.phases.set i (s.outcome result) := by
    cases result <;> exact phases_setPhase _ i _
  have shown : (s.finish i permit result).shown = s.shown.set i (s.outcome result) := by
    refine (shown_giveBackIf (h.tally at_ result).queue permit).trans ?_
    rw [Connector.shown, phases, shown_set]
    cases result <;> rfl
  have stats := stats_finish s i permit result
  have starts := starts_finish s i permit result
  have metrics := metrics_finish s i permit result
  cases result with
  | error f =>
    exact .fails (shown_of_phase? at_) rfl (.inr (.inr ⟨f, rfl⟩)) shown stats starts metrics
  | ok p => exact .establishes (shown_of_phase? at_) shown stats starts metrics

theorem deed_cancel {i : Nat} {p q : Phase} (h : Listed s) (at_ : s.phase? i = some q)
    (pending : q.isPending) (ends : p = .expired ∨ p = .aborted) :
    Deed s ((s.withdraw i q).setPhase i p) := by
  have left : (s.withdraw i q).shown = s.shown := by
    unfold withdraw
    split <;> first | rfl | exact shown_giveBack h.queue
  refine .fails (shown_of_phase? at_) ?_ (p := p) (by tauto) ?_ (stats_withdraw s i q)
    (starts_withdraw s i q) (metrics_withdraw s i q)
  · cases q <;> first | rfl | cases pending
  · rw [shown_setPhase, left]
    rcases ends with rfl | rfl <;> rfl

theorem deed {i : Nat} (m : Move i s s') (h : Listed s) : Deed s s' := by
  cases m with
  | idle same => exact same.toAlike.deed
  | park at_ enters live =>
    refine .waits ?_ rfl rfl rfl
    rw [shown, phases_park]
    exact shown_setPhase_of_eq at_ (shown_of_isEntering enters).symm
  | enqueue at_ enters live unknown taken =>
    refine .waits ?_ rfl rfl rfl
    rw [shown, phases_enqueue]
    exact shown_setPhase_of_eq at_ (shown_of_isEntering enters).symm
  | dialFreely at_ enters due live http1 =>
    have waits := (shown_of_phase? at_).trans (congrArg some (shown_of_isEntering enters))
    exact .begins waits live (fun _ => http1) (shown_markDialing s i false due) rfl rfl rfl
  | dialTaking at_ enters due live unknown there =>
    have waits := (shown_of_phase? at_).trans (congrArg some (shown_of_isEntering enters))
    have held : true = false → s.stats.speaksHttp1 = true := nofun
    exact .begins waits live held (shown_markDialing _ i true due) rfl rfl rfl
  | dialGranted at_ due live =>
    have held : true = false → s.stats.speaksHttp1 = true := nofun
    exact .begins (shown_of_phase? at_) live held (shown_markDialing s i true due) rfl rfl rfl
  | yield at_ live =>
    have parks : (s.giveBack.park i).shown = s.giveBack.shown := by
      rw [shown, phases_park]
      exact shown_setPhase_of_eq (h.phase?_giveBack at_ nofun) rfl
    exact .waits (parks.trans (shown_giveBack h.queue)) (stats_giveBack s) (starts_giveBack s)
      (metrics_giveBack s)
  | finish result at_ due => exact deed_finish h at_ result
  | cancel at_ pending ends => exact deed_cancel h at_ pending ends

end Move

theorem deed_drop {s : Connector} {i number : Nat} {p : Protocol} (h : Listed s)
    (at_ : s.phase? i = some (.live p number)) : Deed s (s.drop i) := by
  have closed := h.close at_
  have shown : (s.close i p number).shown = s.shown.set i (.dropped p number) :=
    shown_setPhase _ i _
  have starts := starts_drop s i
  unfold Connector.drop at starts ⊢
  rw [at_] at starts ⊢
  simp only at starts ⊢
  split
  · rename_i last
    rw [if_pos last] at starts
    exact .closes (shown_of_phase? at_) ((shown_notifyParked closed.parked).trans shown)
      (stats_notifyParked _) starts (metrics_notifyParked _)
  · exact .closes (shown_of_phase? at_) shown rfl rfl rfl

theorem deed_call (s : Connector) (d : Dial) : Deed s (s.call d) := by
  have same := idle_wake { s with calls := s.calls ++ [Call.mk d .fresh none] } s.calls.length
  refine .comes (.inl rfl) ?_ same.stats same.starts same.metrics
  rw [shown, phases_call, List.map_append]
  rfl

theorem deed_reject (s : Connector) (f : Fault) : Deed s (s.reject f) := by
  refine .comes (.inr ⟨f, rfl⟩) ?_ rfl rfl rfl
  rw [shown, phases_reject, List.map_append]
  rfl

/-- What holds of a connector's lists and is kept by all that can happen to it. -/
structure Stable (I : Connector → Prop) : Prop where
  listed : ∀ {s : Connector}, I s → Listed s
  alike : ∀ {s s' : Connector}, I s → Alike s s' → I s'
  move : ∀ {i : Nat} {s s' : Connector}, I s → Move i s s' → I s'
  step : ∀ {s : Connector}, I s → ∀ e, I (s.step e)

theorem stable_listed : Stable Listed := ⟨id, .alike, fun h m => m.listed h, .step⟩

theorem stable_sound : Stable (Sound · 1) :=
  ⟨fun h => h.toListed, .alike, fun h m => m.sound h, .step⟩

/-- What is kept by deeds is kept by a step. -/
theorem step_of_deeds {I P : Connector → Prop} (stable : Stable I) {s : Connector} (inv : I s)
    (first : P s) (keep : ∀ {s s' : Connector}, Deed s s' → I s' → P s → P s') (e : Event) :
    P (s.step e) := by
  have moves {i : Nat} {s s' : Connector} (m : Moves i s s') (inv : I s) (first : P s) :
      I s' ∧ P s' := by
    induction m with
    | refl => exact ⟨inv, first⟩
    | tail _ last ih =>
      have inv' := stable.move ih.1 last
      exact ⟨inv', keep (last.deed (stable.listed ih.1)) inv' ih.2⟩
  have inv' := stable.step inv e
  cases e with
  | call d => exact keep (deed_call s d) inv' first
  | reject f => exact keep (deed_reject s f) inv' first
  | turn i =>
    have same := alike_atTurn s i
    have found := stable.alike inv same
    exact (moves turn_moves found (keep same.deed found first)).2
  | drop i =>
    by_cases live : ∃ p number, s.phase? i = some (.live p number)
    · obtain ⟨p, number, at_⟩ := live
      exact keep (deed_drop (stable.listed inv) at_) inv' first
    · rw [step, drop_eq_self fun p number at_ => live ⟨p, number, at_⟩]
      exact first
  | abort i => exact (moves (cancel_moves (.inr rfl)) inv first).2
  | wait span => exact keep (alike_fire s _).deed inv' first

/-- What holds at the start of a run and is kept by deeds holds at its end. -/
theorem run_of_deeds {P : Connector → Prop} {s : Connector} (sound : Sound s 1) (first : P s)
    (keep : ∀ {s s' : Connector}, Deed s s' → Sound s' 1 → P s → P s') (events : List Event) :
    P (s.run events) := by
  induction events using List.reverseRecOn with
  | nil => exact first
  | append_singleton events e ih =>
    rw [run_concat]
    exact step_of_deeds stable_sound (sound.run events) ih keep e

end Funnel.Connector
