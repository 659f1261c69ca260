import Funnel.Connector.Group
import Funnel.Proofs.Connector.Counters
import Funnel.Proofs.Connector.Turn

/-! Connectors that count together: in every run the counters and the metrics are exact about the
connections of all of them, and connections are numbered in the order in which they come up. -/

namespace Funnel.Connector.Group

/-- The connections that came up on any connector, alive or gone. -/
def connections (g : Group) : List Connection := g.members.flatMap Connector.connections

/-- For `(k, i)`, the connection that call `i` of connector `k` got. -/
def connection? (g : Group) (c : Nat × Nat) : Option Connection :=
  g.members[c.1]?.bind (·.connection? c.2)

theorem mem_connections {g : Group} {c : Nat × Nat} {a : Connection}
    (h : g.connection? c = some a) : a ∈ g.connections := by
  obtain ⟨s, hs, at_⟩ := Option.bind_eq_some_iff.mp h
  exact List.mem_flatMap.mpr ⟨s, List.mem_of_getElem? hs, Connector.mem_connections at_⟩

/-- The counters are exact, and each connector's waiting calls are on its lists. -/
structure Kept (g : Group) : Prop where
  listed : ∀ s ∈ g.members, Listed s
  exact : Exact g.connections g.stats g.metrics

/-- From `g` on, connections stay and come up as they ought to, until `g'`. -/
def Leads (g g' : Group) : Prop :=
  Grows g.stats.opened g.connection? g'.stats.opened g'.connection?

theorem kept_empty : Kept empty := ⟨nofun, exact_empty⟩

section All

variable {g : Group} {f : Connector → Connector}

/-- Every connector is changed by `f`, which moves calls from one way of waiting to another. -/
theorem kept_map (h : Kept g) (now : Nat)
    (hf : ∀ s, Listed s → Listed (f s) ∧ (f s).shown = s.shown) :
    Kept { g with now, members := g.members.map f } := by
  refine ⟨fun t ht => ?_, ?_⟩
  · obtain ⟨s, hs, rfl⟩ := List.mem_map.mp ht
    exact (hf s (h.listed s hs)).1
  · have same : (g.members.map f).flatMap Connector.connections = g.connections := by
      rw [List.flatMap_map]
      refine List.flatMap_congr fun s hs => ?_
      rw [connections_eq, (hf s (h.listed s hs)).2, ← connections_eq]
    show Exact ((g.members.map f).flatMap Connector.connections) g.stats g.metrics
    rw [same]
    exact h.exact

theorem leads_map (listed : ∀ s ∈ g.members, Listed s) (now : Nat)
    (hf : ∀ s, Listed s → Listed (f s) ∧ (f s).shown = s.shown) :
    Leads g { g with now, members := g.members.map f } := by
  have same : connection? { g with now, members := g.members.map f } = g.connection? := by
    funext c
    simp only [connection?, List.getElem?_map]
    cases hs : g.members[c.1]? with
    | none => rfl
    | some s =>
      have shown := (hf s (listed s (List.mem_of_getElem? hs))).2
      show (f s).connection? c.2 = s.connection? c.2
      rw [connection?_eq, shown, ← connection?_eq]
  unfold Leads
  rw [same]
  exact .refl _ _

end All

section Step

variable {g : Group} {k : Nat} {s s' : Connector}

theorem kept_put (h : Kept g) (hs : g.members[k]? = some s) (listed : Listed s')
    (exact : ∀ rest, Exact (s.connections ++ rest) g.stats g.metrics →
      Exact (s'.connections ++ rest) s'.stats s'.metrics) : Kept (g.put k s') := by
  obtain ⟨hk, hs⟩ := List.getElem?_eq_some_iff.mp hs
  refine ⟨fun t ht => ?_, ?_⟩
  · rcases List.mem_or_eq_of_mem_set ht with ht | rfl
    · exact h.listed t ht
    · exact listed
  · have before := (List.getElem_cons_eraseIdx_perm hk).flatMap_right Connector.connections
    have after := (List.set_perm_cons_eraseIdx hk s').flatMap_right Connector.connections
    rw [hs] at before
    rw [List.flatMap_cons] at before after
    exact (exact _ (h.exact.perm before)).perm after

theorem leads_put (hs : g.members[k]? = some s)
    (grows : Grows g.stats.opened s.connection? s'.stats.opened s'.connection?) :
    Leads g (g.put k s') := by
  have after (c : Nat × Nat) : (g.put k s').connection? c =
      if c.1 = k then s'.connection? c.2 else g.connection? c := by
    unfold connection? put
    rw [getElem?_set_of_eq hs]
    split <;> rfl
  have same := Grows.refl g.stats.opened g.connection?
  refine ⟨grows.opened, fun c => ?_, fun c => ?_⟩ <;> rw [after] <;> split
  · rename_i own
    rw [connection?, own, hs]
    exact grows.stays c.2
  · exact same.stays c
  · rename_i own
    rw [connection?, own, hs]
    exact grows.beyond c.2
  · exact same.beyond c

theorem kept_join (h : Kept g) (limit : Nat) :
    Kept { g with members := g.members ++ [g.sees (new limit)] } := by
  have listed : Listed (g.sees (new limit)) := (listed_new limit).of_same rfl rfl rfl
  refine ⟨fun t ht => ?_, ?_⟩
  · rcases List.mem_append.mp ht with ht | ht
    · exact h.listed t ht
    · exact List.mem_singleton.mp ht ▸ listed
  · refine h.exact.perm (.of_eq ?_)
    simp [connections, Connector.connections, phases, sees, new]

theorem leads_join (g : Group) (limit : Nat) :
    Leads g { g with members := g.members ++ [g.sees (new limit)] } := by
  have same : connection? { g with members := g.members ++ [g.sees (new limit)] } =
      g.connection? := by
    funext c
    simp only [connection?, List.getElem?_append]
    split
    · rfl
    · rename_i out
      rw [List.getElem?_singleton, List.getElem?_eq_none (Nat.not_lt.mp out)]
      split
      · simp [Connector.connection?, Connector.phase?, sees, new]
      · rfl
  unfold Leads
  rw [same]
  exact .refl _ _

/-- What a connector does on its own, it does with the counters of all. -/
theorem follows_put (h : Kept g) (hs : g.members[k]? = some s) (e : Connector.Event) :
    Kept (g.put k ((g.sees s).step e)) ∧ Leads g (g.put k ((g.sees s).step e)) := by
  have listed : Listed (g.sees s) := (h.listed s (List.mem_of_getElem? hs)).of_same rfl rfl rfl
  constructor
  · refine kept_put h hs (listed.step e) fun rest exact => ?_
    exact step_of_deeds (P := fun t => Exact (t.connections ++ rest) t.stats t.metrics)
      stable_listed listed exact (fun d _ => d.change.exact) e
  · refine leads_put hs ?_
    exact step_of_deeds
      (P := fun t => Grows g.stats.opened s.connection? t.stats.opened t.connection?)
      stable_listed listed (.refl _ _) (fun d _ grown => grown.trans d.grows) e

theorem follows_step (h : Kept g) (e : Event) : Kept (g.step e) ∧ Leads g (g.step e) := by
  have told (s : Connector) (h : Listed s) :
      Listed s.notifyParked ∧ s.notifyParked.shown = s.shown :=
    ⟨h.notifyParked, shown_notifyParked h.parked⟩
  have fired (time : Nat) (s : Connector) (h : Listed s) :
      Listed (s.fire time) ∧ (s.fire time).shown = s.shown :=
    ⟨h.alike (alike_fire s time), (alike_fire s time).shown⟩
  unfold step
  split
  · rename_i limit
    exact ⟨kept_join h limit, leads_join g limit⟩
  · rename_i span
    exact ⟨kept_map h _ (fired _), leads_map h.listed _ (fired _)⟩
  · rename_i k e _
    split
    · rename_i s hs
      obtain ⟨kept, leads⟩ := follows_put h hs e
      dsimp only
      split
      · exact ⟨kept_map kept _ told, leads.trans (leads_map kept.listed _ told)⟩
      · exact ⟨kept, leads⟩
    · exact ⟨h, .refl _ _⟩

theorem follows_run (h : Kept g) (events : List Event) :
    Kept (g.run events) ∧ Leads g (g.run events) := by
  induction events generalizing g with
  | nil => exact ⟨h, .refl _ _⟩
  | cons e events ih =>
    obtain ⟨kept, leads⟩ := follows_step h e
    obtain ⟨kept', leads'⟩ := ih kept
    exact ⟨kept', leads.trans leads'⟩

end Step

/-! ### One connector -/

/-- A group of one. -/
def solo (s : Connector) : Group := ⟨s.now, s.stats, s.metrics, [s]⟩

theorem notifyParked_of_parked {s : Connector} (none : s.parked = []) : s.notifyParked = s := by
  unfold Connector.notifyParked
  rw [none, List.foldl_nil, ← none]

theorem step_solo {s : Connector} (h : Sound s 1) (e : Connector.Event) :
    (solo s).step (.to 0 e) = solo (s.step e) := by
  by_cases time : ∃ span, e = .wait span
  · obtain ⟨span, rfl⟩ := time
    have same := idle_fire s (s.now + span)
    have after : solo (s.fire (s.now + span)) =
        ⟨s.now + span, s.stats, s.metrics, [s.fire (s.now + span)]⟩ := by
      rw [solo, same.now, same.stats, same.metrics]
      rfl
    exact after.symm
  · have time : ∀ span, e ≠ .wait span := fun span he => time ⟨span, he⟩
    have put : (solo s).put 0 (((solo s).sees s).step e) = solo (s.step e) := by
      show Group.mk s.now _ _ _ = Group.mk (s.step e).now _ _ _
      rw [now_step h time]
      rfl
    unfold step
    split
    · contradiction
    · rename_i k span he
      cases he
      exact absurd rfl (time span)
    · rename_i k e' _ he
      cases he
      show (let g' := (solo s).put 0 (((solo s).sees s).step e)
        if (solo s).stats.liveMultiplexed ≠ 0 ∧ g'.stats.liveMultiplexed = 0 then g'.notifyParked
        else g') = solo (s.step e)
      rw [put]
      dsimp only
      split
      · rename_i last
        have quiet := notifyParked_of_parked ((h.step e).parked_eq_nil last.2)
        simp only [notifyParked, solo, List.map_cons, List.map_nil, quiet]
      · rfl

/-- Alone in its group, a connector goes on as it does by itself. -/
theorem run_solo (limit : Nat) (events : List Connector.Event) :
    empty.run (.join limit :: events.map (.to 0)) = solo ((new limit).run events) := by
  have runs {s : Connector} (h : Sound s 1) :
      (solo s).run (events.map (.to 0)) = solo (s.run events) := by
    induction events generalizing s with
    | nil => rfl
    | cons e events ih =>
      show ((solo s).step (.to 0 e)).run _ = solo ((s.step e).run events)
      rw [step_solo h]
      exact ih (h.step e)
  exact runs (sound_new limit)

/-! ### All connectors -/

theorem follows_prefix {earlier events : List Event} (before : earlier <+: events) :
    Kept (empty.run earlier) ∧ Leads (empty.run earlier) (empty.run events) := by
  obtain ⟨more, rfl⟩ := before
  have kept := (follows_run kept_empty earlier).1
  have split : empty.run (earlier ++ more) = (empty.run earlier).run more := List.foldl_append
  rw [split]
  exact ⟨kept, (follows_run kept more).2⟩

/-- Any number of connectors, whatever happens to them in whatever order: the counters and the
metrics are exact about the connections that came up on any of them, no counter goes down from zero,
and connections are numbered from one on, in the order in which they come up. Where a connection is,
it stays: `c` and `d` stand for a connector and a call of it. While there are fewer connections than
words of 64 bits, no counter has ever outgrown such a word. -/
theorem counters_exact (events : List Event) :
    let g := empty.run events
    let cs := g.connections
    g.stats.opened = cs.length ∧
    g.stats.multiplexed = cs.countP Connection.isHttp2 ∧
    g.stats.active = cs.countP Connection.alive ∧
    g.stats.liveMultiplexed = cs.countP Connection.isLiveHttp2 ∧
    (∀ c ∈ cs, c.alive →
      0 < g.stats.active ∧ (c.protocol = .http2 → 0 < g.stats.liveMultiplexed)) ∧
    (cs.map Connection.number).Perm (List.range' 1 g.stats.opened) ∧
    (∀ earlier, earlier <+: events → ∀ c a, (empty.run earlier).connection? c = some a →
      (∃ a', g.connection? c = some a' ∧ a'.label = a.label ∧ (a'.alive → a.alive)) ∧
      ∀ d b, (empty.run earlier).connection? d = none → g.connection? d = some b →
        a.number < b.number) ∧
    (g.stats.speaksHttp1 = true ↔
      ∃ c ∈ cs, c.protocol = .http1 ∧ ∀ d ∈ cs, d.number ≤ c.number) ∧
    g.metrics.value (.originOpened .http1) + g.metrics.value (.originOpened .http2) =
      g.stats.opened ∧
    g.metrics.value (.originOpened .http2) = g.stats.multiplexed ∧
    g.metrics.value .originActive = g.stats.active ∧
    (g.stats.opened < UInt64.size →
      ∀ earlier, earlier <+: events → (empty.run earlier).stats.AreWords) := by
  intro g cs
  have exact : Exact cs g.stats g.metrics := (follows_run kept_empty events).1.exact
  refine ⟨exact.opened, exact.multiplexed, exact.active, exact.live, fun c hc => exact.pos hc, ?_,
    ?_, exact.speaksHttp1_iff, exact.total, exact.totalHttp2, exact.gauge, ?_⟩
  · have numbers := exact.numbers.numbers
    rwa [List.map_map] at numbers
  · intro earlier before c a ha
    obtain ⟨kept, leads⟩ := follows_prefix before
    refine ⟨leads.stays c a ha, fun d b none hb => ?_⟩
    have old := (kept.exact.numbers.le (List.mem_map_of_mem (mem_connections ha))).2
    exact Nat.lt_of_le_of_lt old (leads.beyond d b none hb)
  · intro few earlier before
    obtain ⟨kept, leads⟩ := follows_prefix before
    exact kept.exact.areWords (leads.opened.trans_lt few)

/-- One connector falls back to HTTP/1.1 while the other, which began to dial before, comes to
HTTP/2; a call that waits for that to go is told, dials, and runs into its deadline. -/
theorem counters_exact_two_connectors :
    let before : List Event := [.join 5000, .join 100, .to 0 (.call ⟨some 20, .ok .http2⟩),
      .to 1 (.call ⟨some 20, .ok .http1⟩), .to 1 (.call ⟨none, .ok .http1⟩), .to 0 (.turn 0),
      .to 1 (.turn 0), .to 0 (.wait 20), .to 1 (.turn 0)]
    let events := before ++ [.to 0 (.turn 0), .to 1 (.turn 1), .to 0 (.drop 0), .to 1 (.turn 1),
      .to 0 (.wait 100), .to 1 (.turn 1)]
    let g := empty.run events
    ∃ a b, (empty.run before).connection? (1, 0) = some a ∧ g.connection? (0, 0) = some b ∧
      a.number < b.number ∧ g.stats = ⟨2, 1, 1, 0, false⟩ ∧ a ∈ g.connections ∧
      0 < g.stats.active ∧ (empty.run before).stats.AreWords := by
  intro before events g
  obtain ⟨_, _, _, _, pos, _, order, _, _, _, _, words⟩ := counters_exact events
  have first : (empty.run before).connection? (1, 0) = some ⟨.http1, 1, true⟩ := by decide
  have second : g.connection? (0, 0) = some ⟨.http2, 2, false⟩ := by decide
  have among : ⟨.http1, 1, true⟩ ∈ g.connections := by decide
  have less := (order before (List.prefix_append _ _) _ _ first).2 _ _ (by decide) second
  exact ⟨_, _, first, second, less, by decide, among, (pos _ among rfl).1,
    words (by decide) before (List.prefix_append _ _)⟩

end Funnel.Connector.Group
