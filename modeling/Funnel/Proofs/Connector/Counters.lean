import Funnel.Proofs.Connector.Numbering

/-! The counters and the metrics are exact about the connections, and connections stay as they are
until they go, each with a greater number than those that came up before it. -/

namespace Funnel.Connector

namespace Connection

def isHttp2 (c : Connection) : Bool := c.protocol = .http2

def isLiveHttp2 (c : Connection) : Bool := c.alive && c.isHttp2

end Connection

/-- The counters and the metrics are right about the connections `cs`, in whatever order. -/
structure Exact (cs : List Connection) (stats : Stats) (metrics : Metrics) : Prop where
  numbers : Numbers (cs.map Connection.label) stats
  multiplexed : stats.multiplexed = cs.countP Connection.isHttp2
  active : stats.active = cs.countP Connection.alive
  live : stats.liveMultiplexed = cs.countP Connection.isLiveHttp2
  total : metrics.value (.originOpened .http1) + metrics.value (.originOpened .http2) = stats.opened
  totalHttp2 : metrics.value (.originOpened .http2) = stats.multiplexed
  gauge : metrics.value .originActive = stats.active

/-- Every counter fits in a word of 64 bits. -/
structure Stats.AreWords (stats : Stats) : Prop where
  opened : stats.opened < UInt64.size
  multiplexed : stats.multiplexed < UInt64.size
  active : stats.active < UInt64.size
  live : stats.liveMultiplexed < UInt64.size

theorem exact_empty : Exact [] .empty .empty := ⟨numbers_empty, rfl, rfl, rfl, rfl, rfl, rfl⟩

namespace Exact

variable {cs cs' : List Connection} {stats : Stats} {metrics : Metrics} {p : Protocol} {n : Nat}

theorem perm (h : Exact cs stats metrics) (same : cs'.Perm cs) : Exact cs' stats metrics where
  numbers := h.numbers.of_perm (same.map _) rfl rfl
  multiplexed := h.multiplexed.trans (same.countP_eq _).symm
  active := h.active.trans (same.countP_eq _).symm
  live := h.live.trans (same.countP_eq _).symm
  total := h.total
  totalHttp2 := h.totalHttp2
  gauge := h.gauge

theorem establish (h : Exact cs stats metrics) (p : Protocol) :
    Exact (⟨p, stats.opened + 1, true⟩ :: cs) (stats.establish p)
      (metrics.record (.originOpened p)) := by
  have total := h.total
  have totalHttp2 := h.totalHttp2
  have gauge := h.gauge
  refine ⟨h.numbers.establish p, ?_, ?_, ?_, ?_, ?_, ?_⟩
  · cases p <;> simp [Stats.establish, Stats.share, Connection.isHttp2, h.multiplexed]
  · simp [Stats.establish, h.active]
  · cases p <;>
      simp [Stats.establish, Stats.share, Connection.isLiveHttp2, Connection.isHttp2, h.live]
  · cases p <;> simp [Stats.establish, Metrics.record] <;> omega
  · cases p <;> simp [Stats.establish, Stats.share, Metrics.record, totalHttp2]
  · simp [Stats.establish, Metrics.record, gauge]

/-- A connection that is alive is in the counters, so that they go down to the truth with it. -/
theorem pos (h : Exact cs stats metrics) {c : Connection} (hc : c ∈ cs) (alive : c.alive) :
    0 < stats.active ∧ (c.protocol = .http2 → 0 < stats.liveMultiplexed) := by
  rw [h.active, h.live]
  refine ⟨List.countP_pos_iff.mpr ⟨c, hc, alive⟩, fun http2 => ?_⟩
  refine List.countP_pos_iff.mpr ⟨c, hc, ?_⟩
  simp [Connection.isLiveHttp2, Connection.isHttp2, alive, http2]

theorem close (h : Exact (⟨p, n, true⟩ :: cs) stats metrics) :
    Exact (⟨p, n, false⟩ :: cs) (stats.close p) (metrics.record .originClosed) := by
  have total := h.total
  have totalHttp2 := h.totalHttp2
  have gauge := h.gauge
  have up := (h.pos List.mem_cons_self rfl).1
  refine ⟨h.numbers.of_perm (.refl _) rfl rfl, ?_, ?_, ?_, ?_, ?_, ?_⟩
  · cases p <;> simp [Stats.close, h.multiplexed, Connection.isHttp2]
  · simp [Stats.close, h.active]
  · cases p <;>
      simp [Stats.close, Stats.share, Connection.isLiveHttp2, Connection.isHttp2, h.live]
  · simpa [Stats.close, Metrics.record] using total
  · simpa [Stats.close, Metrics.record] using totalHttp2
  · simp [Stats.close, Metrics.record, gauge]
    omega

theorem opened (h : Exact cs stats metrics) : stats.opened = cs.length := by
  have := h.numbers.numbers.length_eq
  simpa using this.symm

/-- The other counters go no further than the one for all connections. -/
theorem le_opened (h : Exact cs stats metrics) :
    stats.multiplexed ≤ stats.opened ∧ stats.active ≤ stats.opened ∧
      stats.liveMultiplexed ≤ stats.opened := by
  rw [h.opened, h.multiplexed, h.active, h.live]
  exact ⟨List.countP_le_length, List.countP_le_length, List.countP_le_length⟩

theorem areWords (h : Exact cs stats metrics) (few : stats.opened < UInt64.size) :
    stats.AreWords := by
  obtain ⟨multiplexed, active, live⟩ := h.le_opened
  exact ⟨few, multiplexed.trans_lt few, active.trans_lt few, live.trans_lt few⟩

theorem speaksHttp1_iff (h : Exact cs stats metrics) :
    stats.speaksHttp1 = true ↔
      ∃ c ∈ cs, c.protocol = .http1 ∧ ∀ d ∈ cs, d.number ≤ c.number := by
  rw [← h.numbers.latest_http1_iff]
  constructor
  · rintro ⟨n, hn, greatest⟩
    obtain ⟨⟨p, n', alive⟩, hc, label⟩ := List.mem_map.mp hn
    cases label
    exact ⟨_, hc, rfl, fun d hd => greatest _ (List.mem_map_of_mem hd)⟩
  · rintro ⟨c, hc, http1, greatest⟩
    refine ⟨c.number, List.mem_map.mpr ⟨c, hc, ?_⟩, fun l hl => ?_⟩
    · rw [Connection.label, http1]
    · obtain ⟨d, hd, rfl⟩ := List.mem_map.mp hl
      exact greatest d hd

end Exact

/-- The counters may be about the connections of others, too. -/
theorem Change.exact {s s' : Connector} {rest : List Connection} (c : Change s s')
    (h : Exact (s.connections ++ rest) s.stats s.metrics) :
    Exact (s'.connections ++ rest) s'.stats s'.metrics := by
  cases c with
  | keeps connections stats metrics =>
    rw [stats, metrics]
    exact h.perm (connections.append_right rest)
  | @opens p connections stats metrics =>
    rw [stats, metrics]
    exact (h.establish p).perm (connections.append_right rest)
  | closes before after stats metrics =>
    rw [stats, metrics]
    exact (h.perm (before.append_right rest).symm).close.perm (after.append_right rest)

theorem exact_run (limit : Nat) (events : List Event) :
    let s := (new limit).run events
    Exact s.connections s.stats s.metrics := by
  intro s
  have all : Exact (s.connections ++ []) s.stats s.metrics :=
    run_of_deeds (P := fun s => Exact (s.connections ++ []) s.stats s.metrics) (sound_new limit)
      exact_empty (fun d _ h => d.change.exact h) events
  rwa [List.append_nil] at all

/-! ### Connections over time -/

/-- From `n` connections to `n'`: a connection stays where it is, with its protocol and number, and
is not alive again once it is gone, and one that comes up has a number beyond `n`. -/
structure Grows {ι : Type} (n : Nat) (before : ι → Option Connection) (n' : Nat)
    (after : ι → Option Connection) : Prop where
  opened : n ≤ n'
  stays : ∀ i c, before i = some c →
    ∃ c', after i = some c' ∧ c'.label = c.label ∧ (c'.alive → c.alive)
  beyond : ∀ i c, before i = none → after i = some c → n < c.number

namespace Grows

variable {ι : Type} {n n' n'' : Nat} {before mid after : ι → Option Connection}

theorem refl (n : Nat) (before : ι → Option Connection) : Grows n before n before := by
  refine ⟨Nat.le_refl n, fun i c h => ⟨c, h, rfl, id⟩, fun i c none some => ?_⟩
  rw [none] at some
  cases some

theorem trans (h : Grows n before n' mid) (h' : Grows n' mid n'' after) :
    Grows n before n'' after := by
  refine ⟨Nat.le_trans h.opened h'.opened, fun i c hc => ?_, fun i c none hc => ?_⟩
  · obtain ⟨c', hc', label, alive⟩ := h.stays i c hc
    obtain ⟨c'', hc'', label', alive'⟩ := h'.stays i c' hc'
    exact ⟨c'', hc'', label'.trans label, fun up => alive (alive' up)⟩
  · cases hm : mid i with
    | none => exact Nat.lt_of_le_of_lt h.opened (h'.beyond i c hm hc)
    | some c' =>
      have first := h.beyond i c' none hm
      obtain ⟨c'', hc'', label, -⟩ := h'.stays i c' hm
      cases hc.symm.trans hc''
      rw [show c.number = c'.number from congrArg Prod.snd label]
      exact first

end Grows

theorem connection?_eq (s : Connector) (i : Nat) :
    s.connection? i = s.shown[i]?.bind Phase.connection? := by
  rw [connection?, phase?_eq, shown, List.getElem?_map]
  cases s.phases[i]? with
  | none => rfl
  | some p => exact p.connection?_shown.symm

namespace Deed

variable {s s' : Connector} {i : Nat} {p q : Phase}

/-- One call goes from `q` to `p`. -/
theorem grows_set (at_ : s.shown[i]? = some q) (shown : s'.shown = s.shown.set i p)
    (opened : s.stats.opened ≤ s'.stats.opened)
    (stays : ∀ c, q.connection? = some c →
      ∃ c', p.connection? = some c' ∧ c'.label = c.label ∧ (c'.alive → c.alive))
    (beyond : ∀ c, q.connection? = none → p.connection? = some c → s.stats.opened < c.number) :
    Grows s.stats.opened s.connection? s'.stats.opened s'.connection? := by
  have same := Grows.refl s.stats.opened s.connection?
  refine ⟨opened, fun j c => ?_, fun j c => ?_⟩ <;>
    rw [s'.connection?_eq j, shown, getElem?_set_of_eq at_] <;> split
  · subst j
    rw [connection?_eq, at_]
    exact stays c
  · rw [← connection?_eq]
    exact same.stays j c
  · subst j
    rw [connection?_eq, at_]
    exact beyond c
  · rw [← connection?_eq]
    exact same.beyond j c

theorem grows (d : Deed s s') :
    Grows s.stats.opened s.connection? s'.stats.opened s'.connection? := by
  cases d with
  | waits shown stats =>
    have same : s'.connection? = s.connection? := by
      funext i
      rw [connection?_eq, shown, ← connection?_eq]
    rw [same, stats]
    exact .refl _ _
  | begins at_ live http1 shown stats =>
    exact grows_set at_ shown (Nat.le_of_eq (by rw [stats])) nofun nofun
  | establishes at_ shown stats =>
    refine grows_set at_ shown ?_ nofun fun c _ hc => ?_
    · rw [stats]
      exact Nat.le_succ _
    · cases hc
      exact Nat.lt_succ_self _
  | fails at_ pending ends shown stats =>
    refine grows_set at_ shown (Nat.le_of_eq (by rw [stats])) (fun c hc => ?_) fun c _ hc => ?_
    · cases (Phase.connection?_of_isPending pending).symm.trans hc
    · obtain rfl | rfl | ⟨f, rfl⟩ := ends <;> cases hc
  | closes at_ shown stats =>
    refine grows_set at_ shown (Nat.le_of_eq (by rw [stats]; rfl)) (fun c hc => ?_) nofun
    cases hc
    exact ⟨_, rfl, rfl, nofun⟩
  | @comes p fresh shown stats =>
    have same : s'.connection? = s.connection? := by
      funext i
      rw [connection?_eq, connection?_eq, shown, List.getElem?_append]
      split
      · rfl
      · rename_i out
        have none : p.connection? = none := by
          obtain rfl | ⟨f, rfl⟩ := fresh <;> rfl
        rw [List.getElem?_singleton, List.getElem?_eq_none (Nat.not_lt.mp out)]
        split
        · exact none
        · rfl
    rw [same, stats]
    exact .refl _ _

end Deed

end Funnel.Connector
