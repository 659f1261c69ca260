import Funnel.Proofs.Connector.Deed
import Mathlib.Data.List.Perm.Basic
import Mathlib.Data.List.Range
import Mathlib.Data.List.Nodup

/-! The connections established on a connector: how they come and go, that they are numbered from
one on, and that the counters know what the last of them speaks. -/

namespace Funnel.Connector

/-- A connection that came up at some time. -/
structure Connection where
  protocol : Protocol
  number : Nat
  alive : Bool
deriving DecidableEq, Repr

def Connection.label (c : Connection) : Protocol × Nat := (c.protocol, c.number)

def Phase.connection? : Phase → Option Connection
  | live p n => some ⟨p, n, true⟩
  | dropped p n => some ⟨p, n, false⟩
  | _ => none

/-- The connection that call `i` got. -/
def connection? (s : Connector) (i : Nat) : Option Connection :=
  (s.phase? i).bind Phase.connection?

def connections (s : Connector) : List Connection := s.phases.filterMap Phase.connection?

theorem mem_connections {s : Connector} {i : Nat} {c : Connection}
    (h : s.connection? i = some c) : c ∈ s.connections := by
  rw [connection?, phase?_eq] at h
  obtain ⟨p, at_, hp⟩ := Option.bind_eq_some_iff.mp h
  exact List.mem_filterMap.mpr ⟨p, List.mem_of_getElem? at_, hp⟩

theorem established_eq_connections (s : Connector) :
    s.established = s.connections.map Connection.label := by
  rw [established, connections, List.map_filterMap]
  congr 1
  funext p
  cases p <;> rfl

theorem Phase.connection?_shown (p : Phase) : p.shown.connection? = p.connection? := by
  cases p <;> rfl

theorem Phase.connection?_of_isPending {q : Phase} (pending : q.isPending) :
    q.connection? = none := by
  cases q <;> first | rfl | cases pending

theorem connections_eq (s : Connector) :
    s.connections = s.shown.filterMap Phase.connection? := by
  rw [shown, List.filterMap_map, connections]
  congr 1
  funext p
  exact p.connection?_shown.symm

/-! ### How connections come and go -/

section Lists

variable {α β : Type} {l : List α} {i : Nat} {b : α} (a : α) (f : α → Option β)

/-- An element of a list, as the others are set apart. -/
theorem filterMap_perm_set (hb : l[i]? = some b) :
    (l.filterMap f).Perm ((f b).toList ++ (l.eraseIdx i).filterMap f) ∧
      ((l.set i a).filterMap f).Perm ((f a).toList ++ (l.eraseIdx i).filterMap f) := by
  obtain ⟨hi, rfl⟩ := List.getElem?_eq_some_iff.mp hb
  have before := (List.getElem_cons_eraseIdx_perm hi).symm.filterMap f
  have after := (List.set_perm_cons_eraseIdx hi a).filterMap f
  rw [List.filterMap_cons] at before after
  constructor
  · cases hf : f l[i] <;> rw [hf] at before <;> exact before
  · cases hf : f a <;> rw [hf] at after <;> exact after

end Lists

/-- What can become of the connections, the counters and the metrics at once: nothing, or one
connection comes up, or one that is alive goes. -/
inductive Change (s s' : Connector) : Prop
  | keeps (connections : s'.connections.Perm s.connections) (stats : s'.stats = s.stats)
      (metrics : s'.metrics = s.metrics)
  | opens {p : Protocol}
      (connections : s'.connections.Perm (⟨p, s.stats.opened + 1, true⟩ :: s.connections))
      (stats : s'.stats = s.stats.establish p)
      (metrics : s'.metrics = s.metrics.record (.originOpened p))
  | closes {p : Protocol} {number : Nat} {rest : List Connection}
      (before : s.connections.Perm (⟨p, number, true⟩ :: rest))
      (after : s'.connections.Perm (⟨p, number, false⟩ :: rest))
      (stats : s'.stats = s.stats.close p) (metrics : s'.metrics = s.metrics.record .originClosed)

theorem Deed.change {s s' : Connector} (d : Deed s s') : Change s s' := by
  cases d with
  | waits shown stats starts metrics =>
    refine .keeps ?_ stats metrics
    rw [connections_eq, connections_eq, shown]
  | @begins i permit due at_ live http1 shown stats starts metrics =>
    refine .keeps ?_ stats metrics
    obtain ⟨before, after⟩ := filterMap_perm_set (.dialing permit due) Phase.connection? at_
    rw [connections_eq, connections_eq, shown]
    exact after.trans before.symm
  | @establishes i permit due p at_ shown stats starts metrics =>
    refine .opens ?_ stats metrics
    obtain ⟨before, after⟩ :=
      filterMap_perm_set (.live p (s.stats.opened + 1)) Phase.connection? at_
    rw [connections_eq, connections_eq, shown]
    exact after.trans (before.symm.cons _)
  | @fails i p q at_ pending ends shown stats starts metrics =>
    refine .keeps ?_ stats metrics
    obtain ⟨before, after⟩ := filterMap_perm_set p Phase.connection? at_
    have none : p.connection? = none := by
      obtain rfl | rfl | ⟨f, rfl⟩ := ends <;> rfl
    rw [Phase.connection?_of_isPending pending] at before
    rw [none] at after
    rw [connections_eq, connections_eq, shown]
    exact after.trans before.symm
  | @closes i number p at_ shown stats starts metrics =>
    obtain ⟨before, after⟩ := filterMap_perm_set (.dropped p number) Phase.connection? at_
    rw [← connections_eq] at before
    rw [← shown, ← connections_eq] at after
    exact .closes before after stats metrics
  | @comes p fresh shown stats starts metrics =>
    refine .keeps ?_ stats metrics
    rw [connections_eq, connections_eq, shown, List.filterMap_append]
    obtain rfl | ⟨f, rfl⟩ := fresh <;> exact .of_eq (List.append_nil _)

/-- Connections are added, one at a time, and stay. -/
theorem Deed.established {s s' : Connector} (d : Deed s s') :
    s'.established.Perm s.established ∧ s'.stats.opened = s.stats.opened ∧
      s'.stats.speaksHttp1 = s.stats.speaksHttp1 ∨
    ∃ p, s'.established.Perm ((p, s.stats.opened + 1) :: s.established) ∧
      s'.stats = s.stats.establish p := by
  simp only [established_eq_connections]
  cases d.change with
  | keeps connections stats =>
    exact .inl ⟨connections.map _, by rw [stats], by rw [stats]⟩
  | @opens p connections stats => exact .inr ⟨p, connections.map _, stats⟩
  | closes before after stats =>
    have same := (after.map Connection.label).trans (before.map Connection.label).symm
    refine .inl ⟨same, ?_, ?_⟩ <;> rw [stats] <;> rfl

/-! ### How connections are numbered -/

/-- What the last connection speaks, by the counters. -/
def Stats.last (s : Stats) : Protocol := if s.speaksHttp1 then .http1 else .http2

/-- The connections are numbered from one on, and the counters say what the last one speaks. -/
structure Numbers (cs : List (Protocol × Nat)) (stats : Stats) : Prop where
  numbers : (cs.map Prod.snd).Perm (List.range' 1 stats.opened)
  last : 0 < stats.opened → (stats.last, stats.opened) ∈ cs
  unknown : stats.opened = 0 → stats.speaksHttp1 = false

def Numbered (s : Connector) : Prop := Numbers s.established s.stats

theorem numbers_empty : Numbers [] .empty := ⟨.refl _, nofun, fun _ => rfl⟩

theorem numbered_new (limit : Nat) : Numbered (new limit) := numbers_empty

namespace Numbers

variable {cs cs' : List (Protocol × Nat)} {stats stats' : Stats}

theorem of_perm (h : Numbers cs stats) (perm : cs'.Perm cs) (opened : stats'.opened = stats.opened)
    (speaks : stats'.speaksHttp1 = stats.speaksHttp1) : Numbers cs' stats' := by
  have last : stats'.last = stats.last := by rw [Stats.last, speaks, Stats.last]
  refine ⟨?_, fun some => ?_, fun none => ?_⟩
  · rw [opened]
    exact (perm.map _).trans h.numbers
  · rw [opened, last]
    rw [opened] at some
    exact perm.mem_iff.mpr (h.last some)
  · rw [speaks]
    exact h.unknown (opened.symm.trans none)

theorem establish (h : Numbers cs stats) (p : Protocol) :
    Numbers ((p, stats.opened + 1) :: cs) (stats.establish p) := by
  have last : (stats.establish p).last = p := by cases p <;> rfl
  refine ⟨?_, fun _ => ?_, nofun⟩
  · show ((stats.opened + 1) :: cs.map Prod.snd).Perm (List.range' 1 (stats.opened + 1))
    rw [List.range'_concat, Nat.one_mul, Nat.add_comm 1]
    exact ((List.perm_append_singleton _ _).symm).trans (h.numbers.append_right _)
  · rw [last]
    exact List.mem_cons_self

theorem le (h : Numbers cs stats) {c : Protocol × Nat} (hc : c ∈ cs) :
    1 ≤ c.2 ∧ c.2 ≤ stats.opened := by
  have := h.numbers.mem_iff.mp (List.mem_map_of_mem (f := Prod.snd) hc)
  rw [List.mem_range'_1] at this
  omega

/-- No two connections have the same number. -/
theorem unique (h : Numbers cs stats) {p q : Protocol} {n : Nat} (hp : (p, n) ∈ cs)
    (hq : (q, n) ∈ cs) : p = q := by
  have nodup : (cs.map Prod.snd).Nodup := h.numbers.nodup_iff.mpr List.nodup_range'
  exact congrArg Prod.fst (List.inj_on_of_nodup_map nodup hp hq rfl)

/-- The counters know what the last connection speaks. -/
theorem latest_iff (h : Numbers cs stats) {p : Protocol} :
    (∃ n, (p, n) ∈ cs ∧ ∀ c ∈ cs, c.2 ≤ n) ↔ 0 < stats.opened ∧ stats.last = p := by
  constructor
  · rintro ⟨n, hn, greatest⟩
    have bound := h.le hn
    have opened : 0 < stats.opened := by omega
    have last := h.last opened
    have : n = stats.opened := Nat.le_antisymm bound.2 (greatest _ last)
    exact ⟨opened, h.unique last (this ▸ hn)⟩
  · rintro ⟨opened, rfl⟩
    exact ⟨stats.opened, h.last opened, fun c hc => (h.le hc).2⟩

theorem latest_http1_iff (h : Numbers cs stats) :
    (∃ n, (.http1, n) ∈ cs ∧ ∀ c ∈ cs, c.2 ≤ n) ↔ stats.speaksHttp1 = true := by
  rw [h.latest_iff, Stats.last]
  cases known : stats.speaksHttp1 with
  | false => simp
  | true =>
    refine ⟨fun _ => rfl, fun _ => ⟨Nat.pos_of_ne_zero fun none => ?_, rfl⟩⟩
    have := h.unknown none
    rw [known] at this
    cases this

end Numbers

theorem Numbered.latest_http1_iff {s : Connector} (h : Numbered s) :
    s.Latest .http1 ↔ s.stats.speaksHttp1 = true := Numbers.latest_http1_iff h

theorem Deed.numbered {s s' : Connector} (d : Deed s s') (h : Numbered s) : Numbered s' := by
  obtain ⟨same, opened, speaks⟩ | ⟨p, more, stats⟩ := d.established
  · exact Numbers.of_perm h same opened speaks
  · refine (Numbers.establish h p).of_perm more ?_ ?_ <;> rw [stats]

theorem numbered_run (limit : Nat) (events : List Event) : Numbered ((new limit).run events) :=
  run_of_deeds (sound_new limit) (numbered_new limit) (fun d _ h => d.numbered h) events

end Funnel.Connector
