import Funnel.Config.Load
import Funnel.Proofs.Toml

/-! The fields of a configuration, one at a time. A document makes of a field what its lines say
about the one key that the field has in its section, and the default if they say nothing. Neither
other keys and sections nor the order of the lines come into it. -/

namespace Funnel.Config

open Toml

/-- What a field holds. -/
inductive Kind where
  | text
  | count
  | flag
  | logFormat

namespace Kind

def Holds : Kind → Type
  | text => String
  | count => Nat
  | flag => Bool
  | logFormat => LogFormat

def read? : (k : Kind) → Value → Option k.Holds
  | text => text?
  | count => count?
  | flag => flag?
  | logFormat => logFormat?

/-- How a document writes what a field holds. -/
def value : (k : Kind) → k.Holds → Value
  | text, s => .string s
  | count, n => .integer (Int.ofNat n)
  | flag, b => .boolean b
  | logFormat, format => .string format.name

end Kind

inductive Field where
  | bindAddress
  | host
  | connectSecs
  | responseSecs
  | idleSecs
  | maxIdlePerHost
  | pingIntervalSecs
  | pingTimeoutSecs
  | logLevel
  | logFormat
  | metricsEnabled
  | metricsAddress
  | ignoreInterrupt
  | shutdownGraceSecs
deriving DecidableEq, Repr

namespace Field

def kind : Field → Kind
  | bindAddress | host | logLevel | metricsAddress => .text
  | connectSecs | responseSecs | idleSecs => .count
  | maxIdlePerHost | pingIntervalSecs | pingTimeoutSecs | shutdownGraceSecs => .count
  | metricsEnabled | ignoreInterrupt => .flag
  | logFormat => .logFormat

def get : (φ : Field) → Config → φ.kind.Holds
  | bindAddress, c => c.listener.bindAddress
  | host, c => c.origin.host
  | connectSecs, c => c.timeouts.connectSecs
  | responseSecs, c => c.timeouts.responseSecs
  | idleSecs, c => c.timeouts.idleSecs
  | maxIdlePerHost, c => c.pool.maxIdlePerHost
  | pingIntervalSecs, c => c.pool.pingIntervalSecs
  | pingTimeoutSecs, c => c.pool.pingTimeoutSecs
  | logLevel, c => c.observability.logLevel
  | logFormat, c => c.observability.logFormat
  | metricsEnabled, c => c.observability.metricsEnabled
  | metricsAddress, c => c.observability.metricsAddress
  | ignoreInterrupt, c => c.lifecycle.ignoreInterrupt
  | shutdownGraceSecs, c => c.lifecycle.shutdownGraceSecs

/-- The section that a field stands in. -/
def sectionName : Field → String
  | bindAddress => "listener"
  | host => "upstream"
  | connectSecs | responseSecs | idleSecs => "timeouts"
  | maxIdlePerHost | pingIntervalSecs | pingTimeoutSecs => "pool"
  | logLevel | logFormat | metricsEnabled | metricsAddress => "observability"
  | ignoreInterrupt | shutdownGraceSecs => "lifecycle"

def key : Field → String
  | bindAddress => "bind_address"
  | host => "host"
  | connectSecs => "connect_secs"
  | responseSecs => "response_secs"
  | idleSecs => "idle_secs"
  | maxIdlePerHost => "max_idle_per_host"
  | pingIntervalSecs => "http2_keep_alive_interval_secs"
  | pingTimeoutSecs => "http2_keep_alive_timeout_secs"
  | logLevel => "log_level"
  | logFormat => "log_format"
  | metricsEnabled => "metrics_enabled"
  | metricsAddress => "metrics_address"
  | ignoreInterrupt => "ignore_interrupt"
  | shutdownGraceSecs => "shutdown_grace_secs"

/-- The place of a field in its section, where that has places in place of keys. -/
def position : Field → Nat
  | bindAddress | host | connectSecs | maxIdlePerHost | logLevel | ignoreInterrupt => 0
  | responseSecs | pingIntervalSecs | logFormat | shutdownGraceSecs => 1
  | idleSecs | pingTimeoutSecs | metricsEnabled => 2
  | metricsAddress => 3

/-- What a text says about a field. -/
def said (φ : Field) (text : String) : List Statement :=
  below (below (Toml.said text) φ.sectionName) φ.key

end Field

/-! ### Reading a field -/

/-- Nothing but an empty table or array. -/
def Bare (said : List Statement) : Prop :=
  said = [.value [] (.table [])] ∨ said = [.value [] (.array [])] ∨
    said ≠ [] ∧ ∀ a ∈ said, a = .table []

/-- `name` is the only key, and nothing stands under it. -/
def Names (said : List Statement) (name : String) : Prop :=
  Bare (below said name) ∧ ∀ key, key ≠ name → below said key = []

/-- What statements about a field make of it. A log format may be written as a table, too. -/
inductive Stands (said : List Statement) : (k : Kind) → (dflt x : k.Holds) → Prop
  | unset {k : Kind} {dflt : k.Holds} : said = [] → Stands said k dflt dflt
  | value {k : Kind} {dflt x : k.Holds} : said = [.value [] (k.value x)] → Stands said k dflt x
  | named {dflt x : LogFormat} : Names said x.name → Stands said .logFormat dflt x

theorem LogFormat.ofName?_eq_some {name : String} {x : LogFormat} :
    ofName? name = some x ↔ name = x.name := by
  unfold ofName?
  constructor
  · intro h
    split at h
    · cases h
      assumption
    · split at h
      · cases h
        assumption
      · cases h
  · rintro rfl
    cases x <;> rfl

section Read

variable {v : Value}

theorem text?_eq_some {s : String} (h : text? v = some s) : v = .string s := by
  cases v <;> cases h
  rfl

theorem count?_eq_some {n : Nat} (h : count? v = some n) : v = .integer (Int.ofNat n) := by
  cases v with
  | integer i =>
    rw [count?] at h
    split at h
    next => cases h; simp; omega
    next => cases h
  | _ => cases h

theorem flag?_eq_some {b : Bool} (h : flag? v = some b) : v = .boolean b := by
  cases v <;> cases h
  rfl

theorem logFormat?_eq_some {x : LogFormat} (h : logFormat? v = some x) :
    v = .string x.name ∨
      ∃ w, (w = .table [] ∨ w = .array []) ∧ v = .table [(x.name, w)] := by
  unfold logFormat? at h
  split at h
  · exact .inl (congrArg _ (LogFormat.ofName?_eq_some.mp h))
  · exact .inr ⟨.table [], .inl rfl, by rw [LogFormat.ofName?_eq_some.mp h]⟩
  · exact .inr ⟨.array [], .inr rfl, by rw [LogFormat.ofName?_eq_some.mp h]⟩
  · cases h

end Read

section Makes

variable {said : List Statement} {item : Item} {v : Value}

theorem eq_value_of_makes (makes : Makes said (some item)) (closed : item.close = v)
    (noTable : ∀ entries, v ≠ .table entries) (noArray : ∀ items, v ≠ .array items) :
    said = [.value [] v] := by
  cases item with
  | value w =>
    rw [← closed]
    exact makes.eq_value
  | table d sub => exact absurd closed.symm (noTable _)
  | tables elements => exact absurd closed.symm (noArray _)

theorem bare_of_makes (makes : Makes said (some item)) (empty : v = .table [] ∨ v = .array [])
    (closed : item.close = v) : Bare said := by
  cases item with
  | value w =>
    have only := makes.eq_value
    change w = v at closed
    subst closed
    rcases empty with rfl | rfl
    · exact .inl only
    · exact .inr (.inl only)
  | table d sub =>
    obtain ⟨spoken, headers, tells⟩ := makes.of_table
    have noEntry : sub = [] := by
      cases sub with
      | nil => rfl
      | cons => rcases empty with rfl | rfl <;> cases closed
    subst noEntry
    refine .inr (.inr ⟨spoken, fun a member => headers a member ?_⟩)
    exact Statement.path_eq_nil_of_below? fun key =>
      List.filterMap_eq_nil_iff.mp (tells key).eq_nil a member
  | tables elements =>
    cases makes with
    | tables some =>
      cases elements with
      | nil => exact absurd rfl some
      | cons => rcases empty with rfl | rfl <;> cases closed

theorem names_of_makes {name : String} (makes : Makes said (some item))
    (empty : v = .table [] ∨ v = .array []) (closed : item.close = .table [(name, v)]) :
    Names said name := by
  cases item with
  | value w =>
    have only := makes.eq_value
    change w = _ at closed
    subst closed only
    have here (key : String) : below [.value [] (.table [(name, v)])] key =
        if key = name then [.value [] v] else [] := by
      by_cases same : key = name <;>
        simp [below, Statement.below?, List.lookup_cons, same, beq_false_of_ne]
    refine ⟨?_, fun key other => by rw [here, if_neg other]⟩
    rw [here, if_pos rfl]
    rcases empty with rfl | rfl
    · exact .inl rfl
    · exact .inr (.inl rfl)
  | table d sub =>
    obtain ⟨-, -, tells⟩ := makes.of_table
    obtain ⟨i, rfl, inside⟩ : ∃ i, sub = [(name, i)] ∧ i.close = v := by
      rcases sub with _ | ⟨⟨first, i⟩, _ | _⟩
      · cases closed
      · cases closed
        exact ⟨i, rfl, rfl⟩
      · cases closed
    have here : Makes (below said name) (some i) := by simpa using tells name
    refine ⟨bare_of_makes here empty inside, fun key other => ?_⟩
    have silent := tells key
    rw [List.lookup_cons, beq_false_of_ne other] at silent
    exact silent.eq_nil
  | tables elements => cases closed

end Makes

theorem stands_of_read {said : List Statement} {item : Option Item} {k : Kind}
    {dflt x : k.Holds} (makes : Makes said item)
    (read : (match item.map Item.close with
      | some v => k.read? v
      | none => some dflt) = some x) : Stands said k dflt x := by
  cases item with
  | none =>
    cases read
    exact .unset makes.eq_nil
  | some item =>
    change k.read? item.close = some x at read
    cases k with
    | text => exact .value (eq_value_of_makes makes (text?_eq_some read) nofun nofun)
    | count => exact .value (eq_value_of_makes makes (count?_eq_some read) nofun nofun)
    | flag => exact .value (eq_value_of_makes makes (flag?_eq_some read) nofun nofun)
    | logFormat =>
      rcases logFormat?_eq_some read with string | ⟨v, empty, table⟩
      · exact .value (eq_value_of_makes makes string nofun nofun)
      · exact .named (names_of_makes makes empty table)

section Table

variable {text : String} {t : Table} {c : Config}

theorem exists_source {name : String} (parsed : parse text = some t)
    (isTable : ∀ v, t.get? name = some v → ∃ entries, v = .table entries) (key : String) :
    ∃ source item, Source.ofValue? (t.get? name) = some source ∧
      Makes (below (below (Toml.said text) name) key) item ∧
      ∀ position, source.get? key position = item.map Item.close := by
  obtain ⟨es, rfl, tells⟩ := tells_of_parse parsed
  have makes := tells name
  simp only [Table.get?, lookup_closeEntries] at isTable ⊢
  cases there : es.lookup name with
  | none =>
    rw [there] at makes
    rw [makes.eq_nil]
    exact ⟨.nothing, none, rfl, .absent, fun _ => rfl⟩
  | some item =>
    rw [there] at makes isTable
    obtain ⟨entries, closed⟩ := isTable _ rfl
    cases item with
    | value v =>
      change v = .table entries at closed
      subst closed
      rw [makes.eq_value]
      refine ⟨.keys entries, (entries.lookup key).map .value, rfl, ?_, fun _ => ?_⟩
      · simp only [below, List.filterMap_cons, Statement.below?, List.filterMap_nil]
        cases entries.lookup key with
        | none => exact .absent
        | some v => exact .value
      · simp only [Source.get?, Table.get?]
        cases entries.lookup key <;> rfl
    | table d sub =>
      obtain ⟨-, -, inside⟩ := makes.of_table
      exact ⟨.keys (closeEntries sub), sub.lookup key, rfl, inside key,
        fun _ => lookup_closeEntries sub key⟩
    | tables elements => cases closed

theorem field_of_ofTable? (set : ofTable? t = some c) (φ : Field) :
    ∃ source, Source.ofValue? (t.get? φ.sectionName) = some source ∧
      source.field φ.key φ.position φ.kind.read? (φ.get {}) = some (φ.get c) := by
  simp only [ofTable?, section?, Listener.ofSource?, Origin.ofSource?, Timeouts.ofSource?,
    Pool.ofSource?, Observability.ofSource?, Lifecycle.ofSource?, Option.bind_eq_bind,
    Option.bind_eq_some_iff, Option.pure_def, Option.some.injEq] at set
  obtain ⟨_, ⟨listener, atListener, _, bindAddress, rfl⟩, _, ⟨origin, atOrigin, _, host, rfl⟩,
    _, ⟨timeouts, atTimeouts, _, connect, _, response, _, idle, rfl⟩,
    _, ⟨pool, atPool, _, perHost, _, interval, _, timeout, rfl⟩,
    _, ⟨observability, atObservability, _, level, _, format, _, enabled, _, address, rfl⟩,
    _, ⟨lifecycle, atLifecycle, _, interrupt, _, grace, rfl⟩, rfl⟩ := set
  cases φ with
  | bindAddress => exact ⟨_, atListener, bindAddress⟩
  | host => exact ⟨_, atOrigin, host⟩
  | connectSecs => exact ⟨_, atTimeouts, connect⟩
  | responseSecs => exact ⟨_, atTimeouts, response⟩
  | idleSecs => exact ⟨_, atTimeouts, idle⟩
  | maxIdlePerHost => exact ⟨_, atPool, perHost⟩
  | pingIntervalSecs => exact ⟨_, atPool, interval⟩
  | pingTimeoutSecs => exact ⟨_, atPool, timeout⟩
  | logLevel => exact ⟨_, atObservability, level⟩
  | logFormat => exact ⟨_, atObservability, format⟩
  | metricsEnabled => exact ⟨_, atObservability, enabled⟩
  | metricsAddress => exact ⟨_, atObservability, address⟩
  | ignoreInterrupt => exact ⟨_, atLifecycle, interrupt⟩
  | shutdownGraceSecs => exact ⟨_, atLifecycle, grace⟩

/-- The sections of the fields are tables in a document, or not there. -/
def sectioned (text : String) : Bool :=
  (parse text).all fun t =>
    ["listener", "upstream", "timeouts", "pool", "observability", "lifecycle"].all fun name =>
      match t.get? name with
      | none => true
      | some (.table _) => true
      | some _ => false

theorem isTable_of_sectioned (parsed : parse text = some t) (tables : sectioned text)
    (φ : Field) (v : Value) (there : t.get? φ.sectionName = some v) :
    ∃ entries, v = .table entries := by
  rw [sectioned, parsed, Option.all_some, List.all_eq_true] at tables
  have one := tables φ.sectionName (by cases φ <;> decide)
  rw [there] at one
  cases v <;> first | exact ⟨_, rfl⟩ | cases one

/-- A field has the value `x` by what a text says about it. -/
def Field.Stands (φ : Field) (text : String) (x : φ.kind.Holds) : Prop :=
  Config.Stands (φ.said text) φ.kind (φ.get {}) x

/-- Every field of the configuration that a text sets stands there, or is left as it is. -/
theorem stands_of_ofText? (set : ofText? text = some c) (tables : sectioned text) (φ : Field) :
    φ.Stands text (φ.get c) := by
  obtain ⟨t, parsed, ofTable⟩ := Option.bind_eq_some_iff.mp set
  obtain ⟨source, at_, read⟩ := field_of_ofTable? ofTable φ
  obtain ⟨source', item, at', makes, gets⟩ :=
    exists_source parsed (isTable_of_sectioned parsed tables φ) φ.key
  cases at_.symm.trans at'
  refine stands_of_read makes ?_
  rw [← gets φ.position]
  exact read

end Table

/-! ### The order of what is said does not count -/

section Order

variable {said said' : List Statement} {name name' : String} {k : Kind} {dflt x y : k.Holds}

theorem Bare.perm (h : Bare said) (same : said.Perm said') : Bare said' := by
  rcases h with rfl | rfl | ⟨spoken, headers⟩
  · exact .inl (List.singleton_perm.mp same).symm
  · exact .inr (.inl (List.singleton_perm.mp same).symm)
  · refine .inr (.inr ⟨fun none => ?_, fun a member => headers a (same.mem_iff.mpr member)⟩)
    subst none
    exact spoken same.eq_nil

theorem Names.perm (h : Names said name) (same : said.Perm said') : Names said' name := by
  refine ⟨h.1.perm (same.filterMap _), fun key other => ?_⟩
  have silent := same.filterMap (·.below? key)
  rw [← below, h.2 key other] at silent
  exact List.nil_perm.mp silent

theorem Stands.perm (h : Stands said k dflt x) (same : said.Perm said') :
    Stands said' k dflt x := by
  cases h with
  | unset none =>
    subst none
    exact .unset (List.nil_perm.mp same)
  | value one =>
    subst one
    exact .value (List.singleton_perm.mp same).symm
  | named names => exact .named (names.perm same)

theorem not_bare_nil : ¬ Bare [] := by
  rintro (h | h | ⟨h, -⟩)
  · cases h
  · cases h
  · exact h rfl

theorem not_names_value : ¬ Names [.value [] (k.value x)] name := by
  rintro ⟨bare, -⟩
  cases k <;> exact not_bare_nil bare

theorem Names.unique (h : Names said name) (h' : Names said name') : name = name' := by
  by_contra other
  have bare := h.1
  rw [h'.2 name other] at bare
  exact not_bare_nil bare

theorem LogFormat.name_injective {x y : LogFormat} (same : x.name = y.name) : x = y :=
  Option.some.inj ((ofName?_eq_some.mpr rfl).symm.trans (ofName?_eq_some.mpr same))

theorem Kind.value_injective (same : k.value x = k.value y) : x = y := by
  cases k with
  | text => exact Value.string.inj same
  | count => exact Int.ofNat.inj (Value.integer.inj same)
  | flag => exact Value.boolean.inj same
  | logFormat => exact LogFormat.name_injective (Value.string.inj same)

/-- Statements make one value of a field. -/
theorem Stands.unique (h : Stands said k dflt x) (h' : Stands said k dflt y) : x = y := by
  cases h with
  | unset none =>
    subst none
    cases h' with
    | unset => rfl
    | value one => cases one
    | named names => exact absurd names.1 not_bare_nil
  | value one =>
    subst one
    cases h' with
    | unset none => cases none
    | value one => exact Kind.value_injective (Statement.value.inj (List.singleton_inj.mp one)).2
    | named names => exact absurd names not_names_value
  | named names =>
    cases h' with
    | unset none =>
      subst none
      exact absurd names.1 not_bare_nil
    | value one =>
      subst one
      exact absurd names not_names_value
    | named names' => exact LogFormat.name_injective (names.unique names')

end Order

end Funnel.Config
