import Funnel.Proofs.CommandLine
import Funnel.Proofs.Config.Field

/-! Where each field of the merged configuration comes from: a flag, else the document, else the
default. -/

namespace Funnel.CommandLine.Flags

open Config

/-- The document that the flags are laid over: what the file says, or nothing without one. -/
def document? (f : Flags) (read : TextReader) : Option String :=
  match f.config with
  | some path => (read path).toOption
  | none => some ""

/-- Both flag sets give the same for a field. -/
def AgreeOn (f f' : Flags) : Field → Prop
  | .host => f.serverHost = f'.serverHost
  | .logFormat => f.logFormat = f'.logFormat
  | .bindAddress => f.listenAddress = f'.listenAddress ∧ f.number = f'.number
  | _ => True

variable {f f' : Flags} {read : TextReader} {text : String} {b b' : Config}

theorem ofText?_of_base (found : f.document? read = some text) (loaded : f.base read = .ok b) :
    ofText? text = some b := by
  unfold document? at found
  unfold base at loaded
  cases named : f.config with
  | some path =>
    simp only [named] at found loaded
    obtain ⟨text', written, set, -⟩ := load_eq_ok.mp loaded
    rw [written] at found
    cases found
    exact set
  | none =>
    simp only [named] at found loaded
    cases found
    cases loaded
    decide +kernel

/-- A field of the merged configuration depends on its flags and its configured value alone. -/
theorem get_overlay_congr {φ : Field} (agree : f.AgreeOn f' φ) (same : φ.get b = φ.get b') :
    φ.get (f.overlay b) = φ.get (f'.overlay b') := by
  cases φ with
  | host =>
    change f.serverHost.getD b.origin.host = f'.serverHost.getD b'.origin.host
    exact congrArg₂ Option.getD agree same
  | logFormat =>
    change f.logFormat.getD b.observability.logFormat =
      f'.logFormat.getD b'.observability.logFormat
    exact congrArg₂ Option.getD agree same
  | bindAddress =>
    change (f.overlay b).listener.bindAddress = (f'.overlay b').listener.bindAddress
    change b.listener.bindAddress = b'.listener.bindAddress at same
    obtain ⟨address, number⟩ := agree
    rw [bindAddress_overlay, bindAddress_overlay, givesAddress, givesAddress, bindAddress,
      bindAddress, address, number, same]
  | _ => exact same

/-- In the merged configuration each field that no flag is for has the value that the document sets
under its key, or the default if that says nothing about it. The host and the log format are those
of their flags, or else the same; the address to listen on has the parts that flags give and takes
the others from the configured one, which stays as it is written if no flag gives any. Whatever else
two documents say, and in whatever order they say it: if they say the same about a field and the
flags for it agree, it has one value. -/
theorem configuration_by_field (f : Flags) (read : TextReader) (text : String) (c : Config)
    (found : f.document? read = some text) (tables : sectioned text)
    (merged : f.configuration read = .ok c) :
    (∀ φ : Field, φ ≠ .host → φ ≠ .logFormat → φ ≠ .bindAddress → φ.Stands text (φ.get c)) ∧
    (match f.serverHost with
      | some host => c.origin.host = host
      | none => Field.host.Stands text c.origin.host) ∧
    (match f.logFormat with
      | some format => c.observability.logFormat = format
      | none => Field.logFormat.Stands text c.observability.logFormat) ∧
    (∃ (configured : String) (a : SocketAddress), Field.bindAddress.Stands text configured ∧
      SocketAddress.ofText? configured = some a ∧
      c.listener.bindAddress =
        if f.listenAddress = none ∧ f.number = none then configured
        else (SocketAddress.ofIp (f.listenAddress.getD a.ip) (f.number.getD a.number)).toText) ∧
    ∀ (f' : Flags) read' text' c', f'.document? read' = some text' → sectioned text' →
      f'.configuration read' = .ok c' → ∀ φ : Field, (φ.said text').Perm (φ.said text) →
        f'.AgreeOn f φ → φ.get c' = φ.get c := by
  obtain ⟨b, loaded, rfl⟩ := configuration_eq_ok.mp merged
  have stands := stands_of_ofText? (ofText?_of_base found loaded) tables
  refine ⟨fun φ noHost noFormat noAddress => ?_, ?_, ?_, ?_, ?_⟩
  · have own : φ.get (f.overlay b) = φ.get b := by
      cases φ <;> first | rfl | contradiction
    rw [own]
    exact stands φ
  · cases given : f.serverHost with
    | some host =>
      change f.serverHost.getD b.origin.host = host
      rw [given, Option.getD_some]
    | none =>
      change Field.host.Stands text (f.serverHost.getD b.origin.host)
      rw [given, Option.getD_none]
      exact stands .host
  · cases given : f.logFormat with
    | some format =>
      change f.logFormat.getD b.observability.logFormat = format
      rw [given, Option.getD_some]
    | none =>
      change Field.logFormat.Stands text (f.logFormat.getD b.observability.logFormat)
      rw [given, Option.getD_none]
      exact stands .logFormat
  · obtain ⟨a, address⟩ := addressProblems_eq_nil.mp (check_eq_nil.mp (check_of_base loaded)).1
    refine ⟨b.listener.bindAddress, a, stands .bindAddress, address, ?_⟩
    rw [bindAddress_overlay, bindAddress_eq address]
    by_cases none : f.listenAddress = none ∧ f.number = none
    · rw [if_pos none, if_neg (by simp [givesAddress, none])]
    · have given : f.givesAddress := by
        simp only [givesAddress, Bool.or_eq_true, Option.isSome_iff_ne_none]
        tauto
      rw [if_neg none, if_pos given]
  · intro f' read' text' c' found' tables' merged' φ same agree
    obtain ⟨b', loaded', rfl⟩ := configuration_eq_ok.mp merged'
    have stands' := stands_of_ofText? (ofText?_of_base found' loaded') tables' φ
    exact get_overlay_congr agree ((stands'.perm same).unique (stands φ))

/-- One document has a section, the other dotted keys in another order and a key that nobody
knows. -/
theorem configuration_by_field_reordered :
    let text := "observability.log_format = \"json\"\n[timeouts]\nidle_secs = 5\nconnect_secs = 7\n"
    let text' := "timeouts.connect_secs = 8\ntimeouts.tries = 2\ntimeouts.idle_secs = 5\n"
    let f : Flags := { config := some "funnel.toml", listenAddress := some (.v4 ⟨10, 0, 0, 1⟩) }
    let f' : Flags := { config := some "funnel.toml", logFormat := some .json }
    let c : Config := {
      listener := ⟨"10.0.0.1:19080"⟩, timeouts := { connectSecs := 7, idleSecs := 5 }
      observability := { logFormat := .json } }
    let c' : Config := {
      timeouts := { connectSecs := 8, idleSecs := 5 }, observability := { logFormat := .json } }
    f.configuration (fun _ => .ok text) = .ok c ∧ sectioned text ∧
    f'.configuration (fun _ => .ok text') = .ok c' ∧ sectioned text' ∧
    Field.connectSecs.Stands text (7 : Nat) ∧ Field.logLevel.Stands text "info" ∧
    (Field.idleSecs.said text').Perm (Field.idleSecs.said text) ∧
    c'.timeouts.idleSecs = c.timeouts.idleSecs := by
  intro text text' f f' c c'
  have merged : f.configuration (fun _ => .ok text) = .ok c := by decide +kernel
  have merged' : f'.configuration (fun _ => .ok text') = .ok c' := by decide +kernel
  have tables : sectioned text := by decide +kernel
  have tables' : sectioned text' := by decide +kernel
  obtain ⟨own, -, -, -, other⟩ :=
    configuration_by_field f (fun _ => .ok text) text c rfl tables merged
  obtain ⟨own', -⟩ :=
    configuration_by_field f' (fun _ => .ok text') text' c' rfl tables' merged'
  have five {t : String} (stands : Field.idleSecs.Stands t (5 : Nat)) :
      Field.idleSecs.said t = [.value [] (.integer 5)] := by
    cases stands with
    | value one => exact one
  have same : (Field.idleSecs.said text').Perm (Field.idleSecs.said text) := by
    rw [five (own .idleSecs nofun nofun nofun), five (own' .idleSecs nofun nofun nofun)]
  refine ⟨merged, tables, merged', tables', own .connectSecs nofun nofun nofun,
    own .logLevel nofun nofun nofun, same, ?_⟩
  exact other f' (fun _ => .ok text') text' c' rfl tables' merged' .idleSecs same trivial

end Funnel.CommandLine.Flags
