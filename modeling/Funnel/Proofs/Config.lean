import Funnel.Config.Load

/-! The problems of a configuration, one field at a time, and what comes of the file that sets it: a
file is loaded exactly if its text can be read and parsed and it has no problems by itself. -/

namespace Funnel.Config

theorem problemIf_eq_nil {wrong : Bool} {p : Problem} :
    problemIf wrong p = [] ↔ wrong = false := by
  cases wrong <;> simp [problemIf]

theorem mem_problemIf {wrong : Bool} {p q : Problem} : q ∈ problemIf wrong p ↔ wrong ∧ q = p := by
  cases wrong <;> simp [problemIf]

theorem hostProblems_eq_nil {host : String} :
    hostProblems host = [] ↔ ∃ a, checkHost host = .ok a := by
  unfold hostProblems
  cases checkHost host <;> simp

theorem hostProblems_cases (host : String) :
    hostProblems host = [] ∨ hostProblems host = [.originHost host] := by
  unfold hostProblems checkHost
  split
  next => exact .inl rfl
  next refused =>
    split at refused
    · cases refused
      exact .inr rfl
    · split at refused
      · cases refused
      · cases refused
        exact .inr rfl

/-- The problem of the address to listen on. -/
def addressProblems (c : Config) : List Problem :=
  problemIf (SocketAddress.ofText? c.listener.bindAddress).isNone
    (.bindAddress c.listener.bindAddress)

/-- The problems of everything but the address to listen on and the host. -/
def otherProblems (c : Config) : List Problem :=
  problemIf (c.timeouts.connectSecs = 0) (.zeroTimeout "connect_secs") ++
    problemIf (c.timeouts.responseSecs = 0) (.zeroTimeout "response_secs") ++
    problemIf (c.pool.pingIntervalSecs ≠ 0 ∧ c.pool.pingTimeoutSecs = 0) .zeroPingTimeout ++
    problemIf (c.observability.metricsEnabled &&
        (SocketAddress.ofText? c.observability.metricsAddress).isNone)
      (.metricsAddress c.observability.metricsAddress)

theorem check_eq (c : Config) :
    c.check = c.addressProblems ++ hostProblems c.origin.host ++ c.otherProblems := by
  simp only [check, addressProblems, otherProblems, List.append_assoc]

theorem check_eq_nil {c : Config} : c.check = [] ↔
    c.addressProblems = [] ∧ hostProblems c.origin.host = [] ∧ c.otherProblems = [] := by
  rw [check_eq, List.append_eq_nil_iff, List.append_eq_nil_iff, and_assoc]

theorem addressProblems_eq_nil {c : Config} : c.addressProblems = [] ↔
    ∃ a, SocketAddress.ofText? c.listener.bindAddress = some a := by
  rw [addressProblems, problemIf_eq_nil, Option.isNone_eq_false_iff, Option.isSome_iff_exists]

/-- A configuration without problems has an address to listen on and a host to forward to. -/
theorem parts_of_check {c : Config} (h : c.check = []) :
    (∃ a, SocketAddress.ofText? c.listener.bindAddress = some a) ∧
      ∃ a, checkHost c.origin.host = .ok a := by
  obtain ⟨address, host, -⟩ := check_eq_nil.mp h
  exact ⟨addressProblems_eq_nil.mp address, hostProblems_eq_nil.mp host⟩

theorem metricsAddress_of_otherProblems {c : Config} (h : c.otherProblems = [])
    (enabled : c.observability.metricsEnabled) :
    ∃ a, SocketAddress.ofText? c.observability.metricsAddress = some a := by
  simp only [otherProblems, List.append_eq_nil_iff, problemIf_eq_nil, enabled, Bool.true_and] at h
  exact Option.isSome_iff_exists.mp (Option.isNone_eq_false_iff.mp h.2)

/-! ### Loading -/

theorem checked_eq (c : Config) :
    checked c = if c.check = [] then .ok c else .error (.invalid c.check) := by
  unfold checked
  split
  next none => rw [if_pos none]
  next some => rw [if_neg some]

section Load

variable {read : TextReader} {path text : String} {c : Config}

theorem load_of_text (found : read path = .ok text) :
    load read path = match ofText? text with
      | some c => checked c
      | none => .error (.parse path) := by
  rw [load, found]
  rfl

/-- A text that is a configuration is loaded or not by its problems alone. -/
theorem load_eq (found : read path = .ok text) (parsed : ofText? text = some c) :
    load read path = if c.check = [] then .ok c else .error (.invalid c.check) := by
  rw [load_of_text found, parsed]
  exact checked_eq c

theorem load_eq_ok : load read path = .ok c ↔
    ∃ text, read path = .ok text ∧ ofText? text = some c ∧ c.check = [] := by
  cases found : read path with
  | error e =>
    rw [load, found]
    exact ⟨nofun, fun ⟨_, there, _⟩ => nomatch there⟩
  | ok text =>
    simp only [Except.ok.injEq, exists_eq_left']
    cases parsed : ofText? text with
    | none =>
      rw [load_of_text found, parsed]
      exact ⟨nofun, nofun⟩
    | some b =>
      rw [load_eq found parsed]
      constructor
      · intro loaded
        split at loaded
        next none =>
          cases loaded
          exact ⟨rfl, none⟩
        next => cases loaded
      · rintro ⟨⟨⟩, none⟩
        exact if_pos none

theorem check_of_load (loaded : load read path = .ok c) : c.check = [] := by
  obtain ⟨_, _, _, none⟩ := load_eq_ok.mp loaded
  exact none

end Load

end Funnel.Config
