import Funnel.Gateway
import Funnel.Proofs.Config
import Funnel.Proofs.Director

/-! What an attempt to start comes to. A configuration with problems is refused with exactly those
problems before anything is bound. One without problems is never refused later for what it says: its
host makes a director and its address can be listened on, so that all that may still be missing is
TLS and what the operating system grants. -/

namespace Funnel

namespace Gateway

/-- What keeps a gateway from starting although its configuration has no problems: the settings of
TLS cannot be had, or the operating system does not grant the listener or does not know it. -/
inductive Hindered (host : Host) (c : Config) : StartError → Prop
  | tls {fault : TlsFault} : host.tls = .error fault → Hindered host c (.transport fault)
  | listen {a : SocketAddress} {code : Int} :
      host.tls = .ok () → SocketAddress.ofText? c.listener.bindAddress = some a →
      host.listen a = .error code → Hindered host c (.listener (.refused a code))
  | nameOf {a bound : SocketAddress} {code : Int} :
      host.tls = .ok () → SocketAddress.ofText? c.listener.bindAddress = some a →
      host.listen a = .ok bound → host.nameOf bound = .error code → Hindered host c (.serve code)

theorem start_of_problems {host : Host} {c : Config} (h : c.check ≠ []) :
    start host c = .failed (.config c.check) := by
  unfold start
  split
  next none => exact absurd none h
  next => rfl

/-- Once the check has passed, so does the second one, and so do those of director and listener. -/
theorem start_of_check (host : Host) {c : Config} (h : c.check = []) :
    ∃ d a, Director.ofHost c.origin.host = .ok d ∧
      SocketAddress.ofText? c.listener.bindAddress = some a ∧
      start host c = match host.tls with
        | .error fault => .failed (.transport fault)
        | .ok () => match host.listen a with
          | .error code => ⟨.error (.listener (.refused a code)), [], [forwardingLine d c]⟩
          | .ok bound =>
            let log := [forwardingLine d c, boundLine bound]
            match host.nameOf bound with
            | .error code => ⟨.error (.serve code), [bound], log⟩
            | .ok name =>
              let log := log ++ [servingLine name]
              ⟨.ok (serving c d name log), [name], log⟩ := by
  obtain ⟨⟨a, address⟩, authority, checked⟩ := Config.parts_of_check h
  have director : Director.ofHost c.origin.host = .ok ⟨authority⟩ := by
    rw [Director.ofHost_eq, checked]
    rfl
  refine ⟨⟨authority⟩, a, director, address, ?_⟩
  unfold start
  rw [h]
  cases host.tls with
  | error fault => rfl
  | ok =>
    have bind : Listener.bind host c.listener = (host.listen a).mapError (.refused a) := by
      rw [Listener.bind, address]
    unfold launch
    rw [h, director]
    unfold listen
    rw [bind]
    cases host.listen a <;> rfl

theorem bind_ne_address {host : Host} {c : Config} (h : c.check = []) (text : String) :
    Listener.bind host c.listener ≠ .error (.address text) := by
  obtain ⟨⟨a, address⟩, -⟩ := Config.parts_of_check h
  intro unread
  cases listened : host.listen a <;>
    simp [Listener.bind, address, listened, Except.mapError] at unread

theorem outcome_start_of_check {host : Host} {c : Config} (h : c.check = []) (e : StartError) :
    (start host c).outcome = .error e ↔ Hindered host c e := by
  obtain ⟨d, a, -, address, started⟩ := start_of_check host h
  rw [started]
  constructor
  · intro failed
    cases tls : host.tls with
    | error fault =>
      rw [tls] at failed
      cases failed
      exact .tls tls
    | ok =>
      cases listened : host.listen a with
      | error code =>
        rw [tls, listened] at failed
        cases failed
        exact .listen tls address listened
      | ok bound =>
        cases named : host.nameOf bound with
        | error code =>
          simp only [tls, listened, named] at failed
          cases failed
          exact .nameOf tls address listened named
        | ok name =>
          simp only [tls, listened, named] at failed
          cases failed
  · rintro (tls | ⟨tls, text, listened⟩ | ⟨tls, text, listened, named⟩)
    · simp only [tls, Attempt.failed]
    · cases address.symm.trans text
      simp only [tls, listened]
    · cases address.symm.trans text
      simp only [tls, listened, named]

/-- A configuration is refused exactly if it has problems, with all of them, and then nothing has
been bound. Without problems its host is taken as it is written, and the gateway starts unless TLS
or the operating system hinder it: neither the director nor the listener finds anything wrong with
the configuration. -/
theorem start_fails_iff (host : Host) (c : Config) :
    (∀ problems, (start host c).outcome = .error (.config problems) ↔
      c.check = problems ∧ problems ≠ []) ∧
    (c.check ≠ [] → (start host c).bound = []) ∧
    (c.check = [] →
      (∃ d, Director.ofHost c.origin.host = .ok d ∧ d.authority.text = c.origin.host) ∧
      (∀ text, Listener.bind host c.listener ≠ .error (.address text)) ∧
      ∀ e, (start host c).outcome = .error e ↔ Hindered host c e) := by
  refine ⟨fun problems => ?_, fun refused => ?_, fun accepted => ⟨?_, ?_, ?_⟩⟩
  · by_cases accepted : c.check = []
    · rw [outcome_start_of_check accepted, accepted]
      exact ⟨nofun, fun h => absurd h.1.symm h.2⟩
    · rw [start_of_problems accepted]
      constructor
      · rintro ⟨⟩
        exact ⟨rfl, accepted⟩
      · rintro ⟨rfl, -⟩
        rfl
  · rw [start_of_problems refused]
    rfl
  · obtain ⟨d, -, director, -, -⟩ := start_of_check host accepted
    exact ⟨d, director, by rw [Director.authority_of_ofHost director]⟩
  · exact bind_ne_address accepted
  · exact outcome_start_of_check accepted

/-- A gateway on a number that is taken, and one whose host names a path. -/
theorem start_fails_taken_or_invalid :
    let taken : Host := Host.isolated.occupy (.v4 .loopback 19080)
    let invalid : Config := { origin := ⟨"build.example.com/"⟩ }
    (start taken {}).outcome = .error (.listener (.refused (.v4 .loopback 19080) 98)) ∧
      (start taken invalid).outcome = .error (.config [.originHost "build.example.com/"]) ∧
      (start taken invalid).bound = [] := by
  intro taken invalid
  have accepted : ({} : Config).check = [] := by decide
  have refused : invalid.check = [.originHost "build.example.com/"] := by decide
  have hindered : Hindered taken {} (.listener (.refused (.v4 .loopback 19080) 98)) :=
    .listen rfl (by decide) (by decide)
  refine ⟨(((start_fails_iff taken {}).2.2 accepted).2.2 _).mpr hindered, ?_, ?_⟩
  · exact ((start_fails_iff taken invalid).1 _).mpr ⟨refused, nofun⟩
  · exact (start_fails_iff taken invalid).2.1 (refused ▸ nofun)

end Gateway

end Funnel
