import Funnel.CommandLine.Reader
import Funnel.Proofs.Address
import Funnel.Proofs.Config

/-! What flags make of a configuration. They are laid over one that had no problems, and only the
host they give is never looked at, so that it alone can be wrong with the result. A configuration
whose problems they would have mended is refused all the same, since it is checked before them. -/

namespace Funnel

namespace SocketAddress

def scope : SocketAddress → UInt32
  | v4 _ _ => 0
  | v6 _ _ scope => scope

/-- The address with another number and nothing else changed. -/
def withNumber : SocketAddress → UInt16 → SocketAddress
  | v4 ip _, n => v4 ip n
  | v6 ip _ scope, n => v6 ip n scope

@[simp] theorem ip_ofIp (ip : IpAddress) (n : UInt16) : (ofIp ip n).ip = ip := by
  cases ip <;> rfl

@[simp] theorem number_ofIp (ip : IpAddress) (n : UInt16) : (ofIp ip n).number = n := by
  cases ip <;> rfl

@[simp] theorem scope_ofIp (ip : IpAddress) (n : UInt16) : (ofIp ip n).scope = 0 := by
  cases ip <;> rfl

theorem ofIp_eq_withNumber_iff (a : SocketAddress) (n : UInt16) :
    ofIp a.ip n = a.withNumber n ↔ a.scope = 0 := by
  cases a with
  | v4 ip m => simp [ofIp, SocketAddress.ip, withNumber, scope]
  | v6 ip m s => simp [ofIp, SocketAddress.ip, withNumber, scope, eq_comm]

end SocketAddress

namespace CommandLine.Flags

open Config

variable {f : Flags} {read : TextReader} {b c : Config} {a : SocketAddress}

/-- The configuration that the flags are laid over: the file's, or the defaults without one. -/
def base (f : Flags) (read : TextReader) : Except LoadError Config :=
  match f.config with
  | some path => load read path
  | none => .ok {}

theorem base_of_config {path : String} (named : f.config = some path) :
    f.base read = load read path := by
  unfold base
  rw [named]

/-- A flag gives the address to listen on or the number behind it. -/
def givesAddress (f : Flags) : Bool := f.number.isSome || f.listenAddress.isSome

theorem configuration_eq (f : Flags) (read : TextReader) :
    f.configuration read = (f.base read).map f.overlay := by
  unfold configuration base
  cases f.config with
  | none => rfl
  | some path => cases load read path <;> rfl

theorem configuration_eq_ok :
    f.configuration read = .ok c ↔ ∃ b, f.base read = .ok b ∧ f.overlay b = c := by
  rw [configuration_eq]
  cases f.base read <;> simp [Except.map]

/-- What the flags are laid over has no problems. -/
theorem check_of_base (h : f.base read = .ok b) : b.check = [] := by
  unfold base at h
  split at h
  · exact check_of_load h
  · cases h
    decide

/-- The address that the flags make of `a`. -/
def choose (f : Flags) (a : SocketAddress) : SocketAddress :=
  if f.givesAddress then .ofIp (f.listenAddress.getD a.ip) (f.number.getD a.number) else a

theorem bindAddress_eq {configured : String} (address : SocketAddress.ofText? configured = some a) :
    f.bindAddress configured =
      .ofIp (f.listenAddress.getD a.ip) (f.number.getD a.number) := by
  rw [bindAddress, address]
  cases f.listenAddress <;> cases f.number <;> rfl

theorem bindAddress_overlay (f : Flags) (b : Config) :
    (f.overlay b).listener.bindAddress =
      if f.givesAddress then (f.bindAddress b.listener.bindAddress).toText
      else b.listener.bindAddress := by
  unfold overlay givesAddress
  split <;> rfl

theorem ofText?_overlay (address : SocketAddress.ofText? b.listener.bindAddress = some a) :
    SocketAddress.ofText? (f.overlay b).listener.bindAddress = some (f.choose a) := by
  rw [bindAddress_overlay, bindAddress_eq address, choose]
  split
  · exact SocketAddress.ofText?_toText _
  · exact address

theorem addressProblems_overlay (f : Flags) (b : Config) :
    (f.overlay b).addressProblems = if f.givesAddress then [] else b.addressProblems := by
  unfold givesAddress
  split
  next given =>
    refine addressProblems_eq_nil.mpr ⟨f.bindAddress b.listener.bindAddress, ?_⟩
    rw [overlay, if_pos given, SocketAddress.ofText?_toText]
  next own => rw [addressProblems, addressProblems, overlay, if_neg own]

/-- The flags settle the problems of the address that they give, and put those of their host in
place of those of the configured one. -/
theorem check_overlay (f : Flags) (b : Config) :
    (f.overlay b).check = (if f.givesAddress then [] else b.addressProblems) ++
      hostProblems (f.serverHost.getD b.origin.host) ++ b.otherProblems := by
  rw [check_eq, addressProblems_overlay]
  rfl

theorem ip_choose (f : Flags) (a : SocketAddress) :
    (f.choose a).ip = f.listenAddress.getD a.ip := by
  unfold choose givesAddress
  split
  next => exact SocketAddress.ip_ofIp _ _
  next none => cases given : f.listenAddress <;> simp_all

theorem number_choose (f : Flags) (a : SocketAddress) :
    (f.choose a).number = f.number.getD a.number := by
  unfold choose givesAddress
  split
  next => exact SocketAddress.number_ofIp _ _
  next none => cases given : f.number <;> simp_all

/-- Flags spoil nothing but the host. Whatever is merged has no problem beside the host that a flag
gives; its address is read back as the parts that flags give and those of the configuration they are
laid over; and the address of the metrics can be read if it is looked at. -/
theorem check_of_configuration (f : Flags) (read : TextReader) (c : Config)
    (merged : f.configuration read = .ok c) :
    (c.check = [] ∨ ∃ host, f.serverHost = some host ∧ c.check = [.originHost host]) ∧
    (∃ b a a', f.base read = .ok b ∧ SocketAddress.ofText? b.listener.bindAddress = some a ∧
      SocketAddress.ofText? c.listener.bindAddress = some a' ∧
      a'.ip = f.listenAddress.getD a.ip ∧ a'.number = f.number.getD a.number) ∧
    (c.observability.metricsEnabled →
      ∃ m, SocketAddress.ofText? c.observability.metricsAddress = some m) := by
  obtain ⟨b, loaded, rfl⟩ := configuration_eq_ok.mp merged
  obtain ⟨noAddress, noHost, noOther⟩ := check_eq_nil.mp (check_of_base loaded)
  refine ⟨?_, ?_, fun enabled => metricsAddress_of_otherProblems noOther enabled⟩
  · rw [check_overlay, noAddress, noOther, ite_self, List.nil_append, List.append_nil]
    cases given : f.serverHost with
    | none => exact .inl noHost
    | some host =>
      rcases hostProblems_cases host with none | wrong
      · exact .inl none
      · exact .inr ⟨host, rfl, wrong⟩
  · obtain ⟨a, address⟩ := addressProblems_eq_nil.mp noAddress
    exact ⟨b, a, f.choose a, loaded, address, ofText?_overlay address, ip_choose f a,
      number_choose f a⟩

theorem check_of_configuration_given_host :
    let f : Flags := {
      config := some "funnel.toml", serverHost := some "https://build.example.com",
      number := some 80 }
    let read : TextReader := fun _ => .ok "[listener]\nbind_address = \"[::ffff:10.0.0.1]:90\"\n"
    let c : Config := {
      listener := ⟨"[::ffff:10.0.0.1]:80"⟩, origin := ⟨"https://build.example.com"⟩ }
    f.configuration read = .ok c ∧ c.check = [.originHost "https://build.example.com"] ∧
    ∃ b a a', f.base read = .ok b ∧ SocketAddress.ofText? b.listener.bindAddress = some a ∧
      SocketAddress.ofText? c.listener.bindAddress = some a' ∧ a'.ip = a.ip ∧ a'.number = 80 := by
  intro f read c
  have merged : f.configuration read = .ok c := by decide +kernel
  obtain ⟨problems, address, -⟩ := check_of_configuration f read c merged
  refine ⟨merged, ?_, address⟩
  rcases problems with none | ⟨host, given, alone⟩
  · exact absurd none (by decide +kernel)
  · cases given
    exact alone

/-- A number flag keeps the IP address of the configuration and drops its scope, so that just an
address without a scope keeps all but its number; an address flag keeps the number. -/
theorem address_of_half_override (f : Flags) (read : TextReader) (b : Config) (a : SocketAddress)
    (loaded : f.base read = .ok b)
    (address : SocketAddress.ofText? b.listener.bindAddress = some a) :
    (∀ n, f.number = some n → f.listenAddress = none → ∃ c a', f.configuration read = .ok c ∧
      SocketAddress.ofText? c.listener.bindAddress = some a' ∧
      a'.ip = a.ip ∧ a'.number = n ∧ a'.scope = 0 ∧ (a' = a.withNumber n ↔ a.scope = 0)) ∧
    (∀ ip, f.listenAddress = some ip → f.number = none → ∃ c a', f.configuration read = .ok c ∧
      SocketAddress.ofText? c.listener.bindAddress = some a' ∧
      a'.ip = ip ∧ a'.number = a.number) := by
  have merged : f.configuration read = .ok (f.overlay b) := configuration_eq_ok.mpr ⟨b, loaded, rfl⟩
  have written := ofText?_overlay address (f := f)
  refine ⟨fun n number ip => ⟨_, _, merged, written, ?_⟩, fun ip given number => ?_⟩
  · have chosen : f.choose a = .ofIp a.ip n := by simp [choose, givesAddress, number, ip]
    rw [chosen]
    exact ⟨SocketAddress.ip_ofIp _ _, SocketAddress.number_ofIp _ _, SocketAddress.scope_ofIp _ _,
      SocketAddress.ofIp_eq_withNumber_iff a n⟩
  · refine ⟨_, _, merged, written, ?_, ?_⟩
    · rw [ip_choose, given, Option.getD_some]
    · rw [number_choose, number, Option.getD_none]

theorem address_of_half_override_scoped :
    let f : Flags := { config := some "funnel.toml", number := some 90 }
    let read : TextReader := fun _ => .ok "[listener]\nbind_address = \"[fe80::1%3]:80\"\n"
    let b : Config := { listener := ⟨"[fe80::1%3]:80"⟩ }
    ∃ a a' c, f.base read = .ok b ∧ SocketAddress.ofText? b.listener.bindAddress = some a ∧
      f.configuration read = .ok c ∧ SocketAddress.ofText? c.listener.bindAddress = some a' ∧
      a.scope = 3 ∧ a' ≠ a.withNumber 90 := by
  intro f read b
  have loaded : f.base read = .ok b := by decide +kernel
  obtain ⟨a, address⟩ : ∃ a, SocketAddress.ofText? b.listener.bindAddress = some a :=
    addressProblems_eq_nil.mp (check_eq_nil.mp (check_of_base loaded)).1
  have three : a.scope = 3 := by
    have known : (SocketAddress.ofText? b.listener.bindAddress).map (·.scope) = some 3 := by
      decide +kernel
    rw [address] at known
    exact Option.some.inj known
  obtain ⟨c, a', merged, written, -, -, -, kept⟩ :=
    (address_of_half_override f read b a loaded address).1 90 rfl rfl
  refine ⟨a, a', c, loaded, address, merged, written, three, fun same => ?_⟩
  have unscoped := kept.mp same
  rw [three] at unscoped
  exact absurd unscoped (by decide)

theorem configuration_of_text {path text : String} (named : f.config = some path)
    (found : read path = .ok text) (parsed : ofText? text = some c) :
    f.configuration read =
      if c.check = [] then .ok (f.overlay c) else .error (.invalid c.check) := by
  rw [configuration_eq, base_of_config named, load_eq found parsed]
  split <;> rfl

/-- The problems that flags mend are of values that they take the place of. -/
theorem replaced_of_mem_check {p : Problem} (accepted : (f.overlay c).check = [])
    (hp : p ∈ c.check) :
    (p = .bindAddress c.listener.bindAddress ∧ (f.number.isSome ∨ f.listenAddress.isSome)) ∨
    (p = .originHost c.origin.host ∧ f.serverHost.isSome) := by
  rw [check_overlay, List.append_eq_nil_iff, List.append_eq_nil_iff] at accepted
  obtain ⟨⟨noAddress, noHost⟩, noOther⟩ := accepted
  rw [check_eq, noOther, List.append_nil, List.mem_append] at hp
  rcases hp with hp | hp
  · left
    refine ⟨(mem_problemIf.mp hp).2, ?_⟩
    by_contra own
    have notGiven : f.givesAddress = false := by simpa [givesAddress] using own
    rw [notGiven, if_neg Bool.false_ne_true] at noAddress
    simp [noAddress] at hp
  · right
    cases given : f.serverHost with
    | none =>
      rw [given, Option.getD_none] at noHost
      simp [noHost] at hp
    | some host =>
      rcases hostProblems_cases c.origin.host with none | wrong
      · simp [none] at hp
      · rw [wrong] at hp
        exact ⟨List.mem_singleton.mp hp, rfl⟩

/-- A file is checked before the flags are laid over it. Where the merged configuration has no
problems it is had exactly if the file has none either, and every problem that then keeps it from
being had is one of a value that a flag takes the place of. -/
theorem configuration_eq_overlay_iff (f : Flags) (read : TextReader) (path text : String)
    (c : Config) (named : f.config = some path) (found : read path = .ok text)
    (parsed : ofText? text = some c) (accepted : (f.overlay c).check = []) :
    (f.configuration read = .ok (f.overlay c) ↔ c.check = []) ∧
    (∀ problems, f.configuration read = .error (.invalid problems) ↔
      c.check = problems ∧ problems ≠ []) ∧
    ∀ p ∈ c.check,
      (p = .bindAddress c.listener.bindAddress ∧
        (f.number.isSome ∨ f.listenAddress.isSome)) ∨
      (p = .originHost c.origin.host ∧ f.serverHost.isSome) := by
  rw [configuration_of_text named found parsed]
  refine ⟨?_, fun problems => ?_, fun p hp => replaced_of_mem_check accepted hp⟩
  · split
    next none => simp [none]
    next some => simp [some]
  · split
    next none => simp [none, eq_comm]
    next some =>
      simp only [Except.error.injEq, LoadError.invalid.injEq]
      exact ⟨fun h => ⟨h, h ▸ some⟩, And.left⟩

theorem configuration_eq_overlay_iff_overridden_host :
    let f : Flags := { config := some "funnel.toml", serverHost := some "build.example.com" }
    let text := "[upstream]\nhost = \"https://build.example.com\"\n"
    let c : Config := { origin := ⟨"https://build.example.com"⟩ }
    ofText? text = some c ∧ (f.overlay c).check = [] ∧
    f.configuration (fun _ => .ok text) =
      .error (.invalid [.originHost "https://build.example.com"]) := by
  intro f text c
  have parsed : ofText? text = some c := by decide +kernel
  have accepted : (f.overlay c).check = [] := by decide +kernel
  obtain ⟨-, refused, -⟩ :=
    configuration_eq_overlay_iff f (fun _ => .ok text) "funnel.toml" text c rfl rfl parsed accepted
  exact ⟨parsed, accepted, (refused _).mpr (by decide +kernel)⟩

end CommandLine.Flags

end Funnel
