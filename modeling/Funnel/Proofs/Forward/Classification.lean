import Funnel.Forward.ClientError
import Funnel.Proofs.Fault

/-! What a client error comes to is read off its chain, by rules of a fixed order that look at the
outermost link of each sort alone. So an input or output error that says that the connection is
closed counts for nothing behind one of another kind, although the deadline of connecting and TLS
faults are found behind anything. -/

namespace Funnel

/-- `a` is what the first link of a chain yields on which `p` yields anything. -/
inductive Outermost {α : Type} (p : Node → Option α) : List Node → α → Prop
  | here {n : Node} {rest : List Node} {a : α} : p n = some a → Outermost p (n :: rest) a
  | inside {n : Node} {rest : List Node} {a : α} : p n = none → Outermost p rest a →
      Outermost p (n :: rest) a

section Outermost

variable {α : Type} {p : Node → Option α} {chain : List Node} {a : α}

theorem outermost_iff : Outermost p chain a ↔ chain.findSome? p = some a := by
  constructor
  · intro first
    induction first with
    | here found => simp [found]
    | inside missed _ ih => simpa [missed] using ih
  · intro found
    induction chain with
    | nil => cases found
    | cons n rest ih =>
      rw [List.findSome?_cons] at found
      split at found
      next hit => exact .here (hit.trans found)
      next missed => exact .inside missed (ih found)

theorem any_findSome?_iff {good : α → Bool} :
    (chain.findSome? p).any good ↔ ∃ a, Outermost p chain a ∧ good a := by
  cases found : chain.findSome? p with
  | none => simp [outermost_iff, found]
  | some a => simp [outermost_iff, found]

/-- Where there is any link of a sort, one is the outermost. -/
theorem exists_outermost (there : ∃ n ∈ chain, p n ≠ none) : ∃ a, Outermost p chain a := by
  cases found : chain.findSome? p with
  | some a => exact ⟨a, outermost_iff.mpr found⟩
  | none =>
    obtain ⟨n, hn, hit⟩ := there
    exact absurd (List.findSome?_eq_none_iff.mp found n hn) hit

end Outermost

namespace IoKind

/-- The kinds that say that the connection is closed. -/
def closedKinds : List IoKind :=
  [brokenPipe, connectionReset, connectionAborted, unexpectedEof]

theorem saysClosed_iff {k : IoKind} : k.saysClosed ↔ k ∈ closedKinds := by
  cases k <;> decide

end IoKind

namespace HttpFault

/-- The faults that say that the connection is closed. -/
def closedFaults : List HttpFault := [canceled, channelClosed, incompleteMessage]

theorem saysClosed_iff {f : HttpFault} : f.saysClosed ↔ f ∈ closedFaults := by
  cases f <;> decide

end HttpFault

namespace Node

theorem connectTimeout?_eq_some {n : Node} {d : Duration} :
    n.connectTimeout? = some d ↔ n = .connectTimeout d := by
  cases n <;> simp [connectTimeout?]

theorem tls?_eq_some {n : Node} {f : TlsFault} : n.tls? = some f ↔ n = .tls f := by
  cases n <;> simp [tls?]

end Node

namespace Forward.ClientError

theorem find_eq_findSome? {α : Type} (e : ClientError) (p : Node → Option α) :
    e.find p = e.chain.findSome? p := by
  unfold find chain
  cases e.source with
  | none => rfl
  | some f => exact f.find_eq_findSome? p

theorem find_eq_none_iff {α : Type} {e : ClientError} {p : Node → Option α} :
    e.find p = none ↔ ∀ n ∈ e.chain, p n = none := by
  rw [find_eq_findSome?, List.findSome?_eq_none_iff]

theorem find_eq_some_iff {α : Type} {e : ClientError} {p : Node → Option α} {a : α} :
    e.find p = some a ↔ Outermost p e.chain a := by
  rw [find_eq_findSome?, outermost_iff]

theorem saysClosed_iff (e : ClientError) :
    e.saysClosed ↔
      (∃ h, Outermost Node.http? e.chain h ∧ h.saysClosed) ∨
        ∃ k, Outermost Node.ioKind? e.chain k ∧ k ∈ IoKind.closedKinds := by
  rw [saysClosed, Bool.or_eq_true, find_eq_findSome?, find_eq_findSome?, any_findSome?_iff,
    any_findSome?_iff]
  simp only [IoKind.saysClosed_iff]

/-- The client was past connecting, and neither a deadline nor TLS is to blame. -/
structure Connected (e : ClientError) : Prop where
  stage : e.stage ≠ .connect
  timeout : ∀ n ∈ e.chain, n.connectTimeout? = none
  tls : ∀ n ∈ e.chain, n.tls? = none

theorem Connected.toFailure {e : ClientError} (connected : e.Connected) :
    e.toFailure = if e.saysClosed then .closed e.describe else .protocol e.describe := by
  have timeout : e.find Node.connectTimeout? = none := find_eq_none_iff.mpr connected.timeout
  have tls : e.find Node.tls? = none := find_eq_none_iff.mpr connected.tls
  rw [ClientError.toFailure, timeout, tls]
  simp [connected.stage]

/-- The outermost input or output error is of no closed kind, whatever stands behind it, and the
outermost HTTP fault does not make up for that. -/
def Covered (e : ClientError) : Prop :=
  (∃ k, Outermost Node.ioKind? e.chain k ∧ k ∉ IoKind.closedKinds) ∧
    ¬ ∃ h, Outermost Node.http? e.chain h ∧ h.saysClosed

/-- An input or output error of a closed kind, at any depth, says that the connection is closed,
unless it is covered. Then the failure passes for one of the protocol. -/
theorem closed_iff_not_covered (e : ClientError) (connected : e.Connected)
    (closed : ∃ n ∈ e.chain, ∃ k ∈ IoKind.closedKinds, n.ioKind? = some k) :
    (e.toFailure = .closed e.describe ↔ ¬ e.Covered) ∧
      (e.toFailure = .protocol e.describe ↔ e.Covered) := by
  have someIo : ∃ k, Outermost Node.ioKind? e.chain k := by
    obtain ⟨n, hn, k, -, io⟩ := closed
    exact exists_outermost ⟨n, hn, by simp [io]⟩
  have heard : e.saysClosed ↔ ¬ e.Covered := by
    rw [saysClosed_iff, Covered]
    constructor
    · rintro (http | ⟨k, first, listed⟩) ⟨⟨k', first', other⟩, noHttp⟩
      · exact noHttp http
      · -- Only one link is the outermost, so it is of a closed kind or of another.
        have same : some k = some k' :=
          (outermost_iff.mp first).symm.trans (outermost_iff.mp first')
        exact other (Option.some.inj same ▸ listed)
    · intro uncovered
      by_cases http : ∃ h, Outermost Node.http? e.chain h ∧ h.saysClosed
      · exact .inl http
      · obtain ⟨k, first⟩ := someIo
        have listed : k ∈ IoKind.closedKinds := Decidable.byContradiction fun other =>
          uncovered ⟨⟨k, first, other⟩, http⟩
        exact .inr ⟨k, first, listed⟩
  rw [connected.toFailure]
  by_cases covered : e.Covered
  · have silent : e.saysClosed = false := by simpa [covered] using heard
    simp [covered, silent]
  · simp [covered, heard.mpr covered]

/-- The peer has reset the connection, and a wrapper of another kind hides it. -/
theorem closed_iff_not_covered_reset :
    let e : ClientError := ⟨.sendRequest,
      some (.causedBy (.http .connection) (.wrapping .other (.last (.io .connectionReset))))⟩
    e.Connected ∧ (∃ n ∈ e.chain, ∃ k ∈ IoKind.closedKinds, n.ioKind? = some k) ∧ e.Covered ∧
      e.toFailure = .protocol "client error (SendRequest): connection error: connection reset" := by
  intro e
  have connected : e.Connected := ⟨by decide, by decide, by decide⟩
  have closed : ∃ n ∈ e.chain, ∃ k ∈ IoKind.closedKinds, n.ioKind? = some k :=
    ⟨.io .connectionReset, by decide, .connectionReset, by decide, rfl⟩
  have covered : e.Covered := by
    refine ⟨⟨.other, .inside rfl (.here rfl), by decide⟩, ?_⟩
    rintro ⟨h, first, closes⟩
    cases first with
    | here hit =>
      cases hit
      cases closes
    | inside missed _ => cases missed
  have described :
      e.describe = "client error (SendRequest): connection error: connection reset" := by
    decide +kernel
  refine ⟨connected, closed, covered, ?_⟩
  rw [((closed_iff_not_covered e connected closed).2).mpr covered, described]

/-! ### The order of the rules -/

/-- The outermost HTTP fault, or the outermost input or output error, is one of those that say that
the connection is closed. -/
def Closed (e : ClientError) : Prop :=
  (∃ h ∈ HttpFault.closedFaults, Outermost Node.http? e.chain h) ∨
    ∃ k ∈ IoKind.closedKinds, Outermost Node.ioKind? e.chain k

/-- The rules by which a client error means a failure. Each applies where those before it do not. -/
inductive Means (e : ClientError) : Failure → Prop
  | connectTimeout {d : Duration} :
      Outermost Node.connectTimeout? e.chain d → Means e (.connectTimeout d)
  | tls {f : TlsFault} :
      (∀ d, .connectTimeout d ∉ e.chain) → .tls f ∈ e.chain → Means e (.tls e.describe)
  | connect :
      (∀ d, .connectTimeout d ∉ e.chain) → (∀ f, .tls f ∉ e.chain) → e.stage = .connect →
        Means e (.connect e.describe)
  | closed :
      (∀ d, .connectTimeout d ∉ e.chain) → (∀ f, .tls f ∉ e.chain) → e.stage ≠ .connect →
        e.Closed → Means e (.closed e.describe)
  | protocol :
      (∀ d, .connectTimeout d ∉ e.chain) → (∀ f, .tls f ∉ e.chain) → e.stage ≠ .connect →
        ¬ e.Closed → Means e (.protocol e.describe)

theorem saysClosed_iff_closed (e : ClientError) : e.saysClosed ↔ e.Closed := by
  rw [saysClosed_iff, Closed]
  simp only [HttpFault.saysClosed_iff, and_comm]

/-- Links that `p` yields something on are those that `link` makes. -/
theorem find_eq_none_iff_forall_notMem {α : Type} {e : ClientError} {p : Node → Option α}
    {link : α → Node} (yields : ∀ {n a}, p n = some a ↔ n = link a) :
    e.find p = none ↔ ∀ a, link a ∉ e.chain := by
  rw [find_eq_none_iff]
  constructor
  · intro missed a there
    have : p (link a) = some a := yields.mpr rfl
    simp [missed _ there] at this
  · intro none n there
    cases hit : p n with
    | none => rfl
    | some a => exact absurd (yields.mp hit ▸ there) (none a)

theorem untimed_iff {e : ClientError} :
    e.find Node.connectTimeout? = none ↔ ∀ d, .connectTimeout d ∉ e.chain :=
  find_eq_none_iff_forall_notMem Node.connectTimeout?_eq_some

theorem trusted_iff {e : ClientError} :
    e.find Node.tls? = none ↔ ∀ f, .tls f ∉ e.chain :=
  find_eq_none_iff_forall_notMem Node.tls?_eq_some

/-- Some rule applies, and the failure is the one that it names. -/
theorem means_toFailure (e : ClientError) : e.Means e.toFailure := by
  unfold toFailure
  cases timeout : e.find Node.connectTimeout? with
  | some d => exact .connectTimeout (find_eq_some_iff.mp timeout)
  | none =>
    have untimed := untimed_iff.mp timeout
    cases tls : e.find Node.tls? with
    | some f =>
      obtain ⟨n, there, hit⟩ := List.exists_of_findSome?_eq_some (find_eq_findSome? e _ ▸ tls)
      exact .tls untimed (Node.tls?_eq_some.mp hit ▸ there)
    | none =>
      have trusted := trusted_iff.mp tls
      simp only [Option.isSome_none, Bool.false_eq_true, if_false]
      split
      next connecting => exact .connect untimed trusted connecting
      next connected =>
        split
        next closed =>
          exact .closed untimed trusted connected ((saysClosed_iff_closed e).mp closed)
        next other =>
          exact .protocol untimed trusted connected (mt (saysClosed_iff_closed e).mpr other)

theorem Means.toFailure {e : ClientError} {f : Failure} (means : e.Means f) :
    e.toFailure = f := by
  cases means with
  | connectTimeout first =>
    rw [ClientError.toFailure, find_eq_some_iff.mpr first]
  | @tls fault untimed there =>
    have found : e.find Node.tls? ≠ none := fun missed => trusted_iff.mp missed fault there
    rw [ClientError.toFailure, untimed_iff.mpr untimed]
    simp [Option.isSome_iff_ne_none, found]
  | connect untimed trusted connecting =>
    rw [ClientError.toFailure, untimed_iff.mpr untimed, trusted_iff.mpr trusted]
    simp [connecting]
  | closed untimed trusted connected closed =>
    rw [ClientError.toFailure, untimed_iff.mpr untimed, trusted_iff.mpr trusted]
    simp [connected, (saysClosed_iff_closed e).mpr closed]
  | protocol untimed trusted connected other =>
    rw [ClientError.toFailure, untimed_iff.mpr untimed, trusted_iff.mpr trusted]
    simp [connected, mt (saysClosed_iff_closed e).mp other]

/-- Whatever wraps what in its chain, a client error comes to the failure that the rules name, and
to no other. -/
theorem toFailure_eq_iff_means (e : ClientError) (f : Failure) :
    e.toFailure = f ↔ e.Means f := by
  constructor
  · rintro rfl
    exact e.means_toFailure
  · exact Means.toFailure

end Forward.ClientError

end Funnel
