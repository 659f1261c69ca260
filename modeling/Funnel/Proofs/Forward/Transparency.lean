import Funnel.Forward.Pipeline
import Funnel.Proofs.Director
import Funnel.Proofs.Http.HopByHop

/-! What passes through a forward. The request reaches the origin as the client sent it, but for
scheme, authority, `Host` and what belongs to one hop; the answer reaches the client as the origin
sent it, but for its version and what belongs to one hop. `Host` names the origin unless the client
lists it in `Connection`: then none is sent at all. -/

namespace Funnel

open Http

namespace Stream

/-- The frames that come before the first fault. -/
def frames : Stream → List Frame
  | .ok f :: rest => f :: frames rest
  | _ => []

/-- The first fault. -/
def fault? : Stream → Option Fault
  | [] => none
  | .ok _ :: rest => fault? rest
  | .error e :: _ => some e

/-- A reader gets the same frames behind a carrier, and then the fault, carried, if there is one. -/
theorem polled_carry (s : Stream) :
    s.carry.polled = s.frames.map .ok ++ (s.fault?.map fun e => .error e.carried).toList := by
  induction s with
  | nil => rfl
  | cons item rest ih =>
    cases item with
    | ok f => exact congrArg (List.cons (.ok f)) ih
    | error e => rfl

end Stream

/-! ### Headers across a hop -/

namespace Http.Headers

/-- `after` is `before` on the other side of a hop where the names in `own` are set anew: what
belongs to no single hop keeps its values in order, and nothing comes up that was not there. -/
structure Crossed (own : List Name) (before after : Headers) : Prop where
  kept : ∀ n, n ∉ own → n ∉ hopByHop → (∀ v ∈ before.values "connection", ¬ Names v n) →
    after.values n = before.values n
  brought : ∀ n, n ∉ own → after.values n ≠ [] → before.values n ≠ []

theorem crossed_stripHopByHop (h : Headers) (d : Direction) :
    Crossed [] h (h.stripHopByHop d) where
  kept n _ fixed unnamed := by
    refine values_stripHopByHop_of_kept fixed fun listed => ?_
    obtain ⟨v, hv, -, names⟩ :=
      (mem_connectionNames (valid_of_mem_connectionNames listed)).mp listed
    exact unnamed v hv names
  brought _ _ := mt values_stripHopByHop_of_absent

/-- A name that is set anew before the hop is one more of its own. -/
theorem Crossed.insert {own : List Name} {h after : Headers} {name : Name} {value : Bytes}
    (crossed : Crossed own (h.insert name value) after) (ne : name ≠ "connection") :
    Crossed (name :: own) h after where
  kept n hn fixed unnamed := by
    rw [List.mem_cons, not_or] at hn
    have := crossed.kept n hn.2 fixed
    rw [values_insert, values_insert, if_neg ne, if_neg (Ne.symm hn.1)] at this
    exact this unnamed
  brought n hn there := by
    rw [List.mem_cons, not_or] at hn
    have := crossed.brought n hn.2 there
    rwa [values_insert, if_neg (Ne.symm hn.1)] at this

end Http.Headers

namespace Forward

/-! ### Transparency -/

/-- `sent` is the request `r` on its way to the origin at `host`. -/
structure Directed {β : Type} (host : String) (r sent : Request β) : Prop where
  scheme : sent.uri.scheme = some "https"
  authority : sent.uri.authority = some ⟨host⟩
  method : sent.method = r.method
  target : sent.uri.target = some (r.uri.target.getD ⟨"/", none⟩)
  body : sent.body = r.body
  headers : r.headers.Crossed ["host"] sent.headers

/-- `given` is the origin's answer on its way to the local client. -/
structure Relayed (answer given : Response Stream) : Prop where
  status : given.status = answer.status
  version : given.version = .http11
  headers : answer.headers.Crossed [] given.headers
  body : given.body.polled =
    answer.body.frames.map .ok ++ (answer.body.fault?.map fun e => .error e.carried).toList

theorem directed_outbound {β : Type} {host : String} {d : Director}
    (accepted : Director.ofHost host = .ok d) (r : Request β) :
    Directed host r (outbound d r) where
  scheme := rfl
  authority := congrArg some (Director.authority_of_ofHost accepted)
  method := rfl
  target := rfl
  body := rfl
  headers := (Headers.crossed_stripHopByHop _ .request).insert (by decide)

theorem relayed_relay (answer : Response Stream) : Relayed answer (relay answer) where
  status := rfl
  version := rfl
  headers := Headers.crossed_stripHopByHop answer.headers .response
  body := answer.body.polled_carry

/-- A forward is transparent in both directions, whatever the client sends and whatever the origin
replies to what it is sent. -/
theorem forward_transparent {β : Type} (host : String) (d : Director)
    (accepted : Director.ofHost host = .ok d) (r : Request β)
    (reply : Request β → Response Stream) :
    Directed host r (outbound d r) ∧
      Relayed (reply (outbound d r)) (forward d (fun sent => .ok (reply sent)) r) :=
  ⟨directed_outbound accepted r, relayed_relay (reply (outbound d r))⟩

/-- A request without a path, which lists one of its headers in `Connection`, and an answer of data,
trailers and a fault. -/
theorem forward_transparent_listed :
    let d : Director := ⟨⟨"build.example.com"⟩⟩
    let r : Request Bytes := {
      method := "POST"
      uri := ⟨some "http", some ⟨"localhost:19080"⟩, none⟩
      version := .http11
      headers := ⟨[⟨"host", Bytes.ofLatin "localhost:19080"⟩, ⟨"x-a", Bytes.ofLatin "1"⟩,
        ⟨"connection", Bytes.ofLatin "close, X-A"⟩, ⟨"x-b", Bytes.ofLatin "1"⟩,
        ⟨"te", Bytes.ofLatin "trailers"⟩, ⟨"x-b", Bytes.ofLatin "2"⟩]⟩
      body := [1, 2, 3] }
    let reply (sent : Request Bytes) : Response Stream := {
      status := 201
      version := .http2
      headers := sent.headers
      body := [.ok (.data sent.body), .ok (.trailers .empty), .error (.last (.http .http2))] }
    Director.ofHost "build.example.com" = .ok d ∧ Directed "build.example.com" r (outbound d r) ∧
      Relayed (reply (outbound d r)) (forward d (fun sent => .ok (reply sent)) r) := by
  intro d r reply
  have accepted : Director.ofHost "build.example.com" = .ok d := rfl
  exact ⟨accepted, forward_transparent "build.example.com" d accepted r reply⟩

/-! ### The host that is named -/

/-- A request is always sent to the configured authority, and one `Host` header names that, unless
the client lists `Host` in a readable `Connection` value; then no header does. -/
theorem host_of_outbound {β : Type} (host : String) (d : Director)
    (accepted : Director.ofHost host = .ok d) (r : Request β) :
    (outbound d r).uri.authority = some ⟨host⟩ ∧
      (r.headers.Lists "connection" "host" → (outbound d r).headers.values "host" = []) ∧
      (¬ r.headers.Lists "connection" "host" →
        (outbound d r).headers.values "host" = [Bytes.ofText host]) := by
  have authority := Director.authority_of_ofHost accepted
  have fixed : "host" ∉ hopByHop := by decide
  -- The new `Host` is no `Connection` value: what is listed is what the client listed.
  have listed : "host" ∈ (r.headers.insert "host" d.host).connectionNames ↔
      r.headers.Lists "connection" "host" := by
    rw [Headers.mem_connectionNames (by decide), Headers.Lists, Headers.values_insert,
      if_neg (by decide)]
    rfl
  refine ⟨congrArg some authority, fun named => ?_, fun unnamed => ?_⟩
  · change ((r.headers.insert "host" d.host).stripHopByHop .request).values "host" = []
    rw [Headers.values_stripHopByHop, if_neg (fun c => absurd c.2 (by decide)),
      if_pos (.inl (listed.mpr named))]
  · change ((r.headers.insert "host" d.host).stripHopByHop .request).values "host" = _
    rw [Headers.values_stripHopByHop_of_kept fixed (mt listed.mp unnamed), Headers.values_insert,
      if_pos rfl, Director.host, authority]

/-- A client that lists `Host` takes it away from the request to the origin. -/
theorem hostless_outbound :
    let d : Director := ⟨⟨"build.example.com"⟩⟩
    let r : Request Unit := {
      method := "GET"
      uri := ⟨none, none, some .root⟩
      version := .http11
      headers := ⟨[⟨"connection", Bytes.ofLatin "host"⟩]⟩
      body := () }
    Director.ofHost "build.example.com" = .ok d ∧ r.headers.Lists "connection" "host" ∧
      (outbound d r).uri.authority = some ⟨"build.example.com"⟩ ∧
      (outbound d r).headers.values "host" = [] := by
  intro d r
  have listed : r.headers.Lists "connection" "host" :=
    ⟨Bytes.ofLatin "host", by decide, by decide, [], Bytes.ofLatin "host", [],
      ⟨[], [], by decide, .inl rfl, .inl rfl⟩, nofun, by decide⟩
  have outbound := host_of_outbound "build.example.com" d rfl r
  exact ⟨rfl, listed, outbound.1, outbound.2.1 listed⟩

end Forward

end Funnel
