import Funnel.Relay
import Funnel.Proofs.Http.HopByHop

/-! Messages that cross several hops of one direction. What the first hop leaves, the next one
leaves as well, and an answer that is handed on twice arrives as if it had been handed on once. Only
faults show how often a body was handed on, by the carriers around them. -/

namespace Funnel

open Http

namespace Stream

variable {s : Stream}

/-- Nothing but frames comes up. -/
def IsFaultless (s : Stream) : Prop := ∀ item ∈ s, ∃ f, item = .ok f

theorem carry_of_isFaultless (faultless : s.IsFaultless) : s.carry = s := by
  induction s with
  | nil => rfl
  | cons item rest ih =>
    obtain ⟨f, rfl⟩ := faultless item List.mem_cons_self
    have after : carry rest = rest := ih fun i hi => faultless i (List.mem_cons_of_mem _ hi)
    exact congrArg (List.cons (.ok f)) after

theorem isFaultless_carry (faultless : s.IsFaultless) : s.carry.IsFaultless := by
  rw [carry_of_isFaultless faultless]
  exact faultless

end Stream

/-- A second relay adds nothing but carriers. -/
theorem relay_relay (r : Response Stream) :
    relay (relay r) = { relay r with body := (relay r).body.carry } := by
  have headers : (relay (relay r)).headers = (relay r).headers :=
    Headers.stripHopByHop_stripHopByHop r.headers .response
  simp only [relay] at headers ⊢
  rw [headers]

/-- A second hop in the same direction changes no headers, whatever they list; so a second relay
changes no answer whose body holds no fault. -/
theorem second_hop_idle :
    (∀ (h : Headers) (d : Direction),
      (h.stripHopByHop d).stripHopByHop d = h.stripHopByHop d) ∧
    ∀ r : Response Stream, r.body.IsFaultless → relay (relay r) = relay r := by
  refine ⟨Headers.stripHopByHop_stripHopByHop, fun r faultless => ?_⟩
  have body : (relay r).body.carry = (relay r).body :=
    Stream.carry_of_isFaultless (Stream.isFaultless_carry faultless)
  rw [relay_relay, body]

/-- An answer that lists `TE` and `Connection` itself, with data and trailers. -/
theorem second_hop_idle_listed :
    let h : Headers := ⟨[⟨"connection", Bytes.ofLatin "te, Connection"⟩,
      ⟨"te", Bytes.ofLatin "trailers"⟩, ⟨"connection", Bytes.ofLatin "x-a"⟩,
      ⟨"set-cookie", Bytes.ofLatin "a=1"⟩, ⟨"x-a", Bytes.ofLatin "1"⟩,
      ⟨"set-cookie", Bytes.ofLatin "b=2"⟩]⟩
    let r : Response Stream := {
      status := 200
      version := .http2
      headers := h
      body := [.ok (.data [1, 2, 3]), .ok (.trailers ⟨[⟨"x-end", Bytes.ofLatin "1"⟩]⟩)] }
    r.body.IsFaultless ∧ relay (relay r) = relay r ∧
      (h.stripHopByHop .request).stripHopByHop .request =
        ⟨[⟨"set-cookie", Bytes.ofLatin "a=1"⟩, ⟨"set-cookie", Bytes.ofLatin "b=2"⟩,
          ⟨"te", Bytes.ofLatin "trailers"⟩]⟩ := by
  intro h r
  have faultless : r.body.IsFaultless := by
    simp [r, Stream.IsFaultless]
  have once : h.stripHopByHop .request = ⟨[⟨"set-cookie", Bytes.ofLatin "a=1"⟩,
      ⟨"set-cookie", Bytes.ofLatin "b=2"⟩, ⟨"te", Bytes.ofLatin "trailers"⟩]⟩ := by decide
  exact ⟨faultless, second_hop_idle.2 r faultless, (second_hop_idle.1 h .request).trans once⟩

end Funnel
