import Funnel.Proofs.Http.Listing

/-! What is left of a header once it has crossed a hop. The fixed names go, and with them every name
that a readable `Connection` value lists; `TE` may stay on a request, with one value; everything
else stays as it was. `Stripped` states this rule without the program, and settles the result. -/

namespace Funnel.Http.Headers

theorem values_stripHopByHop (h : Headers) (d : Direction) (n : Name) :
    (h.stripHopByHop d).values n =
      if (d = .request ∧ h.acceptsTrailers) ∧ n = "te" then
        [Bytes.ofLatin "trailers"]
      else if n ∈ h.connectionNames ∨ n ∈ hopByHop then []
      else h.values n := by
  by_cases te : d = .request ∧ h.acceptsTrailers
  · rw [stripHopByHop, if_pos te, values_insert]
    by_cases hn : n = "te"
    · rw [if_pos hn.symm, if_pos ⟨te, hn⟩]
    · rw [if_neg (Ne.symm hn), if_neg (fun c => hn c.2)]
      simp
  · rw [stripHopByHop, if_neg te, if_neg (fun c => te c.1)]
    simp

variable {h : Headers} {d : Direction} {n : Name}

/-- What is neither fixed nor listed keeps its values in their order. -/
theorem values_stripHopByHop_of_kept (fixed : n ∉ hopByHop) (listed : n ∉ h.connectionNames) :
    (h.stripHopByHop d).values n = h.values n := by
  have te : n ≠ "te" := by
    rintro rfl
    exact fixed (by decide)
  rw [values_stripHopByHop, if_neg (fun c => te c.2), if_neg (fun c => c.elim listed fixed)]

/-- Nothing comes up that was not there. -/
theorem values_stripHopByHop_of_absent (none : h.values n = []) :
    (h.stripHopByHop d).values n = [] := by
  rw [values_stripHopByHop]
  split
  next te =>
    -- `TE` survives only where one of its values lists `trailers`.
    obtain ⟨v, hv, -⟩ := acceptsTrailers_iff.mp te.1.2
    rw [← te.2, none] at hv
    cases hv
  next =>
    split
    · rfl
    · exact none

/-- What is left of each header. Where `TE` lists `trailers`, a request keeps that one value of it.
Apart from that nothing is left of the fixed names, nor of the names that a readable `Connection`
value lists. All others keep their values in order, even those that a `Connection` value with a byte
outside visible ASCII, space and tab names. -/
theorem left_of_stripHopByHop (h : Headers) (d : Direction) (n : Name) (valid : n.Valid) :
    (n = "te" → d = .request → h.Lists "te" "trailers" →
      (h.stripHopByHop d).values n = [Bytes.ofLatin "trailers"]) ∧
    (n ∈ hopByHop ∨ h.Lists "connection" n → (h.stripHopByHop d).values n ≠ [] →
      n = "te" ∧ d = .request ∧ h.Lists "te" "trailers") ∧
    (n ∉ hopByHop → ¬ h.Lists "connection" n → (h.stripHopByHop d).values n = h.values n) := by
  refine ⟨fun te request accepts => ?_, fun drop left => ?_, fun fixed listed => ?_⟩
  · rw [values_stripHopByHop, if_pos ⟨⟨request, acceptsTrailers_iff.mpr accepts⟩, te⟩]
  · rw [← mem_connectionNames valid] at drop
    rw [values_stripHopByHop] at left
    split at left
    next te => exact ⟨te.2, te.1.1, acceptsTrailers_iff.mp te.1.2⟩
    next => exact absurd (if_pos drop.symm) left
  · exact values_stripHopByHop_of_kept fixed (mt (mem_connectionNames valid).mp listed)

/-- One byte that is not ASCII hides the whole list: the header that it names is left. -/
theorem left_behind_unreadable_list :
    let h : Headers := ⟨[⟨"connection", Bytes.ofLatin "x-secret, ÿ"⟩,
      ⟨"x-secret", Bytes.ofLatin "1"⟩]⟩
    (∃ v ∈ h.values "connection", Names v "x-secret") ∧ Name.Valid "x-secret" ∧
      "x-secret" ∉ hopByHop ∧ ¬ h.Lists "connection" "x-secret" ∧
      (h.stripHopByHop .request).values "x-secret" = [Bytes.ofLatin "1"] := by
  intro h
  have values : h.values "connection" = [Bytes.ofLatin "x-secret, ÿ"] := by decide
  have names : Names (Bytes.ofLatin "x-secret, ÿ") "x-secret" :=
    ⟨[], Bytes.ofLatin "x-secret", [],
      ⟨[], Bytes.ofLatin ", ÿ", by decide, .inl rfl, .inr ⟨Bytes.ofLatin " ÿ", by decide⟩⟩,
      nofun, by decide⟩
  have valid : Name.Valid "x-secret" := by decide
  have fixed : "x-secret" ∉ hopByHop := by decide
  have unlisted : ¬ h.Lists "connection" "x-secret" := by
    rintro ⟨v, hv, readable, -⟩
    rw [values, List.mem_singleton] at hv
    subst hv
    exact absurd readable (by decide)
  exact ⟨⟨_, values ▸ List.mem_singleton_self _, names⟩, valid, fixed, unlisted,
    ((left_of_stripHopByHop h .request "x-secret" valid).2.2 fixed unlisted).trans (by decide)⟩

/-! ### The whole rule -/

/-- What a hop in direction `d` makes of the headers `before`. Apart from `TE`, the fixed names and
those that a readable `Connection` value lists are gone, and all others are as they were. Of `TE` a
request keeps the value `trailers`, if it was listed, be it that `Connection` lists `TE` or not. -/
structure Stripped (d : Direction) (before after : Headers) : Prop where
  gone : ∀ n : Name, n.Valid → n ≠ "te" → n ∈ hopByHop ∨ before.Lists "connection" n →
    after.values n = []
  kept : ∀ n : Name, n.Valid → n ≠ "te" → n ∉ hopByHop → ¬ before.Lists "connection" n →
    after.values n = before.values n
  trailers : d = .request → before.Lists "te" "trailers" →
    after.values "te" = [Bytes.ofLatin "trailers"]
  silent : ¬ (d = .request ∧ before.Lists "te" "trailers") → after.values "te" = []
  absent : ∀ n : Name, n.Valid → before.values n = [] → after.values n = []

/-- Removing names one after the other leaves what removing them at once leaves. -/
theorem foldl_removeIf (h : Headers) (names : List Name) :
    names.foldl (fun h n => h.removeIf (· = n)) h = h.removeIf names.contains := by
  induction names generalizing h with
  | nil => simp [removeIf]
  | cons n names ih =>
    rw [List.foldl_cons, ih, removeIf_removeIf]
    rfl

/-- The listed names go first, one after the other, and then the fixed ones; `TE` is looked at
before that and set after it. -/
theorem stripHopByHop_eq_foldl (h : Headers) (d : Direction) :
    h.stripHopByHop d =
      let remove := fun (h : Headers) (n : Name) => h.removeIf (· = n)
      let left := hopByHop.foldl remove (h.connectionNames.foldl remove h)
      if d = .request ∧ h.acceptsTrailers then left.insert "te" (Bytes.ofLatin "trailers")
      else left := by
  have once : hopByHop.foldl (fun h n => h.removeIf (· = n))
      (h.connectionNames.foldl (fun h n => h.removeIf (· = n)) h) =
      h.removeIf fun n => h.connectionNames.contains n || hopByHop.contains n := by
    rw [foldl_removeIf, foldl_removeIf, removeIf_removeIf]
  simp only [once]
  rfl

theorem stripped_stripHopByHop (h : Headers) (d : Direction) :
    Stripped d h (h.stripHopByHop d) where
  gone n valid te drop := by
    rw [← mem_connectionNames valid] at drop
    rw [values_stripHopByHop, if_neg fun c => te c.2, if_pos drop.symm]
  kept n valid _ fixed listed :=
    values_stripHopByHop_of_kept fixed (mt (mem_connectionNames valid).mp listed)
  trailers request accepts := by
    rw [values_stripHopByHop, if_pos ⟨⟨request, acceptsTrailers_iff.mpr accepts⟩, rfl⟩]
  silent refused := by
    have fixed : "te" ∈ hopByHop := by decide
    rw [values_stripHopByHop, if_neg fun c => refused ⟨c.1.1, acceptsTrailers_iff.mp c.1.2⟩,
      if_pos (.inr fixed)]
  absent _ _ := values_stripHopByHop_of_absent

/-- The rule leaves nothing open: it settles the values of every name. -/
theorem Stripped.values_eq {before left right : Headers} (hl : Stripped d before left)
    (hr : Stripped d before right) (valid : n.Valid) : left.values n = right.values n := by
  by_cases te : n = "te"
  · subst te
    by_cases accepts : d = .request ∧ before.Lists "te" "trailers"
    · rw [hl.trailers accepts.1 accepts.2, hr.trailers accepts.1 accepts.2]
    · rw [hl.silent accepts, hr.silent accepts]
  · by_cases drop : n ∈ hopByHop ∨ before.Lists "connection" n
    · rw [hl.gone n valid te drop, hr.gone n valid te drop]
    · rw [not_or] at drop
      rw [hl.kept n valid te drop.1 drop.2, hr.kept n valid te drop.1 drop.2]

/-- `stripHopByHop` does all that the rule says, and no headers with other values would do. -/
theorem stripped_iff_values_eq (h after : Headers) (d : Direction) :
    Stripped d h after ↔ ∀ n : Name, n.Valid → after.values n = (h.stripHopByHop d).values n := by
  have spec := stripped_stripHopByHop h d
  constructor
  · intro rule n valid
    exact rule.values_eq spec valid
  · intro same
    have te := same "te" (by decide)
    refine ⟨fun n valid => ?_, fun n valid => ?_, ?_, ?_, fun n valid => ?_⟩
    · rw [same n valid]
      exact spec.gone n valid
    · rw [same n valid]
      exact spec.kept n valid
    · rw [te]
      exact spec.trailers
    · rw [te]
      exact spec.silent
    · rw [same n valid]
      exact spec.absent n valid

/-- `TE` is fixed, listed and set anew; one name is listed in a value that can be read, and another
in one that cannot. -/
theorem stripped_iff_values_eq_hostile :
    let h : Headers := ⟨[⟨"te", Bytes.ofLatin "gzip,\tTrailers "⟩,
      ⟨"connection", Bytes.ofLatin "TE, , X-A"⟩, ⟨"x-a", Bytes.ofLatin "1"⟩,
      ⟨"connection", Bytes.ofLatin "x-b, ÿ"⟩, ⟨"x-b", Bytes.ofLatin "1"⟩,
      ⟨"x-a", Bytes.ofLatin "2"⟩, ⟨"x-b", Bytes.ofLatin "2"⟩]⟩
    let after : Headers := ⟨[⟨"x-b", Bytes.ofLatin "1"⟩, ⟨"te", Bytes.ofLatin "trailers"⟩,
      ⟨"x-b", Bytes.ofLatin "2"⟩]⟩
    Name.Valid "x-b" ∧ "te" ∈ h.connectionNames ∧ Stripped .request h after := by
  intro h after
  have valid : Name.Valid "x-b" := by decide
  have listed : "te" ∈ h.connectionNames := by decide
  have stripped : h.stripHopByHop .request = ⟨[⟨"x-b", Bytes.ofLatin "1"⟩,
      ⟨"x-b", Bytes.ofLatin "2"⟩, ⟨"te", Bytes.ofLatin "trailers"⟩]⟩ := by decide
  refine ⟨valid, listed, (stripped_iff_values_eq h after .request).mpr fun n _ => ?_⟩
  rw [stripped]
  by_cases te : n = "te"
  · subst te
    decide
  · have other : ¬ "te" = n := Ne.symm te
    simp [Headers.values, after, List.filter_cons, other]

/-! ### A second hop -/

theorem connectionNames_stripHopByHop (h : Headers) (d : Direction) :
    (h.stripHopByHop d).connectionNames = [] := by
  have none : (h.stripHopByHop d).values "connection" = [] := by
    rw [values_stripHopByHop, if_neg fun c => absurd c.2 (by decide), if_pos (.inr (by decide))]
  simp [connectionNames, elementsOf, none]

/-- `TE` says the same behind a request's hop as in front of it. -/
theorem acceptsTrailers_stripHopByHop (h : Headers) :
    (h.stripHopByHop .request).acceptsTrailers = h.acceptsTrailers := by
  have te := values_stripHopByHop h .request "te"
  cases accepts : h.acceptsTrailers with
  | true =>
    rw [if_pos ⟨⟨rfl, accepts⟩, rfl⟩] at te
    rw [acceptsTrailers, elementsOf, te]
    decide
  | false =>
    rw [if_neg fun c => absurd (accepts.symm.trans c.1.2) (by decide),
      if_pos (.inr (by decide))] at te
    rw [acceptsTrailers, elementsOf, te]
    rfl

/-- All that a second hop drops is the `TE` that the first one has set. -/
theorem removeIf_stripHopByHop (h : Headers) (d : Direction) :
    (h.stripHopByHop d).removeIf hopByHop.contains =
      h.removeIf fun n => h.connectionNames.contains n || hopByHop.contains n := by
  have kept : (h.removeIf fun n => h.connectionNames.contains n || hopByHop.contains n).removeIf
      hopByHop.contains =
      h.removeIf fun n => h.connectionNames.contains n || hopByHop.contains n := by
    rw [removeIf_removeIf]
    congr 1
    funext n
    rw [Bool.or_assoc, Bool.or_self]
  unfold stripHopByHop
  split
  · rw [removeIf_insert _ _ (by decide), kept]
  · exact kept

theorem stripHopByHop_stripHopByHop (h : Headers) (d : Direction) :
    (h.stripHopByHop d).stripHopByHop d = h.stripHopByHop d := by
  have same : (d = .request ∧ (h.stripHopByHop d).acceptsTrailers) ↔
      (d = .request ∧ h.acceptsTrailers) := by
    constructor
    · rintro ⟨rfl, accepts⟩
      exact ⟨rfl, acceptsTrailers_stripHopByHop h ▸ accepts⟩
    · rintro ⟨rfl, accepts⟩
      exact ⟨rfl, (acceptsTrailers_stripHopByHop h).symm ▸ accepts⟩
  -- Nothing is listed any more, and the fixed names take only the `TE` that is set again.
  rw [stripHopByHop.eq_def (h.stripHopByHop d), connectionNames_stripHopByHop]
  simp only [List.contains_nil, Bool.false_or, same]
  rw [removeIf_stripHopByHop]
  rfl

end Funnel.Http.Headers
