import Funnel.Config.Check
import Funnel.Proofs.Text.Number
import Funnel.Proofs.Uri

/-! What a host that passes the check of the configuration can be. Between brackets almost anything
may stand, in front of a colon nothing at all, and behind it any text: `HostText` is the form that
exactly the accepted hosts have. A number is read from what stands behind the colon only if it is
one; any other text there is accepted, and says nothing. -/

namespace Funnel

namespace Uri

/-! ### The form of a host -/

/-- What may stand in a host and behind it. -/
def isHostChar (c : Char) : Bool := isPlainAuthorityChar c || c = ':'

/-- The characters `cs` form a host, `behind` being where a number is looked for: behind a bracketed
address, or in all of the text without one. -/
inductive HostText (cs : List Char) : (behind : List Char) → Prop
  | plain (chars : ∀ c ∈ cs, isHostChar c) (colons : cs.count ':' ≤ 1) : HostText cs cs
  | bracketed {front inner behind : List Char}
      (parts : cs = front ++ '[' :: (inner ++ ']' :: behind))
      (outer : ∀ c ∈ front, isHostChar c) (inside : ∀ c ∈ inner, isHostChar c ∨ c = '%')
      (few : front.count ':' + inner.count ':' ≤ maxColons)
      (chars : ∀ c ∈ behind, isHostChar c) (colons : behind.count ':' ≤ 1) : HostText cs behind

/-- The text behind the colon. -/
def portOf? (behind : List Char) : Option (List Char) :=
  match behind.dropWhile (· ≠ ':') with
  | _ :: port => some port
  | [] => none

/-! ### The scan of a text without userinfo -/

namespace AuthorityScan

variable {s : AuthorityScan} {cs : List Char}

/-- A scan goes on over such a character, counting colons and noting percent signs. -/
def goesOn (c : Char) : Bool := isHostChar c || c = '%'

/-- The scan behind characters that it goes on over. -/
def past (s : AuthorityScan) (cs : List Char) : AuthorityScan :=
  { s with colons := s.colons + cs.count ':', percent := s.percent || cs.contains '%' }

def opening (s : AuthorityScan) : AuthorityScan := { s with opened := true, atSign := false }

def closing (s : AuthorityScan) : AuthorityScan :=
  { s with closed := true, colons := 0, percent := false, atSign := false }

theorem count_add_count (c : Char) (cs : List Char) :
    [c].count ':' + cs.count ':' = (c :: cs).count ':' := List.count_append.symm

theorem past_past (s : AuthorityScan) (c : Char) (cs : List Char) :
    (s.past [c]).past cs = s.past (c :: cs) := by
  simp [past, ← count_add_count c cs, Nat.add_assoc, Bool.or_assoc]

theorem step_of_goesOn {c : Char} (goes : goesOn c) (noAt : s.atSign = false)
    (room : s.colons ≤ maxColons) :
    s.step c = if s.colons + [c].count ':' ≤ maxColons then some (s.past [c]) else none := by
  obtain ⟨colons, opened, closed, percent, atSign⟩ := s
  obtain rfl : atSign = false := noAt
  change colons ≤ maxColons at room
  by_cases colon : c = ':'
  · subst colon
    have counted : [':'].count ':' = 1 := rfl
    simp only [counted, Nat.add_one_le_iff]
    simp [step, past]
  by_cases mark : c = '%'
  · subst mark
    simp [step, past, room]
  have plain : isPlainAuthorityChar c := by simpa [goesOn, isHostChar, colon, mark] using goes
  have other : c ≠ '[' ∧ c ≠ ']' ∧ c ≠ '@' := by
    refine ⟨?_, ?_, ?_⟩ <;> rintro rfl <;> exact absurd plain (by decide)
  have none : [c].count ':' = 0 := List.count_eq_zero.mpr (by simpa using Ne.symm colon)
  simp [step, past, colon, mark, Ne.symm mark, plain, other, none, room]

theorem foldlM_of_goesOn (goes : ∀ c ∈ cs, goesOn c) (noAt : s.atSign = false)
    (room : s.colons ≤ maxColons) :
    cs.foldlM step s =
      if s.colons + cs.count ':' ≤ maxColons then some (s.past cs) else none := by
  induction cs generalizing s with
  | nil => simp [past, room]
  | cons c cs ih =>
    have first := step_of_goesOn (goes c List.mem_cons_self) noAt room
    have colons := count_add_count c cs
    rw [List.foldlM_cons, first]
    split
    next fits =>
      have rest := ih (fun d hd => goes d (List.mem_cons_of_mem c hd)) noAt fits (s := s.past [c])
      simp only [Option.bind_eq_bind, Option.bind_some, rest, past_past]
      simp only [past, Nat.add_assoc, colons]
    next many =>
      -- Colons only become more, so that what follows cannot mend it.
      rw [if_neg (by omega)]
      rfl

theorem foldlM_eq_some_of_goesOn {t : AuthorityScan} (goes : ∀ c ∈ cs, goesOn c)
    (noAt : s.atSign = false) (room : s.colons ≤ maxColons) :
    cs.foldlM step s = some t ↔ s.colons + cs.count ':' ≤ maxColons ∧ s.past cs = t := by
  rw [foldlM_of_goesOn goes noAt room, Option.ite_none_right_eq_some, Option.some.injEq]

theorem foldlM_append_cons {front more : List Char} {c : Char} {t : AuthorityScan} :
    (front ++ c :: more).foldlM step s = some t ↔
      ∃ u v, front.foldlM step s = some u ∧ u.step c = some v ∧ more.foldlM step v = some t := by
  simp only [List.foldlM_append, List.foldlM_cons, Option.bind_eq_bind, Option.bind_eq_some_iff]
  constructor
  · rintro ⟨u, first, v, next, last⟩
    exact ⟨u, v, first, next, last⟩
  · rintro ⟨u, v, first, next, last⟩
    exact ⟨u, first, v, next, last⟩

/-- Elsewhere a scan goes on at an opening bracket, the only one and not behind a percent sign, and
at the closing bracket behind it. -/
theorem step_of_not_goesOn {c : Char} {t : AuthorityScan} (stops : ¬ goesOn c) (noAt : c ≠ '@') :
    s.step c = some t ↔
      (c = '[' ∧ s.percent = false ∧ s.opened = false ∧ s.opening = t) ∨
      (c = ']' ∧ s.opened = true ∧ s.closed = false ∧ s.closing = t) := by
  have other : c ≠ ':' ∧ c ≠ '%' ∧ ¬ isPlainAuthorityChar c := by
    simp only [goesOn, isHostChar, Bool.or_eq_true, decide_eq_true_eq, not_or] at stops
    exact ⟨stops.1.2, stops.2, stops.1.1⟩
  by_cases isOpening : c = '['
  · subst isOpening
    simp [step, opening, and_assoc]
  by_cases isClosing : c = ']'
  · subst isClosing
    simp [step, closing, and_assoc]
  simp [step, other, isOpening, isClosing, noAt]

/-- A scan that ends has gone on over the whole text, or up to a bracket and from there on. -/
theorem foldlM_cases {t : AuthorityScan} (noUserinfo : '@' ∉ cs) (noAt : s.atSign = false)
    (room : s.colons ≤ maxColons) (scanned : cs.foldlM step s = some t) :
    ((∀ c ∈ cs, goesOn c) ∧ s.past cs = t) ∨
    ∃ front c more, cs = front ++ c :: more ∧ (∀ d ∈ front, goesOn d) ∧
      s.colons + front.count ':' ≤ maxColons ∧
      ((c = '[' ∧ (s.past front).percent = false ∧ s.opened = false ∧
        more.foldlM step (s.past front).opening = some t) ∨
      (c = ']' ∧ s.opened = true ∧ s.closed = false ∧
        more.foldlM step (s.past front).closing = some t)) := by
  obtain ⟨front, rest, rfl, goes, stop, -, -⟩ := exists_span goesOn cs
  cases rest with
  | nil =>
    rw [List.append_nil] at scanned ⊢
    exact .inl ⟨goes, ((foldlM_eq_some_of_goesOn goes noAt room).mp scanned).2⟩
  | cons c more =>
    obtain ⟨u, v, first, bracket, later⟩ := foldlM_append_cons.mp scanned
    obtain ⟨colons, rfl⟩ := (foldlM_eq_some_of_goesOn goes noAt room).mp first
    have notAt : c ≠ '@' := fun h => noUserinfo (by simp [h])
    refine .inr ⟨front, c, more, rfl, goes, colons, ?_⟩
    rcases (step_of_not_goesOn (stop c rfl) notAt).mp bracket with
      ⟨opening, unmarked, unopened, rfl⟩ | ⟨closing, opened, unclosed, rfl⟩
    · exact .inl ⟨opening, unmarked, unopened, later⟩
    · exact .inr ⟨closing, opened, unclosed, later⟩

end AuthorityScan

open AuthorityScan

variable {cs : List Char}

theorem hostChars_of_goesOn (goes : ∀ c ∈ cs, goesOn c) (unmarked : '%' ∉ cs) :
    ∀ c ∈ cs, isHostChar c := by
  intro c hc
  have char : isHostChar c ∨ c = '%' := by simpa [goesOn] using goes c hc
  exact char.resolve_right fun mark => unmarked (mark ▸ hc)

theorem goesOn_of_hostChars (chars : ∀ c ∈ cs, isHostChar c) :
    (∀ c ∈ cs, goesOn c) ∧ '%' ∉ cs :=
  ⟨fun c hc => by simp [goesOn, chars c hc], fun mark => absurd (chars _ mark) (by decide)⟩

theorem hostText_of_isAuthority (noUserinfo : '@' ∉ cs) (accepted : isAuthority cs) :
    ∃ behind, HostText cs behind := by
  unfold isAuthority at accepted
  split at accepted
  next t scanned =>
    -- Three stretches at most: up to the opening bracket, up to the closing one, and behind it.
    rcases foldlM_cases noUserinfo rfl (Nat.zero_le _) scanned with
      ⟨goes, rfl⟩ | ⟨front, c, more, rfl, outer, few, bracket⟩
    · have ends : cs.count ':' ≤ 1 ∧ '%' ∉ cs := by
        simpa [accepts, past, AuthorityScan.start] using accepted
      exact ⟨cs, .plain (hostChars_of_goesOn goes ends.2) ends.1⟩
    rcases bracket with ⟨rfl, unmarked, -, later⟩ | ⟨-, opened, -⟩
    · have noUserinfo : '@' ∉ more := fun mem => noUserinfo (by simp [mem])
      rcases foldlM_cases noUserinfo rfl few later with
        ⟨-, rfl⟩ | ⟨inner, c, more, rfl, inside, few, bracket⟩
      · simp [accepts, past, opening, AuthorityScan.start] at accepted
      rcases bracket with ⟨-, -, unopened, -⟩ | ⟨rfl, -, -, last⟩
      · cases unopened
      · have noUserinfo : '@' ∉ more := fun mem => noUserinfo (by simp [mem])
        rcases foldlM_cases noUserinfo rfl (Nat.zero_le _) last with
          ⟨goes, rfl⟩ | ⟨_, _, _, _, _, _, ⟨-, -, unopened, -⟩ | ⟨-, -, unclosed, -⟩⟩
        · have ends : more.count ':' ≤ 1 ∧ '%' ∉ more := by
            simpa [accepts, past, opening, closing, AuthorityScan.start] using accepted
          have unmarked : '%' ∉ front := by simpa [past, AuthorityScan.start] using unmarked
          have few : front.count ':' + inner.count ':' ≤ maxColons := by
            simpa [past, opening, AuthorityScan.start] using few
          exact ⟨more, .bracketed rfl (hostChars_of_goesOn outer unmarked)
            (fun c hc => by simpa [goesOn] using inside c hc) few
            (hostChars_of_goesOn goes ends.2) ends.1⟩
        · cases unopened
        · cases unclosed
    · cases opened
  next => cases accepted

theorem isAuthority_of_hostText {behind : List Char} (text : HostText cs behind) :
    isAuthority cs := by
  cases text with
  | plain chars colons =>
    obtain ⟨goes, unmarked⟩ := goesOn_of_hostChars chars
    have scanned : cs.foldlM step .start = some (past .start cs) :=
      (foldlM_eq_some_of_goesOn goes rfl (Nat.zero_le _)).mpr
        ⟨by simp only [AuthorityScan.start, maxColons]; omega, rfl⟩
    rw [isAuthority, scanned]
    simp [accepts, past, AuthorityScan.start, colons, unmarked]
  | @bracketed front inner _ parts outer inside few chars colons =>
    obtain ⟨goes, unmarked⟩ := goesOn_of_hostChars chars
    obtain ⟨outer_goes, outer_unmarked⟩ := goesOn_of_hostChars outer
    have inner_goes : ∀ c ∈ inner, goesOn c := by
      intro c hc
      simpa [goesOn] using inside c hc
    let s := past .start front
    let u := s.opening.past inner
    have first : front.foldlM step .start = some s :=
      (foldlM_eq_some_of_goesOn outer_goes rfl (Nat.zero_le _)).mpr
        ⟨by simp only [AuthorityScan.start]; omega, rfl⟩
    have opened : s.step '[' = some s.opening :=
      (step_of_not_goesOn (by decide) (by decide)).mpr
        (.inl ⟨rfl, by simpa [s, past, AuthorityScan.start] using outer_unmarked, rfl, rfl⟩)
    have counted : s.opening.colons + inner.count ':' ≤ maxColons := by
      simpa [s, past, opening, AuthorityScan.start] using few
    have second : inner.foldlM step s.opening = some u :=
      (foldlM_eq_some_of_goesOn inner_goes rfl (by omega)).mpr ⟨counted, rfl⟩
    have closed : u.step ']' = some u.closing :=
      (step_of_not_goesOn (by decide) (by decide)).mpr (.inr ⟨rfl, rfl, rfl, rfl⟩)
    have third : behind.foldlM step u.closing = some (u.closing.past behind) :=
      (foldlM_eq_some_of_goesOn goes rfl (Nat.zero_le _)).mpr
        ⟨by simp only [closing, maxColons]; omega, rfl⟩
    have scanned : cs.foldlM step .start = some (u.closing.past behind) := parts ▸
      foldlM_append_cons.mpr ⟨_, _, first, opened,
        foldlM_append_cons.mpr ⟨_, _, second, closed, third⟩⟩
    rw [isAuthority, scanned]
    simp [accepts, u, s, past, opening, closing, AuthorityScan.start, colons, unmarked]

/-! ### What is read from a host -/

namespace Authority

variable {x : Char} {front back : List Char}

theorem afterLast_append (passed : x ∉ back) :
    afterLast (· = x) (front ++ back) = afterLast (· = x) front ++ back := by
  have others : ∀ c ∈ back.reverse, (!decide (c = x)) = true := by
    intro c hc
    simpa using fun same : c = x => passed (same ▸ List.mem_reverse.mp hc)
  rw [afterLast, List.reverse_append, List.takeWhile_append_of_pos others, List.reverse_append,
    List.reverse_reverse]
  rfl

theorem afterLast_of_not_mem (passed : x ∉ back) : afterLast (· = x) back = back := by
  rw [← List.nil_append back, afterLast_append passed]
  rfl

theorem afterLast_append_cons (passed : x ∉ back) :
    afterLast (· = x) (front ++ x :: back) = back := by
  have emptied : afterLast (· = x) (front ++ [x]) = [] := by simp [afterLast]
  rw [List.append_cons, afterLast_append passed, emptied, List.nil_append]

/-- Of a text without userinfo, only one that begins with a colon has an empty host. -/
theorem host_eq_empty {s : String} (noUserinfo : '@' ∉ s.toList) (given : s ≠ "") :
    (Authority.mk s).host = "" ↔ s.toList.head? = some ':' := by
  have all : afterLast (· = '@') s.toList = s.toList := afterLast_of_not_mem noUserinfo
  have nonempty : s.toList ≠ [] := mt String.toList_eq_nil_iff.mp given
  simp only [host, all]
  cases text : s.toList with
  | nil => exact absurd text nonempty
  | cons c cs =>
    split
    next bracket =>
      cases bracket
      simp
    next => by_cases colon : c = ':' <;> simp [colon]

end Authority

theorem portOf?_of_not_mem {behind : List Char} (noColon : ':' ∉ behind) :
    portOf? behind = none := by
  have passed : behind.dropWhile (· ≠ ':') = [] :=
    List.dropWhile_eq_nil_iff.mpr fun c hc => decide_eq_true fun colon => noColon (colon ▸ hc)
  simp only [portOf?, passed]

theorem portOf?_append_cons {front port : List Char} (first : ':' ∉ front) :
    portOf? (front ++ ':' :: port) = some port := by
  have passed : ∀ c ∈ front, decide (c ≠ ':') = true :=
    fun c hc => decide_eq_true fun colon => first (colon ▸ hc)
  rw [portOf?, List.dropWhile_append_of_pos passed]
  rfl

namespace HostText

variable {behind : List Char}

theorem colons_behind (text : HostText cs behind) : behind.count ':' ≤ 1 := by
  cases text <;> assumption

theorem exists_append (text : HostText cs behind) : ∃ front, cs = front ++ behind := by
  cases text with
  | plain => exact ⟨[], rfl⟩
  | @bracketed front inner _ parts => exact ⟨front ++ '[' :: (inner ++ [']']), by simp [parts]⟩

theorem char (text : HostText cs behind) {c : Char} (hc : c ∈ cs) :
    goesOn c ∨ c = '[' ∨ c = ']' := by
  cases text with
  | plain chars => simp [goesOn, chars c hc]
  | bracketed parts outer inside few chars =>
    simp only [parts, List.mem_append, List.mem_cons] at hc
    rcases hc with hc | opening | hc | closing | hc
    · simp [goesOn, outer c hc]
    · exact .inr (.inl opening)
    · simpa [goesOn] using .inl (inside c hc)
    · exact .inr (.inr closing)
    · simp [goesOn, chars c hc]

/-- Without a colon behind a bracketed address, one inside it leads to no number. -/
theorem number?_eq_none {s : String} (text : HostText s.toList behind) (noColon : ':' ∉ behind) :
    (Authority.mk s).number? = none := by
  cases text with
  | plain => simp [Authority.number?, noColon]
  | @bracketed front inner _ parts =>
    have whole : s.toList = (front ++ '[' :: inner) ++ (']' :: behind) := by simp [parts]
    have passed : ':' ∉ ']' :: behind := by simpa using noColon
    have bracket : ']' ∈ Authority.afterLast (· = ':') s.toList := by
      rw [whole, Authority.afterLast_append passed]
      simp
    rw [Authority.number?, Text.natBelow?_eq_none bracket (by decide) (by decide), ite_self]

/-- Where a number is looked for, what stands behind the colon is read as one. -/
theorem number?_eq {s : String} (text : HostText s.toList behind) :
    (Authority.mk s).number? = (portOf? behind).bind (Text.natBelow? 65536) := by
  by_cases colon : ':' ∈ behind
  · obtain ⟨before, parts⟩ := text.exists_append
    obtain ⟨front, port, rfl, first⟩ := List.eq_append_cons_of_mem colon
    have last : ':' ∉ port := by
      have once := text.colons_behind
      rw [List.count_append, List.count_cons_self] at once
      exact List.count_eq_zero.mp (by omega)
    have whole : s.toList = (before ++ front) ++ ':' :: port := by rw [parts, List.append_assoc]
    have read : Authority.afterLast (· = ':') s.toList = port := by
      rw [whole]
      exact Authority.afterLast_append_cons last
    rw [portOf?_append_cons first, Option.bind_some, Authority.number?, read]
    exact if_pos (by simp [whole])
  · rw [portOf?_of_not_mem colon, text.number?_eq_none colon]
    rfl

end HostText

end Uri

namespace Config

open Uri

theorem checkHost_eq_ok_iff {host : String} {a : Authority} :
    checkHost host = .ok a ↔
      a = ⟨host⟩ ∧ host ≠ "" ∧ ∃ behind, HostText host.toList behind := by
  constructor
  · intro accepted
    unfold checkHost at accepted
    split at accepted
    · cases accepted
    next refused =>
      simp only [List.contains_iff_mem, not_or] at refused
      split at accepted
      next b read =>
        cases accepted
        obtain ⟨authority, rfl⟩ := Authority.ofText?_eq_some read
        exact ⟨rfl, refused.1, hostText_of_isAuthority refused.2.2 authority⟩
      next => cases accepted
  · rintro ⟨rfl, given, behind, text⟩
    have read : Authority.ofText? host = some ⟨host⟩ :=
      if_pos ⟨given, isAuthority_of_hostText text⟩
    have noPath : '/' ∉ host.toList := fun slash => absurd (text.char slash) (by decide)
    have noUserinfo : '@' ∉ host.toList := fun at_ => absurd (text.char at_) (by decide)
    simp [checkHost, given, noPath, noUserinfo, read]

/-- What is accepted as a host, and what is read from it. Just a text that begins with a colon has
an empty host. What stands behind the colon is the number if it writes one; any other text there is
accepted as well, and no number is read from it. -/
theorem accepted_host (host : String) (a : Authority) :
    (checkHost host = .ok a ↔ a = ⟨host⟩ ∧ host ≠ "" ∧ ∃ behind, HostText host.toList behind) ∧
    (checkHost host = .ok a → (a.host = "" ↔ host.toList.head? = some ':') ∧
      ∀ behind, HostText host.toList behind → ∀ n, a.number? = some n ↔
        ∃ port, portOf? behind = some port ∧ n < 65536 ∧ Text.Writes port n) := by
  refine ⟨checkHost_eq_ok_iff, fun accepted => ?_⟩
  obtain ⟨rfl, given, behind, text⟩ := checkHost_eq_ok_iff.mp accepted
  have noUserinfo : '@' ∉ host.toList := fun at_ => absurd (text.char at_) (by decide)
  refine ⟨Authority.host_eq_empty noUserinfo given, fun behind text n => ?_⟩
  rw [text.number?_eq, Option.bind_eq_some_iff]
  simp only [Text.natBelow?_eq_some]

theorem accepted_host_service_name :
    checkHost "localhost:https" = .ok ⟨"localhost:https"⟩ ∧
    Authority.host ⟨"localhost:https"⟩ ≠ "" ∧
    HostText "localhost:https".toList "localhost:https".toList ∧
    portOf? "localhost:https".toList = some "https".toList ∧
    ∀ n, Authority.number? ⟨"localhost:https"⟩ ≠ some n := by
  have text : HostText "localhost:https".toList "localhost:https".toList :=
    .plain (List.all_eq_true.mp rfl) (by decide)
  obtain ⟨accepted, read⟩ := accepted_host "localhost:https" ⟨"localhost:https"⟩
  have ok := accepted.mpr ⟨rfl, by decide, _, text⟩
  obtain ⟨empty, number⟩ := read ok
  have port : portOf? "localhost:https".toList = some "https".toList := by decide
  refine ⟨ok, fun none => absurd (empty.mp none) (by decide), text, port, fun n some => ?_⟩
  obtain ⟨_, found, -, written⟩ := (number _ text n).mp some
  rw [port] at found
  cases found
  obtain ⟨digits, unsigned | signed, -, all, -⟩ := written
  · exact absurd (all 'h' (unsigned ▸ by decide)) (by decide)
  · exact absurd (List.cons.inj signed).1 (by decide)

end Config

end Funnel
