import Funnel.Http.Token
import Funnel.Uri.Basic
import Mathlib.Data.List.TakeWhile

/-! What the text of a request target says. An authority holds no character that ends it, and none
that a header value may not hold. A target in any of its four forms asks for one path and query,
which is what its URI keeps and shows; `Asks` states this of the text alone. -/

namespace Funnel.Uri

/-! ### Characters of an authority -/

theorem isValueChar_of_isPlainAuthorityChar {c : Char} (h : isPlainAuthorityChar c) :
    Http.isValueChar c := by
  by_cases ascii : c.toNat < 0x80
  · have all : ∀ n < 0x80, isPlainAuthorityChar (Char.ofNat n) →
        Http.isValueChar (Char.ofNat n) := by decide +kernel
    have known := all c.toNat ascii
    rw [Char.ofNat_toNat] at known
    exact known h
  · have high : 0x20 ≤ c.toNat ∧ c.toNat ≠ 0x7F := by omega
    simp [Http.isValueChar, high]

/-- A scan takes no character that cannot stand in a header value. -/
theorem isValueChar_of_step {s s' : AuthorityScan} {c : Char} (h : s.step c = some s') :
    Http.isValueChar c := by
  unfold AuthorityScan.step at h
  by_cases colon : c = ':'
  · exact colon ▸ rfl
  by_cases opening : c = '['
  · exact opening ▸ rfl
  by_cases closing : c = ']'
  · exact closing ▸ rfl
  by_cases at_ : c = '@'
  · exact at_ ▸ rfl
  by_cases percent : c = '%'
  · exact percent ▸ rfl
  by_cases plain : isPlainAuthorityChar c
  · exact isValueChar_of_isPlainAuthorityChar plain
  · simp [colon, opening, closing, at_, percent, plain] at h

/-- A scan stops at what ends an authority. -/
theorem step_of_isAuthorityEnd (s : AuthorityScan) {c : Char} (ends : isAuthorityEnd c) :
    s.step c = none := by
  simp only [isAuthorityEnd, Bool.or_eq_true, decide_eq_true_eq] at ends
  obtain (rfl | rfl) | rfl := ends <;> rfl

theorem exists_step_of_foldlM {cs : List Char} {s s' : AuthorityScan}
    (h : cs.foldlM AuthorityScan.step s = some s') :
    ∀ c ∈ cs, ∃ t t' : AuthorityScan, t.step c = some t' := by
  induction cs generalizing s with
  | nil => exact fun _ => nofun
  | cons c cs ih =>
    rw [List.foldlM_cons] at h
    obtain ⟨t, first, rest⟩ := Option.bind_eq_some_iff.mp h
    intro x hx
    rcases List.mem_cons.mp hx with rfl | hx
    · exact ⟨s, t, first⟩
    · exact ih rest x hx

theorem exists_step_of_isAuthority {cs : List Char} (h : isAuthority cs) :
    ∀ c ∈ cs, ∃ t t' : AuthorityScan, t.step c = some t' := by
  unfold isAuthority at h
  split at h
  next scanned => exact exists_step_of_foldlM scanned
  next => cases h

theorem isValueChar_of_isAuthority {cs : List Char} (h : isAuthority cs) :
    ∀ c ∈ cs, Http.isValueChar c := by
  intro c hc
  obtain ⟨s, s', step⟩ := exists_step_of_isAuthority h c hc
  exact isValueChar_of_step step

theorem not_isAuthorityEnd_of_isAuthority {cs : List Char} (h : isAuthority cs) :
    ∀ c ∈ cs, ¬ isAuthorityEnd c := by
  intro c hc ends
  obtain ⟨s, s', step⟩ := exists_step_of_isAuthority h c hc
  rw [step_of_isAuthorityEnd s ends] at step
  cases step

theorem Authority.ofText?_eq_some {s : String} {a : Authority} (h : ofText? s = some a) :
    isAuthority s.toList ∧ a = ⟨s⟩ := by
  unfold ofText? at h
  split at h
  next authority =>
    cases h
    exact ⟨authority.2, rfl⟩
  next => cases h

/-- Behind a scheme an authority and a target always make a URI. -/
theorem ofParts?_whole (scheme : String) (a : Authority) (t : Target) :
    ofParts? (some scheme) (some a) (some t) = some ⟨some scheme, some a, some t⟩ := rfl

/-! ### Path and query of a text -/

/-- What stands before a fragment. -/
def beforeFragment (cs : List Char) : List Char := cs.takeWhile (· ≠ '#')

/-- Path and query as they are shown: a path begins with a slash. -/
def rooted : List Char → List Char
  | '/' :: rest => '/' :: rest
  | cs => '/' :: cs

/-- A request target `cs`, in one of its four forms, asks for the path and query `asked`. In the
absolute form, what stands before the path says nothing about it. The authority form asks for the
root. -/
inductive Asks (cs : List Char) : (asked : List Char) → Prop
  | origin {rest : List Char} (slash : cs = '/' :: rest) : Asks cs (beforeFragment cs)
  | asterisk (star : cs = ['*']) : Asks cs ['*']
  | absolute {scheme authority rest : List Char}
      (parts : cs = scheme ++ ':' :: '/' :: '/' :: (authority ++ rest))
      (schemed : ∀ c ∈ scheme, isSchemeChar c)
      (whole : ∀ c ∈ authority, ¬ isAuthorityEnd c)
      (ends : ∀ c ∈ rest.head?, isAuthorityEnd c) : Asks cs (rooted (beforeFragment rest))
  | authority (whole : ∀ c ∈ cs, ¬ isAuthorityEnd c) (host : cs ≠ ['*']) : Asks cs ['/']

/-- A text falls into what `p` holds of and a rest that does not begin so. -/
theorem exists_span (p : Char → Bool) (cs : List Char) :
    ∃ front rest, cs = front ++ rest ∧ (∀ c ∈ front, p c) ∧ (∀ c ∈ rest.head?, ¬ p c) ∧
      cs.takeWhile p = front ∧ cs.dropWhile p = rest := by
  refine ⟨_, _, List.takeWhile_append_dropWhile.symm, fun c => List.mem_takeWhile_imp, ?_, rfl,
    rfl⟩
  intro c hc
  have stops := List.head?_dropWhile_not p cs
  rw [Option.mem_def.mp hc] at stops
  simpa using stops

theorem Target.toList_toText {path : List Char} (query : Option (List Char))
    (shown : path = [] ∨ ∃ r, path = '/' :: r) :
    (Target.toText ⟨String.ofList path, query.map String.ofList⟩).toList =
      rooted (path ++ (query.map ('?' :: ·)).getD []) := by
  obtain rfl | ⟨r, rfl⟩ := shown <;> cases query <;>
    simp [Target.toText, Target.shownPath, rooted]

/-- Where a target can begin, it is kept up to its fragment. -/
theorem Target.toList_toText_of_ofChars? {cs : List Char} {t : Option Target}
    (read : ofChars? cs = some t) (begins : ∀ c ∈ cs.head?, isAuthorityEnd c) :
    (t.getD .root).toText.toList = rooted (beforeFragment cs) := by
  obtain ⟨path, rest, rfl, inPath, ends, take, drop⟩ :=
    exists_span (fun c => c ≠ '?' && c ≠ '#') cs
  have shown : path = [] ∨ ∃ r, path = '/' :: r := by
    cases path with
    | nil => exact .inl rfl
    | cons c r =>
      have other : c ≠ '?' ∧ c ≠ '#' := by simpa using inPath c List.mem_cons_self
      have slash := begins c rfl
      simp only [isAuthorityEnd, other, decide_false, Bool.or_false, decide_eq_true_eq] at slash
      exact .inr ⟨r, by rw [slash]⟩
  have before : beforeFragment (path ++ rest) = path ++ beforeFragment rest := by
    refine List.takeWhile_append_of_pos fun c hc => ?_
    have other : c ≠ '?' ∧ c ≠ '#' := by simpa using inPath c hc
    exact decide_eq_true other.2
  simp only [ofChars?, take, drop] at read
  rw [before]
  split at read
  · cases read
  split at read
  next more =>
    split at read
    · cases read
      exact toList_toText (some _) shown
    · cases read
  next noQuery =>
    have stops : beforeFragment rest = [] := by
      cases rest with
      | nil => rfl
      | cons c more =>
        have mark : c ≠ '?' → c = '#' := by simpa using ends c rfl
        have query : c ≠ '?' := by
          rintro rfl
          exact noQuery more rfl
        rw [mark query]
        rfl
    rw [stops]
    cases read
    by_cases empty : path = []
    · subst empty
      rfl
    · rw [if_neg empty]
      exact toList_toText none shown

theorem splitScheme_eq_found {cs scheme rest : List Char}
    (found : splitScheme cs = .found scheme rest) :
    cs = scheme ++ ':' :: '/' :: '/' :: rest ∧ ∀ c ∈ scheme, isSchemeChar c := by
  obtain ⟨front, back, rfl, schemed, -, take, drop⟩ := exists_span isSchemeChar cs
  simp only [splitScheme, take, drop] at found
  split at found
  · split at found
    · cases found
    · cases found
      exact ⟨rfl, schemed⟩
  · cases found

/-- What the URI of a text shows is what the text asks for. -/
theorem asks_of_ofText? {text : String} {u : Uri} (read : ofText? text = some u) :
    Asks text.toList (u.target.getD .root).toText.toList := by
  unfold ofText? at read
  split at read
  · cases read
  split at read
  next => cases read
  next star =>
    cases read
    exact .asterisk star
  next rest slash =>
    obtain ⟨t, target, rfl⟩ := Option.map_eq_some_iff.mp read
    have shown : (t.getD .root).toText.toList = beforeFragment text.toList := by
      rw [slash]
      refine Target.toList_toText_of_ofChars? target fun c hc => ?_
      cases hc
      rfl
    exact shown ▸ .origin slash
  next star slash =>
    split at read
    next => cases read
    next scheme rest found =>
      obtain ⟨parts, schemed⟩ := splitScheme_eq_found found
      obtain ⟨authority, back, rfl, whole, ends, take, drop⟩ :=
        exists_span (fun c => !isAuthorityEnd c) rest
      have ends : ∀ c ∈ back.head?, isAuthorityEnd c := by simpa using ends
      rw [ofAbsolute?, take, drop] at read
      split at read
      next => cases read
      next =>
        obtain ⟨t, target, rfl⟩ := Option.map_eq_some_iff.mp read
        have shown : (t.getD .root).toText.toList = rooted (beforeFragment back) :=
          Target.toList_toText_of_ofChars? target ends
        exact shown ▸ .absolute parts schemed (by simpa using whole) ends
    next =>
      obtain ⟨a, isAuthority, rfl⟩ := Option.map_eq_some_iff.mp read
      have whole := not_isAuthorityEnd_of_isAuthority (Authority.ofText?_eq_some isAuthority).1
      have shown : Target.root.toText.toList = ['/'] := by decide
      exact shown ▸ .authority whole star

end Funnel.Uri
