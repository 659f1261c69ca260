import Funnel.Http.HopByHop
import Mathlib.Data.List.DropRight

/-! Names that a field value lists: they stand between commas, in letters of any case, with blanks
around them. The readers of such lists find exactly these names, in every value whose bytes they can
read; in any other value they find nothing. -/

namespace Funnel.Http

/-! ### Bytes of a name -/

/-- What can be decided of each byte can be decided of all. -/
instance decidableForallByte {p : UInt8 → Prop} [DecidablePred p] : Decidable (∀ b, p b) :=
  decidable_of_iff (∀ i : Fin 256, p (UInt8.ofNat i))
    ⟨fun h b => by simpa using h ⟨b.toNat, b.toNat_lt⟩, fun h i => h _⟩

theorem isLower_add_of_isUpper : ∀ b, isUpper b → isLower (b + 0x20) := by
  decide +kernel

@[simp] theorem isTokenByte_toLower (b : UInt8) : isTokenByte (toLower b) = isTokenByte b := by
  unfold toLower
  split
  next upper => simp [isTokenByte, upper, isLower_add_of_isUpper b upper]
  next => rfl

@[simp] theorem toLower_toLower : ∀ b, toLower (toLower b) = toLower b := by
  decide +kernel

/-- A byte of a token neither ends an element of a list nor is dropped from its ends. -/
theorem inside_of_isTokenByte {b : UInt8} (h : isTokenByte b) : isBlank b = false ∧ b ≠ 0x2C := by
  refine ⟨?_, ?_⟩
  · by_contra blank
    simp only [isBlank, Bool.not_eq_false, Bool.or_eq_true, decide_eq_true_eq] at blank
    obtain rfl | rfl := blank <;> exact absurd h (by decide)
  · rintro rfl
    exact absurd h (by decide)

theorem ofNat_char : ∀ b : UInt8, UInt8.ofNat (Char.ofNat b.toNat).toNat = b := by
  decide +kernel

theorem Bytes.ofLatin_toLatin (bs : Bytes) : Bytes.ofLatin bs.toLatin = bs := by
  simp [Bytes.ofLatin, Bytes.toLatin, Function.comp_def, ofNat_char]

@[simp] theorem isToken_map_toLower (bs : Bytes) : isToken (bs.map toLower) = isToken bs := by
  simp [isToken, Function.comp_def]

namespace Name

/-- `n` is a name as it is kept: a token, not too long, in small letters. -/
def Valid (n : Name) : Prop := ofBytes? (Bytes.ofLatin n) = some n

instance (n : Name) : Decidable n.Valid :=
  inferInstanceAs (Decidable (ofBytes? (Bytes.ofLatin n) = some n))

variable {n : Name} {bs : Bytes}

theorem ofBytes?_eq_some : ofBytes? bs = some n ↔
    (isToken bs ∧ bs.length ≤ maxLength) ∧ Bytes.toLatin (bs.map toLower) = n := by
  simp [ofBytes?]

/-- Whatever is read as a name is valid. -/
theorem valid_of_ofBytes? (h : ofBytes? bs = some n) : n.Valid := by
  obtain ⟨⟨token, short⟩, rfl⟩ := ofBytes?_eq_some.mp h
  rw [Valid, ofBytes?_eq_some, Bytes.ofLatin_toLatin]
  exact ⟨⟨by simpa using token, by simpa using short⟩, by simp [Function.comp_def]⟩

theorem Valid.isToken (valid : n.Valid) : isToken (Bytes.ofLatin n) = true :=
  (ofBytes?_eq_some.mp valid).1.1

/-- Bytes are read as a valid name if they differ from it in the case of letters only. -/
theorem Valid.ofBytes?_eq_some_iff (valid : n.Valid) :
    ofBytes? bs = some n ↔ bs.map toLower = Bytes.ofLatin n := by
  constructor
  · intro h
    rw [← (ofBytes?_eq_some.mp h).2, Bytes.ofLatin_toLatin]
  · intro h
    obtain ⟨⟨token, short⟩, kept⟩ := ofBytes?_eq_some.mp valid
    rw [← h] at token short kept
    refine ofBytes?_eq_some.mpr ⟨⟨by simpa using token, by simpa using short⟩, ?_⟩
    simpa [Function.comp_def] using kept

end Name

/-! ### Elements of a list -/

/-- `part` goes from a separator, or the beginning of `bs`, up to a separator, or the end. -/
def IsPart (sep : UInt8) (bs part : Bytes) : Prop :=
  ∃ before after, bs = before ++ part ++ after ∧
    (before = [] ∨ ∃ b, before = b ++ [sep]) ∧ (after = [] ∨ ∃ a, after = sep :: a)

section Split

variable {sep : UInt8} {part : Bytes}

theorem splitAt_ne_nil (sep : UInt8) (bs : Bytes) : splitAt sep bs ≠ [] := by
  cases bs with
  | nil => nofun
  | cons b rest =>
    unfold splitAt
    split
    · nofun
    · split <;> nofun

theorem splitAt_append (sep : UInt8) (bs rest : Bytes) :
    splitAt sep (bs ++ sep :: rest) = splitAt sep bs ++ splitAt sep rest := by
  induction bs with
  | nil => simp [splitAt]
  | cons b bs ih =>
    simp only [List.cons_append, splitAt, ih]
    split
    · rfl
    · cases h : splitAt sep bs with
      | nil => exact absurd h (splitAt_ne_nil sep bs)
      | cons part parts => rfl

theorem splitAt_of_not_mem {bs : Bytes} (h : sep ∉ bs) : splitAt sep bs = [bs] := by
  induction bs with
  | nil => rfl
  | cons b bs ih =>
    rw [List.mem_cons, not_or] at h
    rw [splitAt, if_neg (Ne.symm h.1), ih h.2]

theorem isPart_of_mem_splitAt (bs : Bytes) (h : part ∈ splitAt sep bs) : IsPart sep bs part := by
  by_cases hs : sep ∈ bs
  · obtain ⟨first, rest, eq, hf⟩ := List.eq_append_cons_of_mem hs
    have shorter : rest.length < bs.length := by
      rw [eq, List.length_append, List.length_cons]
      omega
    rw [eq, splitAt_append, splitAt_of_not_mem hf, List.singleton_append, List.mem_cons] at h
    rcases h with rfl | h
    · exact ⟨[], sep :: rest, eq, .inl rfl, .inr ⟨rest, rfl⟩⟩
    · obtain ⟨before, after, rest_eq, begins, ends⟩ := isPart_of_mem_splitAt rest h
      refine ⟨first ++ sep :: before, after, by simp [eq, rest_eq], .inr ?_, ends⟩
      obtain rfl | ⟨b, rfl⟩ := begins
      · exact ⟨first, rfl⟩
      · exact ⟨first ++ sep :: b, by simp⟩
  · rw [splitAt_of_not_mem hs, List.mem_singleton] at h
    exact ⟨[], [], by simp [h], .inl rfl, .inl rfl⟩
termination_by bs.length

/-- A part that holds no separator is found. -/
theorem mem_splitAt {bs : Bytes} (hp : sep ∉ part) (h : IsPart sep bs part) :
    part ∈ splitAt sep bs := by
  have alone := splitAt_of_not_mem hp
  obtain ⟨before, after, rfl, begins, ends⟩ := h
  obtain rfl | ⟨b, rfl⟩ := begins <;> obtain rfl | ⟨a, rfl⟩ := ends
  · simp [alone]
  · simp [splitAt_append, alone]
  · simp [splitAt_append, alone]
  · simp [splitAt_append, alone]

end Split

theorem trimBlanks_eq (bs : Bytes) :
    trimBlanks bs = (bs.dropWhile isBlank).rdropWhile isBlank := rfl

/-- Only blanks are dropped. -/
theorem exists_blanks (bs : Bytes) :
    ∃ left right, bs = left ++ trimBlanks bs ++ right ∧ ∀ b ∈ left ++ right, isBlank b := by
  refine ⟨bs.takeWhile isBlank, (bs.dropWhile isBlank).rtakeWhile isBlank, ?_, fun b hb => ?_⟩
  · rw [trimBlanks_eq, List.append_assoc, List.rdropWhile_append_rtakeWhile,
      List.takeWhile_append_dropWhile]
  · rcases List.mem_append.mp hb with hb | hb
    · exact List.mem_takeWhile_imp hb
    · exact List.mem_rtakeWhile_imp hb

/-- All blanks at the ends are dropped. -/
theorem trimBlanks_append {left part right : Bytes} (blank : ∀ b ∈ left ++ right, isBlank b)
    (solid : ∀ b ∈ part, isBlank b = false) : trimBlanks (left ++ part ++ right) = part := by
  have hl : ∀ b ∈ left, isBlank b := fun b hb => blank b (List.mem_append_left _ hb)
  have hr : ∀ b ∈ right, isBlank b := fun b hb => blank b (List.mem_append_right _ hb)
  rw [trimBlanks_eq, List.append_assoc, List.dropWhile_append_of_pos hl]
  cases part with
  | nil =>
    rw [List.nil_append, List.dropWhile_eq_nil_iff.mpr hr]
    rfl
  | cons b part =>
    rw [List.cons_append, List.dropWhile_cons_of_neg (by simpa using solid b (by simp)),
      ← List.cons_append, List.rdropWhile, List.reverse_append,
      List.dropWhile_append_of_pos (by simpa using hr)]
    refine List.rdropWhile_eq_self_iff.mpr fun _ => ?_
    simpa using solid _ (List.getLast_mem _)

/-! ### Listed names -/

/-- The list `value` names `n`: between commas there is `n`, in letters of any case, with nothing
but blanks around it. -/
def Names (value : Bytes) (n : Name) : Prop :=
  ∃ left token right, IsPart 0x2C value (left ++ token ++ right) ∧
    (∀ b ∈ left ++ right, isBlank b) ∧ token.map toLower = Bytes.ofLatin n

theorem names_of_mem_splitAt {value part : Bytes} {n : Name} (h : part ∈ splitAt 0x2C value)
    (hn : (trimBlanks part).map toLower = Bytes.ofLatin n) : Names value n := by
  obtain ⟨left, right, eq, blank⟩ := exists_blanks part
  exact ⟨left, trimBlanks part, right, eq ▸ isPart_of_mem_splitAt value h, blank, hn⟩

theorem Names.exists_mem_splitAt {value : Bytes} {n : Name} (h : Names value n)
    (valid : n.Valid) :
    ∃ part ∈ splitAt 0x2C value, (trimBlanks part).map toLower = Bytes.ofLatin n := by
  obtain ⟨left, token, right, isPart, blank, hn⟩ := h
  have inside : ∀ b ∈ token, isBlank b = false ∧ b ≠ 0x2C := by
    have := valid.isToken
    rw [← hn, isToken_map_toLower, isToken, Bool.and_eq_true, List.all_eq_true] at this
    exact fun b hb => inside_of_isTokenByte (this.2 b hb)
  have comma : 0x2C ∉ left ++ token ++ right := by
    intro mem
    rw [List.append_assoc, List.mem_append, List.mem_append] at mem
    have blanks : (0x2C : UInt8) ∉ left ++ right := fun h => absurd (blank _ h) (by decide)
    rw [List.mem_append, not_or] at blanks
    rcases mem with mem | mem | mem
    · exact blanks.1 mem
    · exact (inside _ mem).2 rfl
    · exact blanks.2 mem
  refine ⟨_, mem_splitAt comma isPart, ?_⟩
  rw [trimBlanks_append blank fun b hb => (inside b hb).1, hn]

namespace Headers

variable {h : Headers} {n : Name}

/-- Some value of `list` names `n`, and all bytes of that value can be read: they are visible ASCII,
spaces and tabs. -/
def Lists (h : Headers) (list n : Name) : Prop :=
  ∃ v ∈ h.values list, v.all isReadableByte ∧ Names v n

theorem lists_iff {list : Name} (valid : n.Valid) :
    h.Lists list n ↔ ∃ e ∈ h.elementsOf list, e.map toLower = Bytes.ofLatin n := by
  constructor
  · rintro ⟨v, hv, readable, names⟩
    obtain ⟨part, hp, hn⟩ := names.exists_mem_splitAt valid
    refine ⟨trimBlanks part, List.mem_flatMap.mpr ⟨v, hv, ?_⟩, hn⟩
    rw [elements, if_pos readable]
    exact List.mem_map_of_mem hp
  · rintro ⟨e, he, hn⟩
    obtain ⟨v, hv, he⟩ := List.mem_flatMap.mp he
    unfold elements at he
    split at he
    next readable =>
      obtain ⟨part, hp, rfl⟩ := List.mem_map.mp he
      exact ⟨v, hv, readable, names_of_mem_splitAt hp hn⟩
    next => cases he

theorem mem_connectionNames (valid : n.Valid) :
    n ∈ h.connectionNames ↔ h.Lists "connection" n := by
  rw [lists_iff valid, connectionNames, List.mem_filterMap]
  exact exists_congr fun e => and_congr_right fun _ => valid.ofBytes?_eq_some_iff

theorem valid_of_mem_connectionNames (hn : n ∈ h.connectionNames) : n.Valid := by
  obtain ⟨e, -, he⟩ := List.mem_filterMap.mp hn
  exact Name.valid_of_ofBytes? he

theorem acceptsTrailers_iff : h.acceptsTrailers ↔ h.Lists "te" "trailers" := by
  rw [lists_iff (by decide), acceptsTrailers, List.any_eq_true]
  simp

end Headers

end Funnel.Http
