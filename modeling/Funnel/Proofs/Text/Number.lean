import Funnel.Text.Number
import Mathlib.Data.List.TakeWhile

/-! Numbers as they are written: the digits of a number read back as that number, whatever text
stands behind them, as long as it does not go on with a digit. -/

namespace Funnel.Text

theorem digitValue?_digitChar {radix n : Nat} (inRadix : n < radix) (small : radix ≤ 16) :
    digitValue? radix n.digitChar = some n := by
  have values : ∀ m < 16, digitValue? 16 m.digitChar = some m := by decide
  have value := values n (by omega)
  simp only [digitValue?, Option.ite_none_right_eq_some, Option.some.injEq] at value ⊢
  exact ⟨by rwa [value.2], value.2⟩

theorem isDigit_digitChar {radix n : Nat} (inRadix : n < radix) (small : radix ≤ 16) :
    isDigit radix n.digitChar := by
  rw [isDigit, digitValue?_digitChar inRadix small]
  rfl

/-- A digit is one in every greater radix. -/
theorem isDigit_mono {radix radix' : Nat} {c : Char} (le : radix ≤ radix')
    (digit : isDigit radix c) : isDigit radix' c := by
  simp only [isDigit, digitValue?, Option.isSome_ite] at digit ⊢
  exact digit.trans_le le

theorem forall_head {p : Char → Prop} {c : Char} (h : p c) (cs : List Char) :
    ∀ d ∈ (c :: cs).head?, p d := by
  intro d hd
  rwa [← Option.some.inj hd]

/-- A text that does not begin with what `p` holds of is left whole. -/
theorem span_of_head {p : Char → Bool} {rest : List Char} (ends : ∀ c ∈ rest.head?, ¬ p c) :
    rest.takeWhile p = [] ∧ rest.dropWhile p = rest := by
  cases rest with
  | nil => exact ⟨rfl, rfl⟩
  | cons c rest => simp [ends c rfl]

theorem ofDigits_concat (radix : Nat) (digits : List Char) (c : Char) :
    ofDigits radix (digits ++ [c]) =
      ofDigits radix digits * radix + (digitValue? radix c).getD 0 := by
  rw [ofDigits, List.foldl_append]
  rfl

section Digits

variable {radix : Nat} (two : 1 < radix) (small : radix ≤ 16)

include two small

theorem isDigit_of_mem_toDigits (n : Nat) : ∀ c ∈ Nat.toDigits radix n, isDigit radix c := by
  induction n using Nat.strongRecOn with
  | ind n ih =>
    intro c hc
    rw [Nat.toDigits_eq_if two] at hc
    split at hc
    next below =>
      obtain rfl := List.mem_singleton.mp hc
      exact isDigit_digitChar below small
    next above =>
      rcases List.mem_append.mp hc with hc | hc
      · exact ih (n / radix) (Nat.div_lt_self (by omega) two) c hc
      · obtain rfl := List.mem_singleton.mp hc
        exact isDigit_digitChar (Nat.mod_lt n (by omega)) small

theorem ofDigits_toDigits (n : Nat) : ofDigits radix (Nat.toDigits radix n) = n := by
  induction n using Nat.strongRecOn with
  | ind n ih =>
    rw [Nat.toDigits_eq_if two]
    split
    next below => simp [ofDigits, digitValue?_digitChar below small]
    next above =>
      have last : digitValue? radix (n % radix).digitChar = some (n % radix) :=
        digitValue?_digitChar (Nat.mod_lt n (by omega)) small
      rw [ofDigits_concat, ih (n / radix) (Nat.div_lt_self (by omega) two), last, Option.getD_some]
      exact Nat.div_add_mod' n radix

theorem readNumber_toDigits (n : Nat) {rest : List Char}
    (ends : ∀ c ∈ rest.head?, ¬ isDigit radix c) :
    readNumber radix (Nat.toDigits radix n ++ rest) = some (Nat.toDigits radix n, n, rest) := by
  have digits := isDigit_of_mem_toDigits two small n
  have taken : (Nat.toDigits radix n ++ rest).takeWhile (isDigit radix) = Nat.toDigits radix n := by
    rw [List.takeWhile_append_of_pos digits, (span_of_head ends).1, List.append_nil]
  have dropped : (Nat.toDigits radix n ++ rest).dropWhile (isDigit radix) = rest := by
    rw [List.dropWhile_append_of_pos digits, (span_of_head ends).2]
  simp only [readNumber, taken, dropped, Nat.toDigits_ne_nil, if_false, ofDigits_toDigits two small]

end Digits

theorem readNumber_eq_none {radix : Nat} {cs : List Char} (h : ∀ c ∈ cs.head?, ¬ isDigit radix c) :
    readNumber radix cs = none := by
  rw [readNumber, (span_of_head h).1]
  rfl

/-- The text is `n` in digits, with a plus sign in front or without one. -/
def Writes (cs : List Char) (n : Nat) : Prop :=
  ∃ digits, (cs = digits ∨ cs = '+' :: digits) ∧ digits ≠ [] ∧ (∀ c ∈ digits, isDigit 10 c) ∧
    ofDigits 10 digits = n

theorem natBelow?_eq_some {bound n : Nat} {cs : List Char} :
    natBelow? bound cs = some n ↔ n < bound ∧ Writes cs n := by
  have plus : ¬ isDigit 10 '+' := by decide
  have whole : ∀ digits, (if digits ≠ [] ∧ digits.all (isDigit 10) ∧ ofDigits 10 digits < bound then
      some (ofDigits 10 digits) else none) = some n ↔
      n < bound ∧ digits ≠ [] ∧ (∀ c ∈ digits, isDigit 10 c) ∧ ofDigits 10 digits = n := by
    intro digits
    rw [Option.ite_none_right_eq_some, Option.some.injEq, List.all_eq_true]
    constructor
    · rintro ⟨⟨some, all, below⟩, rfl⟩
      exact ⟨below, some, all, rfl⟩
    · rintro ⟨below, some, all, rfl⟩
      exact ⟨⟨some, all, below⟩, rfl⟩
  by_cases signed : ∃ rest, cs = '+' :: rest
  · obtain ⟨rest, rfl⟩ := signed
    refine (whole rest).trans
      (and_congr_right fun _ => ⟨fun written => ⟨rest, .inr rfl, written⟩, ?_⟩)
    rintro ⟨digits, rfl | same, some, all, value⟩
    · exact absurd (all '+' List.mem_cons_self) plus
    · cases same
      exact ⟨some, all, value⟩
  · have unsigned : natBelow? bound cs = if cs ≠ [] ∧ cs.all (isDigit 10) ∧
        ofDigits 10 cs < bound then some (ofDigits 10 cs) else none := by
      cases cs with
      | nil => rfl
      | cons c rest =>
        have other : c ≠ '+' := fun same => signed ⟨rest, same ▸ rfl⟩
        simp [natBelow?, other]
    rw [unsigned, whole]
    refine and_congr_right fun _ => ⟨fun written => ⟨cs, .inl rfl, written⟩, ?_⟩
    rintro ⟨digits, rfl | rfl, written⟩
    · exact written
    · exact absurd ⟨digits, rfl⟩ signed

theorem natBelow?_eq_none {bound : Nat} {cs : List Char} {c : Char} (has : c ∈ cs)
    (digit : ¬ isDigit 10 c) (plus : c ≠ '+') : natBelow? bound cs = none := by
  refine Option.eq_none_iff_forall_ne_some.mpr fun n read => ?_
  obtain ⟨-, digits, unsigned | signed, -, all, -⟩ := natBelow?_eq_some.mp read
  · exact digit (all c (unsigned ▸ has))
  · rw [signed] at has
    exact digit (all c ((List.mem_cons.mp has).resolve_left plus))

end Funnel.Text
