import Funnel.Address.Printer
import Funnel.Address.Reader
import Funnel.Proofs.Text.Number

/-! Addresses as they are written. Every socket address is read back from its text as it was: from
the dotted form, from groups with or without a run of zeros left out, and with its scope. -/

namespace Funnel

namespace Address

open Text

/-! ### Parts of a text -/

section Parts

variable {rest : List Char}

theorem readDecimal_decimal {bound n : Nat} (below : n < bound)
    (ends : ∀ c ∈ rest.head?, ¬ isDigit 10 c) :
    readDecimal bound (decimal n ++ rest) = some (n, rest) := by
  rw [readDecimal, decimal, readNumber_toDigits (by decide) (by decide) n ends]
  exact if_pos below

theorem readOctet_decimal (o : UInt8) (ends : ∀ c ∈ rest.head?, ¬ isDigit 10 c) :
    readOctet (decimal o.toNat ++ rest) = some (o, rest) := by
  have shape : ∀ n < 256, (Nat.toDigits 10 n).length ≤ 3 ∧
      ((Nat.toDigits 10 n).head? = some '0' → (Nat.toDigits 10 n).length = 1) ∧ n < 256 := by
    decide +kernel
  rw [readOctet, decimal, readNumber_toDigits (by decide) (by decide) o.toNat ends]
  dsimp only
  rw [if_pos (shape o.toNat o.toNat_lt), UInt8.ofNat_toNat]

theorem readDotOctet_decimal (o : UInt8) (ends : ∀ c ∈ rest.head?, ¬ isDigit 10 c) :
    readDotOctet ('.' :: (decimal o.toNat ++ rest)) = some (o, rest) := readOctet_decimal o ends

theorem readV4_chars (ip : V4) (ends : ∀ c ∈ rest.head?, ¬ isDigit 10 c) :
    readV4 (ip.chars ++ rest) = some (ip, rest) := by
  have dot : ∀ cs, ∀ c ∈ ('.' :: cs).head?, ¬ isDigit 10 c := forall_head (by decide)
  simp only [V4.chars, List.append_assoc, List.cons_append, readV4]
  rw [readOctet_decimal ip.a (dot _)]
  simp only [Option.bind_eq_bind, Option.bind_some]
  rw [readDotOctet_decimal ip.b (dot _)]
  simp only [Option.bind_some]
  rw [readDotOctet_decimal ip.c (dot _)]
  simp only [Option.bind_some]
  rw [readDotOctet_decimal ip.d ends]
  rfl

/-- Without a dot behind the digits there is no dotted quad. -/
theorem readV4_eq_none {cs : List Char}
    (h : ∀ c ∈ (cs.dropWhile (isDigit 10)).head?, c ≠ '.') : readV4 cs = none := by
  unfold readV4
  cases read : readOctet cs with
  | none => rfl
  | some found =>
    obtain ⟨o, behind⟩ := found
    have split : behind = cs.dropWhile (isDigit 10) := by
      simp only [readOctet, readNumber] at read
      grind
    have undotted : readDotOctet behind = none := by
      rw [readDotOctet]
      cases behind with
      | nil => rfl
      | cons c more => rw [readChar, if_neg (h c (by rw [← split]; rfl)), Option.bind_none]
    simp [undotted]

theorem readGroup_hexGroup (g : UInt16) (ends : ∀ c ∈ rest.head?, ¬ isDigit 16 c) :
    readGroup (hexGroup g ++ rest) = some (g, rest) := by
  have short : (Nat.toDigits 16 g.toNat).length ≤ 4 :=
    (Nat.length_toDigits_le_iff (by decide) (by decide)).mpr g.toNat_lt
  rw [readGroup, hexGroup, readNumber_toDigits (by decide) (by decide) g.toNat ends]
  simp only [short, if_true, UInt16.ofNat_toNat]

end Parts

/-! ### Groups -/

/-- What may stand behind a group. A digit would belong to it, and a dot would make its digits the
beginning of a dotted quad. -/
def EndsGroup (rest : List Char) : Prop := ∀ c ∈ rest.head?, ¬ isDigit 16 c ∧ c ≠ '.'

/-- No further group is read from such a text, with or without a colon in front. -/
structure Stops (rest : List Char) : Prop where
  ends : EndsGroup rest
  colon : ∀ more, rest = ':' :: more → ∀ c ∈ more.head?, ¬ isDigit 16 c

/-- The groups `gs` in front of those that were read. -/
def Groups.prepend (gs : List UInt16) (read : Groups) : Groups :=
  ⟨gs ++ read.groups, read.dotted, read.rest⟩

/-- Groups that follow others. -/
def colonTail (gs : List UInt16) : List Char := gs.flatMap fun g => ':' :: hexGroup g

theorem colonGroups_cons (g : UInt16) (gs : List UInt16) :
    colonGroups (g :: gs) = hexGroup g ++ colonTail gs := by
  induction gs generalizing g with
  | nil => simp [colonGroups, colonTail]
  | cons g' gs ih =>
    have more : colonGroups (g :: g' :: gs) = hexGroup g ++ ':' :: colonGroups (g' :: gs) := by
      simp [colonGroups]
    rw [more, ih]
    rfl

section Groups

variable {rest : List Char}

theorem endsGroup_colon (cs : List Char) : EndsGroup (':' :: cs) := forall_head (by decide) cs

theorem EndsGroup.colonTail (ends : EndsGroup rest) (gs : List UInt16) :
    EndsGroup (colonTail gs ++ rest) := by
  cases gs with
  | nil => exact ends
  | cons g gs => exact endsGroup_colon _

theorem readV4_hexGroup (g : UInt16) (ends : EndsGroup rest) :
    readV4 (hexGroup g ++ rest) = none := by
  refine readV4_eq_none fun c hc => ?_
  rw [List.dropWhile_append] at hc
  split at hc
  next =>
    have whole : rest.dropWhile (isDigit 10) = rest :=
      (span_of_head fun d hd digit => (ends d hd).1 (isDigit_mono (by decide) digit)).2
    rw [whole] at hc
    exact (ends c hc).2
  next letters =>
    rw [List.head?_append, Option.or_of_isSome (by simpa using letters)] at hc
    have inGroup : c ∈ hexGroup g := (List.dropWhile_suffix _).subset (List.mem_of_mem_head? hc)
    have digit : isDigit 16 c := isDigit_of_mem_toDigits (by decide) (by decide) g.toNat c inGroup
    rintro rfl
    exact absurd digit (by decide)

theorem readGroups_of_body (first : Bool) (g : UInt16) (ends : EndsGroup rest) {cs : List Char}
    (body : (if first then some cs else readChar ':' cs) = some (hexGroup g ++ rest)) (room : Nat) :
    readGroups first (room + 1) cs = (readGroups false room rest).prepend [g] := by
  have undotted : (if 1 ≤ room then readV4 (hexGroup g ++ rest) else none) = none := by
    rw [readV4_hexGroup g ends, ite_self]
  rw [readGroups, body]
  simp only [undotted]
  rw [readGroup_hexGroup g fun c hc => (ends c hc).1]
  rfl

theorem readGroups_colonTail (ends : EndsGroup rest) (gs : List UInt16) (room : Nat) :
    readGroups false (room + gs.length) (colonTail gs ++ rest) =
      (readGroups false room rest).prepend gs := by
  induction gs with
  | nil => rfl
  | cons g gs ih =>
    have body : (if false then some (colonTail (g :: gs) ++ rest)
        else readChar ':' (colonTail (g :: gs) ++ rest)) =
          some (hexGroup g ++ (colonTail gs ++ rest)) := by
      simp [colonTail, readChar]
    have step : readGroups false (room + gs.length + 1) (colonTail (g :: gs) ++ rest) =
        (readGroups false (room + gs.length) (colonTail gs ++ rest)).prepend [g] :=
      readGroups_of_body false g (ends.colonTail gs) body _
    rw [List.length_cons, ← Nat.add_assoc, step, ih]
    rfl

theorem Stops.readGroups (stops : Stops rest) (first : Bool) (room : Nat) :
    readGroups first room rest = ⟨[], false, rest⟩ := by
  have unread : ∀ body : List Char, (∀ c ∈ body.head?, ¬ isDigit 16 c) →
      readV4 body = none ∧ readGroup body = none := by
    intro body h
    have none10 : readNumber 10 body = none :=
      readNumber_eq_none fun c hc digit => h c hc (isDigit_mono (by decide) digit)
    simp [readV4, readOctet, readGroup, none10, readNumber_eq_none h]
  cases room with
  | zero => rfl
  | succ room =>
    have atBody : ∀ body, (if first then some rest else readChar ':' rest) = some body →
        ∀ c ∈ body.head?, ¬ isDigit 16 c := by
      intro body h
      cases first with
      | true =>
        cases h
        exact fun c hc => (stops.ends c hc).1
      | false =>
        cases rest with
        | nil => cases h
        | cons d more =>
          change (if d = ':' then some more else none) = some body at h
          split at h
          next colon =>
            cases h
            exact stops.colon _ (by rw [colon])
          next => cases h
    rw [Address.readGroups]
    split
    next => rfl
    next body h =>
      obtain ⟨noQuad, noGroup⟩ := unread body (atBody body h)
      simp [noQuad, noGroup]

theorem readGroups_colonGroups (stops : Stops rest) (gs : List UInt16) {room : Nat}
    (fits : gs.length ≤ room) :
    readGroups true room (colonGroups gs ++ rest) = ⟨gs, false, rest⟩ := by
  cases gs with
  | nil => exact stops.readGroups true room
  | cons g gs =>
    obtain ⟨spare, rfl⟩ := Nat.exists_eq_add_of_le' fits
    rw [colonGroups_cons, List.append_assoc, List.length_cons, ← Nat.add_assoc,
      readGroups_of_body true g (stops.ends.colonTail gs) rfl, readGroups_colonTail stops.ends,
      stops.readGroups]
    simp [Groups.prepend]

end Groups

/-! ### Runs of zeros -/

/-- The run stands in `gs`. -/
def Run.Within (r : Run) (gs : List UInt16) : Prop :=
  ∃ front back, gs = front ++ List.replicate r.length 0 ++ back ∧ front.length = r.start

/-- The run ends `gs`, if it is one. -/
def Run.Ending (r : Run) (gs : List UInt16) : Prop :=
  r.length = 0 ∨ ∃ front, gs = front ++ List.replicate r.length 0 ∧ front.length = r.start

theorem longestRun_within {done gs : List UInt16} {current best : Run}
    (ends : current.Ending done) (within : best.Within (done ++ gs)) :
    (longestRun done.length current best gs).Within (done ++ gs) := by
  induction gs generalizing done current best with
  | nil => exact within
  | cons g gs ih =>
    have shift : done ++ g :: gs = (done ++ [g]) ++ gs := by simp
    have next : (done ++ [g]).length = done.length + 1 := by simp
    rw [longestRun, shift, ← next]
    rw [shift] at within
    split
    next zero =>
      obtain rfl := zero
      generalize longer_eq : (if current.length = 0 then (⟨done.length, 1⟩ : Run)
        else ⟨current.start, current.length + 1⟩) = longer
      have longer_ends : ∃ front, done ++ [0] = front ++ List.replicate longer.length 0 ∧
          front.length = longer.start := by
        subst longer_eq
        split
        next => exact ⟨done, rfl, rfl⟩
        next running =>
          obtain ⟨front, rfl, start⟩ := ends.resolve_left running
          exact ⟨front, by simp [List.replicate_succ'], start⟩
      refine ih (.inr longer_ends) ?_
      split
      · obtain ⟨front, whole, start⟩ := longer_ends
        exact ⟨front, gs, by rw [whole], start⟩
      · exact within
    next => exact ih (.inl rfl) within

theorem Run.Within.parts {r : Run} {gs : List UInt16} (within : r.Within gs) :
    gs = gs.take r.start ++ List.replicate r.length 0 ++ gs.drop (r.start + r.length) := by
  obtain ⟨front, back, rfl, start⟩ := within
  simp [← start, List.drop_append]

/-! ### IPv6 addresses -/

theorem V6.ofParts?_eq_some {ip : V6} {head tail : List UInt16} {n : Nat}
    (whole : ip.groups = head ++ List.replicate n 0 ++ tail) : ofParts? head tail = some ip := by
  have eight : head.length + n + tail.length = 8 := by
    have length := congrArg List.length whole
    simp only [ip.length_groups, List.length_append, List.length_replicate] at length
    omega
  have left : 8 - head.length - tail.length = n := by omega
  simp only [ofParts?, left, ← whole, ip.length_groups, dif_pos]

/-- The two bytes of a group make the group. -/
theorem group_of_bytes (x : UInt16) :
    (x / 256).toUInt8.toUInt16 * 256 + x.toUInt8.toUInt16 = x := by
  apply UInt16.toNat_inj.mp
  have bound := x.toNat_lt
  simp
  omega

theorem V6.groups_of_mapped? {ip : V6} {v4 : V4} (mapped : ip.mapped? = some v4) :
    ip.groups = [] ++ List.replicate 5 0 ++ 0xFFFF :: v4.groups := by
  unfold mapped? at mapped
  split at mapped
  next x y groups =>
    cases mapped
    simp only [groups, V4.groups, group_of_bytes]
    rfl
  next => cases mapped

section V6

variable {ip : V6} {rest : List Char}

theorem stops_colons (cs : List Char) : Stops (':' :: ':' :: cs) := by
  refine ⟨endsGroup_colon _, fun more h c hc => ?_⟩
  cases h
  exact (endsGroup_colon cs c hc).1

/-- Groups, two colons, and what is read behind them. -/
theorem readV6_colons (head : List UInt16) {cs : List Char} {tail : Groups} (room : head.length < 8)
    (behind : readGroups true (7 - head.length) cs = tail)
    (parts : V6.ofParts? head tail.groups = some ip) :
    readV6 (colonGroups head ++ ':' :: ':' :: cs) = some (ip, tail.rest) := by
  have front : readGroups true 8 (colonGroups head ++ ':' :: ':' :: cs) =
      ⟨head, false, ':' :: ':' :: cs⟩ := readGroups_colonGroups (stops_colons cs) head (by omega)
  have short : head.length ≠ 8 := by omega
  simp [readV6, front, short, readChar, behind, parts]

theorem readV6_chars (ip : V6) (stops : Stops rest) :
    readV6 (ip.chars ++ rest) = some (ip, rest) := by
  unfold V6.chars
  cases mapped : ip.mapped? with
  | some v4 =>
    have behind : readGroups true 7 ("ffff:".toList ++ v4.chars ++ rest) =
        ⟨0xFFFF :: v4.groups, true, rest⟩ := by
      have quad : readGroups false 6 (':' :: (v4.chars ++ rest)) = ⟨v4.groups, true, rest⟩ := by
        have read : readV4 (v4.chars ++ rest) = some (v4, rest) :=
          readV4_chars v4 fun c hc digit => (stops.ends c hc).1 (isDigit_mono (by decide) digit)
        simp [readGroups, readChar, read]
      have group : "ffff:".toList ++ v4.chars ++ rest =
          hexGroup 0xFFFF ++ ':' :: (v4.chars ++ rest) := by
        rw [List.append_assoc]
        rfl
      have first := readGroups_of_body true 0xFFFF (endsGroup_colon (v4.chars ++ rest))
        (congrArg some group) 6
      rw [first, quad]
      rfl
    exact readV6_colons [] (by decide) behind (V6.ofParts?_eq_some (V6.groups_of_mapped? mapped))
  | none =>
    have none_yet : Run.Ending ⟨0, 0⟩ [] := .inl rfl
    have none_best : Run.Within ⟨0, 0⟩ ([] ++ ip.groups) := ⟨[], ip.groups, rfl, rfl⟩
    have run : (longestRun 0 ⟨0, 0⟩ ⟨0, 0⟩ ip.groups).Within ip.groups :=
      longestRun_within none_yet none_best
    generalize longestRun 0 ⟨0, 0⟩ ⟨0, 0⟩ ip.groups = zeros at run
    simp only
    split
    next long =>
      have whole := run.parts
      have eight := congrArg List.length whole
      simp only [ip.length_groups, List.length_append, List.length_replicate] at eight
      have room : (ip.groups.drop (zeros.start + zeros.length)).length ≤
          7 - (ip.groups.take zeros.start).length := by omega
      have read := readV6_colons (ip.groups.take zeros.start) (by omega)
        (readGroups_colonGroups stops _ room) (V6.ofParts?_eq_some whole)
      simpa using read
    next =>
      have all := readGroups_colonGroups stops ip.groups ip.length_groups.le
      have whole : ip.groups = ip.groups ++ List.replicate 0 0 ++ [] := by simp
      simp [readV6, all, ip.length_groups, V6.ofParts?_eq_some whole]

end V6

/-! ### Socket addresses -/

section Socket

theorem readColonNumber_decimal (n : UInt16) :
    readColonNumber (':' :: decimal n.toNat) = some (n, []) := by
  have read : readDecimal 65536 (decimal n.toNat ++ []) = some (n.toNat, []) :=
    readDecimal_decimal n.toNat_lt nofun
  rw [List.append_nil] at read
  simp [readColonNumber, readChar, read]

/-- The scope as it stands behind an address: nothing if there is none. -/
def scopeChars (scope : UInt32) : List Char :=
  if scope = 0 then [] else '%' :: decimal scope.toNat

theorem stops_scopeChars (scope : UInt32) (cs : List Char) :
    Stops (scopeChars scope ++ ']' :: cs) := by
  unfold scopeChars
  split
  · exact ⟨forall_head (by decide) _, nofun⟩
  · exact ⟨forall_head (by decide) _, nofun⟩

theorem readScope_scopeChars (scope : UInt32) (cs : List Char) :
    readScope (scopeChars scope ++ ']' :: cs) = some (scope, ']' :: cs) := by
  unfold scopeChars
  split
  next zero =>
    rw [zero]
    rfl
  next =>
    have closing : ∀ c ∈ (']' :: cs).head?, ¬ isDigit 10 c := forall_head (by decide) cs
    have read : readDecimal 4294967296 (decimal scope.toNat ++ ']' :: cs) =
        some (scope.toNat, ']' :: cs) := readDecimal_decimal scope.toNat_lt closing
    simp [readScope, readChar, read]

theorem readSocketV4_chars (ip : V4) (n : UInt16) :
    readSocketV4 (SocketAddress.v4 ip n).chars = some (.v4 ip n, []) := by
  have colon : ∀ c ∈ (':' :: decimal n.toNat).head?, ¬ isDigit 10 c := forall_head (by decide) _
  simp [readSocketV4, SocketAddress.chars, readV4_chars ip colon, readColonNumber_decimal]

theorem readSocketV6_chars (ip : V6) (n : UInt16) (scope : UInt32) :
    readSocketV6 (SocketAddress.v6 ip n scope).chars = some (.v6 ip n scope, []) := by
  have text : (SocketAddress.v6 ip n scope).chars =
      '[' :: (ip.chars ++ (scopeChars scope ++ ']' :: ':' :: decimal n.toNat)) := by
    simp [SocketAddress.chars, scopeChars]
  simp [text, readSocketV6, readChar, readV6_chars ip (stops_scopeChars scope _),
    readScope_scopeChars, readColonNumber_decimal]

end Socket

end Address

/-- A socket address is read back from its text. -/
theorem SocketAddress.ofText?_toText (a : SocketAddress) : ofText? a.toText = some a := by
  unfold ofText? toText
  rw [String.toList_ofList]
  cases a with
  | v4 ip n => simp [Address.readSocketV4_chars, Address.whole]
  | v6 ip n scope =>
    have bracket : Address.readSocketV4 (SocketAddress.v6 ip n scope).chars = none := rfl
    simp [bracket, Address.readSocketV6_chars, Address.whole]

end Funnel
