import Funnel.Toml.Document
import Mathlib.Data.List.Basic

/-! The table of a document holds what its lines say. A line speaks of a path: its key, behind the
path of the header above it. Where a path ends in a value, one line alone speaks of it; where it
ends in a table, all lines that speak of paths through it make the table together, in whatever order
they come. Arrays of tables are left out, since with them the order counts. -/

namespace Funnel.Toml

/-- What a line says about a path. -/
inductive Statement where
  | value (path : List String) (v : Value)
  | table (path : List String)
  | element (path : List String)

namespace Statement

def path : Statement → List String
  | value path _ => path
  | table path => path
  | element path => path

/-- The same about what stands under `front`. -/
def under (front : List String) : Statement → Statement
  | value path v => value (front ++ path) v
  | table path => table (front ++ path)
  | element path => element (front ++ path)

/-- What a statement says about what stands under `key`. A value that is a table says it, too. -/
def below? (key : String) : Statement → Option Statement
  | value [] (.table entries) => (entries.lookup key).map (value [])
  | value [] _ => none
  | value (first :: path) v => if first = key then some (value path v) else none
  | table [] => none
  | table (first :: path) => if first = key then some (table path) else none
  | element [] => none
  | element (first :: path) => if first = key then some (element path) else none

theorem under_nil (a : Statement) : a.under [] = a := by
  cases a <;> rfl

theorem under_cons (a : Statement) (first : String) (path : List String) :
    a.under (first :: path) = (a.under path).under [first] := by
  cases a <;> rfl

theorem path_under (a : Statement) (front : List String) :
    (a.under front).path = front ++ a.path := by
  cases a <;> rfl

theorem below?_under (a : Statement) (first key : String) :
    (a.under [first]).below? key = if first = key then some a else none := by
  cases a <;> rfl

theorem path_eq_nil_of_below? {a : Statement} (silent : ∀ key, a.below? key = none) :
    a.path = [] := by
  cases h : a.path with
  | nil => rfl
  | cons first path =>
    have := silent first
    cases a <;> simp_all [below?, Statement.path]

end Statement

/-- What statements say about what stands under `key`. -/
def below (said : List Statement) (key : String) : List Statement :=
  said.filterMap (·.below? key)

section Below

variable {said : List Statement} {a : Statement} {first key : String}

theorem below_concat_under :
    below (said ++ [a.under [first]]) key =
      if first = key then below said key ++ [a] else below said key := by
  rw [below, List.filterMap_append, List.filterMap_cons, Statement.below?_under]
  by_cases same : first = key <;> simp [same, below]

theorem below_concat_table : below (said ++ [.table []]) key = below said key := by
  simp [below, Statement.below?]

end Below

/-- The path of the header above the lines that follow. -/
def Line.context (current : List String) : Line → List String
  | .blank => current
  | .pair _ _ => current
  | .header path => path
  | .element path => path

def Line.statement? (current : List String) : Line → Option Statement
  | .blank => none
  | .pair key v => some (.value (current ++ key) v)
  | .header path => some (.table path)
  | .element path => some (.element path)

/-- What lines say under the header at `current`. -/
def statements (current : List String) : List Line → List Statement
  | [] => []
  | line :: rest => (line.statement? current).toList ++ statements (line.context current) rest

/-- The lines of a text. A byte order mark in front does not count. -/
def lines? (text : String) : Option (List Line) :=
  let cs := match text.toList with
    | '\uFEFF' :: rest => rest
    | cs => cs
  readLines (cs.length + 1) cs

/-- What a text says. -/
def said (text : String) : List Statement := statements [] ((lines? text).getD [])

/-- Right here no more is said than that there is a table. -/
def OnlyHeaders (said : List Statement) : Prop := ∀ a ∈ said, a.path = [] → a = .table []

theorem onlyHeaders_nil : OnlyHeaders [] := nofun

theorem OnlyHeaders.concat {said : List Statement} {a : Statement} (h : OnlyHeaders said)
    (new : a.path = [] → a = .table []) : OnlyHeaders (said ++ [a]) := by
  intro b member
  rcases List.mem_append.mp member with old | last
  · exact h b old
  · cases List.mem_singleton.mp last
    exact new

/-- The item that statements make. Of an array of tables no more is kept than that it has an
element. -/
inductive Makes : List Statement → Option Item → Prop
  | absent : Makes [] none
  | value {v : Value} : Makes [.value [] v] (some (.value v))
  | table {said : List Statement} {definer : Definer} {sub : Entries} :
      said ≠ [] → OnlyHeaders said → (∀ key, Makes (below said key) (sub.lookup key)) →
        Makes said (some (.table definer sub))
  | tables {said : List Statement} {elements : List Entries} :
      elements ≠ [] → Makes said (some (.tables elements))

/-- Statements make all entries of a table. -/
def Tells (said : List Statement) (es : Entries) : Prop :=
  ∀ key, Makes (below said key) (es.lookup key)

theorem tells_nil : Tells [] [] := fun _ => .absent

namespace Makes

variable {said : List Statement}

theorem eq_nil (makes : Makes said none) : said = [] := by
  cases makes
  rfl

theorem eq_value {v : Value} (makes : Makes said (some (.value v))) : said = [.value [] v] := by
  cases makes
  rfl

theorem of_table {definer : Definer} {sub : Entries}
    (makes : Makes said (some (.table definer sub))) :
    said ≠ [] ∧ OnlyHeaders said ∧ Tells said sub := by
  cases makes with
  | table spoken headers tells => exact ⟨spoken, headers, tells⟩

end Makes

/-! ### Changing entries -/

section Entries

variable {es : Entries} {key k : String} {item : Item}

theorem lookup_concat_self (absent : es.lookup key = none) :
    (es ++ [(key, item)]).lookup key = some item := by
  simp [List.lookup_append, absent]

theorem lookup_concat_of_ne (other : k ≠ key) :
    (es ++ [(key, item)]).lookup k = es.lookup k := by
  simp [List.lookup_append, List.lookup_cons, beq_false_of_ne other]

theorem lookup_replace (es : Entries) (key : String) (item : Item) (k : String) :
    (es.replace key item).lookup k =
      if k = key then (es.lookup k).map fun _ => item else es.lookup k := by
  induction es with
  | nil => simp [Entries.replace]
  | cons e rest ih =>
    obtain ⟨first, old⟩ := e
    simp only [Entries.replace, List.map_cons] at ih ⊢
    by_cases here : first = key
    · rw [if_pos here]
      by_cases same : k = key
      · simp [same, here]
      · simp [List.lookup_cons, beq_false_of_ne same, here, ih, same]
    · rw [if_neg here]
      by_cases same : k = first
      · simp [same, here]
      · simp [List.lookup_cons, beq_false_of_ne same, ih]

theorem lookup_replace_self (there : (es.lookup key).isSome) :
    (es.replace key item).lookup key = some item := by
  obtain ⟨old, there⟩ := Option.isSome_iff_exists.mp there
  simp [lookup_replace, there]

theorem lookup_replace_of_ne (other : k ≠ key) :
    (es.replace key item).lookup k = es.lookup k := by
  simp [lookup_replace, other]

end Entries

namespace Tells

variable {said : List Statement} {a : Statement} {es es' : Entries} {key : String}
  {path : List String} {dotted : Bool} {definer : Definer}
  {change : Definer → Entries → Option Entries}

/-- One key has another item, as one more statement about it says. -/
theorem put (h : Tells said es) (others : ∀ k, k ≠ key → es'.lookup k = es.lookup k)
    (here : Makes (below said key ++ [a]) (es'.lookup key)) :
    Tells (said ++ [a.under [key]]) es' := by
  intro k
  rw [below_concat_under]
  split
  next same =>
    subst same
    exact here
  next other =>
    rw [others k (Ne.symm other)]
    exact h k

theorem concat {item : Item} (h : Tells said es) (absent : es.lookup key = none)
    (makes : Makes [a] (some item)) : Tells (said ++ [a.under [key]]) (es ++ [(key, item)]) := by
  refine h.put (fun k other => lookup_concat_of_ne other) ?_
  have silent : below said key = [] := (absent ▸ h key).eq_nil
  rwa [silent, List.nil_append, lookup_concat_self absent]

theorem replace {old item : Item} (h : Tells said es) (there : es.lookup key = some old)
    (makes : Makes (below said key ++ [a]) (some item)) :
    Tells (said ++ [a.under [key]]) (es.replace key item) := by
  refine h.put (fun k other => lookup_replace_of_ne other) ?_
  rwa [lookup_replace_self (by rw [there]; rfl)]

/-- What a change at the end of a path makes of the table there, it makes of the whole. -/
theorem changeAt
    (changes : ∀ {said definer es es'}, Tells said es → change definer es = some es' →
      a.path ≠ [] ∧ Tells (said ++ [a]) es')
    (h : Tells said es) (changed : Entries.changeAt dotted change path definer es = some es') :
    (a.under path).path ≠ [] ∧ Tells (said ++ [a.under path]) es' := by
  induction path generalizing said definer es es' with
  | nil =>
    rw [a.under_nil]
    exact changes h changed
  | cons key path ih =>
    refine ⟨by simp [Statement.path_under], ?_⟩
    rw [Entries.changeAt] at changed
    rw [Statement.under_cons]
    split at changed
    next absent =>
      obtain ⟨sub, within, rfl⟩ := Option.map_eq_some_iff.mp changed
      obtain ⟨inside, tells⟩ := ih tells_nil within
      have headers : OnlyHeaders [a.under path] :=
        onlyHeaders_nil.concat fun here => absurd here inside
      exact h.concat absent (.table (List.cons_ne_nil _ _) headers tells)
    next => cases changed
    next d sub there =>
      obtain ⟨-, headers, tells⟩ := (there ▸ h key).of_table
      split at changed
      next => cases changed
      next =>
        obtain ⟨sub', within, rfl⟩ := Option.map_eq_some_iff.mp changed
        obtain ⟨inside, tells⟩ := ih tells within
        have headers := headers.concat fun here => absurd here inside
        exact h.replace there (.table (by simp) headers tells)
    next elements there =>
      split at changed
      next => cases changed
      next last =>
        -- One element is changed, so the list has one still.
        obtain ⟨sub, -, rfl⟩ := Option.map_eq_some_iff.mp changed
        exact h.replace there (.tables (by simp))

theorem addValue {v : Value} (h : Tells said es) (added : es.addValue path key v = some es') :
    Tells (said ++ [.value (path ++ [key]) v]) es' := by
  refine (changeAt (a := .value [key] v) ?_ h added).2
  intro said definer es es' h added
  refine ⟨List.cons_ne_nil _ _, ?_⟩
  split at added
  · cases added
  · split at added
    next => cases added
    next absent =>
      cases added
      exact h.concat (a := .value [] v) (Option.not_isSome_iff_eq_none.mp absent) .value

theorem addPair {path : List String} {v : Value} (h : Tells said es)
    (added : es.addPair path v = some es') :
    path ≠ [] ∧ Tells (said ++ [.value path v]) es' := by
  unfold Entries.addPair at added
  split at added
  next last named =>
    refine ⟨fun none => ?_, ?_⟩
    · rw [none] at named
      cases named
    · have added := h.addValue added
      rwa [List.dropLast_append_getLast? last named] at added
  next => cases added

theorem openTable (h : Tells said es) (opened : es.openTable path key = some es') :
    Tells (said ++ [.table (path ++ [key])]) es' := by
  refine (changeAt (a := .table [key]) ?_ h opened).2
  intro said definer es es' h opened
  refine ⟨List.cons_ne_nil _ _, ?_⟩
  split at opened
  next absent =>
    cases opened
    have headers : OnlyHeaders [.table []] := onlyHeaders_nil.concat fun _ => rfl
    exact h.concat (a := .table []) absent
      (.table (List.cons_ne_nil _ _) headers fun _ => .absent)
  next sub there =>
    cases opened
    obtain ⟨-, headers, tells⟩ := (there ▸ h key).of_table
    refine h.replace (a := .table []) there
      (.table (by simp) (headers.concat fun _ => rfl) fun k => ?_)
    rw [below_concat_table]
    exact tells k
  next => cases opened

theorem openElement (h : Tells said es) (opened : es.openElement path key = some es') :
    Tells (said ++ [.element (path ++ [key])]) es' := by
  refine (changeAt (a := .element [key]) ?_ h opened).2
  intro said definer es es' h opened
  refine ⟨List.cons_ne_nil _ _, ?_⟩
  split at opened
  next absent =>
    cases opened
    exact h.concat (a := .element []) absent (.tables (List.cons_ne_nil _ _))
  next elements there =>
    cases opened
    exact h.replace (a := .element []) there (.tables (by simp))
  next => cases opened

end Tells

/-! ### Documents -/

section Document

variable {said : List Statement} {d d' : Draft} {line : Line}

theorem Tells.add (h : Tells said d.entries) (added : d.add line = some d') :
    d'.current = line.context d.current ∧
      Tells (said ++ (line.statement? d.current).toList) d'.entries := by
  cases line with
  | blank =>
    cases added
    exact ⟨rfl, by simpa [Line.statement?] using h⟩
  | pair key v =>
    obtain ⟨es, changed, rfl⟩ := Option.map_eq_some_iff.mp added
    refine ⟨rfl, ?_⟩
    exact (h.changeAt (a := .value key v) addPair changed).2
  | header path =>
    obtain ⟨last, named, built⟩ := Option.bind_eq_some_iff.mp added
    obtain ⟨es, opened, rfl⟩ := Option.map_eq_some_iff.mp built
    refine ⟨rfl, ?_⟩
    have := h.openTable opened
    rwa [List.dropLast_append_getLast? last named] at this
  | element path =>
    obtain ⟨last, named, built⟩ := Option.bind_eq_some_iff.mp added
    obtain ⟨es, opened, rfl⟩ := Option.map_eq_some_iff.mp built
    refine ⟨rfl, ?_⟩
    have := h.openElement opened
    rwa [List.dropLast_append_getLast? last named] at this

theorem Tells.addAll {lines : List Line} (h : Tells said d.entries)
    (added : lines.foldlM Draft.add d = some d') :
    Tells (said ++ statements d.current lines) d'.entries := by
  induction lines generalizing said d with
  | nil =>
    cases added
    simpa [statements] using h
  | cons line rest ih =>
    rw [List.foldlM_cons] at added
    obtain ⟨d₁, first, added⟩ := Option.bind_eq_some_iff.mp added
    obtain ⟨context, h₁⟩ := h.add first
    have := ih h₁ added
    rwa [context, List.append_assoc] at this

theorem parse_eq (text : String) : parse text = (lines? text).bind fun lines =>
    (lines.foldlM Draft.add ⟨[], []⟩).map fun d => closeEntries d.entries := by
  unfold parse lines?
  dsimp only
  generalize readLines _ _ = lines
  cases lines with
  | none => rfl
  | some lines =>
    simp only [Option.bind_eq_bind, Option.bind_some]
    cases lines.foldlM Draft.add ⟨[], []⟩ <;> rfl

/-- The table of a document is made by what its text says. -/
theorem tells_of_parse {text : String} {t : Table} (parsed : parse text = some t) :
    ∃ es, t = closeEntries es ∧ Tells (Toml.said text) es := by
  rw [parse_eq] at parsed
  obtain ⟨lines, read, built⟩ := Option.bind_eq_some_iff.mp parsed
  obtain ⟨d, added, rfl⟩ := Option.map_eq_some_iff.mp built
  refine ⟨d.entries, rfl, ?_⟩
  have tells := tells_nil.addAll (d := ⟨[], []⟩) added
  rwa [List.nil_append, ← Option.getD_some (a := lines) (b := []), ← read] at tells

theorem lookup_closeEntries (es : Entries) (key : String) :
    (closeEntries es).lookup key = (es.lookup key).map Item.close := by
  induction es with
  | nil => simp [closeEntries]
  | cons e rest ih =>
    obtain ⟨first, item⟩ := e
    rw [closeEntries, List.lookup_cons, List.lookup_cons]
    split
    · rfl
    · exact ih

end Document

end Funnel.Toml
