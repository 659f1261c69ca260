import Funnel.Log.Directive

/-!
Log filters: which lines get through. Of all directives that hold for a line, the one with the
longest target decides. What the environment gives wins over the configured level.
-/

namespace Funnel.Log

structure Filter where
  /-- Directives about lines, one for each target and field. -/
  aboutLines : List Directive
  /-- Directives about spans, one for each condition. -/
  aboutSpans : List Directive
  /-- The greatest verbosity ever put in. -/
  loudest : Verbosity
deriving DecidableEq, Repr

namespace Filter

def empty : Filter := ⟨[], [], none⟩

/-- The same condition, whatever the verbosity. -/
def sameCondition (d e : Directive) : Bool :=
  d.target = e.target && d.span = e.span && d.field = e.field

/-- `d` in place of what has the same condition. -/
def put (ds : List Directive) (d : Directive) : List Directive :=
  ds.filter (fun e => !sameCondition d e) ++ [d]

def louder (v w : Verbosity) : Verbosity := if v.rank < w.rank then w else v

/-- A filter made of directives. One that asks for a field without a value is about lines and
about spans. Lines that have a value to compare may turn out to get through at any severity. -/
def ofDirectives (ds : List Directive) : Filter :=
  let aboutSpans := ds.filter (·.asksSpan)
  let aboutLines := ds.filter (fun d => !d.asksSpan) ++ aboutSpans.filter (·.asksLineOnly)
  let asksValue := aboutSpans.any fun d => d.field.any (·.value.isSome)
  { aboutLines := aboutLines.foldl put []
    aboutSpans := aboutSpans.foldl put []
    loudest :=
      if asksValue then some .trace else ds.foldl (fun v d => louder v d.verbosity) none }

/-- The directives between the commas. -/
def parts (s : String) : List String := (s.splitOn ",").filter (· ≠ "")

/-- A filter in which every directive can be read. -/
def ofText? (s : String) : Option Filter :=
  ((parts s).mapM Directive.ofText?).map ofDirectives

/-- The directives that cannot be read. -/
def unreadable (s : String) : List String :=
  (parts s).filter fun part => (Directive.ofText? part).isNone

/-- The directives that can be read; errors only, if none can. -/
def ofReadable (s : String) : Filter :=
  match (parts s).filterMap Directive.ofText? with
  | [] => ofDirectives [⟨none, none, none, some .error⟩]
  | ds => ofDirectives ds

/-- The configured level for this program and for everything else, less of chatty parts. -/
def configuredText (level : String) : String :=
  level ++ ",h2_fanin_proxy=" ++ level ++ ",tower_http=info,h2=warn,hyper=warn"

/-- The filter of the environment if it can be read, else the configured one. -/
def chosen (level : String) (environment : Option String) : Filter :=
  match environment.bind ofText? with
  | some f => f
  | none => ofReadable (configuredText level)

/-- The configured directives that are left out because they cannot be read. -/
def leftOut (level : String) (environment : Option String) : List String :=
  if (environment.bind ofText?).isSome then [] else unreadable (configuredText level)

/-- All directives as text, sorted. -/
def texts (f : Filter) : List String :=
  ((f.aboutLines ++ f.aboutSpans).map (·.toText)).mergeSort (· ≤ ·)

/-! ### Lines that get through -/

/-- `d` holds for lines like `l`. -/
def holds (d : Directive) (l : Line) : Bool :=
  (d.target.all fun t => t.toList.isPrefixOf l.source.path.toList) &&
    d.field.all fun f => f.name = "message" || l.values.any (·.1 = f.name)

/-- Longer targets go before shorter ones, any target before none, and then a field before none. -/
def weight (d : Directive) : Nat :=
  2 * (match d.target with
    | some t => t.utf8ByteSize + 1
    | none => 0) + (if d.field.isSome then 1 else 0)

/-- The weightier of two directives, the first one if they weigh the same. -/
def weightier (best : Option Directive) (d : Directive) : Option Directive :=
  match best with
  | some b => if weight b < weight d then some d else some b
  | none => some d

/-- The directive that decides on `l`. -/
def deciding (f : Filter) (l : Line) : Option Directive :=
  (f.aboutLines.filter fun d => holds d l).foldl weightier none

/-- `l` gets through. -/
def admits (f : Filter) (l : Line) : Bool :=
  (f.deciding l).any fun d => d.verbosity.admits l.severity

end Filter

end Funnel.Log
