import Funnel.Http.Headers

/-!
Headers that mean something on one connection only. They are dropped whenever a message crosses
from one connection to another: a fixed list, and what the message's own `Connection` values name.
On a request `TE: trailers` survives, the one value that the next hop may still act on.
-/

namespace Funnel.Http

/-- Which way a message travels. -/
inductive Direction where
  /-- From the local client to the origin. -/
  | request
  /-- From the origin to the local client. -/
  | response
deriving DecidableEq, Repr

/-- Names that never cross a hop. -/
def hopByHop : List Name :=
  ["connection", "proxy-connection", "keep-alive", "transfer-encoding", "upgrade",
    "proxy-authenticate", "proxy-authorization", "te"]

/-- The comma-separated elements of a value, trimmed. A value that holds a byte outside visible
ASCII, space and tab cannot be read and has none. -/
def elements (value : Bytes) : List Bytes :=
  if value.all isReadableByte then (splitAt 0x2C value).map trimBlanks else []

namespace Headers

/-- All elements of all values under `name`. -/
def elementsOf (h : Headers) (name : Name) : List Bytes := (h.values name).flatMap elements

/-- The names that `Connection` values list; elements that are no token name nothing. -/
def connectionNames (h : Headers) : List Name :=
  (h.elementsOf "connection").filterMap Name.ofBytes?

/-- Some `TE` value lists the token `trailers`, in letters of any case. -/
def acceptsTrailers (h : Headers) : Bool :=
  (h.elementsOf "te").any fun e => e.map toLower = Bytes.ofLatin "trailers"

/-- Without what belongs to one hop. -/
def stripHopByHop (h : Headers) (d : Direction) : Headers :=
  let listed := h.connectionNames
  let kept := h.removeIf fun n => listed.contains n || hopByHop.contains n
  if d = .request ∧ h.acceptsTrailers then kept.insert "te" (Bytes.ofLatin "trailers") else kept

end Headers

end Funnel.Http
