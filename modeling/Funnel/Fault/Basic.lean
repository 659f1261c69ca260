import Funnel.Duration
import Funnel.Fault.Errno

/-!
Faults: chains of causes, the outermost first. One kind of link is easy to miss: an input or output
error may wrap another fault, and then it shows the text of the wrapped one and names as its source
what the wrapped one names, so the wrapped fault itself is no source of anything. `find` looks
inside such wrappers; `toList` is the whole chain, every link followed.
-/

namespace Funnel

/-- What a TLS library reports. -/
inductive TlsFault where
  /-- The peer's certificate is not acceptable. -/
  | certificate (why : String)
  /-- The peer ended the handshake with an alert. -/
  | alert (name : String)
  | noProtocol
  | cannotDecrypt
  | general (why : String)
deriving DecidableEq, Repr

def TlsFault.message : TlsFault → String
  | certificate why => "invalid peer certificate: " ++ why
  | alert name => "received fatal alert: " ++ name
  | noProtocol => "peer doesn't support any known protocol"
  | cannotDecrypt => "cannot decrypt peer's message"
  | general why => "unexpected error: " ++ why

/-- What the HTTP side of an exchange reports. -/
inductive HttpFault where
  /-- The exchange was given up before it was sent. -/
  | canceled
  /-- Nobody is there any more to take the message. -/
  | channelClosed
  /-- The connection ended inside a message. -/
  | incompleteMessage
  | unexpectedMessage
  | connection
  | writingBody
  | readingUserBody
  | badVersion
  | badStatus
  | badHeader
  | headTooLarge
  | badTransferEncoding
  | badContentLength
  | http2
deriving DecidableEq, Repr

namespace HttpFault

def message : HttpFault → String
  | canceled => "operation was canceled"
  | channelClosed => "channel closed"
  | incompleteMessage => "connection closed before message completed"
  | unexpectedMessage => "received unexpected message from connection"
  | connection => "connection error"
  | writingBody => "error writing a body to connection"
  | readingUserBody => "error from user's Body stream"
  | badVersion => "invalid HTTP version parsed"
  | badStatus => "invalid HTTP status-code parsed"
  | badHeader => "invalid HTTP header parsed"
  | headTooLarge => "message head is too large"
  | badTransferEncoding => "unexpected transfer-encoding parsed"
  | badContentLength => "invalid content-length parsed"
  | http2 => "http2 error"

/-- Faults that say that the other side ended the exchange. -/
def saysClosed : HttpFault → Bool
  | canceled | channelClosed | incompleteMessage => true
  | _ => false

end HttpFault

/-- One link of a chain. -/
inductive Node where
  | text (message : String)
  | io (kind : IoKind)
  | os (code : Int)
  | tls (fault : TlsFault)
  /-- A connection was not up within the given time. -/
  | connectTimeout (after : Duration)
  | http (fault : HttpFault)
deriving DecidableEq, Repr

namespace Node

def message : Node → String
  | text m => m
  | io k => k.description
  | os code => Errno.message code
  | tls f => f.message
  | connectTimeout d => "connecting to upstream timed out after " ++ d.toText
  | http f => f.message

/-- The kind of an input or output error. -/
def ioKind? : Node → Option IoKind
  | io k => some k
  | os code => some (Errno.kind code)
  | _ => none

def tls? : Node → Option TlsFault
  | tls f => some f
  | _ => none

def connectTimeout? : Node → Option Duration
  | connectTimeout d => some d
  | _ => none

def http? : Node → Option HttpFault
  | http f => some f
  | _ => none

end Node

/-- A chain of causes. -/
inductive Fault where
  | last (node : Node)
  | causedBy (node : Node) (source : Fault)
  /-- An input or output error of the given kind around another fault. -/
  | wrapping (kind : IoKind) (inner : Fault)
deriving DecidableEq, Repr

namespace Fault

/-- The outermost link. -/
def head : Fault → Node
  | last n => n
  | causedBy n _ => n
  | wrapping k _ => .io k

/-- The text that a fault shows; a wrapper shows that of what it wraps. -/
def message : Fault → String
  | last n => n.message
  | causedBy n _ => n.message
  | wrapping _ inner => inner.message

/-- The cause that a fault names; a wrapper names that of what it wraps. -/
def source : Fault → Option Fault
  | last _ => none
  | causedBy _ s => some s
  | wrapping _ inner => inner.source

/-- All links, through sources and wrappers alike, the outermost first. -/
def toList : Fault → List Node
  | last n => [n]
  | causedBy n s => n :: s.toList
  | wrapping k inner => .io k :: inner.toList

theorem sizeOf_source_lt {f s : Fault} (h : f.source = some s) : sizeOf s < sizeOf f := by
  induction f with
  | last n => simp [source] at h
  | causedBy n t =>
    simp only [source, Option.some.injEq] at h
    subst h
    simp only [causedBy.sizeOf_spec]
    omega
  | wrapping k i ih => have := ih h; simp only [wrapping.sizeOf_spec]; omega

/-- What the first link yields on which `p` yields anything: the fault itself, then what it wraps
with all of its own chain, then the chain that starts at its source. -/
def find {α : Type} (p : Node → Option α) (f : Fault) : Option α :=
  match p f.head with
  | some a => some a
  | none =>
    match f with
    | last _ => none
    | causedBy _ s => s.find p
    | wrapping _ inner =>
      match inner.find p with
      | some a => some a
      | none =>
        match h : inner.source with
        | some s =>
          have := sizeOf_source_lt h
          s.find p
        | none => none
termination_by sizeOf f
decreasing_by
  all_goals simp_wf
  all_goals omega

/-- The texts of a fault and of the sources behind it. -/
def texts : Fault → List String
  | last n => [n.message]
  | causedBy n s => n.message :: s.texts
  | wrapping _ inner => inner.texts

/-- A fault behind a carrier that shows the same text. -/
def carried (f : Fault) : Fault := causedBy (.text f.message) f

/-- The kind of a fault where an input or output error is needed: its own if it is one. -/
def ioKind (f : Fault) : IoKind := f.head.ioKind?.getD .other

/-- A fault as an input or output error: as it is if it is one, else wrapped. -/
def asIo (f : Fault) : Fault :=
  match f.head.ioKind? with
  | some _ => f
  | none => wrapping .other f

end Fault

end Funnel
