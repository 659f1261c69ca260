import Funnel.Uri.Basic
import Funnel.Http.Headers

/-!
Requests and responses, with a body of any type, and the frames that a streamed body is made of.
-/

namespace Funnel.Http

inductive Version where
  | http09
  | http10
  | http11
  | http2
  | http3
deriving DecidableEq, Repr

def Version.toText : Version → String
  | .http09 => "HTTP/0.9"
  | .http10 => "HTTP/1.0"
  | .http11 => "HTTP/1.1"
  | .http2 => "HTTP/2.0"
  | .http3 => "HTTP/3.0"

def Version.ofText? (s : String) : Option Version :=
  [.http09, .http10, .http11, .http2, .http3].find? (·.toText = s)

/-- A method, letters as the client wrote them. -/
abbrev Method := String

structure Request (Body : Type) where
  method : Method
  uri : Uri
  version : Version
  headers : Headers
  body : Body
deriving DecidableEq, Repr

structure Response (Body : Type) where
  status : Nat
  version : Version
  headers : Headers
  body : Body
deriving DecidableEq, Repr

/-- One piece of a streamed body. -/
inductive Frame where
  | data (bytes : Bytes)
  | trailers (fields : Headers)
deriving DecidableEq, Repr

end Funnel.Http
