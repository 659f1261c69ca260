import Funnel.Fault.Basic
import Funnel.Forward.Failure

/-!
Errors of the pooled client, and what each says about a forward. A deadline on connecting wins
over a TLS fault, and that over the client's own stage; only then it counts how the exchange ended.
-/

namespace Funnel.Forward

/-- What the client was doing when it failed. -/
inductive Stage where
  | connect
  | sendRequest
  | canceled
  | unsupportedVersion
  | absoluteUriRequired
  | unsupportedMethod
deriving DecidableEq, Repr

def Stage.name : Stage → String
  | connect => "Connect"
  | sendRequest => "SendRequest"
  | canceled => "Canceled"
  | unsupportedVersion => "UserUnsupportedVersion"
  | absoluteUriRequired => "UserAbsoluteUriRequired"
  | unsupportedMethod => "UserUnsupportedRequestMethod"

/-- An error of the client: the stage, and the fault behind it if there is one. -/
structure ClientError where
  stage : Stage
  source : Option Fault
deriving DecidableEq, Repr

/-- `text` behind what is told already, unless that ends with it. -/
def tell (told text : String) : String :=
  if text.toList.isSuffixOf told.toList then told else told ++ ": " ++ text

namespace ClientError

def message (e : ClientError) : String := "client error (" ++ e.stage.name ++ ")"

/-- The whole chain behind the client's own error. -/
def chain (e : ClientError) : List Node :=
  match e.source with
  | some f => f.toList
  | none => []

/-- The error and its sources on one line. -/
def describe (e : ClientError) : String :=
  match e.source with
  | some f => f.texts.foldl tell e.message
  | none => e.message

def find {α : Type} (e : ClientError) (p : Node → Option α) : Option α :=
  e.source.bind (·.find p)

/-- The outermost HTTP fault, or the outermost input or output error, says that the other side
ended the connection. -/
def saysClosed (e : ClientError) : Bool :=
  (e.find Node.http?).any (·.saysClosed) || (e.find Node.ioKind?).any (·.saysClosed)

/-- What a client error means for the forward. -/
def toFailure (e : ClientError) : Failure :=
  match e.find Node.connectTimeout? with
  | some d => .connectTimeout d
  | none =>
    if (e.find Node.tls?).isSome then .tls e.describe
    else if e.stage = .connect then .connect e.describe
    else if e.saysClosed then .closed e.describe
    else .protocol e.describe

end ClientError

end Funnel.Forward
