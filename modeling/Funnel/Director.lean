import Funnel.Config.Check
import Funnel.Http.Message

/-!
Pointing requests at the origin. Scheme, authority and the `Host` header change; method, path,
query, all other headers and the body stay.
-/

namespace Funnel

open Http

/-- The one authority that every request goes to. -/
structure Director where
  authority : Uri.Authority
deriving DecidableEq, Repr

namespace Director

/-- The URI of a target on the origin. -/
def uri? (d : Director) (target : Uri.Target) : Option Uri :=
  Uri.ofParts? (some "https") (some d.authority) (some target)

/-- The director for a configured host, if that is acceptable: as a host, as a value of the `Host`
header, and as the authority of a URI. -/
def ofHost (host : String) : Except Config.Problem Director := do
  let d : Director := ⟨← Config.checkHost host⟩
  match valueOfText? d.authority.text, d.uri? .root with
  | some _, some _ => .ok d
  | _, _ => .error (.originHost host)

/-- The value of the `Host` header. -/
def host (d : Director) : Bytes := Bytes.ofText d.authority.text

/-- The root of the origin. -/
def root (d : Director) : Uri := ⟨some "https", some d.authority, some .root⟩

/-- `uri` on the origin. A URI without path and query means the root there. -/
def target (d : Director) (uri : Uri) : Uri := (d.uri? (uri.target.getD .root)).getD d.root

/-- The request as it goes to the origin. -/
def retarget {β : Type} (d : Director) (r : Request β) : Request β :=
  { r with
    uri := d.target r.uri
    headers := r.headers.insert "host" d.host }

end Director

end Funnel
