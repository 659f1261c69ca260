import Funnel.Director
import Funnel.Proofs.Uri

/-! What a director makes of requests. A host that passes the check of the configuration makes one,
whose own checks of the same text cannot fail. Whatever a request asks for, it then asks the origin
for the same, and only there; what earlier directors have made of it does not matter. -/

namespace Funnel

/-- A host is accepted as it is written, and can be the value of a header. -/
theorem Config.checkHost_eq_ok {host : String} {a : Uri.Authority} (h : checkHost host = .ok a) :
    a = ⟨host⟩ ∧ ∀ c ∈ host.toList, Http.isValueChar c := by
  unfold checkHost at h
  split at h
  · cases h
  · split at h
    next b read =>
      cases h
      obtain ⟨authority, rfl⟩ := Uri.Authority.ofText?_eq_some read
      exact ⟨rfl, Uri.isValueChar_of_isAuthority authority⟩
    next => cases h

namespace Director

/-- The parts of the new URI always go together. -/
theorem uri?_eq (d : Director) (t : Uri.Target) :
    d.uri? t = some ⟨some "https", some d.authority, some t⟩ := Uri.ofParts?_whole _ _ _

/-- The checks of a director never refuse a host that the configuration's check has accepted. -/
theorem ofHost_eq (host : String) : ofHost host = (Config.checkHost host).map fun a => ⟨a⟩ := by
  cases checked : Config.checkHost host with
  | error p => simp [ofHost, checked, bind, Except.bind, Except.map]
  | ok a =>
    obtain ⟨rfl, valid⟩ := Config.checkHost_eq_ok checked
    have value : Http.valueOfText? host = some (Http.Bytes.ofText host) :=
      if_pos (List.all_eq_true.mpr valid)
    have root : uri? ⟨⟨host⟩⟩ .root = some (root ⟨⟨host⟩⟩) := uri?_eq _ _
    simp [ofHost, checked, value, root, bind, Except.bind, Except.map]

/-- The host's text is the authority, verbatim. -/
theorem authority_of_ofHost {host : String} {d : Director} (accepted : ofHost host = .ok d) :
    d.authority = ⟨host⟩ := by
  rw [ofHost_eq] at accepted
  cases checked : Config.checkHost host with
  | error p => rw [checked] at accepted; cases accepted
  | ok a =>
    rw [checked] at accepted
    cases accepted
    exact (Config.checkHost_eq_ok checked).1

/-! ### Requests on their way to the origin -/

open Http

variable {β : Type}

/-- `sent` is the request `r`, sent to `host` instead. -/
structure Retargeted (host : String) (r sent : Request β) : Prop where
  scheme : sent.uri.scheme = some "https"
  authority : sent.uri.authority = some ⟨host⟩
  own : ∀ t, r.uri.target = some t → sent.uri.target = some t
  root : r.uri.target = none → sent.uri.target = some ⟨"/", none⟩
  host : sent.headers.values "host" = [Bytes.ofText host]
  /-- All other fields stand as they stood. -/
  others : sent.headers.removeIf (· = "host") = r.headers.removeIf (· = "host")
  method : sent.method = r.method
  version : sent.version = r.version
  body : sent.body = r.body

theorem target_eq (d : Director) (uri : Uri) :
    d.target uri = ⟨some "https", some d.authority, some (uri.target.getD .root)⟩ := by
  rw [target, uri?_eq, Option.getD_some]

theorem toText_target (d : Director) (uri : Uri) :
    (d.target uri).toText =
      "https://" ++ d.authority.text ++ (uri.target.getD .root).toText := by
  rw [target_eq]
  rfl

/-- Every request is sent to the accepted host as it is, for what it asks for; the root of the host
never has to stand in for a URI that does not come about. -/
theorem retargeted_retarget (host : String) (d : Director) (accepted : ofHost host = .ok d)
    (r : Request β) :
    Retargeted host r (d.retarget r) ∧
      (∀ fallback : Uri,
        (d.uri? (r.uri.target.getD .root)).getD fallback = (d.retarget r).uri) ∧
      ∀ text, Uri.ofText? text = some r.uri → ∃ asked, Uri.Asks text.toList asked ∧
        (d.retarget r).uri.toText = "https://" ++ host ++ String.ofList asked := by
  have authority : d.authority = ⟨host⟩ := authority_of_ofHost accepted
  have uri : (d.retarget r).uri =
      ⟨some "https", some ⟨host⟩, some (r.uri.target.getD .root)⟩ := by
    rw [← authority]
    exact target_eq d r.uri
  refine ⟨?_, fun fallback => ?_, fun text read => ?_⟩
  · constructor
    case scheme => rw [uri]
    case authority => rw [uri]
    case own =>
      intro t own
      rw [uri, own]
      rfl
    case root =>
      intro none
      rw [uri, none]
      rfl
    case host =>
      change (r.headers.insert "host" d.host).values "host" = _
      rw [Headers.values_insert, if_pos rfl, Director.host, authority]
    case others => exact Headers.removeIf_insert r.headers d.host (by simp)
    case method => rfl
    case version => rfl
    case body => rfl
  · rw [uri?_eq, authority, uri, Option.getD_some]
  · have shown := toText_target d r.uri
    rw [authority] at shown
    refine ⟨_, Uri.asks_of_ofText? read, ?_⟩
    rw [String.ofList_toList]
    exact shown

/-- Headers and URI of another host, with a query behind no path at all. -/
theorem retargeted_retarget_rootless :
    let d : Director := ⟨⟨"build.example.com:8443"⟩⟩
    let text := "http://user@127.0.0.1:19080?x=1#top"
    let r : Request Bytes := {
      method := "PUT"
      uri := ⟨some "http", some ⟨"user@127.0.0.1:19080"⟩, some ⟨"", some "x=1"⟩⟩
      version := .http10
      headers := ⟨[⟨"host", Bytes.ofLatin "a"⟩, ⟨"x-a", Bytes.ofLatin "1"⟩,
        ⟨"host", Bytes.ofLatin "b"⟩, ⟨"x-a", Bytes.ofLatin "2"⟩]⟩
      body := [1, 2, 3] }
    ofHost "build.example.com:8443" = .ok d ∧ Uri.ofText? text = some r.uri ∧
      Retargeted "build.example.com:8443" r (d.retarget r) ∧
      ∃ asked, Uri.Asks text.toList asked ∧
        (d.retarget r).uri.toText =
          "https://" ++ "build.example.com:8443" ++ String.ofList asked := by
  intro d text r
  have accepted : ofHost "build.example.com:8443" = .ok d := rfl
  have read : Uri.ofText? text = some r.uri := by decide +kernel
  have sent := retargeted_retarget "build.example.com:8443" d accepted r
  exact ⟨accepted, read, sent.1, sent.2.2 text read⟩

/-! ### One director after another -/

theorem retarget_retarget (d e : Director) (r : Request β) :
    e.retarget (d.retarget r) = e.retarget r := by
  have uri : e.target (d.target r.uri) = e.target r.uri := by
    rw [target_eq, target_eq, target_eq]
    rfl
  have headers : (r.headers.insert "host" d.host).insert "host" e.host =
      r.headers.insert "host" e.host := Headers.insert_insert r.headers "host" d.host e.host
  simp only [retarget]
  rw [uri, headers]

/-- A director changes nothing more in a request of its own, and makes of another director's what it
would have made of the request itself, however many directors there were before. -/
theorem last_director_decides (d e : Director) (r : Request β) :
    d.retarget (d.retarget r) = d.retarget r ∧
      e.retarget (d.retarget r) = e.retarget r ∧
      ∀ earlier : List Director,
        e.retarget (earlier.foldl (fun r d => d.retarget r) r) = e.retarget r := by
  refine ⟨retarget_retarget d d r, retarget_retarget d e r, fun earlier => ?_⟩
  induction earlier generalizing r with
  | nil => rfl
  | cons first earlier ih =>
    rw [List.foldl_cons, ih, retarget_retarget]

end Director

end Funnel
