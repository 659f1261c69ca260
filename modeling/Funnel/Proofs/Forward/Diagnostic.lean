import Funnel.Forward.ClientError
import Funnel.Forward.Pipeline
import Funnel.Proofs.Fault

/-! What the local client reads about an error of the pooled client: every text of its chain, also
that of a fault inside a wrapper, in one line that starts with the error's own. -/

namespace Funnel

namespace Http.Bytes

theorem toList_loop (bytes : ByteArray) (i : Nat) (read : List UInt8) :
    ByteArray.toList.loop bytes i read = read.reverse ++ bytes.data.toList.drop i := by
  fun_induction ByteArray.toList.loop bytes i read with
  | case1 i read more ih =>
    have unread : bytes.data.toList.drop i = bytes.get! i :: bytes.data.toList.drop (i + 1) := by
      rw [List.drop_eq_getElem_cons (i := i) (by simpa using more)]
      simp [ByteArray.get!, more]
    rw [ih, unread]
    simp
  | case2 i read done_ =>
    rw [List.drop_eq_nil_of_le (by simpa using done_)]
    simp

theorem ofText_append (s t : String) : ofText (s ++ t) = ofText s ++ ofText t := by
  simp [ofText, ByteArray.toList, toList_loop]

end Http.Bytes

namespace Forward

open Http

/-! ### Telling -/

theorem prefix_tell (told text : String) : told.toList <+: (tell told text).toList := by
  unfold tell
  split
  · exact List.prefix_refl _
  · rw [String.toList_append, String.toList_append, List.append_assoc]
    exact List.prefix_append _ _

theorem suffix_tell (told text : String) : text.toList <:+ (tell told text).toList := by
  unfold tell
  split
  next ends => exact List.isSuffixOf_iff_suffix.mp ends
  next =>
    rw [String.toList_append]
    exact List.suffix_append _ _

theorem prefix_foldl_tell (texts : List String) (told : String) :
    told.toList <+: (texts.foldl tell told).toList := by
  induction texts generalizing told with
  | nil => exact List.prefix_refl _
  | cons text rest ih => exact (prefix_tell told text).trans (ih _)

/-- Nothing is lost: a text that is not told again is at the end of what is told already. -/
theorem infix_foldl_tell {texts : List String} {text : String} (there : text ∈ texts)
    (told : String) : text.toList <:+: (texts.foldl tell told).toList := by
  induction texts generalizing told with
  | nil => cases there
  | cons first rest ih =>
    cases there with
    | head => exact (suffix_tell told text).isInfix.trans (prefix_foldl_tell rest _).isInfix
    | tail _ there => exact ih there _

namespace ClientError

theorem message_prefix_describe (e : ClientError) : e.message.toList <+: e.describe.toList := by
  unfold describe
  cases e.source with
  | none => exact List.prefix_refl _
  | some f => exact prefix_foldl_tell f.texts e.message

theorem infix_describe {e : ClientError} {f g : Fault} (source : e.source = some f)
    (within : g.Within f) : g.message.toList <:+: e.describe.toList := by
  rw [describe, source]
  exact infix_foldl_tell within.message_mem_texts e.message

/-- But for a timeout, the reason of a failure is some words, and then the whole description. -/
theorem message_toFailure {e : ClientError} (detailed : e.toFailure.isTimeout = false) :
    ∃ words, e.toFailure.message = words ++ e.describe := by
  revert detailed
  unfold toFailure
  split
  · exact nofun
  · intro _
    split
    · exact ⟨_, rfl⟩
    · split
      · exact ⟨_, rfl⟩
      · split <;> exact ⟨_, rfl⟩

end ClientError

/-! ### The answer to the client -/

/-- The client reads the status, its name, the reason and a line end, in one piece. -/
theorem polled_failure (f : Failure) :
    (inbound (.error f)).body.polled =
      [.ok (.data (Bytes.ofText (GatewayFailure.ofFailure f).text))] := by
  have some_ : Bytes.ofText (GatewayFailure.ofFailure f).text ≠ [] := by
    intro nothing
    rw [GatewayFailure.text, Bytes.ofText_append] at nothing
    exact absurd (List.append_eq_nil_iff.mp nothing).2 (by decide +kernel)
  change (Stream.carry (Stream.ofBytes (Bytes.ofText (GatewayFailure.ofFailure f).text))).polled = _
  rw [Stream.ofBytes, if_neg some_]
  rfl

theorem reason_infix_text (g : GatewayFailure) :
    Bytes.ofText g.reason <:+: Bytes.ofText g.text := by
  unfold GatewayFailure.text
  simp only [Bytes.ofText_append]
  exact ⟨_, _, rfl⟩

/-- No cause is lost. Unless a client error comes to a timeout, the line about it starts with its
own text and holds that of every fault within its chain, and the client reads the whole line as
part of the reason. -/
theorem causes_reach_client (e : ClientError) (detailed : e.toFailure.isTimeout = false) :
    e.message.toList <+: e.describe.toList ∧
      (∀ f, e.source = some f → ∀ g : Fault, g.Within f →
        g.message.toList <:+: e.describe.toList) ∧
      e.describe.toList <:+: (GatewayFailure.ofFailure e.toFailure).reason.toList ∧
      ∃ body, (inbound (.error e.toFailure)).body.polled = [.ok (.data body)] ∧
        Bytes.ofText e.describe <:+: body := by
  obtain ⟨words, reason⟩ := ClientError.message_toFailure detailed
  refine ⟨e.message_prefix_describe, fun f source g within =>
    ClientError.infix_describe source within, ?_, _, polled_failure e.toFailure, ?_⟩
  · change e.describe.toList <:+: e.toFailure.message.toList
    rw [reason, String.toList_append]
    exact (List.suffix_append _ _).isInfix
  · have told : Bytes.ofText e.describe <:+: Bytes.ofText e.toFailure.message := by
      rw [reason, Bytes.ofText_append]
      exact (List.suffix_append _ _).isInfix
    exact told.trans (reason_infix_text (GatewayFailure.ofFailure e.toFailure))

/-- Behind a wrapper, a text that ends with the next one, and an empty text in another wrapper. -/
theorem causes_reach_client_wrapped :
    let inner : Fault := .causedBy (.text "refused") (.wrapping .invalidData (.last (.text "")))
    let f : Fault := .causedBy (.http .connection)
      (.wrapping .other (.causedBy (.text "proxy: refused") inner))
    let e : ClientError := ⟨.sendRequest, some f⟩
    e.toFailure.isTimeout = false ∧
      e.describe = "client error (SendRequest): connection error: proxy: refused" ∧
      inner.Within f ∧ inner.message.toList <:+: e.describe.toList ∧
      ∃ body, (inbound (.error e.toFailure)).body.polled = [.ok (.data body)] ∧
        Bytes.ofText e.describe <:+: body := by
  intro inner f e
  have detailed : e.toFailure.isTimeout = false := by decide +kernel
  have described : e.describe = "client error (SendRequest): connection error: proxy: refused" := by
    decide +kernel
  have within : inner.Within f := .causedBy (.wrapping (.causedBy .self))
  obtain ⟨-, causes, -, read⟩ := causes_reach_client e detailed
  exact ⟨detailed, described, within, causes f rfl inner within, read⟩

end Forward

end Funnel
