import CloudControl.Proofs.Client.Fallback
import CloudControl.Proofs.Json.RoundTrip
import CloudControl.Simulator.Server

/-!
# Envelopes

The server and the client agree on how a reply is wrapped (`unwrap_answer`): a content comes out
as it went in, and an error comes out with the code and the text that it was made of. The client
looks for the member named after its command and takes the only member there is otherwise, so
that it does not matter what name the server answers under, nor how often the name has been put
into small letters.
-/

namespace CloudControl

open Simulator

/-- The body of an answer is read back as it was printed. -/
def Simulator.Answer.IsReadBack (a : Answer) : Prop :=
  Json.parse? a.body.compact = some a.body

instance (a : Answer) : Decidable a.IsReadBack :=
  inferInstanceAs (Decidable (_ = _))

/-- A reply whose content is printed without loss is read back. -/
theorem Simulator.Answer.isReadBack_reply {content : Json} (h : content.isExact 126 = true)
    (name : String) (status : Nat) : (Answer.reply name status content).IsReadBack :=
  Json.parse?_compact (Json.isExact_object_iff.mpr
    ⟨126, rfl, List.pairwise_singleton _ _, List.forall_mem_singleton.mpr h⟩)

namespace Envelope

variable {command name text : String} {content : Json} {code : Nat}

/-- The content of a reply is found in its envelope. -/
theorem find?_envelope (command name : String) (content : Json) :
    find? command (.object [(responseKey name, content)]) = some content := by
  have hends : Text.endsIn (responseKey name) keyEnding = true := by
    rw [Text.endsIn, responseKey, String.toList_append, List.isSuffixOf_iff_suffix]
    exact List.suffix_append _ _
  by_cases hkey : responseKey command = responseKey name
  · simp only [find?, hkey, List.lookup_cons_self]
  · simp only [find?, List.lookup_cons, beq_eq_false_iff_ne.mpr hkey, List.lookup_nil, hends,
      if_true]

/-- A content in an envelope that reports no error is taken out of it. -/
theorem unwrap_of_parse? {body : String}
    (h : Json.parse? body = some (.object [(responseKey name, content)]))
    (hcode : (content.get? errorCodeKey).bind code? = none) :
    unwrap command 200 body = .ok content := by
  rw [unwrap, h]
  simp only [find?_envelope, Option.bind_some, hcode]
  rfl

/-- The content of a reply that reports no error is taken out of its envelope. -/
theorem unwrap_reply (hback : (Answer.reply name 200 content).IsReadBack)
    (hcode : (content.get? errorCodeKey).bind code? = none) :
    unwrap command 200 (Answer.reply name 200 content).body.compact = .ok content :=
  unwrap_of_parse? hback hcode

/-- An item is read just if its reader reads it. -/
theorem decode_eq_ok_iff {α : Type} {read : Schema.Reader α} {item : Json} {v : α} :
    decode command read item = .ok v ↔ read item = .ok v := by
  rw [decode]
  cases read item <;> simp

/-! ## Errors -/

/-- The code of an error is the status that it is sent with. -/
theorem errorCode_errorContent (code : Nat) (text : String) :
    (Answer.errorContent code text).get? errorCodeKey = some (.ofNat code) :=
  Json.get?_ofMembers [("uuidList", .array [])] errorCodeKey (.ofNat code)
    (by simp [errorCodeKey])

/-- Every error has the same code within the server. -/
theorem csErrorCode_errorContent (code : Nat) (text : String) :
    (Answer.errorContent code text).get? csErrorCodeKey = some (.ofNat Answer.csErrorCode) :=
  Json.get?_ofMembers [("uuidList", .array []), ("errorcode", .ofNat code)] csErrorCodeKey
    (.ofNat Answer.csErrorCode) (by simp [csErrorCodeKey])

/-- The text of an error is the one that it was made of. -/
theorem errorText_errorContent (code : Nat) (text : String) :
    (Answer.errorContent code text).get? errorTextKey = some (.string text) :=
  Json.get?_ofMembers [("uuidList", .array []), ("errorcode", .ofNat code),
    ("cserrorcode", .ofNat Answer.csErrorCode)] errorTextKey (.string text) (by decide)

/-- The code of a status is read as it was written. -/
theorem code?_ofNat (h : code ≤ 999) : code? (.ofNat code) = some (code : Int) := by
  have hmin : Text.Numeral.minSigned 32 ≤ (code : Int) := by
    have : Text.Numeral.minSigned 32 = -2147483648 := by decide
    omega
  have hmax : (code : Int) ≤ Text.Numeral.maxSigned 32 := by
    have : Text.Numeral.maxSigned 32 = 2147483647 := by decide
    omega
  exact if_pos ⟨hmin, hmax⟩

/-- The status of an error is its code, whether or not the code is one of success. -/
theorem errorStatus_self (code : Nat) : errorStatus code (some (code : Int)) = code := by
  rw [errorStatus]
  split
  · exact Int.toNat_natCast code
  · rfl

/-- What a client makes of the content of an error. -/
theorem apiError_errorContent (hcode : code ≤ 999) (body : String) :
    apiError command code (some (Answer.errorContent code text)) body =
      ⟨command, code, some (code : Int), some (Answer.csErrorCode : Int), text,
        classify code text⟩ := by
  have herror : ((some (Answer.errorContent code text)).bind (·.get? errorCodeKey)).bind code? =
      some (code : Int) := by
    rw [Option.bind_some, errorCode_errorContent, Option.bind_some, code?_ofNat hcode]
  have hcs : ((some (Answer.errorContent code text)).bind (·.get? csErrorCodeKey)).bind code? =
      some (Answer.csErrorCode : Int) := by
    rw [Option.bind_some, csErrorCode_errorContent, Option.bind_some]
    rfl
  have htext : errorText (some (Answer.errorContent code text)) body = text := by
    rw [errorText, Option.bind_some, errorText_errorContent]
    rfl
  rw [apiError, herror, hcs, htext, errorStatus_self]

/-- An error is reported as it was made, also under a status of success. -/
theorem unwrap_error (hback : (Answer.error name code text).IsReadBack) (hcode : code ≤ 999) :
    unwrap command code (Answer.error name code text).body.compact =
      .error (.api ⟨command, code, some (code : Int), some (Answer.csErrorCode : Int), text,
        classify code text⟩) := by
  let r : Reply := ⟨code, [], (Answer.error name code text).body.compact⟩
  have hinner : r.inner? command = some (Answer.errorContent code text) := by
    show (Json.parse? _).bind (find? command) = _
    rw [hback]
    exact find?_envelope command name _
  -- Also under a status of success, the code in the content tells that it is an error.
  have hreports : r.ReportsError command := by
    refine .inr ?_
    show ((((r.inner? command).bind (·.get? errorCodeKey)).bind code?)).isSome = true
    rw [hinner, Option.bind_some, errorCode_errorContent, Option.bind_some, code?_ofNat hcode]
    rfl
  rw [unwrap_of_reportsError (r := r) hreports, hinner, apiError_errorContent hcode]

/-! ## Both sides of an envelope -/

/-- The client takes out of an envelope what the server put in: a content that has no error code,
also if the server has the name of the command in small letters; and an error with its code, the
code within the server and its text, also if the server answers under another name. -/
theorem unwrap_answer (command name text : String) (content : Json) {code : Nat}
    (hcode : code ≤ 999) :
    ((content.get? errorCodeKey).bind code? = none →
      (Answer.reply (Text.lowercase command) 200 content).IsReadBack →
        unwrap command 200 (Answer.reply (Text.lowercase command) 200 content).body.compact =
          .ok content) ∧
      ((Answer.error name code text).IsReadBack →
        unwrap command code (Answer.error name code text).body.compact =
          .error (.api ⟨command, code, some (code : Int), some 9999, text, classify code text⟩)) :=
  ⟨fun hnone hback ↦ unwrap_reply hback hnone, fun hback ↦ unwrap_error hback hcode⟩

/-- The replies to a command in mixed letter case, and an error under the status of a reply without
content to a request without a command. -/
theorem unwrap_answer_mixed_case :
    unwrap "listİso" 200
        (Answer.reply (Text.lowercase "listİso") 200 (.object [("count", .ofNat 1)])).body.compact =
        .ok (.object [("count", .ofNat 1)]) ∧
      unwrap "listZones" 204 (Answer.error "api" 204 "no \"command\" given").body.compact =
        .error (.api ⟨"listZones", 204, some 204, some 9999, "no \"command\" given", .server⟩) :=
  ⟨(unwrap_answer "listİso" "api" "" _ (by decide : 204 ≤ 999)).1 rfl (by decide +kernel),
    (unwrap_answer "listZones" "api" "no \"command\" given" .null (by decide : 204 ≤ 999)).2
      (by decide +kernel)⟩

end Envelope

end CloudControl
