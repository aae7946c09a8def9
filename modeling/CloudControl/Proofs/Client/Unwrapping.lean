import CloudControl.Proofs.Client.Fallback
import CloudControl.Proofs.Text.Numeral

/-!
# What a body is taken for

A body that comes with a status is a reply, an error that the server reports, no JSON, or JSON that
wraps no reply. `Envelope.outcome_unwrap` says when it is which: by the status, by what the body
wraps, and by the error code in it, if it is one that can be read. A reply that fails by its status
is never taken for data, whatever its body holds.

The error itself is described member by member (`Envelope.Reports`), and there is only one that
fits the description (`Envelope.Reports.unique`).
-/

namespace CloudControl.Envelope

/-- A body wraps a reply to a command: under the name of the command, or, where nothing stands under
that, under the only name that there is, which must end like that of a reply. -/
inductive Wraps (command : String) : Json → Json → Prop where
  | named {members : List (String × Json)} {reply : Json}
      (h : members.lookup (Text.lowercase command ++ "response") = some reply) :
      Wraps command (.object members) reply
  | lone {name : String} {reply : Json} (hother : name ≠ Text.lowercase command ++ "response")
      (hending : "response".toList <:+ name.toList) : Wraps command (.object [(name, reply)]) reply

/-- A value is read as a code of 32 bits: it is a whole number, or the text of one between
blanks. -/
inductive IsCode : Json → Int → Prop where
  | number {i : Int} (hmin : -2147483648 ≤ i) (hmax : i ≤ 2147483647) : IsCode (.ofInt i) i
  | text {s : String} {i : Int} {front numeral back : List Char}
      (hs : s.toList = front ++ numeral ++ back)
      (hblank : ∀ c ∈ front ++ back, Text.isBlank c = true)
      (hnumeral : Text.Numeral.Writes numeral i) (hmin : -2147483648 ≤ i)
      (hmax : i ≤ 2147483647) : IsCode (.string s) i

/-- A text is JSON that wraps a reply to a command. -/
def Holds (command body : String) (reply : Json) : Prop :=
  ∃ parsed, Json.parse? body = some parsed ∧ Wraps command parsed reply

/-- The reply in a text has a code under a name. -/
def HasCode (command body name : String) (code : Int) : Prop :=
  ∃ reply value, Holds command body reply ∧ reply.get? name = some value ∧ IsCode value code

/-- A body with a status reports an error, by the status or by an error code. -/
def Fails (command : String) (status : Nat) (body : String) : Prop :=
  isSuccess status = false ∨ ∃ code, HasCode command body "errorcode" code

/-- The error that a body with a status reports. -/
structure Reports (command : String) (status : Nat) (body : String) (e : ApiError) : Prop where
  command_eq : e.command = command
  /-- A status of success gives way to the error code, if that is a number of sixteen bits. -/
  status_eq_code : isSuccess status = true → ∀ code, HasCode command body errorCodeKey code →
    0 ≤ code → code ≤ 65535 → (e.status : Int) = code
  status_eq : (isSuccess status = true → ∀ code, HasCode command body errorCodeKey code →
    ¬ (0 ≤ code ∧ code ≤ 65535)) → e.status = status
  errorCode_iff : ∀ code, e.errorCode = some code ↔ HasCode command body errorCodeKey code
  csErrorCode_iff : ∀ code, e.csErrorCode = some code ↔ HasCode command body csErrorCodeKey code
  text_eq : ∀ reply text, Holds command body reply →
    reply.get? errorTextKey = some (.string text) → e.text = text
  /-- Without a text of its own, the error has the start of the body for one. -/
  text_eq_start : (∀ reply text, Holds command body reply →
    reply.get? errorTextKey ≠ some (.string text)) → e.text = String.ofList (body.toList.take 512)
  kind_eq : e.kind = classify e.status e.text

variable {command : String} {status : Nat} {body name : String}

/-! ## Replies and codes -/

/-- The reply in a body is the one that the body wraps. -/
theorem find?_eq_some_iff {parsed reply : Json} :
    find? command parsed = some reply ↔ Wraps command parsed reply := by
  constructor
  · intro h
    unfold find? at h
    split at h
    · split at h
      · next hlookup => exact Option.some.inj h ▸ .named hlookup
      · next hnone =>
        split at h
        · next key inner =>
          split at h
          · next hends =>
            have hother : key ≠ responseKey command := by
              rintro rfl
              exact absurd (hnone.symm.trans List.lookup_cons_self) nofun
            exact Option.some.inj h ▸ .lone hother (List.isSuffixOf_iff_suffix.mp hends)
          · cases h
        · cases h
    · cases h
  · rintro (hlookup | ⟨hother, hending⟩)
    · simp only [find?, responseKey, hlookup]
    · have hnone : (responseKey command == _) = false := beq_eq_false_iff_ne.mpr hother.symm
      simp only [find?, List.lookup_cons, hnone, List.lookup_nil, Text.endsIn,
        List.isSuffixOf_iff_suffix.mpr hending, keyEnding, if_true]

/-- A code is read from a value just if it is the code of the value. -/
theorem code?_eq_some_iff {value : Json} {code : Int} :
    code? value = some code ↔ IsCode value code := by
  have hmin : Text.Numeral.minSigned 32 = -2147483648 := by decide
  have hmax : Text.Numeral.maxSigned 32 = 2147483647 := by decide
  constructor
  · intro h
    unfold code? at h
    split at h
    · next n =>
      cases n with
      | float x => cases h
      | int i =>
        obtain ⟨⟨hleast, hmost⟩, hcode⟩ := Option.ite_none_right_eq_some.mp h
        obtain rfl := Option.some.inj hcode
        exact .number (hmin ▸ hleast) (hmax ▸ hmost)
    · obtain ⟨⟨front, numeral, back, hs, hblank, hnumeral⟩, hleast, hmost⟩ :=
        Text.intOfBits?_trim_eq_some_iff.mp h
      exact .text hs hblank hnumeral (hmin ▸ hleast) (hmax ▸ hmost)
    · cases h
  · rintro (⟨hleast, hmost⟩ | ⟨hs, hblank, hnumeral, hleast, hmost⟩)
    · exact if_pos ⟨hmin.symm ▸ hleast, hmax.symm ▸ hmost⟩
    · exact Text.intOfBits?_trim_eq_some_iff.mpr
        ⟨⟨_, _, _, hs, hblank, hnumeral⟩, hmin.symm ▸ hleast, hmax.symm ▸ hmost⟩

/-- The reply in a text is the one that the text holds. -/
theorem inner?_eq_some_iff {reply : Json} :
    (Json.parse? body).bind (find? command) = some reply ↔ Holds command body reply := by
  simp only [Option.bind_eq_some_iff, find?_eq_some_iff, Holds]

/-- A text holds at most one reply. -/
theorem Holds.unique {reply other : Json} (h : Holds command body reply)
    (hother : Holds command body other) : reply = other :=
  Option.some.inj ((inner?_eq_some_iff.mpr h).symm.trans (inner?_eq_some_iff.mpr hother))

/-- A text that holds a reply is JSON. -/
theorem Holds.parse?_ne_none {reply : Json} (h : Holds command body reply) :
    Json.parse? body ≠ none := by
  obtain ⟨parsed, hparse, _⟩ := h
  rw [hparse]
  exact nofun

/-- A code is read from the reply in a text just if the reply has it. -/
theorem code?_inner_eq_some_iff {code : Int} :
    ((((Json.parse? body).bind (find? command)).bind (·.get? name)).bind code?) = some code ↔
      HasCode command body name code := by
  simp only [Option.bind_eq_some_iff (x := Option.bind _ _), inner?_eq_some_iff,
    code?_eq_some_iff, HasCode]
  constructor
  · rintro ⟨value, ⟨reply, hholds, hvalue⟩, hcode⟩
    exact ⟨reply, value, hholds, hvalue, hcode⟩
  · rintro ⟨reply, value, hholds, hvalue, hcode⟩
    exact ⟨value, ⟨reply, hholds, hvalue⟩, hcode⟩

/-- A reply reports an error by its status, or by an error code in its body. -/
theorem reportsError_iff (command : String) (r : Reply) :
    r.ReportsError command ↔ Fails command r.status r.body :=
  or_congr_right (Option.isSome_iff_exists.trans (exists_congr fun _ ↦ code?_inner_eq_some_iff))

/-! ## The error that is reported -/

/-- The error that is made of a body is the one that the body reports. -/
theorem reports_apiError (command : String) (status : Nat) (body : String) :
    Reports command status body
      (apiError command status ((Json.parse? body).bind (find? command)) body) where
  command_eq := rfl
  status_eq_code hsuccess code hcode hmin hmax := by
    show (errorStatus status (Option.bind _ code?) : Int) = code
    have hbits : code < 65536 := by omega
    rw [code?_inner_eq_some_iff.mpr hcode]
    simp only [errorStatus, hsuccess, hmin, hbits, decide_true, Bool.and_self, if_true]
    exact Int.toNat_of_nonneg hmin
  status_eq hnone := by
    show errorStatus status (Option.bind _ code?) = status
    cases hread : (((Json.parse? body).bind (find? command)).bind (·.get? errorCodeKey)).bind
        code? with
    | none => rfl
    | some code =>
      refine if_neg fun hfits ↦ ?_
      rw [Bool.and_eq_true, Bool.and_eq_true, decide_eq_true_eq, decide_eq_true_eq] at hfits
      obtain ⟨⟨hsuccess, hmin⟩, hbits⟩ := hfits
      exact hnone hsuccess code (code?_inner_eq_some_iff.mp hread) ⟨hmin, by omega⟩
  errorCode_iff _ := code?_inner_eq_some_iff
  csErrorCode_iff _ := code?_inner_eq_some_iff
  text_eq reply text hholds htext := by
    show errorText _ body = text
    rw [errorText, inner?_eq_some_iff.mpr hholds, Option.bind_some, htext]
    rfl
  text_eq_start hnone := by
    show errorText _ body = _
    unfold errorText
    cases hinner : (Json.parse? body).bind (find? command) with
    | none => rfl
    | some reply =>
      have hother := fun text ↦ hnone reply text (inner?_eq_some_iff.mp hinner)
      rw [Option.bind_some]
      cases hvalue : reply.get? errorTextKey with
      | none => rfl
      | some value =>
        cases value with
        | string text => exact absurd hvalue (hother text)
        | null | bool | number | array | object => rfl
  kind_eq := rfl

/-- A body reports at most one error. -/
theorem Reports.unique {e other : ApiError} (h : Reports command status body e)
    (hother : Reports command status body other) : e = other := by
  have hstatus : e.status = other.status := by
    by_cases hcode : isSuccess status = true ∧
        ∃ code, HasCode command body errorCodeKey code ∧ 0 ≤ code ∧ code ≤ 65535
    · obtain ⟨hsuccess, code, hcode, hmin, hmax⟩ := hcode
      exact Int.ofNat.inj ((h.status_eq_code hsuccess code hcode hmin hmax).trans
        (hother.status_eq_code hsuccess code hcode hmin hmax).symm)
    · have hnone : isSuccess status = true → ∀ code, HasCode command body errorCodeKey code →
          ¬ (0 ≤ code ∧ code ≤ 65535) := fun hsuccess code hread hfits ↦
        hcode ⟨hsuccess, code, hread, hfits⟩
      exact (h.status_eq hnone).trans (hother.status_eq hnone).symm
  have htext : e.text = other.text := by
    by_cases hown : ∃ reply text, Holds command body reply ∧
        reply.get? errorTextKey = some (.string text)
    · obtain ⟨reply, text, hholds, hvalue⟩ := hown
      have hsame := h.text_eq reply text hholds hvalue
      exact hsame.trans (hother.text_eq reply text hholds hvalue).symm
    · have hnone : ∀ reply text, Holds command body reply →
          reply.get? errorTextKey ≠ some (.string text) := fun reply text hholds hvalue ↦
        hown ⟨reply, text, hholds, hvalue⟩
      exact (h.text_eq_start hnone).trans (hother.text_eq_start hnone).symm
  have herror : e.errorCode = other.errorCode := Option.ext fun code ↦
    (h.errorCode_iff code).trans (hother.errorCode_iff code).symm
  have hcs : e.csErrorCode = other.csErrorCode := Option.ext fun code ↦
    (h.csErrorCode_iff code).trans (hother.csErrorCode_iff code).symm
  have hkind : e.kind = other.kind := by rw [h.kind_eq, hother.kind_eq, hstatus, htext]
  have hcommand : e.command = other.command := h.command_eq.trans hother.command_eq.symm
  cases e
  cases other
  simp_all

/-! ## The four outcomes -/

/-- What a body with a status may be taken for, and when it is. -/
structure Explains (command : String) (status : Nat) (body : String)
    (outcome : Except ClientError Json) : Prop where
  ok_iff : ∀ reply, outcome = .ok reply ↔
    isSuccess status = true ∧ Holds command body reply ∧
      ∀ code, ¬ HasCode command body "errorcode" code
  decode_iff : ∀ name cause, outcome = .error (.decode name cause) ↔
    (name = command ∧ cause = .notJson) ∧ isSuccess status = true ∧ Json.parse? body = none
  unexpectedReply_iff : ∀ name cause, outcome = .error (.unexpectedReply name cause) ↔
    (name = command ∧ cause = .noEnvelope (Text.lowercase command ++ "response")) ∧
      isSuccess status = true ∧ (∃ parsed, Json.parse? body = some parsed) ∧
        ∀ reply, ¬ Holds command body reply
  api_iff : ∀ e, outcome = .error (.api e) ↔
    Fails command status body ∧ Reports command status body e
  /-- There is nothing else that the body may be taken for. -/
  cases : (∃ reply, outcome = .ok reply) ∨ (∃ name cause, outcome = .error (.decode name cause)) ∨
    (∃ name cause, outcome = .error (.unexpectedReply name cause)) ∨
    ∃ e, outcome = .error (.api e)

/-- A body that reports an error is taken for it. -/
theorem explains_api {e : ApiError} (h : Fails command status body)
    (hreports : Reports command status body e) :
    Explains command status body (.error (.api e)) where
  ok_iff reply := iff_of_false nofun fun ⟨hsuccess, _, hnone⟩ ↦ by
    obtain ⟨code, hcode⟩ := h.resolve_left (hsuccess ▸ nofun)
    exact hnone code hcode
  decode_iff name cause := iff_of_false nofun fun ⟨_, hsuccess, hparse⟩ ↦ by
    -- Under a status of success, the code stands in a reply.
    obtain ⟨_, reply, _, hholds, _⟩ := h.resolve_left (hsuccess ▸ nofun)
    exact hholds.parse?_ne_none hparse
  unexpectedReply_iff name cause := iff_of_false nofun fun ⟨_, hsuccess, _, hnone⟩ ↦ by
    obtain ⟨_, reply, _, hholds, _⟩ := h.resolve_left (hsuccess ▸ nofun)
    exact hnone reply hholds
  api_iff other := by
    rw [Except.error.injEq, ClientError.api.injEq]
    exact ⟨fun heq ↦ heq ▸ ⟨h, hreports⟩, fun hother ↦ hreports.unique hother.2⟩
  cases := .inr (.inr (.inr ⟨e, rfl⟩))

/-- A body that is no JSON, under a status of success. -/
theorem explains_decode (hsuccess : isSuccess status = true) (hparse : Json.parse? body = none)
    (h : ¬ Fails command status body) :
    Explains command status body (.error (.decode command .notJson)) where
  ok_iff reply := iff_of_false nofun fun hreply ↦ hreply.2.1.parse?_ne_none hparse
  decode_iff name cause := by
    rw [and_iff_left ⟨hsuccess, hparse⟩, Except.error.injEq, ClientError.decode.injEq,
      eq_comm, eq_comm (a := cause)]
  unexpectedReply_iff name cause := iff_of_false nofun fun ⟨_, _, ⟨parsed, hparsed⟩, _⟩ ↦
    absurd (hparse.symm.trans hparsed) nofun
  api_iff e := iff_of_false nofun fun he ↦ h he.1
  cases := .inr (.inl ⟨_, _, rfl⟩)

/-- A body that wraps no reply, under a status of success. -/
theorem explains_unexpectedReply {parsed : Json} (hsuccess : isSuccess status = true)
    (hparse : Json.parse? body = some parsed) (hnone : ∀ reply, ¬ Holds command body reply)
    (h : ¬ Fails command status body) :
    Explains command status body
      (.error (.unexpectedReply command (.noEnvelope (responseKey command)))) where
  ok_iff reply := iff_of_false nofun fun hreply ↦ hnone reply hreply.2.1
  decode_iff name cause := iff_of_false nofun fun ⟨_, _, hnot⟩ ↦
    absurd (hparse.symm.trans hnot) nofun
  unexpectedReply_iff name cause := by
    rw [and_iff_left ⟨hsuccess, ⟨parsed, hparse⟩, hnone⟩, Except.error.injEq,
      ClientError.unexpectedReply.injEq, eq_comm, eq_comm (a := cause), responseKey]
  api_iff e := iff_of_false nofun fun he ↦ h he.1
  cases := .inr (.inr (.inl ⟨_, _, rfl⟩))

/-- A body that wraps a reply without an error code, under a status of success. -/
theorem explains_ok {reply : Json} (hsuccess : isSuccess status = true)
    (hholds : Holds command body reply) (h : ¬ Fails command status body) :
    Explains command status body (.ok reply) where
  ok_iff other := by
    rw [Except.ok.injEq]
    exact ⟨fun heq ↦ heq ▸ ⟨hsuccess, hholds, fun code hcode ↦ h (.inr ⟨code, hcode⟩)⟩,
      fun hother ↦ hholds.unique hother.2.1⟩
  decode_iff name cause := iff_of_false nofun fun hnot ↦ hholds.parse?_ne_none hnot.2.2
  unexpectedReply_iff name cause := iff_of_false nofun fun hnot ↦ hnot.2.2.2 reply hholds
  api_iff e := iff_of_false nofun fun he ↦ h he.1
  cases := .inl ⟨reply, rfl⟩

/-- What a body with a status is taken for. It is a reply just if the status is one of success, the
body wraps the reply, and the reply has no error code that can be read; it is no JSON, or wraps no
reply, just if that is so under a status of success; and it is an error just if the status is not
one of success, or the reply in it has an error code. -/
theorem outcome_unwrap (command : String) (status : Nat) (body : String) :
    Explains command status body (unwrap command status body) := by
  by_cases hfails : Fails command status body
  · rw [unwrap_of_reportsError ((reportsError_iff command ⟨status, [], body⟩).mpr hfails)]
    exact explains_api hfails (reports_apiError command status body)
  have hsuccess : isSuccess status = true := by
    rw [← Bool.not_eq_false]
    exact fun h ↦ hfails (.inl h)
  have hread : (((Json.parse? body).bind (find? command)).bind (·.get? errorCodeKey)).bind
      code? = none := Option.eq_none_iff_forall_ne_some.mpr fun code h ↦
    hfails (.inr ⟨code, code?_inner_eq_some_iff.mp h⟩)
  unfold unwrap
  cases hparse : Json.parse? body with
  | none =>
    rw [hsuccess, if_pos rfl]
    exact explains_decode hsuccess hparse hfails
  | some parsed =>
    rw [hparse, Option.bind_some] at hread
    simp only [hread, hsuccess, Bool.not_true, Option.isSome_none, Bool.or_self,
      Bool.false_eq_true, if_false]
    cases hfind : find? command parsed with
    | none =>
      refine explains_unexpectedReply hsuccess hparse (fun reply hholds ↦ ?_) hfails
      have hinner := inner?_eq_some_iff.mpr hholds
      rw [hparse, Option.bind_some, hfind] at hinner
      cases hinner
    | some reply =>
      exact explains_ok hsuccess ⟨parsed, hparse, find?_eq_some_iff.mp hfind⟩ hfails

end CloudControl.Envelope
