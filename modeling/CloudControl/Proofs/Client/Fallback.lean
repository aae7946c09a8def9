import CloudControl.Proofs.Client.Calls
import CloudControl.Proofs.Except
import Mathlib.Tactic.ByContra
import Mathlib.Tactic.SplitIfs

/-!
# What a fallback hides

A fallback puts a value in place of an error only where the server says that something does not
exist, or, for one fallback, that it refuses or fails. `Client.hidesOnlyExcused` says for each call
with a fallback when this happens, in terms of the status and the body of the reply; every other
error reaches the caller as it is.

A reply is judged by its effective status and by the text of its error (`applies_api_iff`). An
error that the server does not report is never hidden (`ClientError.IsLocal.applies_eq_false`),
whatever the fallback is.
-/

namespace CloudControl

/-! ## What a reply says -/

namespace Reply

/-- The content of a reply to a command, without its envelope. -/
def inner? (r : Reply) (command : String) : Option Json :=
  (Json.parse? r.body).bind (Envelope.find? command)

/-- The error code of a reply to a command, if it can be read. -/
def errorCode? (r : Reply) (command : String) : Option Int :=
  ((r.inner? command).bind (·.get? "errorcode")).bind Envelope.code?

/-- A reply to a command reports an error: by its status, or by an error code. -/
def ReportsError (r : Reply) (command : String) : Prop :=
  Envelope.isSuccess r.status = false ∨ (r.errorCode? command).isSome = true

/-- The status that a reply to a command means. A reply that claims success means its error code,
if that is a number of sixteen bits. -/
def effectiveStatus (r : Reply) (command : String) : Nat :=
  if Envelope.isSuccess r.status then
    match r.errorCode? command with
    | some code => if 0 ≤ code ∧ code ≤ 65535 then code.toNat else r.status
    | none => r.status
  else r.status

/-- The text of the error that a reply to a command reports: the one that it gives, or else the
start of its body. -/
def errorText (r : Reply) (command : String) : String :=
  match (r.inner? command).bind (·.get? "errortext") with
  | some (.string text) => text
  | _ => Text.firstChars 512 r.body

end Reply

/-- A fallback covers a status and a text: something does not exist, or the server refuses or fails
where the fallback allows for that. -/
def Fallback.Covers (f : Fallback) (status : Nat) (text : String) : Prop :=
  (f ≠ .propagate ∧ (status = 404 ∨ (status = 409 ∨ status = 431) ∧ saysMissing text = true)) ∨
    (f = .noneWhenUnavailable ∧ (status = 403 ∨ status = 404 ∨ status = 500))

/-- The fallback of a command covers the error that a reply reports. -/
def Command.Excuses (command : Command) (r : Reply) : Prop :=
  r.ReportsError command.name ∧
    command.fallback.Covers (r.effectiveStatus command.name) (r.errorText command.name)

/-- The command without its fallback. -/
def Command.strict (command : Command) : Command :=
  { command with fallback := .propagate }

/-! ## Errors and fallbacks -/

/-- An error means that something is missing just by its status and its text. -/
theorem classify_eq_notFound_iff (status : Nat) (text : String) :
    classify status text = .notFound ↔
      status = 404 ∨ (status = 409 ∨ status = 431) ∧ saysMissing text = true := by
  grind [classify]

/-- The error is none that the server reports. -/
structure ClientError.IsLocal (e : ClientError) : Prop where
  kind : e.kind? = none
  status : e.status? = none

/-- No fallback hides an error that the server does not report. -/
theorem ClientError.IsLocal.applies_eq_false {e : ClientError} (h : e.IsLocal) (f : Fallback) :
    f.applies e = false := by
  have hmissing : e.isNotFound = false := by
    rw [isNotFound, h.kind]
    rfl
  cases f with
  | propagate => rfl
  | emptyWhenNotFound | noneWhenNotFound | unitWhenNotFound => exact hmissing
  | noneWhenUnavailable =>
    rw [Fallback.applies, hmissing, h.status]
    rfl

/-- A fallback hides an error that the server reports just if it covers its status and text. -/
theorem applies_api_iff (f : Fallback) {e : ApiError} (hkind : e.kind = classify e.status e.text) :
    f.applies (.api e) = true ↔ f.Covers e.status e.text := by
  have hmissing : ClientError.isNotFound (.api e) = true ↔
      e.status = 404 ∨ (e.status = 409 ∨ e.status = 431) ∧ saysMissing e.text = true := by
    rw [← classify_eq_notFound_iff, ← hkind]
    simp [ClientError.isNotFound, ClientError.kind?]
  cases f with
  | propagate => simp [Fallback.applies, Fallback.Covers]
  | emptyWhenNotFound | noneWhenNotFound | unitWhenNotFound =>
    simp [Fallback.applies, Fallback.Covers, hmissing]
  | noneWhenUnavailable =>
    simp [Fallback.applies, Fallback.Covers, hmissing, ClientError.status?, or_assoc]

/-! ## Replies and errors -/

section

variable (r : Reply) (command : String)

/-- The error of a reply has the effective status of the reply. -/
theorem status_apiError :
    (Envelope.apiError command r.status (r.inner? command) r.body).status =
      r.effectiveStatus command := by
  show Envelope.errorStatus r.status (r.errorCode? command) = _
  unfold Envelope.errorStatus Reply.effectiveStatus
  cases r.errorCode? command with
  | none => simp
  | some code =>
    have hbits : code < 65536 ↔ code ≤ 65535 := by omega
    cases Envelope.isSuccess r.status with
    | false => simp
    | true => simp [hbits]

/-- The error of a reply has the text of the reply. -/
theorem text_apiError :
    (Envelope.apiError command r.status (r.inner? command) r.body).text = r.errorText command := by
  show Envelope.errorText (r.inner? command) r.body = _
  unfold Envelope.errorText Reply.errorText Envelope.errorTextKey Envelope.maxSnippet
  rcases (r.inner? command).bind (·.get? "errortext") with
    _ | (_ | _ | _ | text | _ | _) <;> rfl

variable {r command}

/-- A reply that reports an error is read as one. -/
theorem unwrap_of_reportsError (h : r.ReportsError command) :
    Envelope.unwrap command r.status r.body =
      .error (.api (Envelope.apiError command r.status (r.inner? command) r.body)) := by
  unfold Reply.ReportsError Reply.errorCode? Reply.inner? at h
  unfold Envelope.unwrap Reply.inner?
  cases hparse : Json.parse? r.body with
  | none =>
    rw [hparse] at h
    have hfailed : Envelope.isSuccess r.status = false := h.resolve_right nofun
    simp [hfailed]
  | some parsed =>
    rw [hparse] at h
    have hcheck : (!Envelope.isSuccess r.status ||
        (((Envelope.find? command parsed).bind (·.get? Envelope.errorCodeKey)).bind
          Envelope.code?).isSome) = true := by
      rw [Bool.or_eq_true, Bool.not_eq_true']
      exact h
    exact if_pos hcheck

/-- A reply that reports no error gives none that the server reports. -/
theorem isLocal_of_unwrap {e : ClientError} (h : ¬ r.ReportsError command)
    (herror : Envelope.unwrap command r.status r.body = .error e) : e.IsLocal := by
  unfold Reply.ReportsError Reply.errorCode? Reply.inner? at h
  rw [not_or, Bool.not_eq_false, Bool.not_eq_true] at h
  obtain ⟨hsuccess, hcode⟩ := h
  unfold Envelope.unwrap at herror
  cases hparse : Json.parse? r.body with
  | none =>
    simp only [hparse, hsuccess, if_pos, Except.error.injEq] at herror
    exact herror ▸ ⟨rfl, rfl⟩
  | some parsed =>
    rw [hparse] at hcode
    have hcheck : ¬ (!Envelope.isSuccess r.status ||
        (((Envelope.find? command parsed).bind (·.get? Envelope.errorCodeKey)).bind
          Envelope.code?).isSome) = true := by
      rw [Bool.or_eq_true, Bool.not_eq_true', hsuccess]
      exact fun hor ↦ hor.elim nofun fun hsome ↦ absurd (hsome.symm.trans hcode) nofun
    simp only [hparse, if_neg hcheck] at herror
    cases hinner : Envelope.find? command parsed with
    | none =>
      simp only [hinner, Except.error.injEq] at herror
      exact herror ▸ ⟨rfl, rfl⟩
    | some inner =>
      rw [hinner] at herror
      exact absurd herror nofun

end

namespace Client

/-- An item that cannot be read is no error that the server reports. -/
theorem isLocal_of_decode {α : Type} {name : String} {reader : Schema.Reader α} {item : Json}
    {e : ClientError} (h : Envelope.decode name reader item = .error e) : e.IsLocal := by
  unfold Envelope.decode at h
  split at h
  · exact absurd h nofun
  · cases h
    exact ⟨rfl, rfl⟩

/-- A page that cannot be read is no error that the server reports. -/
theorem isLocal_of_readPage {α : Type} {command : Command} {reader : Schema.Reader α}
    {inner : Json} {e : ClientError} (h : readPage command reader inner = .error e) :
    e.IsLocal := by
  rcases bind_eq_error_iff.mp h with hitems | ⟨items, _, h⟩
  · obtain ⟨item, _, hdecode⟩ := exists_of_mapM_error hitems
    exact isLocal_of_decode hdecode
  · exact absurd h nofun

/-- A first item that cannot be read is no error that the server reports. -/
theorem isLocal_of_readFirst {α : Type} {command : Command} {reader : Schema.Reader α}
    {inner : Json} {e : ClientError} (h : readFirst command reader inner = .error e) :
    e.IsLocal := by
  unfold readFirst at h
  split at h
  · exact isLocal_of_decode (map_eq_error_iff.mp h)
  · exact absurd h nofun

/-- A request without credentials is not made, and none with credentials that are of no use. -/
theorem isLocal_of_authenticate {c : Client} {now : Instant} {command : String} {params : Params}
    {e : ClientError} (h : c.authenticate now command params = .error e) : e.IsLocal := by
  unfold authenticate at h
  split at h
  · split at h <;> cases h
    exact ⟨rfl, rfl⟩
  · cases h
  · cases h
    exact ⟨rfl, rfl⟩

variable {σ α : Type} {link : Link σ} {c : Client} {command : Command} {params : Params}
  {s next : σ}

/-- A request that does not get through meets an error that the server does not report. -/
theorem isLocal_of_deliver {r : Request} {e : ClientError}
    (h : (deliver link r).outcome s = (.error e, next)) : e.IsLocal := by
  unfold deliver at h
  rw [Action.outcome_bind, outcome_lift] at h
  cases hcheck : checkRequest r with
  | error cause =>
    rw [hcheck] at h
    cases h
    unfold checkRequest at hcheck
    split_ifs at hcheck <;> cases hcheck <;> exact ⟨rfl, rfl⟩
  | ok sent =>
    simp only [hcheck, Action.outcome_ofFunction] at h
    rcases hexchange : link.exchange sent s with ⟨cause | answer, after⟩
    · rw [hexchange] at h
      cases h
      exact ⟨rfl, rfl⟩
    · rw [hexchange] at h
      exact absurd (congrArg Prod.fst h) nofun

/-- Where no reply comes, the error is none that the server reports. -/
theorem isLocal_of_reply {e : ClientError}
    (h : (c.reply link command params).outcome s = (.error e, next)) : e.IsLocal := by
  unfold reply at h
  rw [outcome_get_bind, Action.outcome_bind, outcome_lift] at h
  cases hauth : c.authenticate (link.now s) command.name (commandParams command params) with
  | error cause =>
    rw [hauth] at h
    cases h
    exact isLocal_of_authenticate hauth
  | ok sent =>
    rw [hauth] at h
    exact isLocal_of_deliver h

/-! ## Calls with a fallback -/

/-- The reply to a command is one that the fallback of the command excuses. -/
def MeetsExcused (link : Link σ) (c : Client) (command : Command) (params : Params) (s : σ) :
    Prop :=
  ∃ r next, (c.reply link command params).outcome s = (.ok r, next) ∧ command.Excuses r

/-- A value stands in for the error that a computation without a fallback ends with. -/
def StandsIn (strict covered : Action σ α) (value : α) (s : σ) : Prop :=
  ∃ e next, strict.outcome s = (.error e, next) ∧ covered.outcome s = (.ok value, next)

/-- An error that the server does not report, or that says that credentials are not accepted, is
the outcome of a computation with a fallback if it is the one without. -/
def PassesOn (strict covered : Action σ α) (s : σ) : Prop :=
  ∀ e next, strict.outcome s = (.error e, next) →
    (∀ reported, e = .api reported →
      reported.status = 401 ∨ reported.status = 432 ∨ reported.status = 531) →
    covered.outcome s = (.error e, next)

section

variable {value : α} {read : Json → Except ClientError α}

/-- An error that a fallback does not apply to is not covered. -/
theorem cover_of_not_applies {f : Fallback} {e : ClientError} (h : f.applies e = false) :
    f.cover value (.error e) = .error e := by
  rw [Fallback.cover, h]
  rfl

/-- The value is read from a reply that is excused. -/
theorem cover_of_excuses (value : α) (read : Json → Except ClientError α) {r : Reply}
    (h : command.Excuses r) :
    command.fallback.cover value (Envelope.unwrap command.name r.status r.body >>= read) =
      .ok value := by
  obtain ⟨hreports, hcovers⟩ := h
  have happlies : command.fallback.applies (.api (Envelope.apiError command.name r.status
      (r.inner? command.name) r.body)) = true := by
    rw [applies_api_iff _ rfl, status_apiError, text_apiError]
    exact hcovers
  rw [unwrap_of_reportsError hreports]
  exact if_pos happlies

/-- What is read from a reply that is not excused is read without the fallback too. -/
theorem cover_of_not_excuses (hread : ∀ inner e, read inner = .error e → e.IsLocal) {r : Reply}
    (h : ¬ command.Excuses r) :
    command.fallback.cover value (Envelope.unwrap command.name r.status r.body >>= read) =
      Envelope.unwrap command.name r.status r.body >>= read := by
  cases hresult : Envelope.unwrap command.name r.status r.body >>= read with
  | ok x => rfl
  | error e =>
    rw [cover_of_not_applies]
    rcases bind_eq_error_iff.mp hresult with hunwrap | ⟨inner, _, herror⟩
    · by_cases hreports : r.ReportsError command.name
      · rw [unwrap_of_reportsError hreports] at hunwrap
        cases hunwrap
        rw [← Bool.not_eq_true, applies_api_iff _ rfl, status_apiError, text_apiError]
        exact fun hcovers ↦ h ⟨hreports, hcovers⟩
      · exact (isLocal_of_unwrap hreports hunwrap).applies_eq_false _
    · exact (hread inner e herror).applies_eq_false _

/-- A reply that is excused is an error without the fallback, and the value with it. -/
theorem outcome_call_of_excused (value : α) (read : Json → Except ClientError α) {r : Reply}
    (hreply : (c.reply link command params).outcome s = (.ok r, next)) (h : command.Excuses r) :
    (c.call link command.strict params value read).outcome s =
        (.error (.api (Envelope.apiError command.name r.status (r.inner? command.name) r.body)),
          next) ∧
      (c.call link command params value read).outcome s = (.ok value, next) := by
  have hstrict : (c.reply link command.strict params).outcome s = (.ok r, next) := hreply
  rw [outcome_call, outcome_call, hstrict, hreply]
  constructor
  · show (Fallback.cover .propagate value (Envelope.unwrap command.name r.status r.body >>= read),
      next) = _
    rw [unwrap_of_reportsError h.1]
    rfl
  · exact congrArg (·, next) (cover_of_excuses value read h)

/-- Whatever is not excused comes to the same with the fallback and without. -/
theorem outcome_call_of_not_excused (hread : ∀ inner e, read inner = .error e → e.IsLocal)
    (h : ¬ c.MeetsExcused link command params s) :
    (c.call link command params value read).outcome s =
      (c.call link command.strict params value read).outcome s := by
  have hsame : c.reply link command.strict params = c.reply link command params := rfl
  rw [outcome_call, outcome_call, hsame]
  rcases hreply : (c.reply link command params).outcome s with ⟨e | r, next⟩
  · have hlocal := isLocal_of_reply hreply
    simp only [cover_of_not_applies (hlocal.applies_eq_false _)]
  · have hnot : ¬ command.Excuses r := fun hexcuses ↦ h ⟨r, next, hreply, hexcuses⟩
    have hnone : ¬ command.strict.Excuses r := by
      rintro ⟨_, ⟨hfallback, _⟩ | ⟨hfallback, _⟩⟩
      · exact hfallback rfl
      · cases hfallback
    exact congrArg (·, next)
      ((cover_of_not_excuses hread hnot).trans (cover_of_not_excuses hread hnone).symm)

/-- The value stands in for an error just if the reply is excused. -/
theorem standsIn_call_iff (hread : ∀ inner e, read inner = .error e → e.IsLocal) :
    StandsIn (c.call link command.strict params value read)
        (c.call link command params value read) value s ↔
      c.MeetsExcused link command params s := by
  constructor
  · rintro ⟨e, next, hstrict, hcovered⟩
    by_contra hnot
    rw [outcome_call_of_not_excused hread hnot, hstrict] at hcovered
    exact absurd (congrArg Prod.fst hcovered) nofun
  · rintro ⟨r, next, hreply, hexcuses⟩
    obtain ⟨hstrict, hcovered⟩ := outcome_call_of_excused value read hreply hexcuses
    exact ⟨_, next, hstrict, hcovered⟩

/-- No fallback covers a status that says that credentials are not accepted. -/
theorem not_covers_of_unauthorized {f : Fallback} {status : Nat} {text : String}
    (h : status = 401 ∨ status = 432 ∨ status = 531) : ¬ f.Covers status text := by
  rintro (⟨_, hmissing | ⟨hparameter, _⟩⟩ | ⟨_, hrefused⟩) <;> omega

/-- Errors that the server has no part in, and refused credentials, are passed on. -/
theorem passesOn_call (hread : ∀ inner e, read inner = .error e → e.IsLocal) :
    PassesOn (c.call link command.strict params value read)
      (c.call link command params value read) s := by
  intro e next hstrict hcause
  have hnot : ¬ c.MeetsExcused link command params s := by
    rintro ⟨r, after, hreply, hexcuses⟩
    have herror := (outcome_call_of_excused value read hreply hexcuses).1
    rw [hstrict, Prod.mk.injEq, Except.error.injEq] at herror
    have hstatus := hcause _ herror.1
    rw [status_apiError] at hstatus
    exact not_covers_of_unauthorized hstatus hexcuses.2
  rw [outcome_call_of_not_excused hread hnot, hstrict]

end

/-- A fallback puts the value in place of an error just where it excuses the reply, and otherwise
it changes nothing. -/
structure HidesOnlyExcused (link : Link σ) (c : Client) (command : Command) (params : Params)
    (strict covered : Action σ α) (value : α) (s : σ) : Prop where
  standsIn_iff : StandsIn strict covered value s ↔ c.MeetsExcused link command params s
  unchanged : ¬ c.MeetsExcused link command params s → covered.outcome s = strict.outcome s
  passesOn : PassesOn strict covered s

/-- The fallback of a call hides what it excuses if the result is read without the server. -/
theorem hidesOnlyExcused_call {value : α} {read : Json → Except ClientError α}
    (hread : ∀ inner e, read inner = .error e → e.IsLocal) :
    HidesOnlyExcused link c command params (c.call link command.strict params value read)
      (c.call link command params value read) value s :=
  ⟨standsIn_call_iff hread, outcome_call_of_not_excused hread, passesOn_call hread⟩

/-! ## The calls of a client -/

/-- The outcome of a list is the one of its page, less the total. -/
theorem outcome_list (reader : Schema.Reader α) :
    (c.list link command reader params).outcome s =
      (((c.fetchPage link command reader params).outcome s).1.map (·.items),
        ((c.fetchPage link command reader params).outcome s).2) :=
  Action.outcome_bind_pure _ _ s

/-- A list is read like a page, and its items alone are the result. -/
theorem list_eq (reader : Schema.Reader α) :
    c.list link command reader params =
      c.call link command params [] fun inner ↦ (readPage command reader inner).map (·.items) := by
  funext s
  show (c.list link command reader params).outcome s = Action.outcome (c.call _ _ _ _ _) s
  rw [outcome_list, fetchPage_eq, outcome_call, outcome_call]
  rcases (c.reply link command params).outcome s with ⟨e | r, next⟩
  · dsimp only
    rw [Fallback.map_cover]
    rfl
  · dsimp only
    rw [Fallback.map_cover]
    cases Envelope.unwrap command.name r.status r.body <;> rfl

/-- The fallback of every call hides the errors that it excuses, and no others: of a page and of a
list, which are empty then, of a first item, which is none, and of a request without a result. -/
theorem hidesOnlyExcused (link : Link σ) (c : Client) (command : Command) (reader : Schema.Reader α)
    (params : Params) (s : σ) :
    HidesOnlyExcused link c command params (c.fetchPage link command.strict reader params)
        (c.fetchPage link command reader params) ⟨[], some 0⟩ s ∧
      HidesOnlyExcused link c command params (c.list link command.strict reader params)
        (c.list link command reader params) [] s ∧
      HidesOnlyExcused link c command params (c.find link command.strict reader params)
        (c.find link command reader params) none s ∧
      HidesOnlyExcused link c command params (c.unit link command.strict params)
        (c.unit link command params) () s := by
  refine ⟨?_, ?_, ?_, ?_⟩
  · rw [fetchPage_eq, fetchPage_eq]
    exact hidesOnlyExcused_call fun inner e ↦ isLocal_of_readPage
  · rw [list_eq, list_eq]
    exact hidesOnlyExcused_call fun inner e herror ↦
      isLocal_of_readPage (map_eq_error_iff.mp herror)
  · rw [find_eq, find_eq]
    exact hidesOnlyExcused_call fun inner e ↦ isLocal_of_readFirst
  · rw [unit_eq, unit_eq]
    exact hidesOnlyExcused_call fun inner e herror ↦ absurd herror nofun

end Client

end CloudControl
