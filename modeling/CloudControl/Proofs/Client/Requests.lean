import CloudControl.Proofs.Client.Exchange

/-!
# The requests that are sent

A call sends the request of its command if that can be sent, and nothing else
(`Client.sent_reply`), which is so whenever the client is ready (`Client.IsReady.exists_request`).
`Link.recorded` keeps what is sent, and `Client.carries_of_request?` says what the request carries
of the parameters of its caller: all of them, each under its name and with its value alone, unless a
name is one that the client itself sets.
-/

namespace CloudControl

open Auth Simulator

/-- The parameters that a request carries, in its body or in its query. -/
def Request.params (r : Request) : List Param :=
  Form.parse (r.body.getD (r.url.query.getD ""))

/-- A request carries a value under a name, and no other value. -/
def Request.Carries (r : Request) (name value : String) : Prop :=
  (name, value) ∈ r.params ∧ ∀ p ∈ r.params, p.1 = name → p.2 = value

/-- A link that notes the requests that it has carried. -/
def Link.noting {σ ν : Type} (link : Link σ) (note : Request → ν) : Link (σ × List ν) where
  exchange r s := ((link.exchange r s.1).1, ((link.exchange r s.1).2, s.2 ++ [note r]))
  now s := link.now s.1

/-- A link that keeps the requests that it has carried. -/
def Link.recorded {σ : Type} (link : Link σ) : Link (σ × List Request) :=
  link.noting id

/-- A link on which every request has the same reply. -/
def Link.constant (reply : Reply) : Link Unit where
  exchange _ s := (.ok reply, s)
  now _ := ⟨0, 0⟩

/-- The requests that a computation sends. -/
def Action.requests {σ α : Type} (a : Action (σ × List Request) α) (s : σ) : List Request :=
  (a.outcome (s, [])).2.2

/-- The client does not set a parameter of this name by itself. -/
def IsFree (name : String) : Prop :=
  name ≠ Command.commandParam ∧ name ≠ Command.responseParam ∧
    ∀ credential ∈ credentialParams, Text.eqFolded name credential = false

namespace Client

variable {σ α β : Type} {link : Link σ} {c : Client} {command : Command} {params : Params}

/-! ## What a request carries -/

/-- A request carries the pairs that it was made of. -/
theorem params_requestOf (c : Client) (verb : Verb) (pairs : List Param) (cookie : Option String) :
    (c.requestOf verb pairs cookie).params = pairs := by
  cases verb <;> exact Form.parse_encodePairs pairs

/-- A request that is checked is sent as it is. -/
theorem eq_of_checkRequest {r checked : Request} (h : checkRequest r = .ok checked) :
    checked = r := by
  unfold checkRequest at h
  split_ifs at h
  cases h
  rfl

/-- A client with credentials adds them to the parameters. -/
theorem authenticate_eq_ok {now : Instant} {name : String} {pairs : List Param}
    {cookie : Option String} (h : c.authenticate now name params = .ok (pairs, cookie)) :
    ∃ credentials : Credentials, c.credentials = some credentials ∧
      credentials.addTo now params = (pairs, cookie) := by
  unfold authenticate at h
  split at h
  · next signer hsigned =>
    split at h <;> cases h
    exact ⟨_, hsigned, rfl⟩
  · next session hsession => exact ⟨_, hsession, Except.ok.inj h⟩
  · cases h

/-- A parameter with a free name is carried along with credentials just if it was there. -/
theorem mem_addTo_iff {credentials : Credentials} {now : Instant} {p : Param} (h : IsFree p.1) :
    p ∈ (credentials.addTo now params).1 ↔ p ∈ params.entries := by
  have hkept : (credentialParams.all fun name ↦ !isNamed name p) = true := by
    rw [List.all_eq_true]
    intro name hname
    rw [Bool.not_eq_true']
    exact h.2.2 name hname
  have hmem : ∀ ps : List Param, p ∈ withoutAll credentialParams ps ↔ p ∈ ps := fun ps ↦ by
    rw [withoutAll, List.mem_filter, and_iff_left hkept]
  rw [← hmem, credentials.withoutAll_addTo now params, hmem]

/-- The value of a free name among the parameters of a command is the one of its caller. -/
theorem get?_commandParams_of_isFree {name value : String} (h : IsFree name)
    (hvalue : params.get? name = some value) :
    (commandParams command params).get? name = some value := by
  rw [commandParams, Params.get?_set, if_neg h.2.1, Params.get?_set, if_neg h.1, Params.get?_merge,
    hvalue, Option.some_or]

/-- A request carries the parameters of its caller that have free names. -/
theorem carries_of_request? {s : σ} {r : Request} (hr : c.request? link command params s = .ok r)
    {name value : String} (h : IsFree name) (hvalue : params.get? name = some value) :
    r.Carries name value := by
  obtain ⟨⟨pairs, cookie⟩, hauth, hcheck⟩ := bind_eq_ok_iff.mp hr
  obtain ⟨credentials, _, hadded⟩ := authenticate_eq_ok hauth
  obtain rfl : (credentials.addTo (link.now s) (commandParams command params)).1 = pairs :=
    congrArg Prod.fst hadded
  have hsent : (commandParams command params).get? name = some value :=
    get?_commandParams_of_isFree h hvalue
  rw [Request.Carries, eq_of_checkRequest hcheck, params_requestOf]
  refine ⟨(mem_addTo_iff h).mpr (Params.mem_entries_iff.mpr hsent), fun p hp hname ↦ ?_⟩
  have hvalue' := Params.mem_entries_iff.mp ((mem_addTo_iff (hname ▸ h)).mp hp)
  rw [hname, hsent] at hvalue'
  exact (Option.some.inj hvalue').symm

/-! ## What is sent -/

/-- What comes after a computation and changes nothing leaves its state. -/
theorem state_bind_of_quiet {a : Action σ α} {f : α → Action σ β}
    (hf : ∀ x s, ((f x).outcome s).2 = s) (s : σ) :
    ((a >>= f).outcome s).2 = (a.outcome s).2 := by
  rw [Action.outcome_bind]
  rcases a.outcome s with ⟨e | x, next⟩
  · rfl
  · exact hf x next

/-- A fallback leaves the state. -/
theorem state_recover (f : Fallback) (value : α) (a : Action σ α) (s : σ) :
    ((a.recover f value).outcome s).2 = (a.outcome s).2 := by
  rw [Action.outcome_recover]
  rcases a.outcome s with ⟨e | x, next⟩ <;> rfl

/-- Taking a reply out of its envelope leaves the state. -/
theorem state_send (s : σ) :
    ((c.send link command params).outcome s).2 = ((c.reply link command params).outcome s).2 := by
  rw [outcome_send]
  rcases (c.reply link command params).outcome s with ⟨e | r, next⟩ <;> rfl

section

variable {reader : Schema.Reader α} (s : σ)

/-- Reading a page leaves the state. -/
theorem state_fetchPage : ((c.fetchPage link command reader params).outcome s).2 =
    ((c.reply link command params).outcome s).2 := by
  rw [fetchPage, state_recover, state_bind_of_quiet fun _ _ ↦ rfl, state_send]

/-- Reading a list leaves the state. -/
theorem state_list : ((c.list link command reader params).outcome s).2 =
    ((c.reply link command params).outcome s).2 := by
  rw [list, state_bind_of_quiet fun _ _ ↦ rfl, state_fetchPage]

/-- Reading a first item leaves the state. -/
theorem state_find : ((c.find link command reader params).outcome s).2 =
    ((c.reply link command params).outcome s).2 := by
  rw [find, state_recover, state_bind_of_quiet fun _ _ ↦ rfl, state_send]

/-- Reading a first item that must be there leaves the state. -/
theorem state_object : ((c.object link command reader params).outcome s).2 =
    ((c.reply link command params).outcome s).2 := by
  rw [object, state_bind_of_quiet, state_send]
  intro reply s
  rw [Action.outcome_bind, outcome_lift]
  rcases readFirst command reader reply with e | _ | v <;> rfl

/-- Reading the name of a job leaves the state. -/
theorem state_start : ((c.start link command params).outcome s).2 =
    ((c.reply link command params).outcome s).2 := by
  rw [start, state_bind_of_quiet fun _ _ ↦ rfl, state_send]

/-- Reading nothing leaves the state. -/
theorem state_unit : ((c.unit link command params).outcome s).2 =
    ((c.reply link command params).outcome s).2 := by
  rw [unit, state_recover, state_bind_of_quiet fun _ _ ↦ rfl, state_send]

end

section

variable (link : Link σ) (s : σ)

/-- A link that notes its requests replies as it does otherwise. -/
theorem replyTo_noting {ν : Type} (note : Request → ν) (notes : List ν) (r : Request) :
    (link.noting note).replyTo r (s, notes) =
      ((link.replyTo r s).1, ((link.replyTo r s).2, notes ++ [note r])) := by
  simp only [Link.replyTo, Link.noting]
  rcases link.exchange r s with ⟨e | reply, next⟩ <;> rfl

/-- The reply to a command over a link that notes its requests is the same as over the link itself,
and the request of the command is noted if it can be sent. -/
theorem outcome_reply_noting {ν : Type} (note : Request → ν) (notes : List ν) (c : Client)
    (command : Command) (params : Params) :
    (c.reply (link.noting note) command params).outcome (s, notes) =
      (((c.reply link command params).outcome s).1,
        (((c.reply link command params).outcome s).2,
          notes ++ ((c.request? link command params s).toOption.toList).map note)) := by
  -- The request does not depend on the requests before it.
  have hrequest : c.request? (link.noting note) command params (s, notes) =
      c.request? link command params s := rfl
  rw [outcome_reply, outcome_reply, hrequest]
  cases c.request? link command params s with
  | error e => exact congrArg (fun kept ↦ (_, (s, kept))) (List.append_nil notes).symm
  | ok r => exact replyTo_noting link s note notes r

variable (sent : List Request)

/-- The reply to a command over a link that keeps its requests is the same as over the link itself,
and the request of the command is kept if it can be sent. -/
theorem outcome_reply_recorded (c : Client) (command : Command) (params : Params) :
    (c.reply link.recorded command params).outcome (s, sent) =
      (((c.reply link command params).outcome s).1,
        (((c.reply link command params).outcome s).2,
          sent ++ (c.request? link command params s).toOption.toList)) := by
  have hnoted := outcome_reply_noting link s id sent c command params
  rwa [List.map_id] at hnoted

/-- The request of a command is sent if it can be, and nothing else is. -/
theorem sent_reply (c : Client) (command : Command) (params : Params) :
    ((c.reply link.recorded command params).outcome (s, sent)).2.2 =
      sent ++ (c.request? link command params s).toOption.toList :=
  congrArg (·.2.2) (outcome_reply_recorded link s sent c command params)

end

end Client

end CloudControl
