import CloudControl.Client.Basic

/-!
# What a call comes to

A call has an outcome from every state of a link. `outcome_bind` takes the steps of a call apart,
and `outcome_call` says what every call with a fallback comes to: the credentials and the link
give a reply or an error that the server has no part in, the reply is taken out of its envelope
and read, and the fallback stands in for the errors that it covers.
-/

namespace CloudControl

namespace Action

variable {σ α β : Type}

/-- The outcome of one computation after another. -/
theorem outcome_bind (a : Action σ α) (f : α → Action σ β) (s : σ) :
    (a >>= f).outcome s = match a.outcome s with
      | (.ok x, next) => (f x).outcome next
      | (.error e, next) => (.error e, next) := by
  unfold outcome ExceptT.run
  simp only [bind, ExceptT.bind, ExceptT.mk, StateT.bind, ExceptT.bindCont]
  rcases a s with ⟨x | e, next⟩ <;> rfl

/-- The outcome of a computation that is looked at in part. -/
theorem outcome_bind_pure (a : Action σ α) (g : α → β) (s : σ) :
    (do return g (← a) : Action σ β).outcome s = ((a.outcome s).1.map g, (a.outcome s).2) := by
  rw [outcome_bind]
  rcases a.outcome s with ⟨x | e, next⟩ <;> rfl

/-- The outcome of a computation that is given by its outcomes. -/
theorem outcome_ofFunction (f : σ → Except ClientError α × σ) (s : σ) :
    (ofFunction f).outcome s = f s := rfl

/-- The outcome of a computation whose errors a fallback may cover. -/
theorem outcome_recover (f : Fallback) (value : α) (a : Action σ α) (s : σ) :
    (recover f value a).outcome s = match a.outcome s with
      | (.error e, next) => (if f.applies e then .ok value else .error e, next)
      | done => done := rfl

end Action

namespace Fallback

/-- A result, with a value in place of the errors that a fallback covers. -/
def cover {α : Type} (f : Fallback) (value : α) : Except ClientError α → Except ClientError α
  | .ok x => .ok x
  | .error e => if f.applies e then .ok value else .error e

/-- What is covered and then looked at in part is covered by that part of the value. -/
theorem map_cover {α β : Type} (f : Fallback) (g : α → β) (value : α)
    (x : Except ClientError α) : (f.cover value x).map g = f.cover (g value) (x.map g) := by
  cases x with
  | ok a => rfl
  | error e =>
    show (if f.applies e then .ok value else .error e : Except ClientError α).map g =
      if f.applies e then .ok (g value) else .error e
    split <;> rfl

end Fallback

namespace Client

variable {σ α : Type} (link : Link σ) (c : Client) (command : Command) (params : Params)

/-- A computation without requests changes nothing. -/
theorem outcome_lift (e : Except ClientError α) (s : σ) :
    Action.outcome (lift e) s = (e, s) := rfl

/-- A computation that looks at the state first. -/
theorem outcome_get_bind {β : Type} (f : σ → Action σ β) (s : σ) :
    Action.outcome (do let s ← get; f s) s = (f s).outcome s := rfl

/-- The reply to a command, as the link brings it. -/
def reply : Action σ Reply := do
  let s ← get
  let (pairs, cookie) ← lift (c.authenticate (link.now s) command.name
    (commandParams command params))
  deliver link (c.requestOf command.verb pairs cookie)

/-- A request is answered by the cookies and the content of its reply. -/
theorem outcome_sendPairs (name : String) (verb : Verb) (pairs : List Param)
    (cookie : Option String) (s : σ) :
    (c.sendPairs link name verb pairs cookie).outcome s =
      match (deliver link (c.requestOf verb pairs cookie)).outcome s with
      | (.ok r, next) => ((Envelope.unwrap name r.status r.body).map (r.setCookies, ·), next)
      | (.error e, next) => (.error e, next) := by
  simp only [sendPairs, Action.outcome_bind, outcome_lift]
  rcases (deliver link (c.requestOf verb pairs cookie)).outcome s with ⟨e | r, next⟩
  · rfl
  · cases hunwrap : Envelope.unwrap name r.status r.body <;>
      (simp only [hunwrap]; rfl)

/-- A request with credentials is answered by the reply without its envelope. -/
theorem outcome_send (s : σ) :
    (c.send link command params).outcome s = match (c.reply link command params).outcome s with
      | (.ok r, next) => (Envelope.unwrap command.name r.status r.body, next)
      | (.error e, next) => (.error e, next) := by
  unfold send sendParams reply
  rw [outcome_get_bind, outcome_get_bind]
  simp only [Action.outcome_bind, outcome_lift]
  rcases c.authenticate (link.now s) command.name (commandParams command params) with
    e | ⟨pairs, cookie⟩
  · rfl
  · simp only [outcome_sendPairs]
    rcases (deliver link (c.requestOf command.verb pairs cookie)).outcome s with ⟨e | r, next⟩
    · rfl
    · cases hunwrap : Envelope.unwrap command.name r.status r.body <;>
        (simp only [hunwrap]; rfl)

/-- A computation whose errors the fallback of the command may cover: it makes the request of the
command and reads the reply. -/
def call (value : α) (read : Json → Except ClientError α) : Action σ α :=
  Action.recover command.fallback value do lift (read (← c.send link command params))

/-- What every call with a fallback comes to. -/
theorem outcome_call (value : α) (read : Json → Except ClientError α) (s : σ) :
    (c.call link command params value read).outcome s =
      match (c.reply link command params).outcome s with
      | (.ok r, next) => (command.fallback.cover value
          (Envelope.unwrap command.name r.status r.body >>= read), next)
      | (.error e, next) => (command.fallback.cover value (.error e), next) := by
  rw [call, Action.outcome_recover, Action.outcome_bind, outcome_send]
  rcases (c.reply link command params).outcome s with ⟨e | r, next⟩
  · rfl
  · cases hunwrap : Envelope.unwrap command.name r.status r.body with
    | error e => simp only [hunwrap]; rfl
    | ok inner =>
      simp only [hunwrap, outcome_lift]
      show _ = (command.fallback.cover value (read inner), next)
      cases read inner <;> rfl

/-- A page is what a call reads, and an empty page is its value. -/
theorem fetchPage_eq (reader : Schema.Reader α) : c.fetchPage link command reader params =
    c.call link command params ⟨[], some 0⟩ (readPage command reader) := rfl

/-- A first item is what a call reads, and none is its value. -/
theorem find_eq (reader : Schema.Reader α) : c.find link command reader params =
    c.call link command params none (readFirst command reader) := rfl

/-- A call that reads nothing. -/
theorem unit_eq : c.unit link command params =
    c.call link command params () fun _ ↦ .ok () := rfl

end Client

end CloudControl
