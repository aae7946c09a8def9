import CloudControl.Operations.Basic
import CloudControl.Proofs.Client.JobWait
import CloudControl.Proofs.Client.RawCommands
import CloudControl.Proofs.Client.Transmission
import CloudControl.Proofs.Stateful

/-!
# What every request of a client keeps

A condition on the state of a link that every request of a client keeps is kept by whatever the
client does over that link: by a call, by the loop over the pages of a list, and by the loop that
waits for a job if the clock keeps it too.
-/

namespace CloudControl

namespace Pagination

variable {σ α ε : Type} {source : Source σ α ε} {P : σ → Prop} {pageSize : Nat}

/-- What every page keeps is kept by the pages from one on. -/
theorem collectFrom_keeps (h : ∀ s page size, P s → P (source s page size).2) (page : Nat)
    (collected : List α) (s : σ) (hs : P s) :
    P (collectFrom source pageSize page collected s).2 := by
  induction page, collected, s using collectFrom.induct source pageSize with
  | case1 page collected s e next hpage =>
    rw [collectFrom_of_error (by rw [hpage])]
    exact h s page pageSize hs
  | case2 page collected s found next hpage all hlast =>
    rw [collectFrom_of_last (by rw [hpage]) hlast]
    exact h s page pageSize hs
  | case3 page collected s found next hpage all hmore hbound ih =>
    have hstate : (source s page pageSize).2 = next := by rw [hpage]
    rw [collectFrom_of_more (by rw [hpage]) (Bool.eq_false_iff.mpr hmore) hbound, hstate]
    exact ih (hstate ▸ h s page pageSize hs)
  | case4 page collected s found next hpage all hmore hbound =>
    rw [collectFrom_of_maxPage (by rw [hpage]) (Nat.le_of_not_lt hbound)]
    exact h s page pageSize hs

/-- What every page keeps is kept by all pages. -/
theorem collect_keeps (h : ∀ s page size, P s → P (source s page size).2) (s : σ) (hs : P s) :
    P (collect source pageSize s).2 := by
  unfold collect
  split
  · exact hs
  · exact collectFrom_keeps h 1 [] s hs

end Pagination

namespace Client

variable {σ α : Type} {link : Link σ} {clock : Clock σ} {c : Client} {P : σ → Prop}

/-- The client makes a request: it is the one of some command with parameters. -/
def Makes (c : Client) (r : Request) : Prop :=
  ∃ (now : Instant) (command : Command) (params : Params) (pairs : List Param)
    (cookie : Option String),
    c.authenticate now command.name params = .ok (pairs, cookie) ∧
      r = c.requestOf command.verb pairs cookie

/-- Every request of a client keeps a condition on the state of a link, whatever its answer. -/
def Respects (c : Client) (link : Link σ) (P : σ → Prop) : Prop :=
  ∀ r s, c.Makes r → P s → P (link.exchange r s).2

/-- The request of a command is one that the client makes. -/
theorem makes_of_request? {command : Command} {params : Params} {s : σ} {r : Request}
    (h : c.request? link command params s = .ok r) : c.Makes r := by
  obtain ⟨⟨pairs, cookie⟩, hauth, hcheck⟩ := bind_eq_ok_iff.mp h
  exact ⟨_, command, _, pairs, cookie, hauth, eq_of_checkRequest hcheck⟩

/-- Failures of a link are part of the exchange. -/
theorem state_replyTo (link : Link σ) (r : Request) (s : σ) :
    (link.replyTo r s).2 = (link.exchange r s).2 := by
  unfold Link.replyTo
  rcases link.exchange r s with ⟨e | reply, next⟩ <;> rfl

section

variable (h : c.Respects link P)

include h

/-- The request of a command. -/
theorem Respects.reply (command : Command) (params : Params) :
    Keeps P (c.reply link command params) := by
  intro s hs
  show P ((c.reply link command params).outcome s).2
  rw [outcome_reply]
  cases hrequest : c.request? link command params s with
  | error e => exact hs
  | ok r =>
    show P (link.replyTo r s).2
    rw [state_replyTo]
    exact h r s (makes_of_request? hrequest) hs

/-- A call. -/
theorem Respects.call {command : Command} {params : Params} {a : Action σ α}
    (ha : IsCallOf link c command params a) : Keeps P a := by
  intro s hs
  show P (a.outcome s).2
  rw [ha.state_eq]
  exact h.reply command params s hs

/-- A raw command. -/
theorem Respects.sendRaw (command : String) (params : Params) :
    Keeps P (c.sendRaw link command params) := by
  rw [sendRaw_eq_send]
  exact h.call .send

/-- Every page of a list. -/
theorem Respects.listAll (command : Command) (reader : Schema.Reader α) (params : Params)
    (pageSize : Nat) : Keeps P (c.listAll link command reader params pageSize) := by
  intro s hs
  let source : Pagination.Source σ α ClientError := fun s page size ↦
    (c.fetchPage link command reader (params.withPage page size)).outcome s
  have hsource : ∀ s page size, P s → P (source s page size).2 :=
    fun s page size hs ↦ h.call (.fetchPage reader) s hs
  have hall : P (Pagination.collect source pageSize s).2 := Pagination.collect_keeps hsource s hs
  show P ((c.listAll link command reader params pageSize).outcome s).2
  rw [Client.listAll, Action.outcome_ofFunction]
  simp only
  split <;> next heq => rwa [heq] at hall

/-- An operation. -/
theorem Respects.run (o : Operation) (args : List (String × Argument)) (options : Params) :
    Keeps P (o.run link c args options) := by
  have hquiet : ∀ r : OperationResult, Keeps P (pure r : Action σ OperationResult) := .pure
  unfold Operation.run
  cases o.result with
  | items k => exact (h.call (.list _)).bind fun _ ↦ hquiet _
  | first k => exact (h.call (.find _)).bind fun _ ↦ hquiet _
  | firstField k field => exact (h.call (.find _)).bind fun _ ↦ hquiet _
  | object k => exact (h.call (.object _)).bind fun _ ↦ hquiet _
  | job => exact (h.call .start).bind fun _ ↦ hquiet _
  | done => exact (h.call .unit).bind fun _ ↦ hquiet _

/-- A question about a job. -/
theorem Respects.getJob (id : String) : Keeps P (c.getJob link id) :=
  (h.call (.find _)).bind fun _ ↦ .of_quiet fun _ ↦ rfl

section

variable (hclock : ∀ ms s, P s → P (clock.sleep ms s))

include hclock

/-- Questions about a job, with pauses between them. -/
theorem Respects.pollJob (id : String) (wait : JobWait) (started polls : Nat) (s : σ) (hs : P s) :
    P (pollJob link clock c id wait started polls s).2 := by
  induction polls generalizing s with
  | zero => exact hs
  | succ polls ih =>
    have hasked := h.getJob id s hs
    rw [Client.pollJob]
    simp only
    split
    · exact hasked
    · exact ih _ (hclock _ _ hasked)

/-- Waiting for a job. -/
theorem Respects.waitForJob (id : String) (wait : JobWait) (polls : Nat) :
    Keeps P (c.waitForJob link clock id wait polls) := by
  intro s hs
  have hpolled := h.pollJob hclock id wait (clock.reading s) polls s hs
  show P ((c.waitForJob link clock id wait polls).outcome s).2
  rw [Client.waitForJob, Action.outcome_ofFunction]
  simp only
  split <;> next heq => rwa [heq] at hpolled

/-- Waiting for what a job produces. -/
theorem Respects.waitForResult (id : String) (wait : JobWait) (polls : Nat) (k : Schema.Kind) :
    Keeps P (c.waitForResult link clock id wait polls k) :=
  (h.waitForJob hclock id wait polls).bind fun _ ↦ .of_quiet fun _ ↦ rfl

end

end

end Client

end CloudControl
