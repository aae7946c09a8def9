import CloudControl.CommandLine.Run
import CloudControl.Proofs.Client.Invariants

/-!
# The requests of a command line

Whatever a task does, it does through its client, so that it keeps every condition on the state of
a link that all requests of the client keep (`Task.keeps_perform`). The requests that a command
line sends are therefore requests of the client that its target gives (`makes_of_mem_requests`).
-/

namespace CloudControl.CommandLine

/-- A condition on the state of the link beside a console. -/
def Console.Serves {σ : Type} (P : σ → Prop) (c : Console σ) : Prop :=
  P c.server

namespace Session

variable {σ α : Type} {P : σ → Prop}

/-- Requests keep what they keep of the state of their link. -/
theorem keeps_ask {a : Action σ α} (h : Keeps P a) : Keeps (Console.Serves P) (ask a) := by
  intro c hc
  have hnext : P (a.outcome c.server).2 := h c.server hc
  unfold Console.Serves ask
  rcases ha : a.outcome c.server with ⟨e | x, next⟩ <;>
  · rw [ha] at hnext
    simp only [ExceptT.run, ExceptT.mk, ha]
    exact hnext

/-- What is printed has nothing to do with the link. -/
theorem keeps_print (line : String) : Keeps (Console.Serves P) (print line) :=
  fun _ hc ↦ hc

/-- What is printed has nothing to do with the link. -/
theorem keeps_printAll (lines : List String) : Keeps (Console.Serves P) (printAll lines) :=
  fun _ hc ↦ hc

/-- Entities are printed. -/
theorem keeps_showAll (json : Bool) (columns : List Column) (values : List Schema.Value) :
    Keeps (Console.Serves P) (showAll json columns values) := by
  cases json with
  | false => exact keeps_print _
  | true => exact keeps_print _

/-- An entity is printed. -/
theorem keeps_showOne (json : Bool) (lines : Schema.Record → List String) (v : Schema.Value) :
    Keeps (Console.Serves P) (showOne json lines v) := by
  cases json with
  | false => exact keeps_printAll _
  | true => exact keeps_print _

/-- A job that has been started is printed. -/
theorem keeps_showStarted (json : Bool) (started : Schema.Value) :
    Keeps (Console.Serves P) (showStarted json started) := by
  cases json with
  | false => exact keeps_print _
  | true => exact keeps_print _

section

variable {cn : Connection σ} (h : cn.client.Respects cn.link P) (k : Call)

include h

/-- A call makes requests of the client. -/
theorem keeps_call : Keeps (Console.Serves P) (call cn k) :=
  keeps_ask (h.run k.operation k.args k.options)

/-- A call for one value makes requests of the client. -/
theorem keeps_callValue? : Keeps (Console.Serves P) (callValue? cn k) := by
  refine (keeps_call h k).bind fun result ↦ ?_
  cases result <;> exact .pure _

/-- A call for values makes requests of the client. -/
theorem keeps_callItems : Keeps (Console.Serves P) (callItems cn k) := by
  refine (keeps_call h k).bind fun result ↦ ?_
  cases result <;> exact .pure _

/-- Starting a job makes requests of the client. -/
theorem keeps_startJob : Keeps (Console.Serves P) (startJob cn k) :=
  (keeps_callValue? h k).bind fun _ ↦ .pure _

end

end Session

open Session

variable {σ : Type} {P : σ → Prop}

/-- A task keeps what every request of its client keeps. -/
theorem Task.keeps_perform {cn : Connection σ} (h : cn.client.Respects cn.link P)
    (hclock : ∀ ms s, P s → P (cn.clock.sleep ms s)) (json : Bool) (t : Task) :
    Keeps (Console.Serves P) (t.perform cn json) := by
  cases t with
  | list k columns => exact (keeps_callItems h k).bind fun _ ↦ keeps_showAll _ _ _
  | pages k kind pageSize columns =>
    exact (keeps_ask (h.listAll _ _ _ _)).bind fun _ ↦ keeps_showAll _ _ _
  | entity k noun id lines =>
    refine (keeps_callValue? h k).bind fun v? ↦ ?_
    cases v? with
    | none => exact .throw _
    | some v => exact keeps_showOne _ _ _
  | job k wait announcement? kind sentence =>
    refine (keeps_startJob h k).bind fun started ↦ ?_
    cases wait with
    | none =>
      cases json with
      | false => exact (keeps_printAll _).bind fun _ ↦ keeps_showStarted _ _
      | true => exact keeps_showStarted true started
    | some w =>
      have hawaited := keeps_ask (h.waitForResult hclock (jobId started) w w.maxPolls kind)
      cases json with
      | false => exact (keeps_printAll _).bind fun _ ↦ hawaited.bind fun _ ↦ keeps_showOne _ _ _
      | true => exact hawaited.bind fun _ ↦ keeps_showOne _ _ _
  | chore k wait sentence =>
    refine (keeps_startJob h k).bind fun started ↦ ?_
    cases wait with
    | none => exact keeps_showStarted _ _
    | some w =>
      refine (keeps_ask (h.waitForJob hclock _ _ _)).bind fun _ ↦ ?_
      cases json with
      | false => exact keeps_print _
      | true => exact .pure _
  | order k sentence => exact (keeps_call h k).bind fun _ ↦ keeps_print _
  | generateUsage first last =>
    refine (keeps_callValue? h _).bind fun v? ↦ ?_
    simp only
    split_ifs
    · exact keeps_print _
    · exact .throw _
    · exact keeps_print _
  | awaitJob id wait =>
    exact (keeps_ask (h.waitForJob hclock _ _ _)).bind fun _ ↦ keeps_showOne _ _ _
  | raw command params => exact (keeps_ask (h.sendRaw command params)).bind fun _ ↦ keeps_print _
  | refuse e => exact .throw e

/-- The requests that a command line sends. -/
def requests (link : Link σ) (clock : Clock σ) (env : Environment) (words : List String)
    (f : SettingsFolder) (s : σ) : List Request :=
  (run link.recorded clock.recorded env words f (s, [])).server.2

/-- A command line sends requests only for a task, and these are requests of the client of its
target. -/
theorem makes_of_mem_requests {link : Link σ} {clock : Clock σ} {env : Environment}
    {words : List String} {f : SettingsFolder} {s : σ} {r : Request}
    (hr : r ∈ requests link clock env words f s) :
    ∃ i c, Invocation.read env words = .ok i ∧ clientOf i env f = .ok c ∧ c.Makes r := by
  unfold requests run at hr
  split at hr
  · next i hread =>
    unfold runInvocation at hr
    split at hr
    · exact absurd hr List.not_mem_nil
    · next t ht =>
      unfold runTask at hr
      split at hr
      · exact absurd hr List.not_mem_nil
      · next c hclient =>
        -- What has been sent so far are requests of the client.
        have hrespects : c.Respects link.recorded fun s ↦ ∀ r ∈ s.2, c.Makes r := by
          intro r s hmakes hs
          exact List.forall_mem_append.mpr ⟨hs, List.forall_mem_singleton.mpr hmakes⟩
        let cn : Connection (σ × List Request) := ⟨link.recorded, clock.recorded, c⟩
        have hkeeps : Keeps (Console.Serves fun s ↦ ∀ r ∈ s.2, c.Makes r) (t.perform cn i.json) :=
          Task.keeps_perform hrespects (fun _ _ hs ↦ hs) i.json t
        have hsent := hkeeps ⟨(s, []), []⟩ fun _ h ↦ absurd h List.not_mem_nil
        exact ⟨i, c, hread, hclient, hsent r hr⟩
  all_goals exact absurd hr List.not_mem_nil

end CloudControl.CommandLine
