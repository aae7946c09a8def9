import CloudControl.Proofs.Client.WaitHistory
import CloudControl.Schema.Records

/-!
# The result of a job

A server may wrap what a job has produced in an object with one member, and a client tells the two
apart by their shape alone. `Client.result_of_carries` says that this never goes wrong for a record
that requires a text: neither the record is taken apart when it comes by itself, even if it has but
one member, nor is it left in its wrapping, whatever the name of that is.

The reason is that the text is a member of every object that the record can be read from
(`Kind.exists_lookup_of_requiresText`). So an object with one member has that text for it, which is
no object and no array (`Job.unwrap_of_carries`).
-/

namespace CloudControl

open Client Schema

/-! ## Records that require a text -/

namespace Schema.Kind

/-- A field of the kind holds a text that must be there. -/
def isText : Kind → Bool
  | text => true
  | _ => false

/-- A record of the kind has a text that must be there. -/
def requiresText (k : Kind) : Bool :=
  k.fields.any (·.2.isText)

/-- Only a text that must be there is one. -/
theorem isText_iff {k : Kind} : k.isText = true ↔ k = text := by
  cases k <;> simp [isText]

/-- A kind that requires a text is a record with a field for it. -/
theorem exists_record_of_requiresText {k : Kind} (h : k.requiresText = true) :
    ∃ name fields field, k = record name fields ∧ (field, text) ∈ fields := by
  obtain ⟨⟨field, item⟩, hmem, htext⟩ := List.any_eq_true.mp h
  obtain rfl : item = text := isText_iff.mp htext
  cases k with
  | record name fields => exact ⟨name, fields, field, rfl, hmem⟩
  | text | optionalText | scalar | time | choice | code | optionalCode | raw | list =>
    exact absurd hmem List.not_mem_nil

/-- A required text is read from a member that is a text. -/
theorem exists_string_of_reads {found : Option Json} {v : Value} (h : text.Reads found v) :
    ∃ s, found = some (.string s) := by
  cases found with
  | none => cases h
  | some j =>
    cases j with
    | string s => exact ⟨s, rfl⟩
    | null | bool | number | array | object => cases h

/-- An object that is read as a record with a required text has a text for a member. -/
theorem exists_lookup_of_requiresText {k : Kind} (hk : k.requiresText = true)
    {members : List (String × Json)} {v : Value} (h : k.decode (.object members) = .ok v) :
    ∃ field s, members.lookup field = some (.string s) := by
  obtain ⟨name, fields, field, rfl, hmem⟩ := exists_record_of_requiresText hk
  obtain ⟨x, hreads⟩ := exists_decode_object_iff.mp ⟨v, h⟩ _ hmem
  obtain ⟨s, hs⟩ := exists_string_of_reads hreads
  exact ⟨field, s, hs⟩

/-- Of all records, just these require no text. -/
theorem requiresText_iff : ∀ k ∈ records, k.requiresText = true ↔
    k.name? ∉ [resourceTag, successResponse, asyncJobError, capabilities, resourceLimit,
      usageRecord, usageTypeDescriptor].map name? := by
  decide +kernel

end Schema.Kind

namespace Job

/-! ## What a job carries -/

/-- A result carries an entity, as it is or wrapped under some name. -/
inductive Carries (entity : Json) : Json → Prop where
  | bare : Carries entity entity
  | wrapped (name : String) : Carries entity (.object [(name, entity)])

/-- What stands for the result in the description of a job. -/
def resultIn? (item : Json) : Option Json :=
  Kind.found? "jobresult" 8 item

/-- A job that is read has the result of its description, unless that is null. -/
theorem raw?_of_decode {item : Json} {job : Job} (h : decode item = .ok job) :
    job.fields.raw? "jobresult" =
      (resultIn? item).bind fun j ↦ if j.isNull then none else some j := by
  obtain ⟨v, hv, rfl⟩ := decode_eq_ok_iff.mp h
  obtain ⟨x, hx, hreads⟩ : ∃ x, v.fields.lookup "jobresult" = some x ∧
      Kind.raw.Reads (resultIn? item) x :=
    Kind.exists_reads_of_decode_at (i := 8) (by decide) hv rfl
  have hraw : (Value.fields v).raw? "jobresult" = x.raw? := by
    rw [Record.raw?, hx]
    rfl
  rw [hraw]
  cases hresult : resultIn? item with
  | none =>
    rw [hresult] at hreads
    cases hreads
    rfl
  | some j =>
    rw [hresult] at hreads
    cases hreads
    rfl

/-- An object with a text for a member is not taken for a wrapping. -/
theorem unwrap_of_lookup {members : List (String × Json)} {field s : String}
    (h : members.lookup field = some (.string s)) :
    unwrap (.object members) = .object members := by
  match members with
  | [] => rfl
  | [(name, inner)] =>
    rw [List.lookup_cons] at h
    split at h
    · cases h
      rfl
    · cases h
  | _ :: _ :: _ => rfl

section

variable {k : Kind} (hk : k.requiresText = true) {members : List (String × Json)} {v : Value}
  (h : k.decode (.object members) = .ok v) {shown : Json}
  (hshown : Carries (.object members) shown)
include hk h hshown

/-- The entity is found in what carries it. -/
theorem unwrap_of_carries : unwrap shown = .object members := by
  cases hshown with
  | bare =>
    obtain ⟨field, s, hlookup⟩ := Kind.exists_lookup_of_requiresText hk h
    exact unwrap_of_lookup hlookup
  | wrapped name => rfl

/-- The result of a job is what the entity that it carries is read as. -/
theorem result_of_raw? {job : Job} (hjob : job.fields.raw? "jobresult" = some shown) :
    job.result k = .ok (some v) := by
  unfold result
  rw [hjob]
  show (k.decode (unwrap shown)).map some = _
  rw [unwrap_of_carries hk h hshown, h]
  rfl

end

/-- A limit requires no text. One with a single member that is odd is taken for a wrapping. -/
example : unwrap (.object [("max", .object [("max", .string "5")])]) =
    .object [("max", .string "5")] := rfl

end Job

/-! ## Waiting for a result -/

/-- A reply tells of a job that has succeeded, and of its result. -/
def Reply.TellsOfResult (r : Reply) (job : Job) (shown : Json) : Prop :=
  ∃ content item, r.HasContent content ∧ Envelope.Shows content item ∧ Job.decode item = .ok job ∧
    Job.HasStatus item 1 ∧ Job.resultIn? item = some shown

/-- A reply that tells of a result tells of its job. -/
theorem Reply.TellsOfResult.tellsOf {r : Reply} {job : Job} {shown : Json}
    (h : r.TellsOfResult job shown) : r.TellsOf job 1 := by
  obtain ⟨content, item, hcontent, hitem, hdecode, hstatus, -⟩ := h
  exact ⟨content, item, hcontent, hitem, hdecode, hstatus⟩

/-- A wait for a result goes as the wait for its job, and the result is read at the end. -/
theorem Client.outcome_waitForResult {σ : Type} (link : Link σ) (clock : Clock σ) (c : Client)
    (id : String) (wait : JobWait) (polls : Nat) (k : Kind) (s : σ) :
    (c.waitForResult link clock id wait polls k).outcome s =
      (((c.waitForJob link clock id wait polls).outcome s).1 >>= jobResult id k,
        ((c.waitForJob link clock id wait polls).outcome s).2) := by
  rw [waitForResult, Action.outcome_bind]
  rcases (c.waitForJob link clock id wait polls).outcome s with ⟨e | job, next⟩ <;> rfl

namespace Waiting

variable {σ : Type} (w : Waiting σ)

/-- What the wait for a result comes to with a number of questions, and what the client has done
then. -/
def resultOutcome (k : Kind) (polls : Nat) : Except ClientError Value × σ × List WaitEvent :=
  (w.client.waitForResult (w.link.noting .asks) w.clock.noting w.id w.wait polls k).outcome
    (w.start, [])

/-- The wait for a result ends where the wait for its job does. -/
theorem resultOutcome_of_endsAt {n : Nat} {job : Job} (h : w.EndsAt n (.ok job)) (k : Kind)
    {polls : Nat} (hpolls : n < polls) :
    w.resultOutcome k polls =
      (jobResult w.id k job, w.answered n, w.events n ++ w.question n) := by
  have houtcome := h.ends polls hpolls
  unfold outcome at houtcome
  rw [resultOutcome, outcome_waitForResult, houtcome]
  rfl

end Waiting

/-- An object that can be read as a record with a required text is the result of every job that
carries it, whether it is wrapped or not, and whatever members it has. Every wait that comes to a
reply about such a job, and has been kept going by all the answers before, ends on it with what the
object is read as. -/
theorem Client.result_of_carries {k : Kind} (hk : k.requiresText = true)
    {members : List (String × Json)} {v : Value} (h : k.decode (.object members) = .ok v)
    {shown : Json} (hshown : Job.Carries (.object members) shown) :
    (∀ job : Job, job.fields.raw? "jobresult" = some shown → job.result k = .ok (some v)) ∧
    ∀ {σ : Type} (w : Waiting σ) (n : Nat) (r : Reply) (job : Job), (∀ i < n, w.GoesOn i) →
      w.answer n = .ok r → r.TellsOfResult job shown → ∀ polls, n < polls →
        w.resultOutcome k polls = (.ok v, w.answered n, w.events n ++ w.question n) := by
  refine ⟨fun job hjob ↦ Job.result_of_raw? hk h hshown hjob, ?_⟩
  intro σ w n r job hgoes hr htells polls hpolls
  have hends : Concludes w.id w.wait (w.elapsed n) (w.answer n) (.ok job) :=
    hr ▸ .succeeded htells.tellsOf
  have hresult : job.result k = .ok (some v) := by
    obtain ⟨content, item, -, -, hdecode, -, hitem⟩ := htells
    have hnull : shown.isNull = false := by cases hshown <;> rfl
    apply Job.result_of_raw? hk h hshown
    rw [Job.raw?_of_decode hdecode, hitem, Option.bind_some, hnull]
    rfl
  rw [w.resultOutcome_of_endsAt (w.endsAt_of_concludes hgoes hends) k hpolls]
  unfold jobResult
  rw [hresult]

/-- A machine of which the server shows nothing but the identifier, by itself and under a name that
is that of the member. -/
theorem Client.result_of_carries_virtualMachine :
    let entity : Json := .object [("id", .string "vm-1")]
    let job (shown : Json) : Json := .object [("jobid", .string "j"), ("jobresult", shown),
      ("jobstatus", .ofNat 1)]
    let client : Client := ⟨⟨"http", "", "", some (.domain "localhost"), some 8080,
      .segments ["client", "api"], none, none⟩,
      some (.signed ⟨"stub-api-key", "stub-secret-key", none⟩)⟩
    let w (shown : Json) : Waiting Nat :=
      Waiting.scripted (fun _ ↦ job shown) (2500000000 * ·) client "j"
        { interval := 2000000000, timeout := 7000000000 }
    ∃ v, Kind.virtualMachine.decode entity = .ok v ∧
      ((w entity).resultOutcome .virtualMachine 1).1 = .ok v ∧
      ((w (.object [("id", entity)])).resultOutcome .virtualMachine 1).1 = .ok v := by
  intro entity job client w
  obtain ⟨v, hv⟩ : ∃ v, Kind.virtualMachine.decode entity = .ok v := ⟨_, rfl⟩
  have hready : client.IsReady ⟨0, 0⟩ := ⟨rfl, ⟨_, rfl, rfl⟩, by decide⟩
  have hread : ∀ shown, Job.Carries entity shown →
      (Simulator.Answer.reply Simulator.jobCommand 200 (job shown)).IsReadBack →
      ((w shown).resultOutcome .virtualMachine 1).1 = .ok v := by
    intro shown hshown hback
    obtain ⟨j, hdecode⟩ : ∃ j, Job.decode (job shown) = .ok j := ⟨_, rfl⟩
    have hcontent : (Simulator.Answer.reply Simulator.jobCommand 200
        (job shown)).toReply.HasContent (job shown) := Envelope.unwrap_reply hback rfl
    have houtcome := (result_of_carries (by decide) hv hshown).2 (w shown) 0 _ j nofun
      (Waiting.answer_scripted hready 0)
      ⟨job shown, job shown, hcontent, .itself nofun nofun, hdecode,
        .code (j := .ofNat 1) rfl nofun, rfl⟩ 1 (by decide)
    exact congrArg Prod.fst houtcome
  exact ⟨v, hv, hread _ .bare (Json.parse?_compact (by decide)),
    hread _ (.wrapped "id") (Json.parse?_compact (by decide))⟩

end CloudControl
