import CloudControl.Proofs.Client.Envelope
import CloudControl.Proofs.Client.Unwrapping
import CloudControl.Proofs.Simulator.Existence

/-!
# Recorded replies

A file of a simulated server may be the reply of another server as it was received, or the content
of such a reply. Either way the server holds the content: it takes a file out of the object that it
is wrapped in by the rule by which a client takes a reply out of its envelope
(`Simulator.unwrapFixture_of_wraps`, `Simulator.unwrapFixture_of_not_wraps`). A file that a client
would have taken a content out of is therefore answered with just that content
(`Simulator.Server.Replays`).
-/

namespace CloudControl

open Simulator

namespace Envelope

variable {command body : String} {status : Nat} {reply : Json}

/-- A reply that is taken out of a body is the one that the body wraps, and has no error code. -/
theorem exists_of_unwrap (h : unwrap command status body = .ok reply) :
    ∃ parsed, Json.parse? body = some parsed ∧ find? command parsed = some reply ∧
      (reply.get? errorCodeKey).bind code? = none := by
  unfold unwrap at h
  cases hparse : Json.parse? body with
  | none =>
    rw [hparse] at h
    simp only at h
    split at h <;> cases h
  | some parsed =>
    rw [hparse] at h
    simp only at h
    split at h
    · cases h
    · next hsuccess =>
      split at h
      · next inner hfind =>
        cases h
        rw [hfind, Option.bind_some, Bool.or_eq_true, not_or, Bool.not_eq_true,
          Bool.not_eq_true, Option.isSome_eq_false_iff, Option.isNone_iff_eq_none] at hsuccess
        exact ⟨parsed, rfl, hfind, hsuccess.2⟩
      · cases h

end Envelope

namespace Simulator

open Envelope

variable {command : String} {value content : Json}

/-! ## One rule for both sides -/

/-- A file that wraps a reply to its command holds that reply. -/
theorem unwrapFixture_of_wraps (h : Wraps command value content) :
    unwrapFixture (Text.lowercase command) value = content := by
  cases h with
  | named hlookup => simp only [unwrapFixture, hlookup]
  | lone hother hending =>
    simp only [unwrapFixture, List.lookup_cons, beq_eq_false_iff_ne.mpr hother.symm,
      List.lookup_nil, Text.endsIn, List.isSuffixOf_iff_suffix.mpr hending, if_true]

/-- A file that wraps no reply to its command is held as it is. -/
theorem unwrapFixture_of_not_wraps (h : ∀ content, ¬ Wraps command value content) :
    unwrapFixture (Text.lowercase command) value = value := by
  unfold unwrapFixture
  split
  · split
    · next hlookup => exact absurd (.named hlookup) (h _)
    · next hnone =>
      split
      · next key inner =>
        refine if_neg fun hends ↦ h inner (.lone ?_ (List.isSuffixOf_iff_suffix.mp hends))
        rintro rfl
        exact absurd (hnone.symm.trans List.lookup_cons_self) nofun
      · rfl
  · rfl

/-- A file holds what a client finds in it, and itself where a client finds nothing. -/
theorem unwrapFixture_eq_getD (command : String) (value : Json) :
    unwrapFixture (Text.lowercase command) value = (find? command value).getD value := by
  cases hfind : find? command value with
  | some content => exact unwrapFixture_of_wraps (find?_eq_some_iff.mp hfind)
  | none =>
    refine unwrapFixture_of_not_wraps fun content hwraps ↦ ?_
    rw [find?_eq_some_iff.mpr hwraps] at hfind
    cases hfind

/-! ## Files that are loaded -/

/-- The name in front of the ending of a file. -/
theorem stem?_append (h : command ≠ "") : stem? (command ++ ".json") = some command := by
  have hne : command.toList ≠ [] := fun hnil ↦ h (String.toList_eq_nil_iff.mp hnil)
  have hlength := List.length_pos_iff.mpr hne
  unfold stem?
  simp only [String.toList_append, List.length_append]
  rw [if_pos]
  · simp
  · simp [hlength]

namespace Fixtures

variable {text : String} (f : Fixtures)

/-- A file adds the reply to its command, and changes nothing else. -/
theorem addFile_eq (hcommand : command ≠ "") (hjobs : Text.lowercase command ≠ jobsStem)
    (hparse : Json.parse? text = some value) :
    f.addFile (command ++ ".json", text) = .ok { f with
      replies := Json.insertMember (Text.lowercase command)
        ((find? command value).getD value) f.replies } := by
  simp only [addFile, stem?_append hcommand, Option.map_some, hparse, if_neg hjobs,
    unwrapFixture_eq_getD]

/-- A file is found under its command, and everything else is found as before. -/
theorem exists_addFile (hcommand : command ≠ "") (hjobs : Text.lowercase command ≠ jobsStem)
    (hparse : Json.parse? text = some value) :
    ∃ f', f.addFile (command ++ ".json", text) = .ok f' ∧
      f'.reply? (Text.lowercase command) = some ((find? command value).getD value) ∧
      (∀ name, name ≠ Text.lowercase command → f'.reply? name = f.reply? name) ∧
      f'.jobs = f.jobs :=
  ⟨_, f.addFile_eq hcommand hjobs hparse, Json.lookup_insertMember_self _ _ _,
    fun _ hname ↦ Json.lookup_insertMember_of_ne hname _ _, rfl⟩

end Fixtures

/-! ## Files that are served -/

/-- A call is answered from the fixture of a command: the server accepts it, and the command is none
that is answered without fixtures. -/
structure Call.AsksFixture (server : Server) (s : State) (command : String) (c : Call) : Prop where
  command_eq : c.command? = some command
  other : command ∉ builtIn
  authorised : c.IsAuthorised server s

/-- The server replays a content for a command. A listing selects from it, and every other command
is answered with it, unless the call names an entity that no list shows. A client takes it out of
such an answer. -/
structure Server.Replays (server : Server) (command : String) (content : Json) : Prop where
  listing : ∀ {s : State} {c : Call}, isListing command = true →
    c.AsksFixture server s command → c.answer server s = listing command content c.params
  single : ∀ {s : State} {c : Call}, isListing command = false →
    c.AsksFixture server s command →
    (∀ id, Auth.lookup? "id" c.params = some id → id ∈ server.fixtures.entityIds) →
    c.answer server s = .reply command 200 content
  received : (Answer.reply command 200 content).IsReadBack →
    unwrap command 200 (Answer.reply command 200 content).body.compact = .ok content

/-- A content without an error code is replayed by a server that holds it. -/
theorem Server.replays_of_reply? {server : Server}
    (hreply : server.fixtures.reply? command = some content)
    (hcode : (content.get? errorCodeKey).bind code? = none) : server.Replays command content where
  listing hlisting hasks := by
    obtain ⟨spelling, hanswer⟩ :=
      Call.answer_of_fixture hasks.command_eq hasks.other hasks.authorised
    rw [hanswer, answerFixture, hreply]
    exact if_pos hlisting
  single {s c} hlisting hasks hknown := by
    obtain ⟨spelling, hanswer⟩ :=
      Call.answer_of_fixture hasks.command_eq hasks.other hasks.authorised
    rw [hanswer, answerFixture, hreply]
    simp only [hlisting, Bool.false_eq_true, if_false, Simulator.single]
    cases hid : Auth.lookup? "id" c.params with
    | none => rfl
    | some id => simp only [List.contains_iff_mem.mpr (hknown id hid), if_true]
  received hback := unwrap_reply hback hcode

/-- A file is taken out of its envelope by the rule of the client. For a command in small letters,
the content of a file is what the client finds in it, and the file itself if the client finds
nothing. So the reply of another server, recorded as the client has received it under any status,
is loaded as the content that the client has taken out of it, without a change to any other file,
and is replayed with just that content. -/
theorem unwrapFixture_eq_find? (hlower : Text.lowercase command = command) (value : Json) :
    (∀ content, find? command value = some content → unwrapFixture command value = content) ∧
    (find? command value = none → unwrapFixture command value = value) ∧
    ∀ {text : String} {status : Nat} {content : Json}, Json.parse? text = some value →
      unwrap command status text = .ok content → command ≠ "" → command ≠ Fixtures.jobsStem →
      ∀ f : Fixtures, ∃ f', f.addFile (command ++ ".json", text) = .ok f' ∧
        f'.reply? command = some content ∧
        (∀ name, name ≠ command → f'.reply? name = f.reply? name) ∧ f'.jobs = f.jobs ∧
        ∀ server : Server, server.fixtures = f' → server.Replays command content := by
  have hfixture := unwrapFixture_eq_getD command value
  rw [hlower] at hfixture
  refine ⟨fun content hfind ↦ ?_, fun hnone ↦ ?_, ?_⟩
  · rw [hfixture, hfind, Option.getD_some]
  · rw [hfixture, hnone, Option.getD_none]
  · intro text status content hparse hunwrap hcommand hjobs f
    obtain ⟨parsed, hparsed, hfind, hcode⟩ := exists_of_unwrap hunwrap
    obtain rfl : value = parsed := Option.some.inj (hparse.symm.trans hparsed)
    obtain ⟨f', hadd, hreply, hothers, hsame⟩ :=
      f.exists_addFile hcommand (hlower.symm ▸ hjobs) hparse
    rw [hlower] at hreply hothers
    rw [hfind, Option.getD_some] at hreply
    refine ⟨f', hadd, hreply, hothers, hsame, ?_⟩
    rintro server rfl
    exact Server.replays_of_reply? hreply hcode

/-- A recorded reply whose only member has the name of another command is added to the files of the
zones, and a session is answered with the job in it. -/
theorem unwrapFixture_eq_find?_deployvm :
    let job : Json := .object [("jobid", .string "j")]
    let recorded : Json := .object [("deployvirtualmachineresponse", job)]
    let text := "\x7b\"deployvirtualmachineresponse\": \x7b\"jobid\": \"j\"\x7d\x7d"
    let c : Call := ⟨⟨0, 0⟩, [(Command.commandParam, "deployVM"), (sessionKeyParam, "key")], []⟩
    Text.lowercase "deployvm" = "deployvm" ∧ Json.parse? text = some recorded ∧
      unwrap "deployvm" 200 text = .ok job ∧ unwrapFixture "deployvm" recorded = job ∧
      unwrapFixture "deployvm" job = job ∧
      ∃ f', Call.zoneFixtures.addFile ("deployvm.json", text) = .ok f' ∧
        f'.reply? "deletezone" = some (.object [("success", .bool true)]) ∧
        c.answer { Call.zoneServer with fixtures := f' } Call.zoneSession =
          .reply "deployvm" 200 job := by
  intro job recorded text c
  have hlower : Text.lowercase "deployvm" = "deployvm" := by decide
  have hparse : Json.parse? text = some recorded := by decide +kernel
  have hunwrap : unwrap "deployvm" 200 text = .ok job := by
    rw [unwrap, hparse]
    rfl
  obtain ⟨hfound, -, hloads⟩ := unwrapFixture_eq_find? hlower recorded
  obtain ⟨-, hsame, -⟩ := unwrapFixture_eq_find? hlower job
  obtain ⟨f', hadd, -, hothers, -, hreplays⟩ :=
    hloads hparse hunwrap (by decide) (by decide) Call.zoneFixtures
  have hauthorised : c.IsAuthorised Call.zoneServer Call.zoneSession := by decide
  have hnone : Auth.lookup? "id" c.params = none := rfl
  have hasks : c.AsksFixture { Call.zoneServer with fixtures := f' } Call.zoneSession "deployvm" :=
    ⟨rfl, by decide, hauthorised⟩
  refine ⟨hlower, hparse, hunwrap, hfound job rfl, hsame rfl, f', hadd, ?_, ?_⟩
  · rw [hothers "deletezone" (by decide)]
    rfl
  · refine (hreplays { Call.zoneServer with fixtures := f' } rfl).single (by decide) hasks ?_
    intro id hid
    rw [hnone] at hid
    cases hid

end Simulator

end CloudControl
