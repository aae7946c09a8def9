import CloudControl.Proofs.Except
import CloudControl.Proofs.Json.Members
import CloudControl.Proofs.Lists
import CloudControl.Simulator.Fixtures

/-!
# Fixtures that have been loaded

Whatever files a server has loaded, it holds one reply for each name, and every reply is what was
parsed from a file, out of the object that it may have been wrapped in
(`Simulator.Fixtures.isLoaded_of_load`). So the replies that it goes through are just those that
it finds by their names (`Simulator.Fixtures.IsLoaded.mem_iff`).
-/

namespace CloudControl

/-- Members in the order of their names have different names. -/
theorem Json.Ascending.nodup {α : Type} {members : List (String × α)} (h : Json.Ascending members) :
    (members.map Prod.fst).Nodup := by
  refine List.pairwise_map.mpr (h.imp fun {m n} hlt heq ↦ ?_)
  rw [heq] at hlt
  exact String.lt_irrefl n.1 hlt

namespace Simulator.Fixtures

/-- What holds of fixtures that have been loaded from files. -/
structure IsLoaded (f : Fixtures) : Prop where
  ascending : Json.Ascending f.replies
  /-- A reply was parsed from a file whose name, in small letters, is its own. -/
  origin : ∀ reply ∈ f.replies, ∃ command text value, Text.lowercase command = reply.1 ∧
    Json.parse? text = some value ∧ reply.2 = unwrapFixture reply.1 value

/-- Adding a file to fixtures that have been loaded. -/
theorem IsLoaded.addFile {f f' : Fixtures} (hf : f.IsLoaded) {file : String × String}
    (h : f.addFile file = .ok f') : f'.IsLoaded := by
  unfold Fixtures.addFile at h
  split at h
  · next name value hname hvalue =>
    split at h
    · obtain ⟨jobs, _, h⟩ := bind_eq_ok_iff.mp h
      obtain rfl := Except.ok.inj h
      exact ⟨hf.ascending, hf.origin⟩
    · obtain rfl := Except.ok.inj h
      refine ⟨hf.ascending.insertMember _ _, fun reply hreply ↦ ?_⟩
      rcases Json.mem_insertMember hreply with rfl | hreply
      · obtain ⟨stem, _, hstem⟩ := Option.map_eq_some_iff.mp hname
        exact ⟨stem, file.2, value, hstem, hvalue, rfl⟩
      · exact hf.origin reply hreply
  · obtain rfl := Except.ok.inj h
    exact hf

/-- Fixtures are loaded from files. -/
theorem isLoaded_of_load {files : List (String × String)} {f : Fixtures} (h : load files = .ok f) :
    f.IsLoaded := by
  have hempty : empty.IsLoaded := ⟨.nil, fun _ hreply ↦ absurd hreply List.not_mem_nil⟩
  exact foldlM_induction hempty (fun _ _ _ hf ↦ hf.addFile) h

/-- Fixtures with the same replies and jobs are what is loaded. -/
theorem load_eq_ok {files : List (String × String)} {f : Fixtures}
    (h : (load files).toOption.map (fun f ↦ (f.replies, f.jobs)) = some (f.replies, f.jobs)) :
    load files = .ok f := by
  obtain ⟨g, hg, heq⟩ := Option.map_eq_some_iff.mp h
  rw [toOption_eq_some_iff.mp hg]
  obtain ⟨hreplies, hjobs⟩ := Prod.mk.inj heq
  cases f
  cases g
  cases hreplies
  cases hjobs
  rfl

/-- A reply is the one that is found under its name. -/
theorem IsLoaded.mem_iff {f : Fixtures} (hf : f.IsLoaded) {name : String} {fixture : Json} :
    (name, fixture) ∈ f.replies ↔ f.reply? name = some fixture :=
  ⟨fun h ↦ lookup_of_mem hf.ascending.nodup h, fun h ↦ mem_of_lookup_eq_some h⟩

end Simulator.Fixtures

end CloudControl
