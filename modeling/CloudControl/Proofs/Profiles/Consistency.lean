import CloudControl.Profiles.Command
import CloudControl.Proofs.Profiles.Entries
import CloudControl.Proofs.Stateful

/-!
# The settings folder stays consistent

Every command on profiles keeps the settings folder, whether it succeeds or fails on the way
(`ProfileCommand.keeps_run`). So it is consistent after any commands that start without files
(`ProfileCommand.isConsistent_folderAfter`): the selected profile is there, every profile stands
under its own name, and none stands under the name of the environment.
-/

namespace CloudControl

namespace ProfileAction

open SettingsFolder

/-- A condition on the settings folder of a desk. -/
def On (P : SettingsFolder → Prop) (d : ProfileDesk) : Prop :=
  P d.folder

section

variable {α : Type} {P E : ProfileDesk → Prop} {Q : α → ProfileDesk → Prop}

/-- The folder is looked at. -/
theorem ensures_folder : Ensures P folder (fun f d ↦ P d ∧ d.folder = f) E :=
  fun _ hd ↦ ⟨hd, rfl⟩

/-- An outcome is taken over, with the state as it is. -/
theorem ensures_lift {outcome : Except ProfileError α}
    (hok : ∀ x, outcome = .ok x → ∀ d, P d → Q x d)
    (herror : ∀ e, outcome = .error e → ∀ d, P d → E d) : Ensures P (lift outcome) Q E := by
  intro d hd
  cases outcome with
  | ok x => exact hok x rfl d hd
  | error e => exact herror e rfl d hd

/-- Something is read from the folder before the computation goes on. -/
theorem ensures_read_bind {β : Type} {read : SettingsFolder → Except ProfileError α}
    {next : α → ProfileAction β} {R : β → ProfileDesk → Prop} (herror : ∀ d, P d → E d)
    (h : ∀ x, Ensures (fun d ↦ P d ∧ read d.folder = .ok x) (next x) R E) :
    Ensures P (do next (← lift (read (← folder)))) R E := by
  refine ensures_folder.bind fun f ↦ (ensures_lift ?_ ?_).bind h
  · rintro x hread d ⟨hd, rfl⟩
    exact ⟨hd, hread⟩
  · exact fun e _ d hd ↦ herror d hd.1

/-- An argument that must be there is. -/
theorem ensures_given (arg? : Option String) (herror : ∀ d, P d → E d) :
    Ensures P (given arg?) (fun arg d ↦ P d ∧ arg? = some arg) E := by
  cases arg? with
  | none => exact .throw herror _
  | some arg => exact fun d hd ↦ ⟨hd, rfl⟩

end

variable {P Q E : SettingsFolder → Prop} {name : String}

/-- A change of the folder that fails leaves it as it is. -/
theorem ensures_change {step : SettingsFolder → Except ProfileError SettingsFolder}
    (hok : ∀ f f', P f → step f = .ok f' → Q f') (herror : ∀ f e, P f → step f = .error e → E f) :
    Ensures (On P) (change step) (fun _ ↦ On Q) (On E) := by
  refine ensures_folder.bind fun f ↦ (ensures_lift (Q := fun f' _ ↦ Q f') ?_ ?_).bind fun f' ↦ ?_
  · rintro f' hstep d ⟨hd, rfl⟩
    exact hok _ f' hd hstep
  · rintro e hstep d ⟨hd, rfl⟩
    exact herror _ e hd hstep
  · exact fun d hf' ↦ hf'

/-- What is printed has nothing to do with the folder. -/
theorem ensures_print (line : String) : Ensures (On P) (print line) (fun _ ↦ On P) (On E) :=
  fun _ hd ↦ hd

/-- A profile is saved at its place. -/
theorem ensures_saveProfile {p : Profile} (hplain : '/' ∉ p.name.toList)
    (hname : p.name ≠ Profile.environmentName) :
    Ensures (On IsWellKept) (saveProfile p) (fun _ ↦ On fun f ↦ f.IsWellKept ∧ f.Knows p.name)
      (On IsWellKept) := by
  refine (ensures_change (Q := IsWellKept) ?_ fun f _ hf _ ↦ hf).bind fun _ ↦
    ensures_change ?_ fun f _ hf _ ↦ hf
  · exact fun f f' hf hensured ↦ hf.ensureProfiles hensured
  · exact fun f f' hf hwritten ↦ hf.writeProfile hplain hname hwritten

/-- The selection of a known name is saved, which cannot fail. -/
theorem ensures_saveSelection {s : Selection} :
    Ensures (On fun f ↦ f.HasEntries ∧ ∀ name, s.current = some name → f.Knows name)
      (saveSelection s) (fun _ ↦ On fun f ↦ f.IsWellKept ∧ f.loadSelection = .ok s)
      (On fun _ ↦ False) := by
  refine (ensures_change (Q := fun f ↦ f.HasEntries ∧ ∀ name, s.current = some name → f.Knows name)
    ?_ ?_).bind fun _ ↦ ensures_change ?_ ?_
  · rintro f f' ⟨hf, hcurrent⟩ hensured
    exact ⟨hf.ensureProfiles hensured, fun name hname ↦
      (hcurrent name hname).ensureProfiles hensured⟩
  · rintro f e ⟨hf, -⟩ herror
    obtain ⟨f', hok⟩ := hf.exists_ensureProfiles
    exact absurd (hok.symm.trans herror) nofun
  · rintro f f' ⟨hf, hcurrent⟩ hwritten
    exact hf.writeSelection hcurrent hwritten
  · rintro f e ⟨hf, -⟩ herror
    obtain ⟨f', hok⟩ := hf.exists_writeSelection s
    exact absurd (hok.symm.trans herror) nofun

end ProfileAction

namespace ProfileCommand

open ProfileAction SettingsFolder

/-- A known name is selected. -/
theorem ensures_select (selection : Selection) (name : String) :
    Ensures (On fun f ↦ f.IsWellKept ∧ f.Knows name)
      (do saveSelection (selection.select name); printSelected name) (fun _ ↦ On IsWellKept)
      (On IsWellKept) := by
  refine (ensures_saveSelection.imp ?_ (fun _ _ h ↦ h.1) fun _ h ↦ h.elim).bind fun _ ↦
    ensures_print _
  exact fun d hd ↦ ⟨hd.1.entries, fun _ hselected ↦ Option.some.inj hselected ▸ hd.2⟩

/-- Creating a profile keeps the folder. -/
theorem ensures_runCreate {name? url? apiKey? secretKey? : Option String} (current : Bool)
    (hplain : ∀ name, name? = some name → '/' ∉ name.toList) :
    Ensures (On IsWellKept) (runCreate name? url? apiKey? secretKey? current)
      (fun _ ↦ On IsWellKept) (On IsWellKept) := by
  refine (ensures_given _ fun _ hd ↦ hd).bind fun name ↦ .of_fact fun hname ↦ ?_
  simp only
  split
  · exact .throw_bind (fun _ hd ↦ hd) _ _
  next hother =>
  refine ensures_read_bind (fun _ hd ↦ hd) fun names ↦ ?_
  split
  · exact .throw_bind (fun _ hd ↦ hd.1) _ _
  refine (ensures_given _ fun _ hd ↦ hd.1).bind fun url ↦ .of_fact fun _ ↦ ?_
  refine (ensures_given _ fun _ hd ↦ hd.1).bind fun apiKey ↦ .of_fact fun _ ↦ ?_
  refine (ensures_given _ fun _ hd ↦ hd.1).bind fun secretKey ↦ .of_fact fun _ ↦ ?_
  let p : Profile := ⟨name, url, apiKey, secretKey⟩
  have hsaved := ensures_saveProfile (p := p) (hplain name hname) hother
  refine (hsaved.imp (fun _ hd ↦ hd.1) (fun _ _ h ↦ h) fun _ h ↦ h).bind fun _ ↦ ?_
  refine (ensures_print _).bind fun _ ↦ ?_
  refine ensures_read_bind (fun _ hd ↦ hd.1) fun selection ↦ ?_
  split
  · exact (ensures_select selection name).imp (fun _ hd ↦ hd.1) (fun _ _ h ↦ h) fun _ h ↦ h
  · exact fun d hd ↦ hd.1.1

/-- Deleting profiles keeps the folder. -/
theorem ensures_deleteAll (force : Bool) (selection : Selection) (names : List String)
    (hplain : ∀ name ∈ names, '/' ∉ name.toList) :
    Ensures (On fun f ↦ f.IsWellKept ∧ f.loadSelection = .ok selection)
      (deleteAll force selection names) (fun _ ↦ On IsWellKept) (On IsWellKept) := by
  induction names generalizing selection with
  | nil => exact fun d hd ↦ hd.1
  | cons name rest ih =>
    obtain ⟨hname, hrest⟩ := List.forall_mem_cons.mp hplain
    rw [deleteAll]
    cases force with
    | false => exact .throw_bind (fun _ hd ↦ hd.1) _ _
    | true =>
      -- Between the deletion and what follows, the selected profile may be the one that is gone.
      refine (ensures_change (Q := fun f ↦ f.HasEntries ∧ f.loadSelection = .ok selection ∧
        ∀ other, other ≠ name → selection.current = some other → f.Knows other) ?_
        fun f _ hf _ ↦ hf.1).bind fun _ ↦ (ensures_print _).bind fun _ ↦ ?_
      · rintro f f' ⟨hf, hselection⟩ hdeleted
        obtain ⟨hentries, hsame, hothers⟩ := hf.deleteProfile hname hdeleted
        exact ⟨hentries, hsame.trans hselection, fun other hother hcurrent ↦
          hothers other hother (hf.current selection hselection other hcurrent)⟩
      · split
        · refine (ensures_saveSelection.imp ?_ (fun _ _ h ↦ h) fun _ h ↦ h.elim).bind fun _ ↦
            ih selection.clear hrest
          exact fun d hd ↦ ⟨hd.1, fun _ h ↦ nomatch h⟩
        · next hcurrent =>
          refine (ih selection hrest).imp ?_ (fun _ _ h ↦ h) fun _ h ↦ h
          rintro d ⟨hentries, hselection, hothers⟩
          refine ⟨⟨hentries, fun s hs other hother ↦ ?_⟩, hselection⟩
          obtain rfl : selection = s := Except.ok.inj (hselection.symm.trans hs)
          exact hothers other (fun heq ↦ hcurrent (heq ▸ hother)) hother

/-- Selecting a profile keeps the folder. -/
theorem ensures_runSetCurrent (name : String) :
    Ensures (On IsWellKept) (runSetCurrent name) (fun _ ↦ On IsWellKept) (On IsWellKept) := by
  unfold runSetCurrent
  refine ensures_read_bind (fun _ hd ↦ hd) fun selection ↦ ?_
  refine (ensures_lift (Q := fun _ ↦ On IsWellKept) (fun _ _ _ hd ↦ hd.1)
    fun _ _ _ hd ↦ hd.1).bind fun name ↦ ?_
  have hselect := ensures_select selection name
  simp only
  split
  · refine ensures_read_bind (fun _ hd ↦ hd) fun names ↦ ?_
    split
    · exact .throw_bind (fun _ hd ↦ hd.1) _ _
    · next hlisted =>
      refine hselect.imp (fun d hd ↦ ⟨hd.1, knows_of_mem_listProfiles hd.2 ?_⟩) (fun _ _ h ↦ h)
        fun _ h ↦ h
      simpa using hlisted
  · next hother =>
    exact hselect.imp (fun d hd ↦ ⟨hd, .inl (not_not.mp hother)⟩) (fun _ _ h ↦ h) fun _ h ↦ h

/-- The names of profiles to create or delete hold no slash. -/
def IsPlain : ProfileCommand → Prop
  | create name? _ _ _ _ => ∀ name, name? = some name → '/' ∉ name.toList
  | delete names _ => ∀ name ∈ names, '/' ∉ name.toList
  | list | get _ | setCurrent _ => True

/-- Every command keeps the folder, whether it succeeds or fails. -/
theorem keeps_run (env : Environment) (json : Bool) {c : ProfileCommand} (hplain : c.IsPlain) :
    Keeps (On IsWellKept) (c.run env json) := by
  refine keeps_iff_ensures.mpr ?_
  cases c with
  | list =>
    refine ensures_folder.bind fun f ↦ (ensures_lift (Q := fun _ ↦ On IsWellKept)
      (fun _ _ _ hd ↦ hd.1) fun _ _ _ hd ↦ hd.1).bind fun profiles ↦ ?_
    split <;> exact ensures_print _
  | get name? =>
    refine ensures_read_bind (fun _ hd ↦ hd) fun p d hd ↦ ?_
    cases json <;> exact hd.1
  | create name? url? apiKey? secretKey? current => exact ensures_runCreate current hplain
  | delete names force =>
    exact ensures_read_bind (fun _ hd ↦ hd) fun selection ↦
      ensures_deleteAll force selection names hplain
  | setCurrent name => exact ensures_runSetCurrent name

/-- The settings folder after commands, each in an environment of its own. -/
def folderAfter : List (Environment × Bool × ProfileCommand) → SettingsFolder → SettingsFolder
  | [], f => f
  | (env, json, c) :: rest, f => folderAfter rest (c.outcome env json f).2.folder

/-- Commands one after the other keep the folder. -/
theorem isWellKept_folderAfter {commands : List (Environment × Bool × ProfileCommand)}
    (hplain : ∀ c ∈ commands, c.2.2.IsPlain) {f : SettingsFolder} (hf : f.IsWellKept) :
    (folderAfter commands f).IsWellKept := by
  induction commands generalizing f with
  | nil => exact hf
  | cons first rest ih =>
    obtain ⟨hfirst, hrest⟩ := List.forall_mem_cons.mp hplain
    exact ih hrest (keeps_run first.1 first.2.1 hfirst ⟨f, []⟩ hf)

/-- Whatever commands on profiles are carried out, starting without files, and whichever of them
fail, the settings folder is consistent after each of them. -/
theorem isConsistent_folderAfter {commands before : List (Environment × Bool × ProfileCommand)}
    (hplain : ∀ c ∈ commands, c.2.2.IsPlain) (hbefore : before <+: commands) :
    (folderAfter before .empty).IsConsistent :=
  (isWellKept_folderAfter (fun c hc ↦ hplain c (hbefore.subset hc)) isWellKept_empty).isConsistent

/-- Commands on two profiles. The deletion fails at its second name, after the selected profile has
been deleted. -/
def commandsOnTwo : List (Environment × Bool × ProfileCommand) :=
  let create (name : String) (current : Bool) : ProfileCommand :=
    .create (some name) (some "https://example.org/client/api") (some "key") (some "secret") current
  [(⟨[]⟩, false, create "lab" false), (⟨[]⟩, false, create "live" true),
    (⟨[]⟩, false, .delete ["live", "gone"] true), (⟨[]⟩, false, .setCurrent "-")]

/-- The folder is consistent after a deletion that fails on its way, with nothing selected. -/
theorem isConsistent_folderAfter_two :
    (∀ c ∈ commandsOnTwo, c.2.2.IsPlain) ∧ commandsOnTwo.take 3 <+: commandsOnTwo ∧
      (folderAfter (commandsOnTwo.take 3) .empty).IsConsistent ∧
      (folderAfter (commandsOnTwo.take 3) .empty).loadSelection.toOption =
        some ⟨none, some "lab"⟩ := by
  have hplain : ∀ c ∈ commandsOnTwo, c.2.2.IsPlain := by
    simp [commandsOnTwo, IsPlain]
  have hbefore : commandsOnTwo.take 3 <+: commandsOnTwo := List.take_prefix 3 _
  exact ⟨hplain, hbefore, isConsistent_folderAfter hplain hbefore, by decide +kernel⟩

end ProfileCommand

end CloudControl
