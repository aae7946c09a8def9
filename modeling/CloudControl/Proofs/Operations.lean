import CloudControl.Operations.Table
import CloudControl.Proofs.Client.Requests
import CloudControl.Proofs.Lists
import CloudControl.Proofs.Options
import Mathlib.Data.List.TakeWhile

/-!
# Arguments and options of operations

An operation sends one request. It carries every argument under its own name, whatever options are
set besides (`Operation.carries_arguments`), with one exception: for the creation of a user, the
options may name another account than the argument does, and win.

Where an option may win over an argument, the two must not be written under one name. This is a
matter of the stems of names, and so is that no two arguments share a name, and none has one of the
names that the client sets. The tables of operations and options are checked for it.
-/

namespace CloudControl

open Simulator

namespace Operation

/-! ## Names -/

/-- The stems of the names that the arguments are written under. -/
def stems (o : Operation) : List (List Char) :=
  o.slots.flatMap (·.encoding.stems)

/-- The stem is none of a name that the client sets by itself, in any letter case. -/
def isFreeStem (s : List Char) : Bool :=
  s != Command.commandParam.toList && s != Command.responseParam.toList &&
    credentialParams.all fun name ↦ s.map Char.toLower != name.toList.map Char.toLower

/-- No two arguments are written under one name, nor any under a name that the client sets. -/
def hasDistinctNames (o : Operation) : Bool :=
  (o.slots.all fun s ↦ s.encoding.isDistinct) && decide o.stems.Nodup && o.stems.all isFreeStem

/-- All operations have arguments with names of their own. -/
theorem hasDistinctNames_of_mem_all : ∀ o ∈ all, o.hasDistinctNames = true := by
  decide +kernel

/-- Where options win, no argument is written under a name that they set, but for the account of a
user that is created. -/
theorem not_mem_stems_of_optionsWin : ∀ o ∈ all, o.optionsWin = true → ∀ b ∈ o.options,
    ∀ s ∈ o.slots, (∀ stem ∈ s.encoding.stems, stem ∉ b.stems) ∨
      o.name = "createUser" ∧ s.encoding = .plain "account" := by
  decide +kernel

/-- The options win for the creation of a user. -/
theorem optionsWin_of_name : ∀ o ∈ all, o.name = "createUser" → o.optionsWin = true := by
  decide +kernel

/-- A name that differs from a plain one at most in letter case has its stem. -/
theorem map_stem_of_eqFolded {name plain : String} (h : Text.eqFolded name plain = true)
    (hplain : '[' ∉ plain.toList) :
    (stem name).map Char.toLower = plain.toList.map Char.toLower := by
  rw [Text.eqFolded_iff] at h
  -- Neither name has a number, so that each is its own stem.
  have hname : '[' ∉ name.toList := by
    rwa [← Text.mem_map_toLower_iff (by decide), h, Text.mem_map_toLower_iff (by decide)]
  have hall : stem name = name.toList := by
    refine List.takeWhile_eq_self_iff.mpr fun c hc ↦ bne_iff_ne.mpr ?_
    rintro rfl
    exact hname hc
  rw [hall, h]

/-- A name with a free stem is free. -/
theorem isFree_of_isFreeStem {name : String} (h : isFreeStem (stem name) = true) :
    IsFree name := by
  rw [isFreeStem, Bool.and_eq_true, Bool.and_eq_true, bne_iff_ne, bne_iff_ne,
    List.all_eq_true] at h
  obtain ⟨⟨hcommand, hresponse⟩, hcredentials⟩ := h
  refine ⟨?_, ?_, fun credential hcredential ↦ Bool.eq_false_iff.mpr fun hfolded ↦ ?_⟩
  · rintro rfl
    exact hcommand rfl
  · rintro rfl
    exact hresponse rfl
  · have hplain : ∀ credential ∈ credentialParams, '[' ∉ credential.toList := by decide
    exact bne_iff_ne.mp (hcredentials credential hcredential)
      (map_stem_of_eqFolded hfolded (hplain credential hcredential))

/-! ## Arguments -/

/-- A slot writes its argument, or nothing. -/
theorem write_slot (s : Slot) (args : List (String × Argument)) :
    s.write args = [] ∨ ∃ arg, s.write args = s.encoding.write arg := by
  unfold Slot.write
  split
  · exact .inr ⟨_, rfl⟩
  · exact .inl rfl

/-- A parameter of a slot is one of some argument. -/
theorem exists_of_mem_write {s : Slot} {args : List (String × Argument)} {p : Param}
    (h : p ∈ s.write args) : ∃ arg, p ∈ s.encoding.write arg := by
  rcases write_slot s args with hnil | ⟨arg, hwrite⟩
  · rw [hnil] at h
    exact absurd h List.not_mem_nil
  · exact ⟨arg, hwrite ▸ h⟩

variable {o : Operation}

/-- No two parameters of the arguments have one name. -/
theorem pairwise_arguments (h : o.hasDistinctNames = true) (args : List (String × Argument)) :
    (o.arguments args).Pairwise fun p q ↦ p.1 ≠ q.1 := by
  rw [hasDistinctNames, Bool.and_eq_true, Bool.and_eq_true, List.all_eq_true,
    decide_eq_true_eq] at h
  obtain ⟨⟨hdistinct, hstems⟩, _⟩ := h
  -- Within a slot the encoding keeps the names apart, and between slots the stems do.
  refine List.pairwise_flatMap.mpr ⟨fun s hs ↦ ?_, ?_⟩
  · rcases write_slot s args with hnil | ⟨arg, hwrite⟩
    · rw [hnil]
      exact .nil
    · rw [hwrite]
      exact Encoding.pairwise_write (hdistinct s hs) arg
  · refine (List.pairwise_flatMap.mp hstems).2.imp fun hne p hp q hq heq ↦ ?_
    obtain ⟨_, hp⟩ := exists_of_mem_write hp
    obtain ⟨_, hq⟩ := exists_of_mem_write hq
    exact hne _ (Encoding.stem_mem_of_mem_write hp) _ (Encoding.stem_mem_of_mem_write hq)
      (congrArg stem heq)

/-- The client sets none of the names of the arguments. -/
theorem isFree_of_mem_arguments (h : o.hasDistinctNames = true)
    {args : List (String × Argument)} {p : Param} (hp : p ∈ o.arguments args) : IsFree p.1 := by
  rw [hasDistinctNames, Bool.and_eq_true, List.all_eq_true] at h
  obtain ⟨s, hs, hwrite⟩ := List.mem_flatMap.mp hp
  obtain ⟨arg, hwrite⟩ := exists_of_mem_write hwrite
  exact isFree_of_isFreeStem
    (h.2 _ (List.mem_flatMap.mpr ⟨s, hs, Encoding.stem_mem_of_mem_write hwrite⟩))

/-- What the request carries in place of an argument: the argument, but for the account of a user
that is created, where the options may name another one. -/
def carried (o : Operation) (options : Params) (p : Param) : String :=
  if o.name = "createUser" ∧ p.1 = "account" then (options.get? "account").getD p.2 else p.2

/-- An option is written under no name of an argument where it would win, but for the account of a
user that is created. -/
theorem get?_build_of_optionsWin (ho : o ∈ all) (hwin : o.optionsWin = true)
    {b : Options.Builder} (hb : b ∈ o.options) (calls : List (String × Argument))
    {args : List (String × Argument)} {p : Param} (hp : p ∈ o.arguments args) :
    (b.build calls).get? p.1 = none ∨ o.name = "createUser" ∧ p.1 = "account" := by
  obtain ⟨s, hs, hwrite⟩ := List.mem_flatMap.mp hp
  obtain ⟨arg, hwrite⟩ := exists_of_mem_write hwrite
  rcases not_mem_stems_of_optionsWin o ho hwin b hb s hs with hother | ⟨hname, hencoding⟩
  · refine .inl (Option.eq_none_iff_forall_ne_some.mpr fun value hvalue ↦ ?_)
    have hset : (p.1, value) ∈ (b.build calls).entries := Params.mem_entries_iff.mpr hvalue
    have hstem : stem (p.1, value).1 ∈ b.stems := Options.Builder.stem_mem_of_mem_build hset
    exact hother _ (Encoding.stem_mem_of_mem_write hwrite) hstem
  · have hsingle : s.encoding.name? = some "account" := by rw [hencoding]; rfl
    rcases Encoding.write_of_name? hsingle arg with hnil | ⟨value, hone⟩
    · rw [hnil] at hwrite
      exact absurd hwrite List.not_mem_nil
    · rw [hone] at hwrite
      exact .inr ⟨hname, congrArg Prod.fst (List.mem_singleton.mp hwrite)⟩

/-- The parameters of an operation hold every argument. -/
theorem get?_params (ho : o ∈ all) {b : Options.Builder} (hb : b ∈ o.options)
    (calls : List (String × Argument)) {args : List (String × Argument)} {p : Param}
    (hp : p ∈ o.arguments args) :
    (o.params args (b.build calls)).get? p.1 = some (o.carried (b.build calls) p) := by
  have hdistinct := pairwise_arguments (hasDistinctNames_of_mem_all o ho) args
  have hlookup : (o.arguments args).lookup p.1 = some p.2 :=
    lookup_of_mem (List.pairwise_map.mpr hdistinct) hp
  cases hwin : o.optionsWin with
  | false =>
    have hother : ¬ (o.name = "createUser" ∧ p.1 = "account") := fun h ↦
      absurd (hwin.symm.trans (optionsWin_of_name o ho h.1)) nofun
    rw [params, hwin, if_neg Bool.false_ne_true, Params.get?_setAll hdistinct, hlookup,
      Option.some_or, carried, if_neg hother]
  | true =>
    rw [params, hwin, if_pos rfl, Params.get?_merge, Params.ofList, Params.get?_setAll hdistinct,
      hlookup, Option.some_or, carried]
    split
    · next h =>
      rw [h.2]
      cases (b.build calls).get? "account" <;> rfl
    · next h =>
      rw [(get?_build_of_optionsWin ho hwin hb calls hp).resolve_right h, Option.none_or]

/-! ## Requests -/

variable {σ : Type} {link : Link σ} {c : Client} {args : List (String × Argument)}
  {options : Params}

/-- Reading the result of an operation leaves the state. -/
theorem state_run (s : σ) : ((o.run link c args options).outcome s).2 =
    ((c.reply link o.command (o.params args options)).outcome s).2 := by
  unfold run
  split
  · rw [Client.state_bind_of_quiet fun _ _ ↦ rfl, Client.state_list]
  · rw [Client.state_bind_of_quiet fun _ _ ↦ rfl, Client.state_find]
  · rw [Client.state_bind_of_quiet fun _ _ ↦ rfl, Client.state_find]
  · rw [Client.state_bind_of_quiet fun _ _ ↦ rfl, Client.state_object]
  · rw [Client.state_bind_of_quiet fun _ _ ↦ rfl, Client.state_start]
  · rw [Client.state_bind_of_quiet fun _ _ ↦ rfl, Client.state_unit]

/-- The requests that an operation sends. -/
def requests (link : Link σ) (c : Client) (o : Operation) (args : List (String × Argument))
    (options : Params) (s : σ) : List Request :=
  Action.requests (o.run link.recorded c args options) s

/-- An operation sends the request of its command, if it can be sent, and no other. -/
theorem requests_eq (s : σ) : o.requests link c args options s =
    (c.request? link o.command (o.params args options) s).toOption.toList := by
  rw [requests, Action.requests, state_run, Client.sent_reply, List.nil_append]

/-- A request that can be sent is the one that is sent. -/
theorem requests_of_request? {s : σ} {r : Request}
    (h : c.request? link o.command (o.params args options) s = .ok r) :
    o.requests link c args options s = [r] := by
  rw [requests_eq, h]
  rfl

/-- What is sent is the request of the command. -/
theorem request?_of_mem_requests {s : σ} {r : Request}
    (h : r ∈ o.requests link c args options s) :
    c.request? link o.command (o.params args options) s = .ok r := by
  rw [requests_eq] at h
  cases hrequest : c.request? link o.command (o.params args options) s with
  | error e =>
    rw [hrequest] at h
    exact absurd h List.not_mem_nil
  | ok sent =>
    rw [hrequest] at h
    rw [List.mem_singleton.mp h]

/-- An operation of a client that is ready sends one request. What is sent carries every argument
under its own name, whatever calls have built the options, but for the account of a user that is
created. -/
theorem carries_arguments (ho : o ∈ all) {b : Options.Builder} (hb : b ∈ o.options)
    (calls args : List (String × Argument)) (link : Link σ) (c : Client) (s : σ) :
    (c.IsReady (link.now s) → ∃ r, o.requests link c args (b.build calls) s = [r]) ∧
      ∀ r ∈ o.requests link c args (b.build calls) s, ∀ p ∈ o.arguments args,
        r.Carries p.1 (o.carried (b.build calls) p) := by
  refine ⟨fun hready ↦ ?_, fun r hr p hp ↦ ?_⟩
  · obtain ⟨r, hr⟩ := hready.exists_request link o.command (o.params args (b.build calls)) s
    exact ⟨r, requests_of_request? hr⟩
  · exact Client.carries_of_request? (request?_of_mem_requests hr)
      (isFree_of_mem_arguments (hasDistinctNames_of_mem_all o ho) hp) (get?_params ho hb calls hp)

/-- Tags are created with options that win, and the request carries the arguments. -/
theorem carries_arguments_createTags :
    let c : Client := ⟨⟨"http", "", "", some (.domain "localhost"), some 8080,
      .segments ["client", "api"], none, none⟩, some (.session ⟨"key", some "node"⟩)⟩
    let args : List (String × Argument) := [("resourceType", .text "UserVm"),
      ("ids", .texts ["vm-1", "vm-2"]), ("tags", .pairs [("tier", "web"), ("owner", "ops")])]
    let calls : List (String × Argument) := [("customer", .text "acme")]
    c.IsReady ⟨0, 0⟩ ∧ ∃ r, createTags.requests (.constant ⟨401, [], ""⟩) c args
        (Options.Builder.createTags.build calls) () = [r] ∧
      r.Carries "resourceids" "vm-1,vm-2" ∧ r.Carries "tags[1].value" "ops" := by
  intro c args calls
  have ho : createTags ∈ all := List.mem_of_getElem? (i := 143) rfl
  have hready : c.IsReady ⟨0, 0⟩ := ⟨by decide, ⟨_, rfl, rfl⟩, by decide⟩
  obtain ⟨hsent, hcarried⟩ := carries_arguments ho (b := .createTags) rfl calls args
    (.constant ⟨401, [], ""⟩) c ()
  obtain ⟨r, hr⟩ := hsent hready
  have hcarries := hcarried r (hr ▸ List.mem_singleton_self r)
  exact ⟨hready, r, hr, hcarries ("resourceids", "vm-1,vm-2") (by decide +kernel),
    hcarries ("tags[1].value", "ops") (by decide +kernel)⟩

/-- The options for a new user name another account than the argument does, and the request does
not carry the argument. -/
theorem not_carries_account_createUser :
    let c : Client := ⟨⟨"http", "", "", some (.domain "localhost"), some 8080,
      .segments ["client", "api"], none, none⟩, some (.session ⟨"key", none⟩)⟩
    let args : List (String × Argument) := [("username", .text "sam"), ("account", .text "ops")]
    let calls : List (String × Argument) := [("accountInDomain", .two "other" "dom-1")]
    ("account", "ops") ∈ createUser.arguments args ∧
      ∃ r, createUser.requests (.constant ⟨401, [], ""⟩) c args
          (Options.Builder.createUser.build calls) () = [r] ∧
        r.Carries "account" "other" ∧ ¬ r.Carries "account" "ops" := by
  intro c args calls
  have hready : c.IsReady ⟨0, 0⟩ := ⟨by decide, ⟨_, rfl, rfl⟩, by decide⟩
  have hargument : ("account", "ops") ∈ createUser.arguments args := by decide +kernel
  have hset : (createUser.params args (Options.Builder.createUser.build calls)).get? "account" =
      some "other" := by
    decide +kernel
  obtain ⟨r, hr⟩ := hready.exists_request (.constant ⟨401, [], ""⟩) createUser.command
    (createUser.params args (Options.Builder.createUser.build calls)) ()
  have hother : r.Carries "account" "other" :=
    Client.carries_of_request? hr (isFree_of_mem_arguments (by decide +kernel) hargument) hset
  refine ⟨hargument, r, requests_of_request? hr, hother, fun hops ↦ ?_⟩
  exact absurd (hother.2 _ hops.1 rfl) (by decide)

end Operation

end CloudControl
