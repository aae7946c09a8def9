import CloudControl.Proofs.Json.Members
import CloudControl.Proofs.Options.ListSetters
import CloudControl.Proofs.Schema.Decode
import CloudControl.Proofs.Text.Joined
import CloudControl.Proofs.Text.Numeral
import CloudControl.Schema.Records

/-!
# Networks of a rule

A rule is created with a list of networks, which is sent as one text with commas, and a rule that
is read holds such a text. `splitCidrs_joinTexts` tells that a joined list is split into the same
list, and `isNetwork_of_mem_splitCidrs` that any text is split into networks that can be joined.
`cidrs_of_create` puts both together with the parameter that is sent and the record that is read.
-/

namespace CloudControl

namespace Text

/-- What is left after the blanks at the front does not start with one. -/
theorem not_blank_of_head?_trimStart {cs : List Char} {c : Char}
    (h : c ∈ (trimStart cs).head?) : isBlank c = false := by
  have hhead := List.head?_dropWhile_not isBlank cs
  rw [← trimStart, Option.mem_def.mp h] at hhead
  exact hhead

/-- A trimmed list has no blank at either end. -/
theorem trimList_ends (cs : List Char) :
    (∀ c ∈ (trimList cs).head?, isBlank c = false) ∧
      ∀ c ∈ (trimList cs).getLast?, isBlank c = false := by
  constructor
  · intro c hc
    -- Blanks that are dropped at the back leave the front as it is.
    have hfront : trimList cs <+: trimStart cs := by
      have hsuffix : trimStart (trimStart cs).reverse <:+ (trimStart cs).reverse :=
        List.dropWhile_suffix isBlank
      have hprefix := List.reverse_prefix.mpr hsuffix
      rwa [List.reverse_reverse] at hprefix
    obtain ⟨back, hback⟩ := hfront
    have hstart : c ∈ (trimStart cs).head? := by
      rw [← hback, List.head?_append, Option.mem_def.mp hc]
      rfl
    exact not_blank_of_head?_trimStart hstart
  · intro c hc
    rw [trimList, List.getLast?_reverse] at hc
    exact not_blank_of_head?_trimStart hc

/-- A trimmed list holds nothing that the list does not. -/
theorem mem_of_mem_trimList {cs : List Char} {c : Char} (h : c ∈ trimList cs) : c ∈ cs := by
  obtain ⟨front, back, hcs, _⟩ := exists_eq_append_trimList cs
  rw [hcs]
  exact List.mem_append_left _ (List.mem_append_right _ h)

end Text

namespace Schema

open Options Encoding
open Record.cidrs (splitCidrs)

/-- A text that can stand in a list of networks: it is not empty, holds no comma, and has no blank
at either end. -/
structure IsNetwork (s : String) : Prop where
  ne_empty : s ≠ ""
  no_comma : ',' ∉ s.toList
  head : ∀ c ∈ s.toList.head?, Text.isBlank c = false
  last : ∀ c ∈ s.toList.getLast?, Text.isBlank c = false

/-- Networks that are joined are split again. -/
theorem splitCidrs_joinTexts {xs : List String} (hxs : ∀ x ∈ xs, IsNetwork x) :
    splitCidrs (joinTexts xs) = xs := by
  by_cases hne : xs = []
  · rw [hne]
    rfl
  · have hcomma : ∀ part ∈ xs.map String.toList, ',' ∉ part := by
      intro part hpart
      obtain ⟨x, hx, rfl⟩ := List.mem_map.mp hpart
      exact (hxs x hx).no_comma
    have hsplit : (joinTexts xs).toList.splitOn ',' = xs.map String.toList := by
      rw [joinTexts, String.toList_intercalate]
      exact List.splitOn_intercalate ',' hcomma fun h ↦ hne (List.map_eq_nil_iff.mp h)
    have htrim : (xs.map String.toList).map Text.trimList = xs.map String.toList := by
      rw [List.map_map]
      exact List.map_congr_left fun x hx ↦ Text.trimList_of_ends (hxs x hx).head (hxs x hx).last
    have hkept : ∀ x ∈ xs, (if x.toList.isEmpty then none
        else some (String.ofList x.toList)) = some x := by
      intro x hx
      have hempty : x.toList.isEmpty = false :=
        List.isEmpty_eq_false_iff.mpr fun h ↦ (hxs x hx).ne_empty (String.toList_eq_nil_iff.mp h)
      rw [hempty, String.ofList_toList]
      rfl
    rw [splitCidrs, hsplit, htrim, List.filterMap_map]
    calc
      _ = xs.filterMap some := List.filterMap_congr hkept
      _ = xs := List.filterMap_some

/-- What a text is split into are networks. -/
theorem isNetwork_of_mem_splitCidrs {text x : String} (h : x ∈ splitCidrs text) : IsNetwork x := by
  rw [splitCidrs, List.mem_filterMap] at h
  obtain ⟨trimmed, htrimmed, hx⟩ := h
  obtain ⟨part, hpart, rfl⟩ := List.mem_map.mp htrimmed
  split at hx
  · cases hx
  · next hempty =>
    obtain rfl := Option.some.inj hx
    have hlist : (String.ofList (Text.trimList part)).toList = Text.trimList part :=
      String.toList_ofList
    obtain ⟨hhead, hlast⟩ := Text.trimList_ends part
    refine ⟨fun h ↦ hempty ?_, fun hcomma ↦ ?_, by rwa [hlist], by rwa [hlist]⟩
    · rw [← hlist, h]
      rfl
    · rw [hlist] at hcomma
      exact Text.not_mem_of_mem_splitOn hpart (Text.mem_of_mem_trimList hcomma)

/-- A list of networks that has been split is split into itself again. -/
theorem splitCidrs_joinTexts_cidrs (rule : Record) :
    splitCidrs (joinTexts rule.cidrs) = rule.cidrs := by
  refine splitCidrs_joinTexts fun x hx ↦ ?_
  rw [Record.cidrs] at hx
  cases htext : rule.text? "cidrlist" with
  | none =>
    rw [htext] at hx
    exact absurd hx List.not_mem_nil
  | some text =>
    rw [htext] at hx
    exact isNetwork_of_mem_splitCidrs hx

/-- The networks of a rule are those of the text that it holds. -/
theorem cidrs_eq_of_text {rule : Record} {text : String} (h : rule.text? "cidrlist" = some text) :
    rule.cidrs = splitCidrs text := by
  rw [Record.cidrs, h]
  rfl

/-- The rules that hold networks. -/
def ruleKinds : List Kind := [.firewallRule, .loadBalancerRule]

/-- An optional text of a record may be set to any text, and that text is read. -/
theorem decode_set_of_optionalText {kname name : String} {fields : List (String × Kind)}
    {o : Omission} (hnames : (fields.map Prod.fst).Nodup)
    (hfield : (name, .optionalText o) ∈ fields) {members : List (String × Json)} {v : Value}
    (h : (Kind.record kname fields).decode (.object members) = .ok v) (text : String) :
    ∃ w, (Kind.record kname fields).decode (Json.set name (.string text) (.object members)) =
      .ok w ∧ w.fields.text? name = some text := by
  have hself := Json.lookup_insertMember_self name (Json.string text) members
  have hreads : ∀ f ∈ fields, ∃ x,
      f.2.Reads ((Json.insertMember name (.string text) members).lookup f.1) x := by
    intro f hf
    by_cases hname : f.1 = name
    · have hkind : f.2 = .optionalText o := by
        have hlookup := lookup_of_mem hnames hf
        rw [hname, lookup_of_mem hnames hfield] at hlookup
        exact (Option.some.inj hlookup).symm
      rw [hname, hself, hkind]
      exact ⟨.text (some text), rfl⟩
    · rw [Json.lookup_insertMember_of_ne hname]
      exact Kind.exists_decode_object_iff.mp ⟨v, h⟩ f hf
  obtain ⟨w, hw⟩ := Kind.exists_decode_object_iff.mpr hreads
  refine ⟨w, hw, ?_⟩
  obtain ⟨x, hx, hread⟩ := Kind.exists_reads_of_decode hnames hw hfield
  rw [hself] at hread
  rw [Record.text?, hx]
  cases hread
  rfl

/-- A rule may be given any text of networks, and that text is read. -/
theorem decode_set_cidrlist {k : Kind} (hk : k ∈ ruleKinds) {members : List (String × Json)}
    {v : Value} (h : k.decode (.object members) = .ok v) (text : String) :
    ∃ w, k.decode (Json.set "cidrlist" (.string text) (.object members)) = .ok w ∧
      w.fields.text? "cidrlist" = some text := by
  rcases List.mem_pair.mp hk with rfl | rfl
  · rw [Kind.firewallRule] at h ⊢
    exact decode_set_of_optionalText (o := .anywhere) (by decide) (by simp) h text
  · rw [Kind.loadBalancerRule] at h ⊢
    exact decode_set_of_optionalText (o := .anywhere) (by decide) (by simp) h text

/-- The options for creating a rule. -/
def createBuilders : List Builder :=
  [.createFirewallRule, .createPortForwardingRule, .createLoadBalancerRule]

/-- The options for creating a rule have one setter for its networks. -/
theorem setter?_cidrList : ∀ b ∈ createBuilders,
    b.setter? "cidrList" = some (Setter.joined "cidrList" "cidrlist") := by
  decide +kernel

/-- Networks that are set in the options for creating a rule, whatever else is set, are sent as one
text. A rule that is read with this text has the same networks, and any object that is read as a
rule is read with it. Whatever text a rule holds, its networks are joined to a text that is split
into them again, and an object that is read with the joined text has the same networks. -/
theorem cidrs_of_create {b : Builder} (hb : b ∈ createBuilders) {k : Kind} (hk : k ∈ ruleKinds)
    (o : Params) {xs : List String} (hxs : ∀ x ∈ xs, IsNetwork x) :
    (∃ text, (b.call "cidrList" (.texts xs) o).get? "cidrlist" = some text ∧
      (∀ rule : Record, rule.text? "cidrlist" = some text → rule.cidrs = xs) ∧
      ∀ members v, k.decode (.object members) = .ok v →
        ∃ w, k.decode (Json.set "cidrlist" (.string text) (.object members)) = .ok w ∧
          w.fields.cidrs = xs) ∧
    (∀ rule : Record, splitCidrs (joinTexts rule.cidrs) = rule.cidrs) ∧
    ∀ members v, k.decode (.object members) = .ok v →
      ∃ w, k.decode (Json.set "cidrlist" (.string (joinTexts v.fields.cidrs)) (.object members)) =
          .ok w ∧ w.fields.cidrs = v.fields.cidrs := by
  have hcall : (b.call "cidrList" (.texts xs) o).get? "cidrlist" = some (joinTexts xs) := by
    rw [Builder.call_eq (setter?_cidrList b hb)]
    show (o.set "cidrlist" (joinTexts xs)).get? "cidrlist" = some (joinTexts xs)
    rw [Params.get?_set, if_pos rfl]
  have hread : ∀ (networks : List String), splitCidrs (joinTexts networks) = networks →
      ∀ members v, k.decode (.object members) = .ok v →
        ∃ w, k.decode (Json.set "cidrlist" (.string (joinTexts networks)) (.object members)) =
          .ok w ∧ w.fields.cidrs = networks := by
    intro networks hsplit members v hv
    obtain ⟨w, hw, htext⟩ := decode_set_cidrlist hk hv (joinTexts networks)
    exact ⟨w, hw, (cidrs_eq_of_text htext).trans hsplit⟩
  have hjoined := splitCidrs_joinTexts hxs
  refine ⟨⟨joinTexts xs, hcall, fun rule hrule ↦ (cidrs_eq_of_text hrule).trans hjoined,
    hread xs hjoined⟩, splitCidrs_joinTexts_cidrs, fun members v hv ↦ ?_⟩
  exact hread v.fields.cidrs (splitCidrs_joinTexts_cidrs _) members v hv

/-- A firewall rule for two networks is created and read. -/
theorem cidrs_of_create_firewallRule : ∃ text,
    (Builder.createFirewallRule.call "cidrList" (.texts ["10.0.0.0/8", "::/0"]) ∅).get?
        "cidrlist" = some text ∧
      ∃ w, Kind.firewallRule.decode
          (Json.set "cidrlist" (.string text) (.object [("id", .string "fw-1")])) = .ok w ∧
        w.fields.cidrs = ["10.0.0.0/8", "::/0"] := by
  have hsplit : splitCidrs "10.0.0.0/8, ::/0" = ["10.0.0.0/8", "::/0"] := by decide +kernel
  have hxs : ∀ x ∈ ["10.0.0.0/8", "::/0"], IsNetwork x := by
    intro x hx
    rw [← hsplit] at hx
    exact isNetwork_of_mem_splitCidrs hx
  obtain ⟨text, htext, _, hread⟩ := (cidrs_of_create (b := .createFirewallRule)
    List.mem_cons_self (k := .firewallRule) List.mem_cons_self ∅ hxs).1
  exact ⟨text, htext, hread [("id", .string "fw-1")] _ rfl⟩

end Schema

end CloudControl
