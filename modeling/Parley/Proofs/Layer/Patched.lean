import Parley.Proofs.Edit.Scopes
import Parley.Proofs.Layer.Absorbed
import Parley.Proofs.Layer.Complete

/-!
# Nodes patched through their documents

A patch may as well be applied to a node by way of documents: the fields that are written for the
patch are merged into those that are written for the node, and what this makes of them is read as a
node again.

* `Json.fields`, `NodePatch.fields`: fields as they are written;
* `mergedField`, `mergeField`: fields that are merged into others;
* `NodePatch.patched`: what is read of a node with a patch merged into it;
* `Node.field?`, `NodePatch.field?`: the fields by name;
* `NodePatch.patched_eq`: the same as is made of the node directly;
* `NodePatch.patched_overlays`: what a patch does to a node, and what it leaves alone.
-/

namespace Parley

open Json Record

/-! ### Merging fields -/

/-- The members of a document by key. -/
def Json.fields (j : Json) : Dict Json := Dict.ofList j.members

/-- The fields that a patch sets, as they are written. -/
def NodePatch.fields (p : NodePatch) : Dict Json := p.toJson.fields.erase "id"

/-- The lists that grow. -/
def listFields : List String := ["depends_on", "extra_guards"]

/-- Items with those of another list that are new to them. -/
def addItems (items more : List Json) : List Json :=
  more.foldl (fun acc item => if acc.any (·.same item) then acc else acc ++ [item]) items

/-- What a value makes of a field with a name: some lists grow, `ui` objects are merged, and all
else is replaced. -/
def mergedField (name : String) (previous : Option Json) (value : Json) : Option Json :=
  if name ∈ listFields then
    match previous.getD (.array []), value with
    | .array items, .array more => some (.array (addItems items more))
    | _, _ => previous
  else if name = "ui" then some (laidOver previous value)
  else some value

/-- Merge a field into others. -/
def mergeField (d : Dict Json) (m : String × Json) : Dict Json :=
  match mergedField m.1 (d.get? m.1) m.2 with
  | some value => d.insert m.1 value
  | none => d

/-- The node that is read of the document of a node with a patch merged into it. -/
def NodePatch.patched (p : NodePatch) (n : Node) : Except Fault Node :=
  Node.reader.ofJson (.object (p.fields.foldl mergeField n.toJson.fields))

variable {d : Dict Json}

theorem mergedField_eq_none {name : String} {previous : Option Json} {value : Json}
    (h : mergedField name previous value = none) : previous = none := by
  unfold mergedField at h
  split at h
  · split at h
    · cases h
    · exact h
  · split at h <;> cases h

theorem mergeField_ordered (hd : d.Ordered) (m : String × Json) : (mergeField d m).Ordered := by
  unfold mergeField
  split
  · exact hd.insert _ _
  · exact hd

theorem get?_mergeField (d : Dict Json) (m : String × Json) (key : String) :
    (mergeField d m).get? key =
      if m.1 = key then mergedField key (d.get? key) m.2 else d.get? key := by
  unfold mergeField
  split
  · rename_i value hvalue
    rw [Dict.get?_insert]
    split
    · rename_i hkey
      rw [← hkey, hvalue]
    · rfl
  · rename_i hnone
    split
    · rename_i hkey
      rw [← hkey, hnone, mergedField_eq_none hnone]
    · rfl

/-- A field in which others have been merged: only the one with its name matters. -/
theorem get?_mergeFields {ms : List (String × Json)} (hms : (ms.map Prod.fst).Nodup) (d : Dict Json)
    (key : String) :
    (ms.foldl mergeField d).get? key =
      (Dict.get? ms key).elim (d.get? key) (mergedField key (d.get? key)) := by
  induction ms generalizing d with
  | nil => rfl
  | cons m ms ih =>
    obtain ⟨k, value⟩ := m
    obtain ⟨hk, hms⟩ := List.nodup_cons.1 hms
    rw [List.foldl_cons, ih hms, get?_mergeField, Dict.get?]
    split
    · rename_i hkey
      cases hkey
      rw [Dict.get?_eq_none hk]
      rfl
    · rfl

theorem addItems_strings (xs ys : List String) :
    addItems (xs.map .string) (ys.map .string) = (appendNew xs ys).map .string := by
  unfold addItems appendNew
  induction ys generalizing xs with
  | nil => rfl
  | cons y ys ih =>
    have hany : (xs.map Json.string).any (·.same (.string y)) = decide (y ∈ xs) := by
      rw [List.any_map, Bool.eq_iff_iff]
      simp [Function.comp_def, same]
    rw [List.map_cons, List.foldl_cons, List.foldl_cons, hany]
    split <;> rename_i hy
    · rw [if_pos (of_decide_eq_true hy), ih]
    · rw [if_neg (by simpa using hy), ← ih, List.map_append]
      rfl

/-! ### Fields by name -/

/-- What is written for a node under a name. -/
def Node.field? (n : Node) : String → Option Json
  | "id" => some (.string n.id)
  | "type" => some (.string n.kind.name)
  | "key" => n.key.map .string
  | "prompt" => n.prompt.map .string
  | "guard" => n.guard.map .string
  | "when" => n.when.map .string
  | "depends_on" => textsIfAny n.dependsOn
  | "extra_guards" => textsIfAny n.extraGuards
  | "validator" => n.validator.map .string
  | "subgraph" => n.subgraph.map .string
  | "paths" => textsIfAny n.paths
  | "reentrant" => if n.reentrant then some (.bool true) else none
  | "priority" => n.priority.map .int
  | "ui" => n.ui.map .object
  | _ => none

/-- What a patch sets a field to. -/
def NodePatch.field? (p : NodePatch) : String → Option Json
  | "type" => p.kind.map fun k => .string k.name
  | "key" => p.key.map .string
  | "prompt" => p.prompt.map .string
  | "guard" => p.guard.map .string
  | "when" => p.when.map .string
  | "depends_on" => textsIfAny p.dependsOn
  | "extra_guards" => textsIfAny p.extraGuards
  | "validator" => p.validator.map .string
  | "subgraph" => p.subgraph.map .string
  | "paths" => p.paths.map .strings
  | "reentrant" => p.reentrant.map .bool
  | "priority" => p.priority.map .int
  | "ui" => p.ui.map .object
  | _ => none

section Names

variable {n : Node} {p : NodePatch} {name : String}

theorem Node.names_record :
    record.names = ["id", "type", "key", "prompt", "guard", "when", "depends_on",
    "extra_guards", "validator", "subgraph", "paths", "reentrant", "priority", "ui"] :=
  rfl

theorem NodePatch.names_record : record.names = Node.record.names ++ ["remove"] :=
  rfl

theorem Node.field?_eq_none (h : name ∉ record.names) : n.field? name = none := by
  unfold field?
  split <;> first | rfl | exact absurd (by decide) h

theorem NodePatch.field?_eq_none (h : name ∉ Node.record.names) : p.field? name = none := by
  unfold field?
  split <;> first | rfl | exact absurd (by decide) h

theorem Node.get?_fields (hn : n.Fits) (name : String) :
    n.toJson.fields.get? name = n.field? name := by
  have hrestores := record_restores hn
  rw [fields, Dict.get?_ofList (hrestores.names.nodup names_nodup)]
  by_cases hname : name ∈ record.names
  · revert name
    simp only [names_record, List.forall_mem_cons]
    simp [toJson, members, Dict.get?_append, Dict.get?, field?]
  · rw [Dict.get?_eq_none fun h => hname (hrestores.names.subset h), field?_eq_none hname]

theorem NodePatch.get?_fields (hp : p.Fits) (name : String) :
    p.fields.get? name = p.field? name := by
  have hrestores := record_restores hp
  rw [fields, Dict.get?_erase, Json.fields, Dict.get?_ofList (hrestores.names.nodup names_nodup)]
  by_cases hname : name ∈ record.names
  · revert name
    simp only [names_record, Node.names_record, List.cons_append, List.nil_append,
      List.forall_mem_cons]
    simp [toJson, members, Dict.get?_append, Dict.get?, field?]
  · have hnode : name ∉ Node.record.names :=
      fun h => hname ((show Node.record.names ⊆ record.names by decide) h)
    rw [Dict.get?_eq_none fun h => hname (hrestores.names.subset h), field?_eq_none hnode, ite_self]

/-- What is found under a name once a patch has been merged into a node. -/
theorem NodePatch.get?_merged (hp : p.Fits) (hn : n.Fits) (name : String) :
    (p.fields.foldl mergeField n.toJson.fields).get? name =
      (p.field? name).elim (n.field? name) (mergedField name (n.field? name)) := by
  have hordered : p.fields.Ordered := (Dict.ordered_ofList _).erase "id"
  rw [get?_mergeFields (List.pairwise_map.2 (hordered.imp fun hlt => hlt.ne)), n.get?_fields hn,
    p.get?_fields hp]

end Names

theorem elim_mergedField {name : String} (h : name ∉ listFields ∧ name ≠ "ui")
    (value previous : Option Json) :
    value.elim previous (mergedField name previous) = value.or previous := by
  cases value <;> simp [mergedField, h]

theorem elim_mergedField_texts {name : String} (hname : name ∈ listFields) (xs ys : List String) :
    (textsIfAny ys).elim (textsIfAny xs) (mergedField name (textsIfAny xs)) =
      textsIfAny (appendNew xs ys) := by
  cases ys with
  | nil => rfl
  | cons y ys =>
    have hany : (appendNew xs (y :: ys)).isEmpty = false :=
      List.isEmpty_eq_false_iff.2 (List.ne_nil_of_mem (mem_appendNew List.mem_cons_self xs))
    have hbelow : (textsIfAny xs).getD (.array []) = .strings xs := by
      cases xs <;> rfl
    have hmerged : mergedField name (textsIfAny xs) (.strings (y :: ys)) =
        some (.strings (appendNew xs (y :: ys))) := by
      unfold mergedField
      rw [if_pos hname, hbelow]
      exact congrArg (fun items => some (Json.array items)) (addItems_strings xs (y :: ys))
    refine hmerged.trans ?_
    rw [textsIfAny, hany]
    rfl

theorem elim_mergedField_ui (upper lower : Option (Dict Json)) :
    (upper.map Json.object).elim (lower.map .object) (mergedField "ui" (lower.map .object)) =
      (overlayUi lower upper).map .object := by
  cases upper <;> cases lower <;> simp [mergedField, listFields, laidOver, overlay, overlayUi]

/-! ### Patched nodes -/

namespace NodePatch

variable {p : NodePatch} {n : Node}

theorem applyTo_eq (p : NodePatch) (n : Node) : p.applyTo n = {
    id := n.id
    kind := p.kind.getD n.kind
    key := p.key.or n.key
    prompt := p.prompt.or n.prompt
    guard := p.guard.or n.guard
    when := p.when.or n.when
    dependsOn := appendNew n.dependsOn p.dependsOn
    extraGuards := appendNew n.extraGuards p.extraGuards
    validator := p.validator.or n.validator
    subgraph := p.subgraph.or n.subgraph
    paths := p.paths.getD n.paths
    reentrant := p.reentrant.getD n.reentrant
    priority := p.priority.or n.priority
    ui := overlayUi n.ui p.ui } := by
  obtain ⟨id, kind, key, prompt, guard, when_, dependsOn, extraGuards, validator, subgraph, paths,
    reentrant, priority, ui⟩ := n
  unfold applyTo overlay toNode? ofNode
  cases p.kind <;> cases p.paths <;> cases p.reentrant <;> cases paths <;> cases reentrant <;> rfl

theorem overlayUi_isSorted {upper lower : Option (Dict Json)}
    (hupper : ∀ ui ∈ upper, (Json.object ui).IsSorted)
    (hlower : ∀ ui ∈ lower, (Json.object ui).IsSorted) :
    ∀ ui ∈ overlayUi lower upper, (Json.object ui).IsSorted := by
  cases upper with
  | none => cases lower <;> exact hlower
  | some upper =>
    have hbelow : ∀ value ∈ lower.map Json.object, value.IsSorted := fun value hvalue => by
      obtain ⟨ui, hui, rfl⟩ := Option.map_eq_some_iff.1 hvalue
      exact hlower ui hui
    have hover := (hupper upper rfl).laidOver hbelow
    cases lower <;> exact fun ui hui => Option.some.inj hui ▸ hover

theorem applyTo_fits (hp : p.Fits) (hn : n.Fits) : (p.applyTo n).Fits := by
  rw [applyTo_eq]
  refine ⟨fun i hi => ?_, overlayUi_isSorted hp.ui hn.ui⟩
  rcases Option.or_eq_some_iff.1 hi with hi | ⟨-, hi⟩
  · exact hp.priority i hi
  · exact hn.priority i hi

/-- The fields of a node with a patch merged into it are read as those of what the patch makes of
the node. -/
theorem record_gives (hp : p.Fits) (hn : n.Fits) :
    Node.record.Gives (Dict.get? (p.fields.foldl mergeField n.toJson.fields)) (p.applyTo n) := by
  have hfind := get?_merged hp hn
  have hplain {name : String} (hname : name ∉ listFields ∧ name ≠ "ui") :=
    (hfind name).trans (elim_mergedField hname _ _)
  have hoverride {α : Type} (f : α → Json) {name : String} (hname : name ∉ listFields ∧ name ≠ "ui")
      {upper lower : Option α} (hupper : p.field? name = upper.map f)
        (hlower : n.field? name = lower.map f) :
      Dict.get? (p.fields.foldl mergeField n.toJson.fields) name = (upper.or lower).map f := by
    rw [hplain hname, hupper, hlower, Option.map_or]
  have hfits := applyTo_fits hp hn
  rw [applyTo_eq] at hfits ⊢
  exact Gives.map Node.mk (.written (hfind "id") rfl)
    |>.seq (.getD (fun k => .string k.name) (hplain (by decide))
      (fun k _ => Reader.nodeKind_ofJson k)
      fun hget => .written hget (Reader.nodeKind_ofJson n.kind))
    |>.seq (.text (hoverride .string (by decide) rfl rfl))
    |>.seq (.text (hoverride .string (by decide) rfl rfl))
    |>.seq (.text (hoverride .string (by decide) rfl rfl))
    |>.seq (.text (hoverride .string (by decide) rfl rfl))
    |>.seq (.texts ((hfind "depends_on").trans
        (elim_mergedField_texts (by decide) n.dependsOn p.dependsOn)))
    |>.seq (.texts ((hfind "extra_guards").trans
        (elim_mergedField_texts (by decide) n.extraGuards p.extraGuards)))
    |>.seq (.text (hoverride .string (by decide) rfl rfl))
    |>.seq (.text (hoverride .string (by decide) rfl rfl))
    |>.seq (.getD .strings (hplain (by decide)) (fun xs _ => Reader.texts_ofJson xs) .texts)
    |>.seq (.getD .bool (hplain (by decide)) (fun _ _ => rfl) .flag)
    |>.seq (.optional .int (hoverride .int (by decide) rfl rfl) (fun _ _ => nofun) fun i hi =>
      Reader.int64_ofJson (hfits.priority i hi))
    |>.seq (.optional .object ((hfind "ui").trans (elim_mergedField_ui p.ui n.ui))
      (fun _ _ => nofun) fun ui hui => Reader.jsonObject_ofJson (hfits.ui ui hui))

/-- **What is read of a node with a patch merged into it is what the patch makes of the node.** -/
theorem patched_eq (hp : p.Fits) (hn : n.Fits) : p.patched n = .ok (p.applyTo n) := by
  have hordered : (p.fields.foldl mergeField n.toJson.fields).Ordered :=
    List.foldlRecOn (motive := Dict.Ordered) _ _ (Dict.ordered_ofList _) fun d hd m _ =>
      mergeField_ordered hd m
  have hknown : (p.fields.foldl mergeField n.toJson.fields).map Prod.fst ⊆ Node.record.names := by
    intro name hname
    by_contra hunknown
    refine Dict.mem_keys_iff.1 hname ?_
    rw [get?_merged hp hn, p.field?_eq_none hunknown, n.field?_eq_none hunknown]
    rfl
  exact (record_gives hp hn).reader (List.pairwise_map.2 (hordered.imp fun hlt => hlt.ne)) hknown

/-! ### What a patch leaves alone -/

theorem applyTo_again (hp : p.Fits) (n : Node) : p.applyTo (p.applyTo n) = p.applyTo n := by
  have hgetD {α : Type} (o : Option α) (a : α) : o.getD (o.getD a) = o.getD a := by
    cases o <;> rfl
  simp only [applyTo_eq, ← Option.or_assoc, Option.or_self, appendNew_again,
    overlayUi_again hp.ui, hgetD]

/-- A field that a patch does not set is left as it was. -/
theorem field?_applyTo {name : String} (h : p.field? name = none) :
    (p.applyTo n).field? name = n.field? name := by
  have hui (lower : Option (Dict Json)) : overlayUi lower none = lower := by
    cases lower <;> rfl
  rw [applyTo_eq]
  by_cases hname : name ∈ Node.record.names
  · revert h
    revert name
    simp only [Node.names_record, List.forall_mem_cons]
    simp +contextual [field?, Node.field?, appendNew, textsIfAny_eq_none, hui]
  · rw [Node.field?_eq_none hname, Node.field?_eq_none hname]

theorem isEmpty_iff : p.isEmpty = true ↔ p.withoutRemoval = { id := p.id } := by
  have hnone {α : Type} {name : String} {f : α → Json} {o : Option α} : memberIfSome name f o = [] ↔
      o = none := by
    cases o <;> simp [memberIfSome]
  obtain ⟨id, kind, key, prompt, guard, when_, dependsOn, extraGuards, validator, subgraph, paths,
    reentrant, priority, ui, remove⟩ := p
  simp only [isEmpty, settings, withoutRemoval, Bool.and_eq_true, List.isEmpty_iff,
    List.append_eq_nil_iff, hnone, mk.injEq]
  tauto

theorem applyTo_of_isEmpty (h : p.isEmpty = true) : p.applyTo n = n := by
  -- a removal does not show
  show p.withoutRemoval.applyTo n = n
  rw [isEmpty_iff.1 h, applyTo_eq]
  cases n with
  | mk id kind key prompt guard when_ dependsOn extraGuards validator subgraph paths
      reentrant priority ui => cases ui <;> rfl

/-- A patch is empty if nothing is written of it but its id. -/
theorem isEmpty_eq (hp : p.Fits) : p.isEmpty = p.fields.isEmpty := by
  rw [Bool.eq_iff_iff, List.isEmpty_iff]
  constructor
  · intro h
    show p.withoutRemoval.fields = []
    rw [isEmpty_iff.1 h]
    simp [fields, Json.fields, toJson, members, memberIfSome, memberIfAny, Dict.ofList,
      Dict.insert, Dict.erase]
  · intro h
    have hnone : ∀ name ∈ Node.record.names, p.field? name = none := fun name _ => by
      rw [← get?_fields hp, h]
      rfl
    simp only [Node.names_record, List.forall_mem_cons] at hnone
    simp only [field?, Option.map_eq_none_iff, textsIfAny_eq_none] at hnone
    simp [isEmpty, settings, memberIfSome, hnone]

/-- A node is left as it is by the patch that sets what it says. -/
theorem applyTo_ofNode (hn : n.Fits) : (ofNode n).applyTo n = n := by
  have happend (xs : List String) : appendNew xs xs = xs := foldl_eq_self fun _ hx => if_pos hx
  have hui : overlayUi n.ui n.ui = n.ui := by
    have hblank : overlayUi none n.ui = n.ui := by
      cases n.ui <;> rfl
    have hagain := overlayUi_again hn.ui none
    rwa [hblank] at hagain
  have hpaths : (if n.paths.isEmpty then none else some n.paths).getD n.paths = n.paths := by
    split <;> rfl
  have hreentrant : (if n.reentrant then some true else none).getD n.reentrant = n.reentrant := by
    cases n.reentrant <;> rfl
  rw [applyTo_eq]
  simp only [ofNode, Option.getD_some, Option.or_self, happend, hui, hpaths, hreentrant]

/-- **A patch is an overlay.**  It can be applied by way of documents to any node, and doing so
again changes nothing; the id and all fields that it does not set are left as they were.  An empty
patch, and the one that sets what a node says, change nothing at all. -/
theorem patched_overlays (hp : p.Fits) (hn : n.Fits) :
    p.patched n = .ok (p.applyTo n) ∧ p.patched (p.applyTo n) = .ok (p.applyTo n) ∧
      (p.applyTo n).id = n.id ∧
      (∀ name, p.fields.get? name = none →
        (p.applyTo n).toJson.fields.get? name = n.toJson.fields.get? name) ∧
      p.isEmpty = p.fields.isEmpty ∧ (p.isEmpty = true → p.patched n = .ok n) ∧
      (ofNode n).patched n = .ok n := by
  have hfits := applyTo_fits hp hn
  have hagain : p.patched (p.applyTo n) = .ok (p.applyTo n) := by
    rw [patched_eq hp hfits, applyTo_again hp]
  have hothers (name : String) (h : p.fields.get? name = none) :
      (p.applyTo n).toJson.fields.get? name = n.toJson.fields.get? name := by
    rw [get?_fields hp] at h
    rw [Node.get?_fields hfits, Node.get?_fields hn, field?_applyTo h]
  have hempty (h : p.isEmpty = true) : p.patched n = .ok n := by
    rw [patched_eq hp hn, applyTo_of_isEmpty h]
  have hself : (ofNode n).patched n = .ok n := by
    rw [patched_eq ⟨hn.priority, hn.ui⟩ hn, applyTo_ofNode hn]
  exact ⟨patched_eq hp hn, hagain, p.applyTo_id n, hothers, isEmpty_eq hp, hempty, hself⟩

end NodePatch

namespace Samples

/-- A question that waits for the name and may be asked again. -/
def budget : Node where
  id := "budget"
  kind := .question
  key := some "budget"
  prompt := some "Budget?"
  dependsOn := ["name"]
  reentrant := true
  ui := some [("colour", .string "red"), ("size", .object [("height", .int 1), ("width", .int 2)])]

/-- A patch with a member of an object in the `ui` object. -/
def rebudget : NodePatch where
  id := "budget"
  prompt := some "How much can you spend?"
  dependsOn := ["name", "city"]
  reentrant := some false
  ui := some [("size", .object [("height", .int 3)])]

theorem rebudget_overlays :
    rebudget.Fits ∧ budget.Fits ∧ rebudget.patched budget = .ok (rebudget.applyTo budget) ∧
      rebudget.patched (rebudget.applyTo budget) = .ok (rebudget.applyTo budget) ∧
      rebudget.applyTo budget = { budget with
        prompt := some "How much can you spend?"
        dependsOn := ["name", "city"]
        reentrant := false
        ui := some [("colour", .string "red"),
            ("size", .object [("height", .int 3), ("width", .int 2)])] } ∧
      (NodePatch.ofNode budget).patched budget = .ok budget := by
  have hp : rebudget.Fits := ⟨nofun, fun ui hui => by cases hui; rfl⟩
  have hn : budget.Fits := ⟨nofun, fun ui hui => by cases hui; rfl⟩
  obtain ⟨hpatched, hagain, -, -, -, -, hself⟩ := NodePatch.patched_overlays hp hn
  refine ⟨hp, hn, hpatched, hagain, ?_, hself⟩
  rw [NodePatch.applyTo_eq]
  rfl

end Samples

end Parley
