import Parley.Proofs.Json.Compact
import Parley.Proofs.Layer.Origins
import Parley.Proofs.Number.Rounding

/-!
# Patches that say nothing new

A patch that is laid over what it has been laid over before changes nothing, and gives rise to no
conflict: each value that it sets is there already, lists have its items, and `ui` objects have its
members, at any depth.

* `Json.IsFinite`, `Json.same_self`: values that are the same as themselves;
* `Json.overlay_laidOver`, `NodePatch.overlay_overlay`, `EdgePatch.overlay_overlay`: what was laid
  over once;
* `Log.field_conflicts`, `NodePatch.settings_conflicts`, `EdgePatch.settings_conflicts`: no conflict
  arises.
-/

namespace Parley

/-! ### Values that are the same -/

namespace Json

/-- The numbers with a point are finite, as they are in all documents. -/
def IsFinite (j : Json) : Prop := ∀ x, Number.float x ∈ j.numbers → x.isFinite = true

theorem numbersInMembers_eq_flatMap (members : List (String × Json)) :
    numbersInMembers members = members.flatMap fun m => m.2.numbers := by
  induction members with
  | nil => rfl
  | cons m r ih => rw [numbersInMembers, ih, List.flatMap_cons]

theorem IsFinite.of_object {members : List (String × Json)} (h : (object members).IsFinite)
    {m : String × Json} (hm : m ∈ members) : m.2.IsFinite := by
  refine fun x hx => h x ?_
  rw [numbers, numbersInMembers_eq_flatMap]
  exact List.mem_flatMap.2 ⟨m, hm, hx⟩

mutual

/-- A value without NaN is the same as itself. -/
theorem same_self : ∀ {j : Json}, j.IsFinite → j.same j = true
  | .null, _ => rfl
  | .bool b, _ => by rw [same, beq_self_eq_true]
  | .string s, _ => by rw [same, beq_self_eq_true]
  | .number (.int i), _ => decide_eq_true rfl
  | .number (.float x), h => Binary64.eq_self (h x (List.mem_singleton_self _))
  | .array items, h => sameItems_self h
  | .object members, h => sameMembers_self h

theorem sameItems_self :
    ∀ {items : List Json}, (∀ x, Number.float x ∈ numbersInItems items → x.isFinite = true) →
      sameItems items items = true
  | [], _ => rfl
  | j :: r, h => by
      rw [sameItems, same_self fun x hx => h x (List.mem_append_left _ hx),
        sameItems_self fun x hx => h x (List.mem_append_right _ hx), Bool.and_self]

theorem sameMembers_self : ∀ {members : List (String × Json)},
    (∀ x, Number.float x ∈ numbersInMembers members → x.isFinite = true) →
      sameMembers members members = true
  | [], _ => rfl
  | (k, j) :: r, h => by
      rw [sameMembers, same_self fun x hx => h x (List.mem_append_left _ hx),
        sameMembers_self fun x hx => h x (List.mem_append_right _ hx), beq_self_eq_true,
          Bool.and_self, Bool.and_self]

end

/-! ### Values that were laid over another one -/

/-- Lay one member over an object. -/
def overlayMember (d : Dict Json) (m : String × Json) : Dict Json :=
  d.insert m.1 (laidOver (d.get? m.1) m.2)

theorem overlayMembers_eq_foldl (lower : Dict Json) (upper : List (String × Json)) :
    overlayMembers lower upper = upper.foldl overlayMember lower := by
  induction upper generalizing lower with
  | nil => rw [overlayMembers, List.foldl_nil]
  | cons m r ih =>
    obtain ⟨k, value⟩ := m
    rw [overlayMembers, ih, List.foldl_cons, overlayMember]
    dsimp only
    cases lower.get? k <;> rfl

/-- A member that was laid over an object is there, also when others are laid over it. -/
theorem overlayMember_keeps {m m' : String × Json} (hne : m.1 ≠ m'.1) {d : Dict Json}
    (h : overlayMember d m = d) :
    overlayMember (overlayMember d m') m = overlayMember d m' := by
  unfold overlayMember at h ⊢
  rw [Dict.get?_insert, if_neg hne.symm, Dict.insert_comm d hne.symm, h]

/-- Members that were laid over an object, and that do not change when they are laid over
themselves, are there. -/
theorem overlayMembers_again {upper : Dict Json} (hnames : Dict.Ordered upper)
    (h : ∀ m ∈ upper, ∀ previous, overlay (laidOver previous m.2) m.2 = laidOver previous m.2)
    (lower : Dict Json) :
    overlayMembers (overlayMembers lower upper) upper = overlayMembers lower upper := by
  simp only [overlayMembers_eq_foldl]
  refine foldl_eq_self (forall_foldl (P := fun d m => overlayMember d m = d) (fun m hm d => ?_)
    (hnames.imp fun hlt _ => overlayMember_keeps hlt.ne) lower)
  unfold overlayMember
  rw [Dict.get?_insert, if_pos rfl, Dict.insert_insert]
  exact congrArg (d.insert m.1) (h m hm _)

/-- **A value that was laid over another one changes nothing when it is laid over the result.** -/
theorem overlay_laidOver {value : Json} (hsorted : value.IsSorted) (previous : Option Json) :
    overlay (laidOver previous value) value = laidOver previous value := by
  induction value using induction_members generalizing previous with
  | step value ih =>
    by_cases hmeet : Meet previous value
    · obtain ⟨lower, upper, rfl, rfl⟩ := hmeet
      obtain ⟨hnames, hmembers⟩ := hsorted.of_object
      rw [laidOver, Option.elim_some, overlay, overlay,
        overlayMembers_again hnames fun m hm => ih upper rfl m hm (hmembers m hm)]
    · rw [laidOver_of_not_meet hmeet]
      cases value with
      | object upper =>
        -- each member is laid over itself
        obtain ⟨hnames, hmembers⟩ := hsorted.of_object
        rw [overlay, overlayMembers_eq_foldl, foldl_eq_self]
        intro m hm
        have hget := hnames.get?_of_mem hm
        have hself : overlay m.2 m.2 = m.2 := ih upper rfl m hm (hmembers m hm) none
        rw [overlayMember, hget, laidOver, Option.elim_some, hself, hnames.insert_of_get? hget]
      | null | bool _ | number _ | string _ | array _ => rfl

/-- A value over another one is sorted if both are. -/
theorem IsSorted.laidOver {value : Json} (hvalue : value.IsSorted) {previous : Option Json}
    (hprevious : ∀ lower ∈ previous, lower.IsSorted) : (laidOver previous value).IsSorted := by
  induction value using induction_members generalizing previous with
  | step value ih =>
    by_cases hmeet : Meet previous value
    · obtain ⟨lower, upper, rfl, rfl⟩ := hmeet
      obtain ⟨-, hupper⟩ := hvalue.of_object
      rw [Json.laidOver, Option.elim_some, overlay, overlayMembers_eq_foldl]
      suffices h : Dict.Ordered (upper.foldl overlayMember lower) ∧
          ∀ m ∈ upper.foldl overlayMember lower, m.2.IsSorted from .object h.1 h.2
      refine List.foldlRecOn (motive := fun d : Dict Json => Dict.Ordered d ∧ ∀ m ∈ d, m.2.IsSorted)
        upper _
        (hprevious _ rfl).of_object fun d hd m hm => ⟨hd.1.insert _ _, fun m' hm' => ?_⟩
      rcases Dict.mem_insert hm' with rfl | hm'
      · exact ih upper rfl m hm (hupper m hm) fun old hold => hd.2 _ (Dict.mem_of_get? hold)
      · exact hd.2 m' hm'
    · rwa [laidOver_of_not_meet hmeet]

/-- A member of what changes nothing changes nothing either. -/
theorem exists_of_overlay_eq {lower upper : Dict Json} (hnames : Dict.Ordered upper)
    (h : overlayMembers lower upper = lower) {m : String × Json} (hm : m ∈ upper) :
    ∃ value, Dict.get? lower m.1 = some value ∧ overlay value m.2 = value := by
  have hlaid : (laidOver (some (object lower)) (object upper)).get? m.1 =
      some (laidOver (Dict.get? lower m.1) m.2) := by
    rw [get?_laidOver hnames, hnames.get?_of_mem hm, Option.elim_some]
  rw [laidOver, Option.elim_some, overlay, h] at hlaid
  have hget : Dict.get? lower m.1 = some (laidOver (Dict.get? lower m.1) m.2) := hlaid
  cases hold : Dict.get? lower m.1 with
  | none =>
    rw [hold] at hget
    cases hget
  | some old =>
    rw [hold] at hget
    exact ⟨old, rfl, (Option.some.inj hget).symm⟩

end Json

/-! ### Patches that were laid over another one -/

theorem mem_appendNew {α : Type} [DecidableEq α] {y : α} {ys : List α} (hy : y ∈ ys) (xs : List α) :
    y ∈ appendNew xs ys := by
  refine forall_foldl (P := fun acc y => y ∈ acc) (fun y _ acc => ?_)
    (List.pairwise_of_forall fun y y' acc hy => ?_) xs
    y hy
  · split
    · assumption
    · exact List.mem_append_right _ (List.mem_singleton_self y)
  · split
    · exact hy
    · exact List.mem_append_left _ hy

theorem appendNew_again {α : Type} [DecidableEq α] (xs ys : List α) :
    appendNew (appendNew xs ys) ys = appendNew xs ys :=
  foldl_eq_self fun _ hy => if_pos (mem_appendNew hy xs)

theorem overlayUi_again {upper : Option (Dict Json)} (h : ∀ ui ∈ upper, (Json.object ui).IsSorted)
    (lower : Option (Dict Json)) : overlayUi (overlayUi lower upper) upper =
      overlayUi lower upper := by
  cases upper with
  | none => cases lower <;> rfl
  | some upper =>
    -- an object is there once it was laid over the lower one, or over nothing
    have hagain := Json.overlay_laidOver (h upper rfl) (lower.map .object)
    cases lower with
    | none => exact congrArg some (Json.object.inj hagain)
    | some lower => exact congrArg some (Json.object.inj hagain)

/-- **A patch that was laid over another one changes nothing when it is laid over the result.** -/
theorem NodePatch.overlay_overlay {p : NodePatch} (h : ∀ ui ∈ p.ui, (Json.object ui).IsSorted)
    (lower : NodePatch) :
    (lower.overlay p).overlay p = lower.overlay p := by
  unfold overlay
  simp only [← Option.or_assoc, Option.or_self, appendNew_again, overlayUi_again h]

theorem EdgePatch.overlay_overlay (lower p : EdgePatch) :
    (lower.overlay p).overlay p = lower.overlay p := by
  unfold overlay
  simp only [← Option.or_assoc, Option.or_self]

/-- The first patch of an edge is there once it was laid over nothing. -/
theorem EdgePatch.newEdge_overlay (p : EdgePatch) :
    (Draft.newEdge p).overlay p = Draft.newEdge p := by
  unfold overlay Draft.newEdge
  simp only [Option.or_self]

/-! ### No conflicts -/

namespace Log

theorem record_conflicts_of_same (site : Site) (name : String) {old value : Json}
    (h : old.same value = true) (log : Log) :
    (record site name (some old) value log).conflicts = log.conflicts := by
  rw [record_eq, conflict?, Option.bind_some, h, Bool.or_true, if_pos rfl]
  exact List.append_nil _

/-- No conflict arises from a value that is there already. -/
theorem field_conflicts (site : Site) (name : String) {lower value : Json}
    (hsorted : value.IsSorted) (hfinite : value.IsFinite) (h : Json.overlay lower value = lower)
    (log : Log) :
    (field site name (some lower) value log).conflicts = log.conflicts := by
  induction value using Json.induction_members generalizing name lower log with
  | step value ih =>
    by_cases hmeet : Json.Meet (some lower) value
    · obtain ⟨lower, upper, heq, rfl⟩ := hmeet
      cases heq
      obtain ⟨hnames, hmembers⟩ := hsorted.of_object
      rw [Json.overlay] at h
      rw [field, members_eq_foldl]
      refine List.foldlRecOn (motive := fun log' : Log => log'.conflicts = log.conflicts) upper _
        rfl
        fun log' hlog m hm => ?_
      obtain ⟨old, hget, hold⟩ := Json.exists_of_overlay_eq hnames (Json.object.inj h) hm
      rw [hget, ih upper rfl m hm _ (hmembers m hm) (hfinite.of_object hm) hold, hlog]
    · have hsame : value = lower := by rw [← h]; exact (Json.laidOver_of_not_meet hmeet).symm
      rw [field_of_not_meet site name hmeet, ← hsame,
        record_conflicts_of_same site name (Json.same_self hfinite)]

/-- No conflict arises from settings if none arises from any of them. -/
theorem settings_conflicts (site : Site) {lower upper : Dict Json}
    (h : ∀ m ∈ upper, ∀ log, (field site m.1 (lower.get? m.1) m.2 log).conflicts = log.conflicts)
    (log : Log) :
    (settings site lower upper log).conflicts = log.conflicts :=
  List.foldlRecOn (motive := fun log' : Log => log'.conflicts = log.conflicts) upper _ rfl
    fun log' hlog m hm => (h m hm log').trans hlog

theorem plain_conflicts (site : Site) (name : String) (value : Plain) (log : Log) :
    (field site name (some value.toJson) value.toJson log).conflicts = log.conflicts := by
  rw [field_plain, record_conflicts_of_same]
  rw [Plain.same_toJson]
  exact decide_eq_true rfl

end Log

/-- No conflict arises from an edge patch that changes nothing. -/
theorem EdgePatch.settings_conflicts {lower p : EdgePatch} (h : lower.overlay p = lower)
    (site : Log.Site) (log : Log) :
    (Log.settings site lower.settings p.settings log).conflicts = log.conflicts := by
  refine Log.settings_conflicts site (fun m hm log => ?_) log
  rw [p.settings_eq] at hm
  obtain ⟨field, hfield, value, hvalue, rfl⟩ := exists_of_mem_plainMembers hm
  rw [lower.get?_settings hfield, ← h, plain?_overlay lower p hfield, hvalue]
  exact Log.plain_conflicts site field value log

/-- A setting of a node is plain, or it is the `ui` object. -/
theorem NodePatch.plain_or_ui {p : NodePatch} {m : String × Json} (hm : m ∈ p.settings) :
    (∃ field ∈ plainFields, ∃ value, p.plain? field = some value ∧ m = (field, value.toJson)) ∨
      ∃ ui, p.ui = some ui ∧ m = ("ui", .object ui) := by
  by_cases hui : m.1 = "ui"
  · obtain ⟨front, back, hsettings, hfront, hback⟩ := p.exists_settings_eq
    rw [hsettings, List.mem_append, List.mem_append] at hm
    rcases hm with hm | hm | hm
    · exact absurd hui.symm (ui_ne_of_plain (hfront m hm).1)
    · cases hp : p.ui with
      | none =>
        rw [hp] at hm
        cases hm
      | some ui =>
        rw [hp] at hm
        exact .inr ⟨ui, rfl, List.mem_singleton.1 hm⟩
    · exact absurd hui.symm (ui_ne_of_plain (hback m hm).1)
  · have hplain : m ∈ Dict.erase p.settings "ui" := List.mem_filter.2 ⟨hm, decide_eq_true hui⟩
    rw [p.erase_settings] at hplain
    exact .inl (exists_of_mem_plainMembers hplain)

/-- No conflict arises from a node patch that changes nothing. -/
theorem NodePatch.settings_conflicts {lower p : NodePatch}
    (hsorted : ∀ ui ∈ p.ui, (Json.object ui).IsSorted)
    (hfinite : ∀ ui ∈ p.ui, (Json.object ui).IsFinite) (h : lower.overlay p = lower)
    (site : Log.Site) (log : Log) :
    (Log.settings site lower.settings p.settings log).conflicts = log.conflicts := by
  refine Log.settings_conflicts site (fun m hm log => ?_) log
  rcases plain_or_ui hm with ⟨field, hfield, value, hvalue, rfl⟩ | ⟨ui, hui, rfl⟩
  · rw [lower.get?_settings hfield, ← h, plain?_overlay lower p hfield, hvalue]
    exact Log.plain_conflicts site field value log
  · -- the lower patch has an object too, which this one does not change
    have hlower : overlayUi lower.ui (some ui) = lower.ui := by
      rw [← hui]; exact congrArg NodePatch.ui h
    rw [lower.get?_settings_ui]
    cases hbelow : lower.ui with
    | none =>
      rw [hbelow] at hlower
      cases hlower
    | some below =>
      rw [hbelow] at hlower
      have hover : Json.overlay (.object below) (.object ui) = .object below := by
        rw [Json.overlay]
        exact congrArg Json.object (Option.some.inj hlower)
      exact Log.field_conflicts site "ui" (hsorted ui hui) (hfinite ui hui) hover log

end Parley
