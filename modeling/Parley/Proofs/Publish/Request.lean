import Parley.Proofs.Edit.Basic
import Parley.Proofs.Store.Versions
import Parley.Publish.Basic

/-!
# What is published for a request

Each operation on versions is a plan of store calls.  Whatever other calls fall between its own, it
publishes at most once, as the successor of the version that it was computed from, and what it
publishes is made of versions that are still in the store.

* `Request`, `Request.plan`;
* `Request.Makes`: what a request may publish;
* `Request.Prepares`: what a plan may still do;
* `Request.plan_prepares`, `Request.Prepares.step`.
-/

namespace Parley

/-! ### Plans of store calls -/

namespace Plan

variable {α β : Type}

/-- A plan that is continued to tell of its outcome still has this outcome. -/
theorem map_bind_pure {g : α → β} {f : β → α} (hfg : ∀ a, f (g a) = a) (p : Plan α) :
    f <$> (p >>= fun a => pure (g a)) = p := by
  induction p with
  | done a => exact congrArg done (hfg a)
  | latest key next ih => exact congrArg (latest key) (funext ih)
  | load key v next ih => exact congrArg (load key v) (funext ih)
  | publish tenant flow base next ih => exact congrArg (publish tenant flow base) (funext ih)

variable {s s' : Store} {tenant : TenantId} {f : Flow} {base : Option Version}
  {next : Except StoreFault Publication → Plan α}

theorem step_publish_of_ok {r : Publication} (h : s.publish tenant f base = .ok (s', r)) :
    (publish tenant f base next).step s = (s', next (.ok r)) := by
  rw [step, h]

theorem step_publish_of_error {fault : StoreFault} (h : s.publish tenant f base = .error fault) :
    (publish tenant f base next).step s = (s, next (.error fault)) := by
  rw [step, h]

/-- No call takes a version away. -/
theorem step_extends (p : Plan α) (s : Store) : s.Extends (p.step s).1 := by
  cases p with
  | done a => exact .refl s
  | latest key next => exact .refl s
  | load key v next => exact .refl s
  | publish tenant f base next =>
    rcases s.publish_cases tenant f base with ⟨-, h⟩ | ⟨-, -, -, h⟩ | ⟨-, fault, h⟩
    · rw [step_publish_of_ok h]
      exact .refl s
    · rw [step_publish_of_ok h]
      exact .append s _ f
    · rw [step_publish_of_error h]
      exact .refl s

end Plan

/-! ### Requests -/

/-- What an author may ask for. -/
inductive Request
  | create (tenant : TenantId) (flow : Flow) (author : Option String)
  | apply (edits : EditRequest)
  | rollback (key : FlowKey) (target : Version) (author : Option String)
  | merge (tenant : TenantId) (layers : List Layer) (base : Option Version) (author : Option String)

namespace Request

/-- The tenant for whom a request publishes. -/
def tenant : Request → TenantId
  | create tenant _ _ => tenant
  | apply r => r.tenant
  | rollback key _ _ => key.tenant
  | merge tenant _ _ _ => tenant

/-- The store calls for a request, and the version that they lead to. -/
def plan (host : Host) (stamp : Stamp) : Request → Plan (Except PublishError Flow)
  | create tenant flow author => Report.result <$> Publisher.create host stamp tenant flow author
  | apply r => Report.result <$> Publisher.apply host stamp r
  | rollback key target author => Report.result <$> Publisher.rollback host stamp key target author
  | merge tenant layers base author =>
      (fun r => r.result.map Merged.flow) <$> Publisher.publishLayers host stamp tenant
        layers base author

/-- A request makes a flow of what a store holds, as the successor of a version: the given flow, the
outcome of edits on that version, what an earlier version held, or merged layers. -/
def Makes (stamp : Stamp) (s : Store) (base : Option Version) (f : Flow) : Request → Prop
  | create _ flow author =>
      base = none ∧ f = Publisher.stamped stamp base "initial version" author flow
  | apply r =>
      f.id = r.flow ∧ base = some r.baseVersion ∧
        ∃ old ∈ s.versions ⟨r.tenant, r.flow⟩, old.version = r.baseVersion ∧
          ∃ content next, s.kept old = .ok content ∧ content.edit r.edits = .ok next ∧
            f = Publisher.stamped stamp base (Publisher.describe r) r.author next
  | rollback key target author =>
      f.id = key.flow ∧ base.isSome ∧
        ∃ old ∈ s.versions key, old.version = target ∧
          ∃ content, s.kept old = .ok content ∧
            f = Publisher.stamped stamp base ("rollback to v" ++ toString target) author content
  | merge _ layers base' author =>
      base = base' ∧ ∃ merged, Layer.merge layers = .ok merged ∧
        f = Publisher.stamped stamp base ("merge of " ++ toString layers.length ++ " layer(s), "
          ++ toString merged.conflicts.length ++ " conflict(s)") author merged.flow

variable {stamp : Stamp} {s s' : Store} {base : Option Version} {f : Flow} {request : Request}

/-- What was made of a store is made of what the store grows into. -/
theorem Makes.mono (h : request.Makes stamp s base f) (hs : s.Extends s') :
    request.Makes stamp s' base f := by
  cases request with
  | create tenant flow author => exact h
  | apply r =>
    obtain ⟨hid, hbase, old, hold, hversion, content, next, hkept, hedit, rfl⟩ := h
    exact ⟨hid, hbase, old, hs.mem hold, hversion, content, next,
      (hs.kept_eq old).trans hkept, hedit, rfl⟩
  | rollback key target author =>
    obtain ⟨hid, hbase, old, hold, hversion, content, hkept, rfl⟩ := h
    exact ⟨hid, hbase, old, hs.mem hold, hversion, content, (hs.kept_eq old).trans hkept, rfl⟩
  | merge tenant layers base' author => exact h

/-- Whatever is made is stamped as the successor of the version that it was made from. -/
theorem Makes.exists_stamped (h : request.Makes stamp s base f) :
    ∃ description author content, f = Publisher.stamped stamp base description author content := by
  cases request with
  | create tenant flow author => exact ⟨_, _, _, h.2⟩
  | apply r =>
    obtain ⟨-, -, old, -, -, content, next, -, -, h⟩ := h
    exact ⟨_, _, _, h⟩
  | rollback key target author =>
    obtain ⟨-, -, old, -, -, content, -, h⟩ := h
    exact ⟨_, _, _, h⟩
  | merge tenant layers base' author =>
    obtain ⟨-, merged, -, h⟩ := h
    exact ⟨_, _, _, h⟩

theorem Makes.version_eq (h : request.Makes stamp s base f) : f.version = base.elim 1 (· + 1) := by
  obtain ⟨description, author, content, rfl⟩ := h.exists_stamped
  rfl

/-! ### Plans -/

/-- What a plan for a request may still do, from a store on: look versions up in the stores that
come, fail, or publish what the request makes and end in what the store answers. -/
def Prepares (request : Request) (stamp : Stamp) : Plan (Except PublishError Flow) → Store → Prop
  | .done r, _ => ∃ e, r = .error e
  | .latest key next, s =>
      ∀ s', s.Extends s' → s'.IsOrderly → request.Prepares stamp (next (s'.latest key)) s'
  | .load key v next, s =>
      ∀ s', s.Extends s' → s'.IsOrderly → request.Prepares stamp (next (s'.load key v)) s'
  | .publish tenant f base next, s =>
      tenant = request.tenant ∧ request.Makes stamp s base f ∧
        next (.ok .published) = .done (.ok f) ∧
        (∀ current, next (.ok (.stale current)) = .done (.error (.stale (base.getD 0) current))) ∧
        ∀ fault, next (.error fault) = .done (.error (.store fault))

variable {p : Plan (Except PublishError Flow)}

theorem Prepares.mono (h : request.Prepares stamp p s) (hs : s.Extends s') :
    request.Prepares stamp p s' := by
  cases p with
  | done r => exact h
  | latest key next => exact fun s'' hs' => h s'' (hs.trans hs')
  | load key v next => exact fun s'' hs' => h s'' (hs.trans hs')
  | publish tenant f base next =>
    obtain ⟨htenant, hmakes, hnext⟩ := h
    exact ⟨htenant, hmakes.mono hs, hnext⟩

theorem publishNext_prepares {host : Host} {description : String} {author : Option String}
    (h : request.Makes stamp s base (Publisher.stamped stamp base description author f)) :
    request.Prepares stamp
      (Publisher.publishNext host stamp request.tenant f base description author) s := by
  unfold Publisher.publishNext
  split
  · exact ⟨_, rfl⟩
  · exact ⟨rfl, h, rfl, fun _ => rfl, fun _ => rfl⟩

theorem applied_prepares (host : Host) (stamp : Stamp) (r : EditRequest) (s : Store) :
    (apply r).Prepares stamp (Publisher.applied host stamp r) s := by
  intro s' _ hs'
  cases hfound : s'.latest ⟨r.tenant, r.flow⟩ with
  | error fault => exact ⟨_, rfl⟩
  | ok found =>
    cases found with
    | none => exact ⟨_, rfl⟩
    | some f =>
      -- edits keep the id, so that the outcome is published where the base was found
      obtain ⟨old, hold, hkept, hid, hversion, -⟩ := hs'.latest_eq_ok hfound
      show (apply r).Prepares stamp (ite _ _ _) s'
      split
      · exact ⟨_, rfl⟩
      · rename_i hbase
        rw [not_not] at hbase
        split
        · exact ⟨_, rfl⟩
        · rename_i next hedit
          refine publishNext_prepares ⟨?_, ?_, old, hold, ?_, f, next, hkept, hedit, rfl⟩
          · exact (Flow.edit_sameName hedit).id.trans hid
          · rw [hbase]
          · rw [← hversion, hbase]

theorem rolledBack_prepares (host : Host) (stamp : Stamp) (key : FlowKey) (target : Version)
    (author : Option String) (s : Store) :
    (rollback key target author).Prepares stamp
      (Publisher.rolledBack host stamp key target author) s := by
  intro s' _ hs'
  cases hlast : s'.latest key with
  | error fault => exact ⟨_, rfl⟩
  | ok last =>
    cases last with
    | none => exact ⟨_, rfl⟩
    | some f =>
      -- other calls may fall between the two look-ups
      intro s'' _ hs''
      cases hfound : s''.load key target with
      | error fault => exact ⟨_, rfl⟩
      | ok found =>
        cases found with
        | none => exact ⟨_, rfl⟩
        | some content =>
          obtain ⟨old, hold, hversion, hkept, hid⟩ := hs''.load_eq_ok hfound
          exact publishNext_prepares ⟨hid, rfl, old, hold, hversion, content, hkept, rfl⟩

/-- **Whatever calls fall between its own, an operation publishes only what was asked for.** -/
theorem plan_prepares (request : Request) (host : Host) (stamp : Stamp) (s : Store) :
    request.Prepares stamp (request.plan host stamp) s := by
  cases request with
  | create tenant flow author =>
    rw [plan, Publisher.create, Plan.map_bind_pure fun _ => rfl]
    exact publishNext_prepares ⟨rfl, rfl⟩
  | apply r =>
    rw [plan, Publisher.apply, Plan.map_bind_pure fun _ => rfl]
    exact applied_prepares host stamp r s
  | rollback key target author =>
    rw [plan, Publisher.rollback, Plan.map_bind_pure fun _ => rfl]
    exact rolledBack_prepares host stamp key target author s
  | merge tenant layers base author =>
    rw [plan, Publisher.publishLayers]
    split
    · exact ⟨_, rfl⟩
    · rename_i merged hmerged
      obtain ⟨merged', hmerge, hcompile⟩ := bind_eq_ok.1 hmerged
      obtain ⟨-, -, rfl⟩ := map_eq_ok.1 hcompile
      rw [Plan.map_bind_pure]
      · exact publishNext_prepares ⟨rfl, merged', hmerge, rfl⟩
      · intro result
        cases result with
        | error e => rfl
        | ok f => rfl

/-- One call changes nothing in the store, or publishes the next version and ends the plan. -/
theorem Prepares.step (h : request.Prepares stamp p s) (hs : s.IsOrderly) :
    ((p.step s).1 = s ∧ request.Prepares stamp (p.step s).2 s) ∨
    ∃ base f, request.Makes stamp s base f ∧ (s.append ⟨request.tenant, f.id⟩ f).IsOrderly ∧
      f.version = (s.versions ⟨request.tenant, f.id⟩).length + 1 ∧
      p.step s = (s.append ⟨request.tenant, f.id⟩ f, .done (.ok f)) := by
  cases p with
  | done r => exact .inl ⟨rfl, h⟩
  | latest key next => exact .inl ⟨rfl, h s (.refl s) hs⟩
  | load key v next => exact .inl ⟨rfl, h s (.refl s) hs⟩
  | publish tenant f base next =>
    obtain ⟨rfl, hmakes, hpublished, hstale, hfault⟩ := h
    rcases s.publish_cases request.tenant f base with
      ⟨-, h⟩ | ⟨htop, hversion, hfits, h⟩ | ⟨-, fault, h⟩
    · rw [Plan.step_publish_of_ok h, hstale]
      exact .inl ⟨rfl, _, rfl⟩
    · rw [Plan.step_publish_of_ok h, hpublished]
      rw [← htop] at hversion
      obtain ⟨description, author, content, hf⟩ := hmakes.exists_stamped
      refine .inr ⟨base, f, hmakes, ?_, hversion.trans (hs.next_eq _), rfl⟩
      have hrecord : f.record =
          some ⟨f.version, base, description, author, stamp.changeId, stamp.createdAt⟩ := by
        rw [hf]
        rfl
      exact hs.append rfl hversion hrecord ⟨rfl, htop.symm⟩ hfits
    · rw [Plan.step_publish_of_error h, hfault]
      exact .inl ⟨rfl, _, rfl⟩

/-- **A plan that is about to publish anything but the next version is refused as stale.** -/
theorem Prepares.step_stale {tenant : TenantId}
    {next : Except StoreFault Publication → Plan (Except PublishError Flow)}
    (h : request.Prepares stamp (.publish tenant f base next) s) (hs : s.IsOrderly)
    (hversion : f.version ≠ (s.versions ⟨tenant, f.id⟩).length + 1) :
    (Plan.publish tenant f base next).step s =
      (s, .done (.error (.stale (base.getD 0) (s.versions ⟨tenant, f.id⟩).length))) := by
  obtain ⟨rfl, hmakes, -, hstale, -⟩ := h
  have hnext := hmakes.version_eq
  have htop : s.top ⟨request.tenant, f.id⟩ ≠ base := by
    intro heq
    rw [← heq, hs.next_eq] at hnext
    exact hversion hnext
  have hlength : (s.top ⟨request.tenant, f.id⟩).getD 0 =
      (s.versions ⟨request.tenant, f.id⟩).length := by
    rw [hs.top_eq]
    split
    · rename_i hzero
      rw [hzero]
      rfl
    · rfl
  have hpublish := s.publish_eq request.tenant f base
  rw [if_pos htop] at hpublish
  rw [Plan.step_publish_of_ok hpublish, hstale, hlength]

end Request

end Parley
