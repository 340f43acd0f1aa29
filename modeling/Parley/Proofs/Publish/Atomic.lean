import Parley.Proofs.Graph.Compiled
import Parley.Proofs.Publish.Request

/-!
# Operations on versions are all or nothing

Whatever an operation looks up, edits, merges or compiles, it works on a copy.  The store is touched
by one call only, the last one, and this call appends a version that compiles or leaves the store as
it is.

* `Plan.Commits`: a plan that touches the store at most once, at its end;
* `Plan.Commits.step`, `Plan.Commits.run`: what its calls do to a store;
* `Request.plan_commits`: the operations are such plans;
* `Request.run_all_or_nothing`.
-/

namespace Parley

/-! ### Plans that publish at their end -/

namespace Plan

/-- A plan that looks versions up and fails, or ends by publishing a flow that compiles and
reporting what became of it. -/
def Commits (host : Host) (tenant : TenantId) : Plan (Except PublishError Flow) → Prop
  | .done r => ∃ e, r = .error e
  | .latest _ next => ∀ r, (next r).Commits host tenant
  | .load _ _ next => ∀ r, (next r).Commits host tenant
  | .publish tenant' f _ next =>
      tenant' = tenant ∧ (∃ g, host.compile f = .ok g) ∧ next (.ok .published) = .done (.ok f) ∧
        (∀ current, ∃ e, next (.ok (.stale current)) = .done (.error e)) ∧
        ∀ fault, ∃ e, next (.error fault) = .done (.error e)

variable {host : Host} {tenant : TenantId} {p : Plan (Except PublishError Flow)}

/-- One call leaves the store as it is, or appends a version that compiles and ends the plan. -/
theorem Commits.step (h : p.Commits host tenant) (s : Store) :
    (p.step s).1 = s ∧ (p.step s).2.Commits host tenant ∨
    ∃ f g, host.compile f = .ok g ∧ f.version = (s.top ⟨tenant, f.id⟩).elim 1 (· + 1) ∧
      p.step s = (s.append ⟨tenant, f.id⟩ f, .done (.ok f)) := by
  cases p with
  | done r => exact .inl ⟨rfl, h⟩
  | latest key next => exact .inl ⟨rfl, h _⟩
  | load key v next => exact .inl ⟨rfl, h _⟩
  | publish tenant' f base next =>
    obtain ⟨rfl, ⟨g, hg⟩, hpublished, hstale, hfault⟩ := h
    rcases s.publish_cases tenant' f base with ⟨-, h⟩ | ⟨htop, hversion, -, h⟩ | ⟨-, fault, h⟩
    · obtain ⟨e, he⟩ := hstale ((s.top ⟨tenant', f.id⟩).getD 0)
      rw [step_publish_of_ok h, he]
      exact .inl ⟨rfl, e, rfl⟩
    · rw [step_publish_of_ok h, hpublished]
      exact .inr ⟨f, g, hg, htop ▸ hversion, rfl⟩
    · obtain ⟨e, he⟩ := hfault fault
      rw [step_publish_of_error h, he]
      exact .inl ⟨rfl, e, rfl⟩

variable {α β : Type}

/-- What is made of the outcome of a plan changes none of its calls. -/
theorem run_map (f : α → β) (p : Plan α) (s : Store) :
    (f <$> p).run s = ((p.run s).1, f (p.run s).2) := by
  induction p generalizing s with
  | done a => rfl
  | latest key next ih => exact ih _ s
  | load key v next ih => exact ih _ s
  | publish tenant flow base next ih =>
    show (publish tenant flow base fun r => f <$> next r).run s = _
    rw [run, run]
    split
    · exact ih _ _
    · exact ih _ _

/-- To make all calls is to make the next one and then the others. -/
theorem run_step (p : Plan α) (s : Store) : (p.step s).2.run (p.step s).1 = p.run s := by
  cases p with
  | done a => rfl
  | latest key next => rfl
  | load key v next => rfl
  | publish tenant f base next =>
    rw [run, step]
    split <;> rfl

theorem exists_step_publish (tenant : TenantId) (f : Flow) (base : Option Version)
    (next : Except StoreFault Publication → Plan α) (s : Store) :
    ∃ r, ((publish tenant f base next).step s).2 = next r := by
  rw [step]
  split
  · exact ⟨_, rfl⟩
  · exact ⟨_, rfl⟩

/-- All calls together leave the store as it is, or append one version that compiles. -/
theorem Commits.run (h : p.Commits host tenant) (s : Store) :
    (∃ e, p.run s = (s, .error e)) ∨
    ∃ f g, host.compile f = .ok g ∧ f.version = (s.top ⟨tenant, f.id⟩).elim 1 (· + 1) ∧
      p.run s = (s.append ⟨tenant, f.id⟩ f, .ok f) := by
  induction p with
  | done r =>
    obtain ⟨e, rfl⟩ := h
    exact .inl ⟨e, rfl⟩
  | latest key next ih => exact ih _ (h _)
  | load key v next ih => exact ih _ (h _)
  | publish tenant' f base next ih =>
    obtain ⟨r, hr⟩ := exists_step_publish tenant' f base next s
    rw [← run_step]
    rcases h.step s with ⟨hs, hnext⟩ | ⟨f, g, hg, hversion, hstep⟩
    · rw [hs, hr]
      rw [hr] at hnext
      exact ih r hnext
    · rw [hstep]
      exact .inr ⟨f, g, hg, hversion, rfl⟩

end Plan

/-! ### The operations -/

namespace Request

variable {host : Host} {stamp : Stamp} {tenant : TenantId}

/-- The compiler sees the flow before it is stamped, and would say the same of it afterwards. -/
theorem publishNext_commits (f : Flow) (base : Option Version) (description : String)
    (author : Option String) :
    (Publisher.publishNext host stamp tenant f base description author).Commits host tenant := by
  unfold Publisher.publishNext
  split
  · exact ⟨_, rfl⟩
  · rename_i g hg
    exact ⟨rfl, ⟨_, Host.compile_restamped hg _ _⟩, rfl, fun _ => ⟨_, rfl⟩, fun _ => ⟨_, rfl⟩⟩

theorem applied_commits (r : EditRequest) :
    (Publisher.applied host stamp r).Commits host r.tenant := by
  rintro (fault | _ | f)
  · exact ⟨_, rfl⟩
  · exact ⟨_, rfl⟩
  · show Plan.Commits host r.tenant (ite _ _ _)
    split
    · exact ⟨_, rfl⟩
    · split
      · exact ⟨_, rfl⟩
      · exact publishNext_commits _ _ _ _

theorem rolledBack_commits (key : FlowKey) (target : Version) (author : Option String) :
    (Publisher.rolledBack host stamp key target author).Commits host key.tenant := by
  rintro (fault | _ | f)
  · exact ⟨_, rfl⟩
  · exact ⟨_, rfl⟩
  · rintro (fault | _ | content)
    · exact ⟨_, rfl⟩
    · exact ⟨_, rfl⟩
    · exact publishNext_commits _ _ _ _

/-- Every operation touches the store at most once, at its end. -/
theorem plan_commits (request : Request) (host : Host) (stamp : Stamp) :
    (request.plan host stamp).Commits host request.tenant := by
  cases request with
  | create tenant flow author =>
    rw [plan, Publisher.create, Plan.map_bind_pure fun _ => rfl]
    exact publishNext_commits _ _ _ _
  | apply r =>
    rw [plan, Publisher.apply, Plan.map_bind_pure fun _ => rfl]
    exact applied_commits r
  | rollback key target author =>
    rw [plan, Publisher.rollback, Plan.map_bind_pure fun _ => rfl]
    exact rolledBack_commits key target author
  | merge tenant layers base author =>
    rw [plan, Publisher.publishLayers]
    split
    · exact ⟨_, rfl⟩
    · rw [Plan.map_bind_pure]
      · exact publishNext_commits _ _ _ _
      · intro result
        cases result with
        | error e => rfl
        | ok f => rfl

/-- **An operation that fails leaves the store as it was; one that succeeds has appended the version
that it returns, which compiles, to one flow of its tenant, and has changed nothing else.** -/
theorem run_all_or_nothing (request : Request) (host : Host) (stamp : Stamp) (s : Store) :
    (∃ e, (request.plan host stamp).run s = (s, .error e)) ∨
    ∃ s' f g, (request.plan host stamp).run s = (s', .ok f) ∧ host.compile f = .ok g ∧
      s'.versions ⟨request.tenant, f.id⟩ = s.versions ⟨request.tenant, f.id⟩ ++ [f] ∧
      (∀ key, key ≠ ⟨request.tenant, f.id⟩ → s'.versions key = s.versions key) ∧
      f.version = (s.top ⟨request.tenant, f.id⟩).elim 1 (· + 1) ∧
      s'.conversations = s.conversations ∧ s'.backend = s.backend := by
  rcases (request.plan_commits host stamp).run s with h | ⟨f, g, hg, hversion, hrun⟩
  · exact .inl h
  · refine .inr ⟨_, f, g, hrun, hg, ?_, fun key hkey => ?_, hversion, rfl, rfl⟩
    · rw [Store.versions_append, if_pos rfl]
    · rw [Store.versions_append, if_neg hkey.symm]

/-- An operation that is run in an orderly store leaves it orderly. -/
theorem Prepares.run_isOrderly {request : Request} {p : Plan (Except PublishError Flow)} {s : Store}
    (h : request.Prepares stamp p s) (hs : s.IsOrderly) : (p.run s).1.IsOrderly := by
  induction p with
  | done r => exact hs
  | latest key next ih => exact ih _ (h s (.refl s) hs)
  | load key v next ih => exact ih _ (h s (.refl s) hs)
  | publish tenant f base next ih =>
    obtain ⟨r, hr⟩ := Plan.exists_step_publish tenant f base next s
    rw [← Plan.run_step]
    rcases h.step hs with ⟨hsame, hnext⟩ | ⟨_, f', -, horderly, -, hstep⟩
    · rw [hsame, hr]
      rw [hr] at hnext
      exact ih r hnext
    · rw [hstep]
      exact horderly

end Request

end Parley
