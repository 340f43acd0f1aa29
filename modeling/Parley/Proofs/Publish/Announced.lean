import Parley.Proofs.Publish.Atomic
import Parley.Service.Basic

/-!
# What is told of publications

A request is told of by one event: the version that it has published, with its description, or the
text of the error that refused it.  Only layers that do not merge into a flow that compiles are
refused without a word.

* `Plan.Always`: what a plan ends in, whatever its calls return;
* `Request.report`: the store calls for a request, and the events that tell of it;
* `Request.unmerged?`: why the layers of a request make no flow;
* `Request.report_tells`, `Request.told_once_or_unmerged`.
-/

namespace Parley

/-! ### What plans end in -/

namespace Plan

variable {α β : Type} {P : α → Prop} {Q : β → Prop}

/-- Whatever its calls return, a plan ends in a value of some kind. -/
def Always (P : α → Prop) : Plan α → Prop
  | .done a => P a
  | .latest _ next => ∀ r, (next r).Always P
  | .load _ _ next => ∀ r, (next r).Always P
  | .publish _ _ _ next => ∀ r, (next r).Always P

theorem Always.bind {p : Plan α} {q : α → Plan β} (hp : p.Always P)
    (hq : ∀ a, P a → (q a).Always Q) :
    (p >>= q).Always Q := by
  induction p with
  | done a => exact hq a hp
  | latest key next ih => exact fun r => ih r (hp r)
  | load key v next ih => exact fun r => ih r (hp r)
  | publish tenant f base next ih => exact fun r => ih r (hp r)

theorem Always.map {p : Plan α} {f : α → β} (hp : p.Always fun a => Q (f a)) : (f <$> p).Always Q :=
  hp.bind fun _ ha => ha

theorem map_map {γ : Type} (f : α → β) (g : β → γ) (p : Plan α) :
    g <$> (f <$> p) = (g ∘ f) <$> p := by
  induction p with
  | done a => rfl
  | latest key next ih => exact congrArg (latest key) (funext ih)
  | load key v next ih => exact congrArg (load key v) (funext ih)
  | publish tenant flow base next ih => exact congrArg (publish tenant flow base) (funext ih)

theorem Always.run {p : Plan α} (hp : p.Always P) (s : Store) : P (p.run s).2 := by
  induction p generalizing s with
  | done a => exact hp
  | latest key next ih => exact ih _ (hp _) s
  | load key v next ih => exact ih _ (hp _) s
  | publish tenant f base next ih =>
    rw [Plan.run]
    split
    · exact ih _ (hp _) _
    · exact ih _ (hp _) _

end Plan

/-! ### Reports -/

/-- A report with something else made of what was published. -/
def Report.map {α β : Type} (f : α → β) (r : Report α) : Report β := ⟨r.result.map f, r.events⟩

/-- A version that was published bears a record. -/
def IsRecorded (result : Except PublishError Flow) : Prop :=
  ∀ f, result = .ok f → ∃ record, f.record = some record

theorem isRecorded_error (e : PublishError) : IsRecorded (.error e) := nofun

theorem publishNext_isRecorded {host : Host} {stamp : Stamp} {tenant : TenantId} {f : Flow}
    {base : Option Version} {description : String} {author : Option String} :
    (Publisher.publishNext host stamp tenant f base description author).Always IsRecorded := by
  unfold Publisher.publishNext
  split
  · exact isRecorded_error _
  · rintro (fault | published | current)
    · exact isRecorded_error _
    · rintro _ ⟨⟩
      exact ⟨_, rfl⟩
    · exact isRecorded_error _

theorem applied_isRecorded (host : Host) (stamp : Stamp) (r : EditRequest) :
    (Publisher.applied host stamp r).Always IsRecorded := by
  rintro (fault | _ | f)
  · exact isRecorded_error _
  · exact isRecorded_error _
  · show Plan.Always IsRecorded (ite _ _ _)
    split
    · exact isRecorded_error _
    · split
      · exact isRecorded_error _
      · exact publishNext_isRecorded

theorem rolledBack_isRecorded (host : Host) (stamp : Stamp) (key : FlowKey) (target : Version)
    (author : Option String) : (Publisher.rolledBack host stamp key target author).Always
      IsRecorded := by
  rintro (fault | _ | f)
  · exact isRecorded_error _
  · exact isRecorded_error _
  · rintro (fault | _ | content)
    · exact isRecorded_error _
    · exact isRecorded_error _
    · exact publishNext_isRecorded

namespace Request

/-- The store calls for a request, and its outcome with the events that tell of it. -/
def report (host : Host) (stamp : Stamp) : Request → Plan (Report Flow)
  | create tenant flow author => Publisher.create host stamp tenant flow author
  | apply r => Publisher.apply host stamp r
  | rollback key target author => Publisher.rollback host stamp key target author
  | merge tenant layers base author =>
      Report.map Merged.flow <$> Publisher.publishLayers host stamp tenant layers base author

/-- The flow that a request is about. -/
def subject : Request → FlowId
  | create _ flow _ => flow.id
  | apply r => r.flow
  | rollback key _ _ => key.flow
  | merge _ layers _ _ => Layer.flowId (Layer.inOrder layers)

/-- The version that a request names as the one to be replaced, or zero. -/
def base : Request → Version
  | create _ _ _ => 0
  | apply r => r.baseVersion
  | rollback _ _ _ => 0
  | merge _ _ base _ => base.getD 0

/-- Why the layers of a request make no flow that compiles. -/
def unmerged? (host : Host) : Request → Option CompileError
  | merge _ layers _ _ =>
      match Layer.merge layers >>= fun m => (host.compile m.flow).map fun _ => m with
      | .error e => some e
      | .ok _ => none
  | _ => none

/-- An event tells what has become of a request: which version was published, or why none was. -/
def Tells (request : Request) (event : Event) : Except PublishError Flow → Prop
  | .ok f => ∃ record, f.record = some record ∧
      event = .published request.tenant request.subject f.version record.description
  | .error e => event = .rejected request.tenant request.subject request.base e.message

variable {host : Host} {stamp : Stamp} {request : Request} {s : Store} {f : Flow}

theorem plan_eq_report (request : Request) (host : Host) (stamp : Stamp) :
    request.plan host stamp = Report.result <$> request.report host stamp := by
  cases request with
  | create tenant flow author => rfl
  | apply r => rfl
  | rollback key target author => rfl
  | merge tenant layers base author =>
    rw [report, Plan.map_map]
    rfl

/-- The outcome of an operation is told of when the operation reports it. -/
theorem tells_announcement {result : Except PublishError Flow} (h : IsRecorded result)
    {base : Version} (hbase : ∀ e, result = .error e → base = request.base) :
    request.Tells (Publisher.announcement request.tenant request.subject base result) result := by
  cases result with
  | ok f =>
    obtain ⟨record, hrecord⟩ := h f rfl
    exact ⟨record, hrecord, by rw [Publisher.announcement, hrecord]; rfl⟩
  | error e =>
    rw [Publisher.announcement, hbase e rfl]
    rfl

theorem merge_id {layers : List Layer} {merged : Merged} (h : Layer.merge layers = .ok merged) :
    merged.flow.id = Layer.flowId (Layer.inOrder layers) := by
  obtain ⟨_, -, h⟩ := bind_eq_ok.1 h
  cases h
  rfl

/-- **Whatever the store answers, a request reports one event that tells of its outcome**, unless
its layers make no flow; then it reports the error, and no event. -/
theorem report_tells (request : Request) (host : Host) (stamp : Stamp) :
    (request.report host stamp).Always fun r =>
      match request.unmerged? host with
      | some e => r = ⟨.error (.compile e), []⟩
      | none => ∃ event, r.events = [event] ∧ request.Tells event r.result := by
  cases request with
  | create tenant flow author =>
    exact publishNext_isRecorded.bind fun result h => ⟨_, rfl, tells_announcement h fun _ _ => rfl⟩
  | apply r =>
    exact (applied_isRecorded host stamp r).bind fun result h =>
      ⟨_, rfl, tells_announcement h fun _ _ => rfl⟩
  | rollback key target author =>
    refine (rolledBack_isRecorded host stamp key target author).bind fun result h =>
      ⟨_, rfl, tells_announcement h fun e he => ?_⟩
    rw [he]
    rfl
  | merge tenant layers base author =>
    refine Plan.Always.map ?_
    simp only [unmerged?, Publisher.publishLayers]
    cases hmerge : Layer.merge layers >>= fun m => (host.compile m.flow).map fun _ => m with
    | error e => exact rfl
    | ok merged =>
      obtain ⟨merged', hmerged, hcompile⟩ := bind_eq_ok.1 hmerge
      obtain ⟨-, -, rfl⟩ := map_eq_ok.1 hcompile
      refine publishNext_isRecorded.bind fun result h => ⟨_, rfl, ?_⟩
      have hresult : (result.map (Merged.mk · merged'.conflicts)).map Merged.flow = result := by
        cases result <;> rfl
      show Tells _ (Publisher.announcement tenant merged'.flow.id (base.getD 0) result)
        ((result.map (Merged.mk · merged'.conflicts)).map Merged.flow)
      rw [hresult, merge_id hmerged]
      exact tells_announcement h fun _ _ => rfl

/-! ### What is published is what was asked for -/

theorem Makes.id_eq {stamp : Stamp} {base : Option Version} (h : request.Makes stamp s base f) :
    f.id = request.subject := by
  cases request with
  | create tenant flow author =>
    obtain ⟨-, rfl⟩ := h
    rfl
  | apply r => exact h.1
  | rollback key target author => exact h.1
  | merge tenant layers base' author =>
    obtain ⟨-, merged, hmerged, rfl⟩ := h
    exact merge_id hmerged

/-- What a plan has published when it ends was made of the store that it began with. -/
theorem Prepares.run_makes {p : Plan (Except PublishError Flow)} (h : request.Prepares stamp p s)
    (hs : s.IsOrderly) (hrun : (p.run s).2 = .ok f) : ∃ base, request.Makes stamp s base f := by
  induction p with
  | done r =>
    obtain ⟨e, rfl⟩ := h
    cases hrun
  | latest key next ih => exact ih _ (h s (.refl s) hs) hrun
  | load key v next ih => exact ih _ (h s (.refl s) hs) hrun
  | publish tenant f' base next ih =>
    obtain ⟨r, hr⟩ := Plan.exists_step_publish tenant f' base next s
    rw [← Plan.run_step] at hrun
    rcases h.step hs with ⟨hsame, hnext⟩ | ⟨base', g, hmakes, -, -, hstep⟩
    · rw [hsame, hr] at hrun
      rw [hr] at hnext
      exact ih r hnext hrun
    · rw [hstep] at hrun
      cases hrun
      exact ⟨base', hmakes⟩

/-! ### One event for each request -/

/-- **A request is told of once.**  The service publishes one event for it: the version that now
stands on top of the versions of its flow, with the description in its record, or the text of the
error, the store being as it was.  Only when its layers make no flow that compiles, nothing is
published, neither a version nor an event. -/
theorem told_once_or_unmerged (request : Request) (host : Host) (stamp : Stamp) (s : Service) :
    let told := s.publish (request.report host stamp)
    match request.unmerged? host with
    | some e => told = (s, .error (.compile e))
    | none => ∃ event, told.1.events = s.events ++ [event] ∧ request.Tells event told.2 ∧
        match told.2 with
        | .ok f => told.1.store.versions ⟨request.tenant, f.id⟩ =
            s.store.versions ⟨request.tenant, f.id⟩ ++ [f] ∧
            (s.store.IsOrderly → f.id = request.subject)
        | .error _ => told.1.store = s.store := by
  rcases hrun : (request.report host stamp).run s.store with ⟨store, r⟩
  have htold : s.publish (request.report host stamp) =
      ({ s with store := store, events := s.events ++ r.events }, r.result) := by
    rw [Service.publish, hrun]
  have hplan : (request.plan host stamp).run s.store = (store, r.result) := by
    rw [plan_eq_report, Plan.run_map, hrun]
  have htells := (report_tells request host stamp).run s.store
  have hcommits := (request.plan_commits host stamp).run s.store
  rw [hrun] at htells
  rw [hplan] at hcommits
  simp only [htold]
  cases hunmerged : request.unmerged? host with
  | some e =>
    rw [hunmerged] at htells
    obtain rfl : r = ⟨.error (.compile e), []⟩ := htells
    rcases hcommits with ⟨_, h⟩ | ⟨_, _, -, -, h⟩ <;> cases h
    simp only [List.append_nil]
  | none =>
    rw [hunmerged] at htells
    obtain ⟨event, hevents, htells⟩ := htells
    refine ⟨event, by rw [hevents], htells, ?_⟩
    rcases hcommits with ⟨e, h⟩ | ⟨f, g, -, -, h⟩
    · obtain ⟨rfl, hresult⟩ := Prod.mk.inj h
      rw [hresult]
    · obtain ⟨rfl, hresult⟩ := Prod.mk.inj h
      rw [hresult]
      refine ⟨by rw [Store.versions_append, if_pos rfl], fun horderly => ?_⟩
      have hmade : ((request.plan host stamp).run s.store).2 = .ok f := by rw [hplan, hresult]
      obtain ⟨base, hmakes⟩ := (request.plan_prepares host stamp s.store).run_makes horderly hmade
      exact hmakes.id_eq

end Request

namespace Samples

/-- A layer with a node of which no kind is known. -/
def kindless : Layer where
  tier := .global
  id := some "desk"
  graph := { nodes := [{ id := "greet" }] }

/-- Merging the layer fails, and nobody is told. -/
theorem kindless_not_told :
    let s : Service := { store := {} }
    s.publish ((Request.merge "acme" [kindless] none none).report .builtin ⟨"a", default⟩) =
      (s, .error (.compile (.schema "greet" .missingKind))) := by
  cbv

end Samples

end Parley
