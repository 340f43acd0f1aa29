import Mathlib
import Parley.Service.Basic

/-!
# What the service does

An act of the service succeeds or fails, and leaves a service behind in either case.

* `Service.Act.Yields`: what an act leads to, one thing with its value and another with its failure;
* `Service.Act.Yields.bind`, `Service.execute_of_yields`.
-/

namespace Parley.Service

variable {α β : Type} {s : Service} {P P' : α → Service → Prop} {Q : β → Service → Prop}
  {E E' : Failure → Service → Prop}

namespace Act

/-- From a service on, an act succeeds with a value and a service, or fails and leaves a service. -/
def Yields (s : Service) (x : Act α) (P : α → Service → Prop) (E : Failure → Service → Prop) :
    Prop :=
  match x.run.run s with
  | (.ok a, s') => P a s'
  | (.error e, s') => E e s'

theorem run_bind (x : Act α) (f : α → Act β) (s : Service) :
    (x >>= f).run.run s =
      match x.run.run s with
      | (.ok a, s') => (f a).run.run s'
      | (.error e, s') => (.error e, s') := by
  rw [ExceptT.run_bind, StateT.run_bind]
  show (match x.run.run s with | (r, s') => _) = _
  rcases x.run.run s with ⟨r, s'⟩
  cases r <;> rfl

theorem Yields.bind {x : Act α} {f : α → Act β} (hx : Yields s x P E)
    (hf : ∀ a s', P a s' → Yields s' (f a) Q E) :
    Yields s (x >>= f) Q E := by
  unfold Yields at hx ⊢
  rw [run_bind]
  rcases hrun : x.run.run s with ⟨r, s'⟩
  rw [hrun] at hx
  cases r with
  | ok a => exact hf a s' hx
  | error e => exact hx

theorem Yields.map {x : Act α} {f : α → β} (hx : Yields s x (fun a => Q (f a)) E) :
    Yields s (ExceptT.map f x) Q E := by
  have hmap : ExceptT.map f x = x >>= fun a => pure (f a) := rfl
  rw [hmap]
  exact hx.bind fun a s' h => h

theorem Yields.imp {x : Act α} (hx : Yields s x P E) (hP : ∀ a s', P a s' → P' a s')
    (hE : ∀ e s', E e s' → E' e s') : Yields s x P' E' := by
  unfold Yields at hx ⊢
  split at hx
  · exact hP _ _ hx
  · exact hE _ _ hx

theorem yields_pure {a : α} (h : P a s) : Yields s (pure a : Act α) P E := h

theorem yields_throw {e : Failure} (h : E e s) : Yields s (throw e : Act α) P E := h

theorem yields_get {f : Service → Act α} (h : Yields s (f s) P E) :
    Yields s (get >>= f : Act α) P E := h

theorem yields_modify {g : Service → Service} {P : PUnit → Service → Prop} (h : P ⟨⟩ (g s)) :
    Yields s (modify g : Act PUnit) P E := h

/-- A write is refused, or it changes the store. -/
theorem yields_write {refusal : Option String} {f : Store → Store} {P : Unit → Service → Prop}
    (hwritten : refusal = none → P () { s with store := f s.store })
    (hrefused : ∀ reason, refusal = some reason → E (.unwritten reason) s) :
    Yields s (write refusal f) P E := by
  cases refusal with
  | none => exact hwritten rfl
  | some reason => exact hrefused reason rfl

theorem yields_ofStore {r : Except StoreFault α} (hok : ∀ a, r = .ok a → P a s)
    (herror : ∀ fault, r = .error fault → E (.store fault) s) : Yields s (ofStore r) P E := by
  cases r with
  | ok a => exact hok a rfl
  | error fault => exact herror fault rfl

end Act

/-- A command that cannot fail succeeds. -/
theorem execute_of_yields {settings : ServiceSettings} {key : ThreadKey} {command : Command}
    {P : CommandReply → Service → Prop}
    (h : Act.Yields s (executeAct settings key command) P fun _ _ => False) :
    ∃ s' r, s.execute settings key command = (s', .ok r) ∧ P r s' := by
  unfold Act.Yields at h
  rcases hrun : (executeAct settings key command).run.run s with ⟨r, s'⟩
  rw [hrun] at h
  cases r with
  | ok r => exact ⟨s', r, by rw [execute, hrun], h⟩
  | error e => exact h.elim

end Parley.Service
