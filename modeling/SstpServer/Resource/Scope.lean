import Mathlib.Tactic.Common

/-!
# Resources that are given back when a computation fails

A computation changes a state and may fail, and what it has changed by then remains.  An owner
that goes out of scope gives its resource back: always, or only if the computation fails, when
the result takes the resource along.  The rules below derive what a computation leaves behind,
in both cases, from what its parts do.
-/

namespace SstpServer.Resource

variable {σ ε α β : Type}

/-- A computation on a state that ends with a value or an error, or faults. -/
abbrev Fallible (σ ε : Type) := ExceptT ε (StateT σ Option)

/-- What a computation leaves for its caller. -/
def outcome (body : Fallible σ ε α) (s : σ) : Option (Except ε α × σ) :=
  body.run.run s

/-- Without a fault, the computation ends with a value and a state that meet `ok`, or with an
error and a state that meet `err`. -/
def Meets (body : Fallible σ ε α) (s : σ) (ok : α → σ → Prop) (err : ε → σ → Prop) : Prop :=
  (∃ a s', outcome body s = some (.ok a, s') ∧ ok a s') ∨
    ∃ e s', outcome body s = some (.error e, s') ∧ err e s'

/-- Take a resource if the state has it. -/
def demand (granted : σ → Except ε α) (take : α → σ → σ) : Fallible σ ε α :=
  ExceptT.mk fun s =>
    match granted s with
    | .ok a => some (.ok a, take a s)
    | .error e => some (.error e, s)

/-- Take a resource if the environment grants it. -/
def acquire (granted : Except ε α) (take : α → σ → σ) : Fallible σ ε α :=
  demand (fun _ => granted) take

/-- A step that cannot fail. -/
def perform (change : σ → σ) : Fallible σ ε Unit :=
  ExceptT.mk fun s => some (.ok (), change s)

/-- Go on if the environment allows it. -/
def check (granted : Except ε α) : Fallible σ ε α :=
  acquire granted fun _ s => s

/-- The owner of a resource that the result takes along. -/
def onError (give : σ → σ) (body : Fallible σ ε α) : Fallible σ ε α :=
  ExceptT.mk fun s =>
    (outcome body s).map fun left =>
      match left with
      | (.ok a, s') => (.ok a, s')
      | (.error e, s') => (.error e, give s')

/-- The owner of a resource that is not needed any more. -/
def always (give : σ → σ) (body : Fallible σ ε α) : Fallible σ ε α :=
  ExceptT.mk fun s => (outcome body s).map fun left => (left.1, give left.2)

/-- Report the error of a part as one of the whole. -/
def mapError {ε' : Type} (wrap : ε → ε') (body : Fallible σ ε α) : Fallible σ ε' α :=
  ExceptT.mk fun s => (outcome body s).map fun left => (left.1.mapError wrap, left.2)

/-- Try another computation if the first one fails, from the state it has left. -/
def orElse (first second : Fallible σ ε α) : Fallible σ ε α :=
  ExceptT.mk fun s =>
    (outcome first s).bind fun left =>
      match left with
      | (.ok a, s') => some (.ok a, s')
      | (.error _, s') => outcome second s'

theorem ok_of_mapError_eq_ok {ε' : Type} {wrap : ε → ε'} {granted : Except ε α} {a : α}
    (isOk : granted.mapError wrap = .ok a) : granted = .ok a := by
  cases granted with
  | ok b =>
      cases isOk
      rfl
  | error e => cases isOk

variable {s : σ} {ok : α → σ → Prop} {err : ε → σ → Prop}

namespace Meets

theorem mono {ok' : α → σ → Prop} {err' : ε → σ → Prop} {body : Fallible σ ε α}
    (meets : Meets body s ok err) (onOk : ∀ a s', ok a s' → ok' a s')
    (onErr : ∀ e s', err e s' → err' e s') : Meets body s ok' err' := by
  rcases meets with ⟨a, s', ran, holds⟩ | ⟨e, s', ran, holds⟩
  · exact Or.inl ⟨a, s', ran, onOk a s' holds⟩
  · exact Or.inr ⟨e, s', ran, onErr e s' holds⟩

theorem pure {a : α} (holds : ok a s) : Meets (Pure.pure a : Fallible σ ε α) s ok err :=
  Or.inl ⟨a, s, rfl, holds⟩

theorem bind {mid : β → σ → Prop} {first : Fallible σ ε β} {next : β → Fallible σ ε α}
    (before : Meets first s mid err) (after : ∀ b s', mid b s' → Meets (next b) s' ok err) :
    Meets (first >>= next) s ok err := by
  rcases before with ⟨b, s', ran, holds⟩ | ⟨e, s', ran, holds⟩
  · have goesOn : outcome (first >>= next) s = outcome (next b) s' := by
      change (outcome first s).bind _ = _
      rw [ran]
      rfl
    unfold Meets
    rw [goesOn]
    exact after b s' holds
  · right
    refine ⟨e, s', ?_, holds⟩
    change (outcome first s).bind _ = _
    rw [ran]
    rfl

theorem demand {granted : σ → Except ε α} {take : α → σ → σ}
    (refused : ∀ e, granted s = .error e → err e s)
    (taken : ∀ a, granted s = .ok a → ok a (take a s)) :
    Meets (Resource.demand granted take) s ok err := by
  cases result : granted s with
  | ok a =>
      refine Or.inl ⟨a, take a s, ?_, taken a result⟩
      simp [outcome, Resource.demand, ExceptT.run, ExceptT.mk, StateT.run, result]
  | error e =>
      refine Or.inr ⟨e, s, ?_, refused e result⟩
      simp [outcome, Resource.demand, ExceptT.run, ExceptT.mk, StateT.run, result]

theorem demand_bind {granted : σ → Except ε β} {take : β → σ → σ} {next : β → Fallible σ ε α}
    (refused : ∀ e, granted s = .error e → err e s)
    (taken : ∀ b, granted s = .ok b → Meets (next b) (take b s) ok err) :
    Meets (Resource.demand granted take >>= next) s ok err := by
  have first : Meets (Resource.demand granted take) s
      (fun b s' => granted s = .ok b ∧ s' = take b s) err :=
    demand refused fun b isOk => ⟨isOk, rfl⟩
  apply first.bind
  rintro b _ ⟨isOk, rfl⟩
  exact taken b isOk

theorem acquire {granted : Except ε α} {take : α → σ → σ} (refused : ∀ e, err e s)
    (taken : ∀ a, granted = .ok a → ok a (take a s)) :
    Meets (Resource.acquire granted take) s ok err :=
  demand (fun e _ => refused e) taken

theorem perform_bind {change : σ → σ} {next : Fallible σ ε α}
    (after : Meets next (change s) ok err) :
    Meets (Resource.perform change >>= fun _ => next) s ok err :=
  after

theorem check {granted : Except ε α} (refused : ∀ e, err e s)
    (passed : ∀ a, granted = .ok a → ok a s) : Meets (Resource.check granted) s ok err :=
  acquire refused passed

theorem acquire_bind {granted : Except ε β} {take : β → σ → σ} {next : β → Fallible σ ε α}
    (refused : ∀ e, err e s)
    (taken : ∀ b, granted = .ok b → Meets (next b) (take b s) ok err) :
    Meets (Resource.acquire granted take >>= next) s ok err :=
  demand_bind (fun e _ => refused e) taken

theorem check_bind {granted : Except ε β} {next : β → Fallible σ ε α} (refused : ∀ e, err e s)
    (passed : ∀ b, granted = .ok b → Meets (next b) s ok err) :
    Meets (Resource.check granted >>= next) s ok err :=
  acquire_bind refused passed

/-- The owner gives back what the failed body has left. -/
theorem onError {give : σ → σ} {body : Fallible σ ε α}
    (meets : Meets body s ok fun e s' => err e (give s')) :
    Meets (Resource.onError give body) s ok err := by
  rcases meets with ⟨a, s', ran, holds⟩ | ⟨e, s', ran, holds⟩
  · refine Or.inl ⟨a, s', ?_, holds⟩
    change (outcome body s).map _ = _
    rw [ran]
    rfl
  · refine Or.inr ⟨e, give s', ?_, holds⟩
    change (outcome body s).map _ = _
    rw [ran]
    rfl

theorem always {give : σ → σ} {body : Fallible σ ε α}
    (meets : Meets body s (fun a s' => ok a (give s')) fun e s' => err e (give s')) :
    Meets (Resource.always give body) s ok err := by
  rcases meets with ⟨a, s', ran, holds⟩ | ⟨e, s', ran, holds⟩
  · refine Or.inl ⟨a, give s', ?_, holds⟩
    change (outcome body s).map _ = _
    rw [ran]
    rfl
  · refine Or.inr ⟨e, give s', ?_, holds⟩
    change (outcome body s).map _ = _
    rw [ran]
    rfl

theorem mapError {ε' : Type} {wrap : ε → ε'} {body : Fallible σ ε α} {err : ε' → σ → Prop}
    (meets : Meets body s ok fun e s' => err (wrap e) s') :
    Meets (Resource.mapError wrap body) s ok err := by
  rcases meets with ⟨a, s', ran, holds⟩ | ⟨e, s', ran, holds⟩
  · refine Or.inl ⟨a, s', ?_, holds⟩
    change (outcome body s).map _ = _
    rw [ran]
    rfl
  · refine Or.inr ⟨wrap e, s', ?_, holds⟩
    change (outcome body s).map _ = _
    rw [ran]
    rfl

theorem orElse {first second : Fallible σ ε α} {mid : σ → Prop}
    (tried : Meets first s ok fun _ s' => mid s')
    (retried : ∀ s', mid s' → Meets second s' ok err) :
    Meets (Resource.orElse first second) s ok err := by
  rcases tried with ⟨a, s', ran, holds⟩ | ⟨e, s', ran, holds⟩
  · refine Or.inl ⟨a, s', ?_, holds⟩
    change (outcome first s).bind _ = _
    rw [ran]
    rfl
  · have goesOn : outcome (Resource.orElse first second) s = outcome second s' := by
      change (outcome first s).bind _ = _
      rw [ran]
      rfl
    unfold Meets
    rw [goesOn]
    exact retried s' holds

end Meets

end SstpServer.Resource
