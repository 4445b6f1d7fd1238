import PowerRails.Activity
import PowerRails.Plant

/-! # Environments

Actions are carried out in a context and on a state. The context says where they work: the active device and
rail, the rules and presence detections under way, and the voltage being configured. It is handed down and never
comes back, so that whatever is carried out elsewhere leaves it as it was. The state is what they change: the
hardware, the presence results, and everything that is recorded. It is handed on, also by what fails. -/

namespace PowerRails

/-- Where and under what limits actions are carried out. -/
structure Context (σ : Type) where
  plant : Plant σ
  cycle : Cycle
  maxRuleDepth : Nat
  /-- Captures made before in the same run, whose keys are taken. -/
  earlier : Captures := {}
  /-- Who is told about rails and sensor values, if anybody is. -/
  sensorsService : Option String := none
  scope : Scope
  /-- The scopes in which the active one was entered, the innermost first. -/
  outer : List Scope := []
  /-- The rules under way, the outermost first. -/
  ruleChain : List String := []
  /-- The devices whose presence is being found out, the outermost first. -/
  detecting : List String := []
  /-- The devices whose bus is taken. -/
  held : List String := []
  /-- The voltage of the configuration being applied. -/
  volts : Option Binary64 := none

namespace Context

variable {σ : Type}

/-- The active device, or the fault of there being none. -/
def device (ctx : Context σ) : Except Fault (Device σ) := ctx.plant.device ctx.scope.device

/-- The same context on behalf of another scope, within the present one. -/
def enter (ctx : Context σ) (scope : Scope) : Context σ := { ctx with scope, outer := ctx.scope :: ctx.outer }

/-- The same context on behalf of a rail of the active device. -/
def inRail (ctx : Context σ) (rail : String) : Context σ := ctx.enter ⟨ctx.scope.device, some rail⟩

/-- The same context one rule deeper. -/
def inRule (ctx : Context σ) (rule : String) : Context σ := { ctx with ruleChain := ctx.ruleChain ++ [rule] }

/-- The same context with the voltage of a configuration. -/
def withVolts (ctx : Context σ) (volts : Option Binary64) : Context σ := { ctx with volts }

/-- The context of the presence detection of a device: apart from what is under way already, nothing of the asking
context is left in it. -/
def detached (ctx : Context σ) (device : String) : Context σ :=
  { ctx.enter ⟨device, none⟩ with ruleChain := [], volts := none, detecting := ctx.detecting ++ [device] }

/-- The context in which the bus of a device is taken. -/
def holding (ctx : Context σ) (device : String) : Context σ := { ctx with held := device :: ctx.held }

/-- Refuses a rail that the device does not have. -/
def requireRail (device : Device σ) (rail : String) : Except Fault Unit :=
  match device.rail? rail with
  | some _ => .ok ()
  | none => .error ⟨.railNotFound device.id rail, []⟩

/-- Refuses a device that does not exist, or a rail that it does not have. -/
def requireScope (ctx : Context σ) (device : String) (rail : Option String) : Except Fault Unit := do
  let d ← ctx.plant.device device
  match rail with
  | some r => requireRail d r
  | none => pure ()

/-- Fails unless the active device has a rail. -/
def requireActiveRail (ctx : Context σ) (rail : String) : Except Fault Unit := do requireRail (← ctx.device) rail

/-- Refuses a rule that is under way, or one below as many rules as the limit allows. -/
def requireCallable (ctx : Context σ) (rule : String) : Except Fault Unit :=
  let depth := ctx.ruleChain.length + 1
  let refuse (reason : String) : Except Fault Unit := .error ⟨.ruleRecursion rule depth reason ctx.ruleChain, []⟩
  if rule ∈ ctx.ruleChain then refuse "rule is already active in the call chain"
  else if ctx.maxRuleDepth < depth then refuse s!"maximum rule depth of {ctx.maxRuleDepth} exceeded"
  else .ok ()

end Context

/-- The hardware, and what has been recorded so far. -/
structure State (σ : Type) where
  hardware : σ
  presence : PresenceCache := {}
  findings : List Finding := []
  captures : Captures := {}
  readings : List Reading := []
  activity : List Activity := []

/-- Something that is done to a state. It answers with a value or a fault, and what it did before a fault stays
done. -/
def Op (σ α : Type) : Type := State σ → Except Fault α × State σ

namespace Op

variable {σ α β γ : Type}

/-- Answers without doing anything. -/
protected def pure (a : α) : Op σ α := fun s => (.ok a, s)

/-- One thing after another, as long as there is no fault. -/
protected def bind (x : Op σ α) (f : α → Op σ β) : Op σ β := fun s =>
  match x s with
  | (.ok a, s) => f a s
  | (.error fault, s) => (.error fault, s)

instance : Monad (Op σ) where
  pure := Op.pure
  bind := Op.bind

/-- Answers with the state. -/
def state : Op σ (State σ) := fun s => (.ok s, s)

/-- Changes the state. -/
def update (f : State σ → State σ) : Op σ Unit := fun s => (.ok (), f s)

/-- Answers or fails as settled already. -/
def ofExcept (r : Except Fault α) : Op σ α := fun s => (r, s)

/-- Fails without doing anything. -/
def fail (fault : Fault) : Op σ α := fun s => (.error fault, s)

/-- The outcome as a value, so that a fault stops nothing. -/
def attempt (x : Op σ α) : Op σ (Except Fault α) := fun s =>
  let (outcome, s) := x s
  (.ok outcome, s)

/-- Faults pass one more frame. -/
def framed (frame : Frame) (x : Op σ α) : Op σ α := fun s =>
  let (outcome, s) := x s
  (outcome.mapError (·.within frame), s)

/-- Notes one thing that happens. -/
def note (a : Activity) : Op σ Unit := update fun s => { s with activity := s.activity ++ [a] }

@[simp] theorem pure_apply (a : α) (s : State σ) : (pure a : Op σ α) s = (.ok a, s) := rfl

@[simp] theorem bind_apply (x : Op σ α) (f : α → Op σ β) (s : State σ) :
    (x >>= f) s =
      match x s with
      | (.ok a, s) => f a s
      | (.error fault, s) => (.error fault, s) := rfl

@[simp] theorem state_apply (s : State σ) : (state : Op σ (State σ)) s = (.ok s, s) := rfl

@[simp] theorem update_apply (f : State σ → State σ) (s : State σ) : update f s = (.ok (), f s) := rfl

@[simp] theorem ofExcept_apply (r : Except Fault α) (s : State σ) : ofExcept r s = (r, s) := rfl

@[simp] theorem fail_apply (fault : Fault) (s : State σ) : (fail fault : Op σ α) s = (.error fault, s) := rfl

@[simp] theorem attempt_apply (x : Op σ α) (s : State σ) : attempt x s = (.ok (x s).1, (x s).2) := rfl

@[simp] theorem framed_apply (frame : Frame) (x : Op σ α) (s : State σ) :
    framed frame x s = ((x s).1.mapError (·.within frame), (x s).2) := rfl

theorem bind_of_ok {x : Op σ α} {f : α → Op σ β} {s t : State σ} {a : α} (h : x s = (.ok a, t)) :
    (x >>= f) s = f a t := by
  rw [bind_apply, h]

theorem bind_of_error {x : Op σ α} {f : α → Op σ β} {s t : State σ} {fault : Fault} (h : x s = (.error fault, t)) :
    (x >>= f) s = (.error fault, t) := by
  rw [bind_apply, h]

/-- Making another answer of an answer changes nothing. -/
theorem state_bind_pure (x : Op σ α) (f : α → β) (s : State σ) : ((x >>= fun a => Pure.pure (f a)) s).2 = (x s).2 := by
  rcases h : x s with ⟨fault | a, t⟩
  · rw [bind_of_error h]
  · rw [bind_of_ok h]
    rfl

theorem bind_eq_ok {x : Op σ α} {f : α → Op σ β} {s u : State σ} {b : β} (h : (x >>= f) s = (.ok b, u)) :
    ∃ a t, x s = (.ok a, t) ∧ f a t = (.ok b, u) := by
  rw [bind_apply] at h
  rcases hx : x s with ⟨fault | a, t⟩ <;> rw [hx] at h
  · cases h
  · exact ⟨a, t, rfl, h⟩

/-- A fault of one thing after another is that of the first, or that of the second after an answer of the first. -/
theorem bind_eq_error {x : Op σ α} {f : α → Op σ β} {s u : State σ} {fault : Fault}
    (h : (x >>= f) s = (.error fault, u)) :
    x s = (.error fault, u) ∨ ∃ a t, x s = (.ok a, t) ∧ f a t = (.error fault, u) := by
  rw [bind_apply] at h
  rcases hx : x s with ⟨fault' | a, t⟩ <;> rw [hx] at h
  · cases h
    exact Or.inl rfl
  · exact Or.inr ⟨a, t, rfl, h⟩

theorem framed_of_ok {frame : Frame} {x : Op σ α} {s t : State σ} {a : α} (h : x s = (.ok a, t)) :
    framed frame x s = (.ok a, t) := by
  rw [framed_apply, h]
  rfl

theorem framed_of_error {frame : Frame} {x : Op σ α} {s t : State σ} {fault : Fault} (h : x s = (.error fault, t)) :
    framed frame x s = (.error (fault.within frame), t) := by
  rw [framed_apply, h]
  rfl

theorem framed_eq_ok {frame : Frame} {x : Op σ α} {s t : State σ} {a : α} (h : framed frame x s = (.ok a, t)) :
    x s = (.ok a, t) := by
  rw [framed_apply] at h
  rcases hx : x s with ⟨fault | a', t'⟩ <;> rw [hx] at h
  · cases h
  · exact h

theorem framed_eq_error {frame : Frame} {x : Op σ α} {s t : State σ} {fault : Fault}
    (h : framed frame x s = (.error fault, t)) :
    ∃ inner, x s = (.error inner, t) ∧ fault = inner.within frame := by
  rw [framed_apply] at h
  rcases hx : x s with ⟨inner | a, t'⟩ <;> rw [hx] at h
  · cases h
    exact ⟨inner, rfl, rfl⟩
  · cases h

theorem id_map_op (x : Op σ α) : id <$> x = x := by
  funext s
  show (match x s with | (.ok a, s) => _ | (.error fault, s) => _) = x s
  rcases x s with ⟨_ | _, _⟩ <;> rfl

theorem bind_assoc_op (x : Op σ α) (f : α → Op σ β) (g : β → Op σ γ) :
    x >>= f >>= g = x >>= fun a => f a >>= g := by
  funext s
  simp only [bind_apply]
  rcases x s with ⟨_ | _, _⟩ <;> rfl

instance : LawfulMonad (Op σ) := LawfulMonad.mk' _ id_map_op (fun _ _ => rfl) bind_assoc_op

end Op
end PowerRails
