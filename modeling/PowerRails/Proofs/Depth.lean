import Mathlib.Data.List.MinMax
import PowerRails.Proofs.Task

/-! # Depth

How deep the work of a task can nest is bounded by the text of the task and of its plant: a task carries out
only parts of itself until it calls a rule, rules until it asks for a presence, and presence detections until
all devices are asked about. -/

namespace PowerRails

/-! ### Sizes -/

namespace Action

mutual

/-- How much there is to carry out in an action. -/
def size : Action → Nat
  | .allOf as => sequenceSize as + 1
  | .anyOf as => sequenceSize as + 1
  | .negation a => size a + 1
  | .branch condition as alternative => size condition + sequenceSize as + alternativeSize alternative + 1
  | .inDevice _ _ as => sequenceSize as + 1
  | .inRail _ as => sequenceSize as + 1
  | _ => 1
  termination_by structural a => a

def sequenceSize : Sequence Action → Nat
  | ⟨a, as⟩ => size a + restSize as + 1
  termination_by structural as => as

def restSize : List Action → Nat
  | [] => 0
  | a :: as => size a + restSize as + 1
  termination_by structural as => as

def alternativeSize : Option (Sequence Action) → Nat
  | none => 0
  | some as => sequenceSize as
  termination_by structural as => as

end

theorem restSize_toList (as : Sequence Action) : restSize as.toList = sequenceSize as := by
  cases as
  rfl

end Action

/-- How much there is to carry out in a task, rules and detections apart. -/
def Task.size : Task → Nat
  | .action a => a.size
  | .every as => Action.restSize as
  | .any as => Action.restSize as
  | .inOrder as => Action.sequenceSize as
  | .rule _ => 0
  | .presence _ => 0

section
variable {σ : Type}

namespace Plant

/-- The procedures that tasks carry out without containing them. -/
def shared (p : Plant σ) : List Procedure := p.rules.map (·.actions) ++ p.devices.filterMap (·.detection)

/-- The size of the largest shared procedure. -/
def span (p : Plant σ) : Nat := (p.shared.map Action.sequenceSize).foldr max 0

theorem size_le_span {p : Plant σ} {as : Procedure} (h : as ∈ p.shared) : Action.sequenceSize as ≤ p.span :=
  List.le_max_of_le' 0 (List.mem_map_of_mem h) le_rfl

end Plant

namespace Context

/-- How deep the work of a task can nest in a context. -/
def depth (c : Context σ) (t : Task) : Nat :=
  (c.undetected * (c.plant.rules.length + 1) + c.uncalled) * (c.plant.span + 1) + t.size

theorem uncalled_le (c : Context σ) : c.uncalled ≤ c.plant.rules.length := List.length_filter_le _ _

/-- Work on parts of a task, in a context with the same under way. -/
theorem depth_lt_of_size {c c' : Context σ} {t t' : Task} (hp : c'.plant = c.plant) (hd : c'.detecting = c.detecting)
    (hr : c'.ruleChain = c.ruleChain) (h : t'.size < t.size) : c'.depth t' < c.depth t := by
  have hu : c'.undetected = c.undetected := by simp only [undetected, hp, hd]
  have hv : c'.uncalled = c.uncalled := by simp only [uncalled, hp, hr]
  simp only [depth, hp, hu, hv]
  omega

/-- A digit of a number counts for more than all digits after it. -/
theorem digit_lt {a b m k : Nat} (h : a < b) (hk : k ≤ m) : a * (m + 1) + k < b * (m + 1) := by
  have := Nat.mul_le_mul_right (m + 1) (Nat.succ_le_of_lt h)
  rw [Nat.succ_mul] at this
  omega

/-- The work that a task carries out directly nests less deep than its own. -/
theorem Enters.depth_lt {c c' : Context σ} {t t' : Task} (h : c.Enters t c' t') : c'.depth t' < c.depth t := by
  cases h with
  | @rule id r hr hc =>
    have hspan : Action.sequenceSize r.actions ≤ c.plant.span :=
      Plant.size_le_span (List.mem_append_left _ (List.mem_map_of_mem (Plant.rule?_eq_some hr).1))
    have hless := uncalled_inRule hr (not_mem_of_requireCallable hc)
    exact digit_lt (Nat.add_lt_add_left hless _) hspan
  | @detection id d as hd has hnew =>
    have hspan : Action.sequenceSize as ≤ c.plant.span :=
      Plant.size_le_span (List.mem_append_right _ (List.mem_filterMap.mpr ⟨d, (Plant.device?_eq_some hd).1, has⟩))
    have hless := digit_lt (undetected_detached hd hnew) (uncalled_le (c.detached id))
    exact digit_lt (Nat.lt_add_right _ hless) hspan
  | _ =>
    refine depth_lt_of_size rfl rfl rfl ?_
    simp only [Task.size, Action.size, Action.sequenceSize, Action.restSize, Action.alternativeSize,
      Action.restSize_toList]
    omega

end Context
end
end PowerRails
