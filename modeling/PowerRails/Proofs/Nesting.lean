import PowerRails.Proofs.Call
import PowerRails.Proofs.Restoration

/-! # Nesting

Carrying out a task comes to an end for every plant, also where rules call each other in circles, where presence
detections ask for each other, and where the limit on nested rules is as high as it may be. A presence detection
starts with no rules under way, so neither the rules under way nor the text left to carry out need become less; but
then one device fewer is left to detect. So calls nest at most as deep as a number says that counts devices first,
then rules, and then text. -/

namespace PowerRails

section
variable {σ : Type}

/-- How deep the work of a task can nest in a plant at most, whatever is under way. -/
def Plant.nesting (p : Plant σ) (t : Task) : Nat :=
  (p.devices.length * (p.rules.length + 1) + p.rules.length) * (p.span + 1) + t.size

theorem Context.depth_le_nesting (c : Context σ) (t : Task) : c.depth t ≤ c.plant.nesting t := by
  have hdevices : c.undetected ≤ c.plant.devices.length := List.length_filter_le _ _
  have hrules := c.uncalled_le
  have hdigits := Nat.add_le_add (Nat.mul_le_mul_right (c.plant.rules.length + 1) hdevices) hrules
  exact Nat.add_le_add_right (Nat.mul_le_mul_right (c.plant.span + 1) hdigits) t.size

namespace Call

/-- Calls each of which makes the next one nest no deeper than the first of them may. -/
theorem length_le_depth {k : Call σ} {calls : List (Call σ)} (h : List.IsChain Makes (k :: calls)) :
    calls.length ≤ k.context.depth k.task := by
  induction calls generalizing k with
  | nil => exact Nat.zero_le _
  | cons k' calls ih =>
    obtain ⟨hmakes, hrest⟩ := List.isChain_cons_cons.mp h
    -- Whatever the call makes is entered from it, and has less depth left.
    have hdeeper := ih hrest
    have hless := hmakes.enters.depth_lt
    rw [List.length_cons]
    omega

end Call

/-- In every environment, and whatever the buses do, a task comes to an end: the machine that gives up where work
nests too deep does not give up if it may nest deeper than the plant and the task say, and then always comes to
what the task should come to. And calls each of which makes the next one are no more than that. -/
theorem Environment.nesting_bounded (env : Environment σ) (t : Task) :
    (∃ outcome after, (∀ n > env.plant.nesting t, Guarded.execute n t env = some (outcome, after)) ∧
      (outcome, after.state) = env.context.carryOut t env.state) ∧
    ∀ calls, List.IsChain Call.Makes (⟨env.context, t, env.state⟩ :: calls) →
      calls.length ≤ env.plant.nesting t := by
  have hdepth : env.context.depth t ≤ env.plant.nesting t := env.context.depth_le_nesting t
  have hends : ∀ n > env.plant.nesting t, Guarded.execute n t env =
      some ((env.context.carryOut t env.state).1, env.withState (env.context.carryOut t env.state).2) := fun n hn =>
    Guarded.execute_does env.context t n (Nat.lt_of_le_of_lt hdepth hn) env rfl
  exact ⟨⟨_, _, hends, rfl⟩, fun calls h => (Call.length_le_depth h).trans hdepth⟩

end
end PowerRails
