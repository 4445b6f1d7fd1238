import Mathlib.Data.List.Chain
import PowerRails.Bus.Simulated
import PowerRails.Proofs.Call.Outcome
import PowerRails.Proofs.Restoration

/-! # Rules as subroutines

The rules under way are kept for one purpose, to refuse a rule that calls itself or nests too deep. Where the text of
the rules rules that out, nothing is ever refused, and the list has no effect: carrying out a rule is carrying out its
actions in the place of the call. The invariant is that the rules under way are a path in the graph of calls, and that
it goes on to every rule that is still to be called. A presence detection starts a path of its own. -/

namespace PowerRails

/-! ### Calls in a text -/

namespace Action

mutual

/-- The rules that are called anywhere in an action. -/
def calls : Action → List String
  | .allOf as => sequenceCalls as
  | .anyOf as => sequenceCalls as
  | .negation a => calls a
  | .branch condition as alternative => calls condition ++ sequenceCalls as ++ alternativeCalls alternative
  | .runRule rule => [rule]
  | .inDevice _ _ as => sequenceCalls as
  | .inRail _ as => sequenceCalls as
  | _ => []
  termination_by structural a => a

def sequenceCalls : Sequence Action → List String
  | ⟨a, as⟩ => calls a ++ restCalls as
  termination_by structural as => as

def restCalls : List Action → List String
  | [] => []
  | a :: as => calls a ++ restCalls as
  termination_by structural as => as

def alternativeCalls : Option (Sequence Action) → List String
  | none => []
  | some as => sequenceCalls as
  termination_by structural as => as

end

theorem restCalls_toList (as : Sequence Action) : restCalls as.toList = sequenceCalls as := by
  cases as
  rfl

end Action

/-- The rules that are called in the text of a task. What rules and presence detections call is not part of it. -/
def Task.calls : Task → List String
  | .action a => a.calls
  | .every as => Action.restCalls as
  | .any as => Action.restCalls as
  | .inOrder as => Action.sequenceCalls as
  | .rule id => [id]
  | .presence _ => []

section
variable {σ : Type}

namespace Plant

/-- A rule of the plant calls a rule anywhere in its actions. -/
def CallsRule (p : Plant σ) (r s : String) : Prop :=
  ∃ rule, p.rule? r = some rule ∧ s ∈ Action.sequenceCalls rule.actions

/-- Rules of the plant, each of which calls the next one. -/
structure CallPath (p : Plant σ) (path : List String) : Prop where
  registered : ∀ id ∈ path, ∃ r, p.rule? id = some r
  chain : path.IsChain p.CallsRule

/-- No rule calls itself, directly or through others, and no more rules than a limit call one another in a row. -/
structure CallsWithin (p : Plant σ) (limit : Nat) : Prop where
  acyclic : ∀ id, ¬ Relation.TransGen p.CallsRule id id
  length_le : ∀ path, p.CallPath path → path.length ≤ limit

variable {p : Plant σ} {path : List String} {id other : String}

theorem callPath_singleton {r : Rule} (h : p.rule? id = some r) : p.CallPath [id] where
  registered _ hmem := ⟨r, List.mem_singleton.mp hmem ▸ h⟩
  chain := .singleton id

/-- A path goes on with whatever rule its last one calls. -/
theorem CallPath.concat {r : Rule} (h : p.CallPath (path ++ [id])) (hcalls : p.CallsRule id other)
    (hother : p.rule? other = some r) : p.CallPath (path ++ [id] ++ [other]) where
  registered x hx := by
    rcases List.mem_append.mp hx with hx | hx
    · exact h.registered x hx
    · exact ⟨r, List.mem_singleton.mp hx ▸ hother⟩
  chain := by
    refine List.isChain_append.mpr ⟨h.chain, .singleton other, fun x hx y hy => ?_⟩
    obtain rfl : id = x := by simpa using hx
    obtain rfl : other = y := by simpa using hy
    exact hcalls

/-- The last rule of a path is not on it before, and there is room for it. -/
theorem CallsWithin.callable {limit : Nat} (h : p.CallsWithin limit) (hpath : p.CallPath (path ++ [id])) :
    id ∉ path ∧ path.length + 1 ≤ limit := by
  have hlength := h.length_le _ hpath
  rw [List.length_append] at hlength
  refine ⟨fun hmem => ?_, hlength⟩
  have hpairs : (path ++ [id]).Pairwise (Relation.TransGen p.CallsRule) :=
    List.isChain_iff_pairwise.mp (hpath.chain.imp fun _ _ => Relation.TransGen.single)
  exact h.acyclic id ((List.pairwise_append.mp hpairs).2.2 id hmem id (List.mem_singleton_self id))

/-- Rules that only call rules of lower rank are as many in a row as there are ranks. -/
theorem callsWithin_of_rank {limit : Nat} (rank : String → Nat) (hcalls : ∀ r s, p.CallsRule r s → rank s < rank r)
    (hlimit : ∀ id r, p.rule? id = some r → rank id < limit) : p.CallsWithin limit where
  acyclic id h := by
    have hless : ∀ s, Relation.TransGen p.CallsRule id s → rank s < rank id := fun s hs => by
      induction hs with
      | single h => exact hcalls _ _ h
      | tail _ h ih => exact (hcalls _ _ h).trans ih
    exact Nat.lt_irrefl _ (hless id h)
  length_le path hpath := by
    have hlength : ∀ (rest : List String) id, (id :: rest).IsChain p.CallsRule → rest.length ≤ rank id := by
      intro rest
      induction rest with
      | nil => exact fun _ _ => Nat.zero_le _
      | cons next rest ih =>
        intro id h
        obtain ⟨hfirst, hrest⟩ := List.isChain_cons_cons.mp h
        exact Nat.succ_le_of_lt (Nat.lt_of_le_of_lt (ih next hrest) (hcalls _ _ hfirst))
    cases path with
    | nil => exact Nat.zero_le _
    | cons id rest =>
      obtain ⟨r, hr⟩ := hpath.registered id List.mem_cons_self
      exact Nat.succ_le_of_lt (Nat.lt_of_le_of_lt (hlength rest id hpath.chain) (hlimit id r hr))

end Plant

/-! ### Rules under way -/

/-- Wherever a task still calls a rule, the rules under way lead to it. -/
structure Context.Admits (c : Context σ) (t : Task) : Prop where
  within : c.plant.CallsWithin c.maxRuleDepth
  path : ∀ id ∈ t.calls, ∀ r, c.plant.rule? id = some r → c.plant.CallPath (c.ruleChain ++ [id])

section
variable {c c' : Context σ} {t t' : Task} {k k' : Call σ}

/-- With no rule under way every task is admitted. -/
theorem Context.admits_of_ruleChain (hcalls : c.plant.CallsWithin c.maxRuleDepth) (hchain : c.ruleChain = [])
    (t : Task) : c.Admits t where
  within := hcalls
  path id _ r hr := by
    rw [hchain]
    exact Plant.callPath_singleton hr

theorem Context.Admits.requireCallable {id : String} {r : Rule} (h : c.Admits (.rule id))
    (hr : c.plant.rule? id = some r) : c.requireCallable id = .ok () := by
  obtain ⟨hnew, hroom⟩ := h.within.callable (h.path id List.mem_cons_self r hr)
  simp only [Context.requireCallable, if_neg hnew, if_neg (Nat.not_lt.mpr hroom)]

/-- Parts of a task call no more than the task. -/
theorem Context.Admits.of_subset (h : c.Admits t) (hcalls : t'.calls ⊆ t.calls) : c.Admits t' where
  within := h.within
  path id hid := h.path id (hcalls hid)

/-- What a task carries out is admitted where it is carried out, if the task is. -/
theorem Context.Enters.admits (he : c.Enters t c' t') (h : c.Admits t) : c'.Admits t' := by
  cases he with
  | @rule id r hr _ =>
    refine ⟨h.within, fun other hother r' hr' => ?_⟩
    have hpath := h.path id List.mem_cons_self r hr
    exact hpath.concat ⟨r, hr, hother⟩ hr'
  | detection => exact admits_of_ruleChain (c := c.detached _) h.within rfl _
  | inDevice => exact ⟨h.within, h.path⟩
  | inRail => exact ⟨h.within, h.path⟩
  | @allOf as =>
    have hsame : (Task.every as.toList).calls = (Task.action (.allOf as)).calls := Action.restCalls_toList as
    exact h.of_subset (hsame ▸ List.Subset.refl _)
  | @anyOf as =>
    have hsame : (Task.any as.toList).calls = (Task.action (.anyOf as)).calls := Action.restCalls_toList as
    exact h.of_subset (hsame ▸ List.Subset.refl _)
  | negation => exact h.of_subset (List.Subset.refl _)
  | runRule => exact h.of_subset (List.Subset.refl _)
  | gate => exact h.of_subset (List.nil_subset _)
  | comparePresence => exact h.of_subset (List.nil_subset _)
  | condition =>
    exact h.of_subset (List.Subset.trans (List.subset_append_left _ _) (List.subset_append_left _ _))
  | consequent =>
    exact h.of_subset (List.Subset.trans (List.subset_append_right _ _) (List.subset_append_left _ _))
  | alternative => exact h.of_subset (List.subset_append_right _ _)
  | everyHead => exact h.of_subset (List.subset_append_left _ _)
  | everyTail => exact h.of_subset (List.subset_append_right _ _)
  | anyHead => exact h.of_subset (List.subset_append_left _ _)
  | anyTail => exact h.of_subset (List.subset_append_right _ _)
  | first => exact h.of_subset (List.subset_append_left _ _)
  | next => exact h.of_subset (List.subset_append_right _ _)

theorem Call.Leads.admits (h : k.Leads k') (hk : k.context.Admits k.task) : k'.context.Admits k'.task := by
  induction h with
  | refl => exact hk
  | tail _ hmakes ih => exact hmakes.enters.admits ih

theorem Call.Raises.not_recursion {fault : Fault} {s : State σ} (h : k.Raises fault s)
    (hk : k.context.Admits k.task) : fault.cause.isRecursion = false := by
  cases h with
  | @single c a x s inner t hx hinner =>
    have hstops := Context.stops_single hx s
    rw [hinner] at hstops
    exact hstops.not_recursion
  | noScope _ hscope => exact (Context.simple_of_requireScope hscope).recursion
  | noRail hrail => exact (Context.simple_of_requireActiveRail hrail).recursion
  | noRule => rfl
  | notCallable hr hc => exact nomatch (hk.requireCallable hr).symm.trans hc
  | noDevice => rfl
  | circular => rfl

/-- No call that is admitted ends with the refusal to call a rule. -/
theorem Call.not_recursion {fault : Fault} {s : State σ} (hk : k.context.Admits k.task)
    (h : k.outcome = (.error fault, s)) : fault.cause.isRecursion = false := by
  obtain ⟨k', raised, htraces⟩ := Call.traced h
  have hleads : k.Leads k' := Relation.ReflTransGen.mono (fun _ _ h => h.makes) _ _ htraces.path
  rw [← htraces.cause]
  exact htraces.raises.not_recursion (hleads.admits hk)

end

/-! ### Rules in place

The machine here keeps no list of the rules under way. -/

namespace Subroutine

/-- The actions of a rule are carried out in the place of the call, and nothing is refused. -/
def callRule (nested : Task → Guarded σ Bool) (id : String) : Guarded σ Bool := fun env =>
  match env.plant.rule? id with
  | none => Guarded.leaf (fun _ => Op.fail ⟨.ruleNotFound id, []⟩) env
  | some rule => Guarded.framed (.rule id) (nested (.inOrder rule.actions)) env

/-- Carries out a task and leaves what it consists of to `nested`. -/
def body (nested : Task → Guarded σ Bool) : Task → Guarded σ Bool
  | .rule id => callRule nested id
  | t => Guarded.body nested t

/-- Carries out a task, if its work nests less deep than `depth`. -/
def execute (depth : Nat) (t : Task) : Guarded σ Bool :=
  match depth with
  | 0 => fun _ => none
  | depth + 1 => body (execute depth) t

end Subroutine

/-- The context with no rules under way. -/
def Context.unchained (c : Context σ) : Context σ := { c with ruleChain := [] }

theorem Guarded.rechains_unchained : Guarded.Rechains (σ := σ) Context.unchained :=
  ⟨fun _ => ⟨[], rfl⟩, fun _ _ => rfl, fun _ _ => rfl⟩

namespace Subroutine
variable {c : Context σ} {t : Task}

theorem callRule_does {nested : Task → Guarded σ Bool} {id : String} (h : c.Admits (.rule id))
    (hn : ∀ c' t', c.Enters (.rule id) c' t' → Guarded.Does (nested t') c'.unchained (c'.carryOut t')) :
    Guarded.Does (callRule nested id) c.unchained (c.callRule id) := fun env henv => by
  have hplant : env.plant = c.plant := congrArg Context.plant henv
  unfold callRule
  rw [hplant]
  cases hr : c.plant.rule? id with
  | none =>
    rw [Context.callRule_of_none hr]
    exact Guarded.Does.leaf (c := c.unchained) (fun _ => Op.fail ⟨.ruleNotFound id, []⟩) env henv
  | some r =>
    have hc := h.requireCallable hr
    rw [Context.callRule_of_some hr, hc]
    exact Guarded.Does.framed (hn _ _ (.rule hr hc)) (.rule id) env henv

theorem body_does {nested : Task → Guarded σ Bool} (h : c.Admits t)
    (hn : ∀ c' t', c.Enters t c' t' → Guarded.Does (nested t') c'.unchained (c'.carryOut t')) :
    Guarded.Does (body nested t) c.unchained (c.carryOut t) := by
  cases t with
  | rule id => exact callRule_does h hn
  | _ => exact Guarded.Does.body Guarded.rechains_unchained (fun _ h => by cases h) hn

/-- The machine does what a task should do, as soon as it may nest deep enough. -/
theorem execute_does (n : Nat) (h : c.Admits t) (hn : c.depth t < n) :
    Guarded.Does (execute n t) c.unchained (c.carryOut t) := by
  induction n generalizing c t with
  | zero => omega
  | succ n ih =>
    refine body_does h fun c' t' he => ih (he.admits h) ?_
    have := he.depth_lt
    omega

end Subroutine

/-- Where the rules of a plant cannot recurse and nest no deeper than the limit allows, no call that a task leads to
fails because a rule is refused, be it in a presence detection. And then the machine that keeps no list of the rules
under way, and the one that keeps it, both do what the task should do: answer or fault with its frames, findings,
readings, captures, presence results, and everything that is done to the hardware. -/
theorem Environment.rules_run_in_place (env : Environment σ) (t : Task) (hchain : env.ruleChain = [])
    (hcalls : env.plant.CallsWithin env.maxRuleDepth) :
    (∀ k, Call.Leads ⟨env.context, t, env.state⟩ k →
      ∀ fault s, k.outcome = (.error fault, s) → fault.cause.isRecursion = false) ∧
    ∃ outcome after, (outcome, after.state) = env.context.carryOut t env.state ∧ after = env.withState after.state ∧
      ∃ depth, ∀ n ≥ depth,
        Subroutine.execute n t env = some (outcome, after) ∧ Guarded.execute n t env = some (outcome, after) := by
  have hadmits : env.context.Admits t := Context.admits_of_ruleChain hcalls hchain t
  have hcontext : env.context = env.context.unchained := by
    unfold Context.unchained
    rw [← show env.context.ruleChain = [] from hchain]
  refine ⟨fun k hleads fault s => Call.not_recursion (hleads.admits hadmits), _,
    env.withState (env.context.carryOut t env.state).2, rfl, rfl, env.context.depth t + 1, fun n hn => ⟨?_, ?_⟩⟩
  · exact Subroutine.execute_does n hadmits hn env hcontext
  · exact Guarded.execute_does env.context t n hn env rfl

end

/-! ### Two rules, one of which calls the other -/

/-- A fan with no actions of its own. -/
def plainFan : Device RegisterFile where
  id := "fan"
  isRegulator := false
  inventoryPath := ""
  bus := RegisterFile.bus ⟨"i2c0", 0x20⟩

/-- A rule that does nothing but leave a finding. -/
def reporting : Rule where
  id := "report"
  actions := ⟨.logFinding { severity := .notice, code := "seen", message := "" }, []⟩

/-- Has the other rule carried out on the fan. -/
def delegating : Rule where
  id := "delegate"
  actions := ⟨.inDevice "fan" none ⟨.runRule "report", []⟩, []⟩

/-- Just as many rules may be under way as these two make. -/
def delegation : Environment RegisterFile where
  plant := ⟨[⟨"chassis", "", [plainFan]⟩], [reporting, delegating]⟩
  cycle := 0
  maxRuleDepth := 2
  base := ⟨"fan", none⟩
  state := { hardware := {} }

/-- The rule that calls the other one ranks above it. -/
theorem delegation_calls_within : delegation.plant.CallsWithin delegation.maxRuleDepth := by
  refine Plant.callsWithin_of_rank (fun id => if id = "delegate" then 1 else 0) ?_ fun id r _ => ?_
  · rintro r s ⟨rule, hrule, hs⟩
    obtain ⟨hmem, rfl⟩ := Plant.rule?_eq_some hrule
    rcases List.mem_pair.mp hmem with rfl | rfl
    · cases hs
    · obtain rfl : s = "report" := List.mem_singleton.mp hs
      decide
  · show (if id = "delegate" then 1 else 0) < 2
    split <;> decide

theorem delegation_runs_in_place : delegation.ruleChain = [] ∧
    delegation.plant.CallsWithin delegation.maxRuleDepth ∧
    ∃ depth, ∀ n ≥ depth, Subroutine.execute n (.action (.runRule "delegate")) delegation =
      Guarded.execute n (.action (.runRule "delegate")) delegation := by
  obtain ⟨-, _, _, -, -, depth, hdepth⟩ :=
    delegation.rules_run_in_place (.action (.runRule "delegate")) rfl delegation_calls_within
  exact ⟨rfl, delegation_calls_within, depth, fun n hn => (hdepth n hn).1.trans (hdepth n hn).2.symm⟩

end PowerRails
