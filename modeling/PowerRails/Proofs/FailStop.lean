import PowerRails.Bus.Simulated
import PowerRails.Proofs.Call.Work

/-! # Failing accesses

Once the presence of every device is known, no presence detection is carried out any more, and no fault is passed
over. So an access that fails is the last one: no action, rule or rail that is left is begun, and the fault that all
work ends with tells the device and the rail that were active at the access, and the register that was asked for. -/

namespace PowerRails

section
variable {σ α : Type}

/-- The presence of every device is known in the cycle. -/
def Context.Resolved (c : Context σ) (s : State σ) : Prop :=
  ∀ d ∈ c.plant.devices, ∃ b, s.presence.get? d.id c.cycle = some b

/-- The calls that come of work on a device. -/
def Context.WorkLeads (c : Context σ) (kind : RunKind) (d : Device σ) (s : State σ) (k' : Call σ) : Prop :=
  ∃ rail k, c.WorkMakes kind d s rail k ∧ k.Leads k'

/-- Some of the calls carries out a single action, which makes the demand. -/
def Demanded (calls : Call σ → Prop) (c : Context σ) (w : Demand) (u : State σ) : Prop :=
  ∃ k a, calls k ∧ k.task = .action a ∧ k.context = c ∧ c.Demands a k.state w u

/-! ### Known presence -/

namespace Context.Resolved
variable {c c' : Context σ} {s t : State σ}

theorem grows (h : c.Resolved s) (hgrows : Grows c s t) : c.Resolved t := by
  intro d hd
  obtain ⟨b, hb⟩ := h d hd
  exact ⟨b, hgrows.presence hb⟩

theorem inside (h : c.Resolved s) (hc : c.Inside c') : c'.Resolved s := by
  intro d hd
  rw [hc.cycle]
  exact h d (hc.plant ▸ hd)

/-- Nothing is done to answer for a device. -/
theorem resolvePresence (h : c.Resolved s) (id : String) :
    (∃ b, c.resolvePresence id s = (.ok b, s)) ∨ c.resolvePresence id s = (.error ⟨.deviceNotFound id, []⟩, s) := by
  cases hp : s.presence.get? id c.cycle with
  | some b => exact Or.inl ⟨b, Context.resolvePresence_of_cached hp⟩
  | none =>
    cases hd : c.plant.device? id with
    | none => exact Or.inr (Context.resolvePresence_of_unknown hp hd)
    | some d =>
      obtain ⟨hmem, rfl⟩ := Plant.device?_eq_some hd
      obtain ⟨b, hb⟩ := h d hmem
      cases hp.symm.trans hb

theorem state_eq {id : String} {b : Bool} (h : c.Resolved s) (hb : c.resolvePresence id s = (.ok b, t)) : t = s := by
  rcases h.resolvePresence id with ⟨b', hb'⟩ | hnone
  · exact (Prod.mk.inj (hb.symm.trans hb')).2
  · cases hb.symm.trans hnone

end Context.Resolved

namespace Call
variable {k k' : Call σ} {t : State σ}

/-- A call is made on the state that the maker found, or on the one that a call before has left. -/
theorem Makes.before (h : k.Makes k') (hres : k.context.Resolved k.state) :
    k'.state = k.state ∨ ∃ k₁ b, k.Makes k₁ ∧ k₁.state = k.state ∧ k₁.outcome = (.ok b, k'.state) := by
  cases h with
  | consequent ha => exact Or.inr ⟨_, _, .condition, rfl, ha⟩
  | alternative ha => exact Or.inr ⟨_, _, .condition, rfl, ha⟩
  | inDevice hd _ => exact Or.inr ⟨_, _, .gate, rfl, hd⟩
  | everyTail ha => exact Or.inr ⟨_, _, .everyHead, rfl, ha⟩
  | anyTail ha => exact Or.inr ⟨_, _, .anyHead, rfl, ha⟩
  | next ha => exact Or.inr ⟨_, _, .first, rfl, ha⟩
  | detection hp hd =>
    obtain ⟨hmem, rfl⟩ := Plant.device?_eq_some hd
    obtain ⟨b, hb⟩ := hres _ hmem
    cases hp.symm.trans hb
  | _ => exact Or.inl rfl

theorem Makes.resolved (h : k.Makes k') (hres : k.context.Resolved k.state) : k'.context.Resolved k'.state := by
  refine Context.Resolved.inside ?_ h.enters.inside
  rcases h.before hres with hstate | ⟨k₁, b, hk₁, hstate, hout⟩
  · rwa [hstate]
  · have hgrows : Grows k.context k₁.state k₁.outcome.2 :=
      (k₁.context.grows_carryOut k₁.task k₁.state).outward hk₁.enters.inside
    rw [hstate, hout] at hgrows
    exact hres.grows hgrows

/-- If a call answers, no access of it has failed. -/
theorem fine_of_ok {b : Bool} (hres : k.context.Resolved k.state) (h : k.outcome = (.ok b, t)) : k.state.Fine t := by
  suffices hall : ∀ (c : Context σ) task, ∀ s b t, c.Resolved s → outcome ⟨c, task, s⟩ = (.ok b, t) → s.Fine t from
    hall k.context k.task k.state b t hres h
  refine Context.carryOut_induct fun c task ih s b t hres h => ?_
  have each : ∀ k' b' t', Makes ⟨c, task, s⟩ k' → k'.outcome = (.ok b', t') → k'.state.Fine t' :=
    fun k' b' t' hmakes hout => ih _ _ hmakes.enters k'.state b' t' (hmakes.resolved hres) hout
  have hends := Call.ends ⟨c, task, s⟩
  rw [h] at hends
  cases hends with
  | @follows _ k' b' _ _ hmakes hout =>
    have hlast := each k' b' t hmakes hout
    rcases hmakes.before hres with hstate | ⟨k₁, b₁, hk₁, hstate, hout₁⟩
    · rw [hstate] at hlast
      exact hlast
    · have hfirst := each k₁ b₁ _ hk₁ hout₁
      rw [hstate] at hfirst
      exact State.Fine.trans hfirst hlast
  | single hx hout =>
    have hstops := Context.stops_single hx s
    rw [hout] at hstops
    exact hstops.fine
  | nothing => exact .refl s
  | skipped hd =>
    rw [hres.state_eq hd]
    exact .of_eq rfl
  | found =>
    rw [hres.state_eq h]
    exact .refl s

theorem Makes.held (h : k.Makes k') : k'.context.held = k.context.held := by
  cases h <;> rfl

theorem Leads.held (h : k.Leads k') : k'.context.held = k.context.held := by
  induction h with
  | refl => rfl
  | tail _ hmakes ih => exact hmakes.held.trans ih

theorem Makes.fine (h : k.Makes k') (hres : k.context.Resolved k.state) : k.state.Fine k'.state := by
  rcases h.before hres with hstate | ⟨k₁, b, hk₁, hstate, hout⟩
  · rw [hstate]
    exact .refl _
  · have hfine := fine_of_ok (hk₁.resolved hres) hout
    rwa [hstate] at hfine

/-- No call that comes of another one is begun after a failing access. -/
theorem fine_of_leads (h : k.Leads k') (hres : k.context.Resolved k.state) :
    k.state.Fine k'.state ∧ k'.context.Resolved k'.state := by
  induction h with
  | refl => exact ⟨.refl _, hres⟩
  | tail _ hmakes ih =>
    obtain ⟨hfine, hres'⟩ := ih
    exact ⟨hfine.trans (hmakes.fine hres'), hmakes.resolved hres'⟩

end Call

/-! ### The failing access -/

/-- How work ends of which some calls come: no access fails, or one does for a demand of a call and the work ends
with its fault, in the state that the access leaves or in one with the same accesses that is allowed to follow. -/
inductive Halts (held : List String) (calls : Call σ → Prop) (allowed : State σ → State σ → Prop) (s : State σ) :
    Except Fault α × State σ → Prop
  | fine {outcome t} : s.Fine t →
      (∀ fault device rail register details, outcome = .error fault →
        fault.cause = .busAccess device rail register details → device ∈ held) → Halts held calls allowed s (outcome, t)
  | failed {c w u e t t' fault} : Demanded calls c w u → s.Fine u → c.FailsAt w u e t → allowed t t' →
      Activity.accesses t'.activity = Activity.accesses t.activity →
      fault.cause = (c.accessFault w.register e.text).cause → Halts held calls allowed s (.error fault, t')

namespace Halts
variable {held : List String} {calls calls' : Call σ → Prop} {allowed allowed' : State σ → State σ → Prop}
  {s s' t t' : State σ} {fault fault' : Fault}

theorem of_ok {a : α} (hfine : s.Fine t) : Halts held calls allowed s ((.ok a, t) : Except Fault α × State σ) :=
  .fine hfine fun _ _ _ _ _ hfault => by cases hfault

theorem of_simple (hfine : s.Fine t) (haccess : fault.cause.isAccess = false) :
    Halts held calls allowed s ((.error fault, t) : Except Fault α × State σ) := by
  refine .fine hfine fun fault' device rail register details hfault hcause => ?_
  cases hfault
  rw [hcause] at haccess
  cases haccess

/-- What halts as a part of other work, which comes to it without a failing access and ends with its fault. -/
theorem outward {β : Type} (h : Halts held calls Eq s ((.error fault, t) : Except Fault α × State σ))
    (hfine : s'.Fine s) (hcalls : ∀ k, calls k → calls' k) (hallowed : allowed' t t')
    (haccesses : Activity.accesses t'.activity = Activity.accesses t.activity) (hcause : fault'.cause = fault.cause) :
    Halts held calls' allowed' s' ((.error fault', t') : Except Fault β × State σ) := by
  cases h with
  | fine hfine' hheld =>
    refine .fine ((hfine.trans hfine').trans (.of_eq haccesses)) fun f device rail register details hf hcause' => ?_
    cases hf
    exact hheld fault device rail register details rfl (hcause.symm.trans hcause')
  | failed hw hfine' hfails heq _ hcause' =>
    obtain rfl := heq
    obtain ⟨k, a, hk, hdemands⟩ := hw
    exact .failed ⟨k, a, hcalls k hk, hdemands⟩ (hfine.trans hfine') hfails hallowed haccesses (hcause.trans hcause')

end Halts

namespace Call
variable {k k' : Call σ} {fault : Fault} {t : State σ}

theorem leads_of_path (h : Relation.ReflTransGen Passes k k') : k.Leads k' := by
  induction h with
  | refl => exact .refl
  | tail _ hpasses ih => exact ih.tail hpasses.makes

theorem Raises.halts (h : k.Raises fault t) (hres : k.context.Resolved k.state) :
    Halts k.context.held k.Leads Eq k.state ((.error fault, t) : Except Fault Bool × State σ) := by
  cases h with
  | @single c a x s inner t hx hinner =>
    have hstops := Context.stops_single hx s
    rw [hinner] at hstops
    cases hstops with
    | refusal hfine hsimple => exact .of_simple hfine hsimple.access
    | taken hfine hheld =>
      refine .fine hfine fun fault device rail register details hfault hcause => ?_
      cases hfault
      cases hcause
      exact hheld
    | failure hfine hw hfails => exact .failed ⟨_, a, .refl, rfl, rfl, hw⟩ hfine hfails rfl rfl rfl
  | noScope hd hscope =>
    rw [hres.state_eq hd]
    exact .of_simple (.refl _) (Context.simple_of_requireScope hscope).access
  | noRail hrail => exact .of_simple (.refl _) (Context.simple_of_requireActiveRail hrail).access
  | noRule => exact .of_simple (.refl _) rfl
  | notCallable _ hc =>
    obtain ⟨reason, rfl, -⟩ := Context.requireCallable_eq_error hc
    exact .of_simple (.refl _) rfl
  | noDevice => exact .of_simple (.refl _) rfl
  | circular => exact .of_simple (.refl _) rfl

/-- A call that fails does so at the call that raised the fault, which it has come to without a failing access. -/
theorem halts (k : Call σ) (hres : k.context.Resolved k.state) : Halts k.context.held k.Leads Eq k.state k.outcome := by
  rcases h : k.outcome with ⟨fault | b, t⟩
  · obtain ⟨k', raised, htraces⟩ := traced h
    have hleads := leads_of_path htraces.path
    obtain ⟨hfine, hres'⟩ := fine_of_leads hleads hres
    have hhalts := htraces.raises.halts hres'
    rw [hleads.held] at hhalts
    exact hhalts.outward hfine (fun _ hk => hleads.trans hk) rfl rfl htraces.cause.symm
  · exact .of_ok (fine_of_ok hres h)

end Call

/-! ### Work on a device -/

namespace Context
variable {c : Context σ} {kind : RunKind} {d : Device σ} {r : Rail} {s t : State σ} {k : Call σ}

theorem fine_of_ownWork {u : Unit} (hres : c.Resolved s) (h : c.ownWork d kind s = (.ok u, t)) :
    s.Fine t ∧ c.Resolved t := by
  rcases ownWork_eq_ok h with rfl | ⟨k, b, hmakes, rfl, hk⟩
  · exact ⟨.refl _, hres⟩
  · have hgrows : Grows c k.state k.outcome.2 :=
      (k.context.grows_carryOut k.task k.state).outward hmakes.inside
    rw [hk] at hgrows
    exact ⟨Call.fine_of_ok (hres.inside hmakes.inside) hk, hres.grows hgrows⟩

theorem OwnMakes.fine (h : c.OwnMakes d s kind k) (hres : c.Resolved s) :
    s.Fine k.state ∧ k.context.Resolved k.state ∧ k.context.held = c.held := by
  have hinside := hres.inside h.inside
  cases h with
  | configuration => exact ⟨.refl _, hinside, rfl⟩
  | monitoring => exact ⟨.refl _, hinside, rfl⟩

theorem RailMakes.fine (h : c.RailMakes r s kind k) (hres : c.Resolved s) :
    s.Fine k.state ∧ k.context.Resolved k.state ∧ k.context.held = c.held := by
  have hinside := h.inside
  cases h with
  | configuration => exact ⟨.refl _, hres.inside hinside, rfl⟩
  | @monitoring as t _ hstart =>
    have hgrows : Grows c s (c.startRail r.id s).2 := (growing_visitLaw σ).startRail trivial r.id
    rw [hstart] at hgrows
    exact ⟨.of_eq (accesses_startRail hstart), (hres.grows hgrows).inside hinside, rfl⟩

theorem fine_of_railWork {u : Unit} (hres : c.Resolved s) (h : c.railWork kind r s = (.ok u, t)) :
    s.Fine t ∧ c.Resolved t := by
  have hgrows : Grows c s (c.railWork kind r s).2 := grows_railWork r s
  rw [h] at hgrows
  refine ⟨?_, hres.grows hgrows⟩
  rcases railWork_eq_ok h with haccesses | ⟨k, b, v, hmakes, hk, haccesses⟩
  · exact .of_eq haccesses
  · obtain ⟨hfine, hres', -⟩ := hmakes.fine hres
    exact (hfine.trans (Call.fine_of_ok hres' hk)).trans (.of_eq haccesses)

theorem fine_of_eachRail {rs : List Rail} {u : Unit} (hres : c.Resolved s)
    (h : eachRail (c.railWork kind) rs s = (.ok u, t)) : s.Fine t ∧ c.Resolved t := by
  induction rs generalizing s with
  | nil =>
    cases h
    exact ⟨.refl _, hres⟩
  | cons r rs ih =>
    obtain ⟨_, v, hfirst, hrest⟩ := Op.bind_eq_ok h
    obtain ⟨hfine, hres'⟩ := fine_of_railWork hres hfirst
    obtain ⟨hfine', hres''⟩ := ih hres' hrest
    exact ⟨hfine.trans hfine', hres''⟩

theorem WorkMakes.fine {rail : Option String} (h : c.WorkMakes kind d s rail k) (hres : c.Resolved s) :
    s.Fine k.state ∧ k.context.Resolved k.state ∧ k.context.held = c.held := by
  cases h with
  | own h => exact h.fine hres
  | rail hown _ hbefore h =>
    obtain ⟨hfine, hres₁⟩ := fine_of_ownWork hres hown
    obtain ⟨hfine', hres₂⟩ := fine_of_eachRail hres₁ hbefore
    obtain ⟨hfine'', hres₃, hheld⟩ := h.fine hres₂
    exact ⟨(hfine.trans hfine').trans hfine'', hres₃, hheld⟩

theorem WorkLeads.fine (h : c.WorkLeads kind d s k) (hres : c.Resolved s) : s.Fine k.state := by
  obtain ⟨rail, k₀, hmakes, hleads⟩ := h
  obtain ⟨hfine, hres', -⟩ := hmakes.fine hres
  exact hfine.trans (Call.fine_of_leads hleads hres').1

/-- Work on a device fails in a call that it makes, or because a rail cannot be worked on. -/
theorem halts_work (c : Context σ) (kind : RunKind) (d : Device σ) {s : State σ} (hres : c.Resolved s) :
    Halts c.held (c.WorkLeads kind d s) c.Settled s (c.work kind d s) := by
  rcases h : c.work kind d s with ⟨fault | u, t⟩
  · obtain ⟨rail, inner, hcause, -, hsource⟩ := work_eq_error h
    rcases hsource with ⟨k, v, hmakes, hk, hsettled⟩ | ⟨before, r, after, v, w, -, hown, -, hbefore, href⟩
    · obtain ⟨hfine, hres', hheld⟩ := hmakes.fine hres
      have hhalts := k.halts hres'
      rw [hheld, hk] at hhalts
      exact hhalts.outward hfine (fun k' hleads => ⟨rail, k, hmakes, hleads⟩) hsettled hsettled.accesses hcause
    · obtain ⟨hfine, hres₁⟩ := fine_of_ownWork hres hown
      obtain ⟨hfine', -⟩ := fine_of_eachRail hres₁ hbefore
      have hsimple := href.simple.access
      rw [← hcause] at hsimple
      exact .of_simple ((hfine.trans hfine').trans (.of_eq href.accesses)) hsimple
  · rw [work_eq] at h
    obtain ⟨_, v, hown, hrails⟩ := Op.bind_eq_ok (Op.framed_eq_ok h)
    obtain ⟨hfine, hres'⟩ := fine_of_ownWork hres hown
    exact .of_ok (hfine.trans (fine_of_eachRail hres' hrails).1)

end Context

/-! ### The last access -/

/-- Work of which some calls come, and which makes some accesses, stops at a failing access. -/
structure StopsAtFailure (held : List String) (calls : Call σ → Prop) (allowed : State σ → State σ → Prop) (s : State σ)
    (r : Except Fault α × State σ) (made : List Access) : Prop where
  accesses : Activity.accesses r.2.activity = Activity.accesses s.activity ++ made
  /-- All calls are begun before an access fails. -/
  begun : ∀ k, calls k → s.Fine k.state
  /-- An access that fails is the last one. It has been made for a demand of a call, the fault tells where that was
  and which register was asked for, and nothing happens after it but what is allowed. -/
  last : ∀ before a after e, made = before ++ a :: after → a.failure = some e → after = [] ∧
    ∃ c w u t fault, Demanded calls c w u ∧ c.meet w u = (.error (c.accessFault w.register e.text), t) ∧ allowed t r.2 ∧
      a.scope = c.scope ∧ (a.request = .connect ∨ a.request = w.request) ∧ r.1 = .error fault ∧
      fault.cause = .busAccess a.scope.device a.scope.rail w.register e.text
  /-- A fault of an access comes of nothing else, unless the bus has been taken by something outside. -/
  failed : ∀ fault device rail register details, r.1 = .error fault →
    fault.cause = .busAccess device rail register details → device ∉ held →
    ∃ before a e, made = before ++ [a] ∧ a.failure = some e

/-- Among accesses of which just the last one fails, one that fails has none behind it. -/
theorem eq_last_of_failure {made before after : List Access} {a b : Access} {e : BusError}
    (hfine : ∀ x ∈ made, x.failure = none) (h : made ++ [b] = before ++ a :: after) (ha : a.failure = some e) :
    after = [] ∧ a = b := by
  rcases List.eq_nil_or_concat after with rfl | ⟨after, x, rfl⟩
  · obtain ⟨-, hab⟩ := List.append_inj' h rfl
    exact ⟨rfl, (List.head_eq_of_cons_eq hab).symm⟩
  · rw [List.concat_eq_append, ← List.cons_append, ← List.append_assoc] at h
    obtain ⟨hmade, -⟩ := List.append_inj' h rfl
    have hnone := hfine a (by rw [hmade]; simp)
    cases hnone.symm.trans ha

theorem Halts.stopsAtFailure {held : List String} {calls : Call σ → Prop} {allowed : State σ → State σ → Prop}
    {s : State σ} {r : Except Fault α × State σ} (h : Halts held calls allowed s r)
    (hbegun : ∀ k, calls k → s.Fine k.state) : ∃ made, StopsAtFailure held calls allowed s r made := by
  cases h with
  | fine hfine hheld =>
    obtain ⟨made, hmade, hnone⟩ := hfine
    refine ⟨made, hmade, hbegun, fun before a after e hsplit ha => ?_, ?_⟩
    · have hfine := hnone a (by rw [hsplit]; simp)
      cases hfine.symm.trans ha
    · exact fun fault device rail register details hfault hcause hfree =>
        absurd (hheld fault device rail register details hfault hcause) hfree
  | @failed c w u e t t' fault hw hfine hfails hallowed haccesses hcause =>
    obtain ⟨made, b, hmade, hnone, hb, hscope, hrequest⟩ := hfails.last.after hfine
    refine ⟨made ++ [b], by rw [haccesses, hmade, List.append_assoc], hbegun, fun before a after e' hsplit ha => ?_, ?_⟩
    · obtain ⟨hafter, rfl⟩ := eq_last_of_failure hnone hsplit ha
      obtain rfl : e = e' := Option.some.inj (hb.symm.trans ha)
      refine ⟨hafter, c, w, u, t, fault, hw, hfails.outcome, hallowed, hscope, hrequest, rfl, ?_⟩
      rw [hcause, hscope]
      rfl
    · exact fun _ _ _ _ _ _ _ _ => ⟨made, b, e, rfl, hb⟩

/-- Once the presence of every device is known, all that is carried out stops at the first access that fails: an
action with all that it asks for, and the work on a device, after which the end of a rail may be told. -/
theorem Context.failure_stops (c : Context σ) (s : State σ) (h : c.Resolved s) :
    (∀ task, ∃ made, StopsAtFailure c.held (Call.Leads ⟨c, task, s⟩) Eq s (c.carryOut task s) made) ∧
      ∀ kind d, ∃ made, StopsAtFailure c.held (c.WorkLeads kind d s) c.Settled s (c.work kind d s) made :=
  ⟨fun task => (Call.halts ⟨c, task, s⟩ h).stopsAtFailure fun _ hleads => (Call.fine_of_leads hleads h).1,
    fun kind d => (c.halts_work kind d h).stopsAtFailure fun _ hleads => hleads.fine h⟩

end

/-! ### A supply that does not acknowledge -/

/-- A supply that is configured by two captures, of which one is to fail. -/
def muteSupply : Device RegisterFile where
  id := "psu"
  isRegulator := true
  inventoryPath := ""
  bus := RegisterFile.bus ⟨"i2c0", 0x40⟩
  configuration := some ⟨none,
    ⟨.negation (.capture ⟨0x79, 4, by decide, by decide⟩), [.capture ⟨0x7a, 4, by decide, by decide⟩]⟩⟩

def muteContext : Context RegisterFile where
  plant := ⟨[⟨"chassis", "", [muteSupply]⟩], []⟩
  cycle := 0
  maxRuleDepth := 8
  scope := ⟨"psu", none⟩

/-- The supply is there, and does not acknowledge anything. -/
def muteState : State RegisterFile where
  hardware := RegisterFile.failAll {} .nack
  presence := PresenceCache.insert {} "psu" true 0

theorem accesses_muteSupply :
    (Activity.accesses (muteContext.work .configure muteSupply muteState).2.activity).map (·.failure) =
      [none, some ⟨⟨"i2c0", 0x40⟩, .notAcknowledged 0x79⟩] := by
  show (Activity.accesses (muteContext.configureDevice muteSupply muteState).2.activity).map _ = _
  simp only [Context.configureDevice, muteSupply, Context.applyConfiguration, Context.inOrder, Context.perform]
  rfl

/-- The bus of the supply can be opened. The transfer after that fails, and is the last one. -/
theorem mute_supply_stops : muteContext.Resolved muteState ∧
    ∃ made, StopsAtFailure [] (muteContext.WorkLeads .configure muteSupply muteState) muteContext.Settled muteState
        (muteContext.work .configure muteSupply muteState) made ∧
      made.map (·.failure) = [none, some ⟨⟨"i2c0", 0x40⟩, .notAcknowledged 0x79⟩] := by
  have hres : muteContext.Resolved muteState := by
    intro d hd
    obtain rfl := List.mem_singleton.mp hd
    exact ⟨true, rfl⟩
  obtain ⟨made, hstops⟩ := (Context.failure_stops muteContext muteState hres).2 .configure muteSupply
  have hmade : made = Activity.accesses (muteContext.work .configure muteSupply muteState).2.activity :=
    hstops.accesses.symm
  exact ⟨hres, made, hstops, by rw [hmade, accesses_muteSupply]⟩

end PowerRails
