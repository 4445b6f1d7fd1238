import PowerRails.Proofs.Run
import PowerRails.Proofs.Surroundings

/-! # Elsewhere

What is the same in two states, or was left the same by something done, apart from one device: the hardware of
all others, what is known of them, and what was found, read, captured or done on their behalf. Whatever an
isolated device does, all of this stays as it is. -/

namespace PowerRails

/-- The device that an entry is about, if it is about one. -/
def LogEntry.device? : LogEntry → Option String
  | .deviceSkipped device => some device
  | .deviceVisited _ device => some device
  | .detectionFailed device _ => some device
  | .deviceFailed _ device _ _ => some device
  | .closingFailed device _ => some device
  | .finding f => some f.device
  | .runStarted _ => none
  | .runComplete .. => none

/-- The device that something is done for. Notices are for those who registered. -/
def Activity.device? : Activity → Option String
  | .access a => some a.scope.device
  | .detection device => some device
  | .captured device .. => some device
  | .log entry => entry.device?
  | .notice .. => none

/-- The items that are about devices other than `a`. -/
def elsewhere {ι : Type} (device? : ι → Option String) (a : String) (items : List ι) : List ι :=
  items.filter fun x => (device? x).any (· != a)

section
variable {ι : Type} {device? : ι → Option String} {a : String} {items own : List ι}

theorem elsewhere_append (items items' : List ι) :
    elsewhere device? a (items ++ items') = elsewhere device? a items ++ elsewhere device? a items' :=
  List.filter_append _ _

/-- Items that are about no device but `a` do not count. -/
theorem elsewhere_eq_nil (h : ∀ x ∈ own, ∀ d, device? x = some d → d = a) : elsewhere device? a own = [] := by
  refine List.filter_eq_nil_iff.mpr fun x hx => ?_
  cases hd : device? x with
  | none => simp
  | some d => simp [h x hx d hd]

theorem elsewhere_append_own (h : ∀ x ∈ own, ∀ d, device? x = some d → d = a) :
    elsewhere device? a (items ++ own) = elsewhere device? a items := by
  rw [elsewhere_append, elsewhere_eq_nil h, List.append_nil]

theorem elsewhere_concat {x : ι} (h : ∀ d, device? x = some d → d = a) :
    elsewhere device? a (items ++ [x]) = elsewhere device? a items :=
  elsewhere_append_own fun y hy => by rw [List.mem_singleton.mp hy]; exact h

end

section
variable {ρ α β γ : Type}

/-- Two states are the same but for what a device does on its own part of the hardware. -/
structure State.SameElsewhere (a : String) (s : State (ρ × α)) (t : State (ρ × β)) : Prop where
  hardware : s.hardware.1 = t.hardware.1
  presence : ∀ id, id ≠ a → s.presence.results.get? id = t.presence.results.get? id
  findings : elsewhere (some ·.device) a s.findings = elsewhere (some ·.device) a t.findings
  readings : elsewhere (some ·.device) a s.readings = elsewhere (some ·.device) a t.readings
  captures : ∀ key, ¬Captures.IsKeyOf a key → s.captures.get? key = t.captures.get? key
  activity : elsewhere Activity.device? a s.activity = elsewhere Activity.device? a t.activity

namespace State.SameElsewhere

variable {a : String} {s : State (ρ × α)} {t : State (ρ × β)} {u : State (ρ × γ)}

theorem refl (a : String) (s : State (ρ × α)) : s.SameElsewhere a s :=
  ⟨rfl, fun _ _ => rfl, rfl, rfl, fun _ _ => rfl, rfl⟩

theorem symm (h : s.SameElsewhere a t) : t.SameElsewhere a s :=
  ⟨h.hardware.symm, fun id hid => (h.presence id hid).symm, h.findings.symm, h.readings.symm,
    fun key hkey => (h.captures key hkey).symm, h.activity.symm⟩

theorem trans (h₁ : s.SameElsewhere a t) (h₂ : t.SameElsewhere a u) : s.SameElsewhere a u :=
  ⟨h₁.hardware.trans h₂.hardware, fun id hid => (h₁.presence id hid).trans (h₂.presence id hid),
    h₁.findings.trans h₂.findings, h₁.readings.trans h₂.readings,
    fun key hkey => (h₁.captures key hkey).trans (h₂.captures key hkey), h₁.activity.trans h₂.activity⟩

end State.SameElsewhere

/-! ### What an isolated device does -/

/-- The device works in its own scope, and asks for no other. -/
def alone (w : Surroundings ρ) (a : Device α) : Regime (ρ × α) where
  may t := ∀ id, (w.plant a).Reaches t (.presence id) → id = a.id
  asks c := c.plant = w.plant a ∧ c.scope.device = a.id
  fits c _ := c.plant = w.plant a ∧ c.scope.device = a.id
  moves c s t := Grows c s t ∧ s.SameElsewhere a.id t

section
variable {w : Surroundings ρ} {a : Device α} {c : Context (ρ × α)} {s : State (ρ × α)}

/-- Something that the device does changes nothing elsewhere if it touches neither hardware nor presence nor
captures. -/
theorem alone_of_added {t : State (ρ × α)} (hgrows : Grows c s t) (hh : t.hardware = s.hardware)
    (hp : t.presence = s.presence) (hc : t.captures = s.captures)
    (hf : elsewhere (some ·.device) a.id t.findings = elsewhere (some ·.device) a.id s.findings)
    (hr : elsewhere (some ·.device) a.id t.readings = elsewhere (some ·.device) a.id s.readings)
    (ha : elsewhere Activity.device? a.id t.activity = elsewhere Activity.device? a.id s.activity) :
    (alone w a).moves c s t :=
  ⟨hgrows, ⟨by rw [hh], fun _ _ => by rw [hp], hf.symm, hr.symm, fun _ _ => by rw [hc], ha.symm⟩⟩

theorem alone_note {x : Activity} (h : ∀ d, x.device? = some d → d = a.id) : (alone w a).moves c s (Op.note x s).2 :=
  alone_of_added (Grows.note x) rfl rfl rfl rfl rfl (elsewhere_concat h)

theorem serves_onOwn {δ : Type} {request : Request} {step : Transfer (ρ × α) δ}
    (h : (a.onOwn (ρ := ρ)).bus.Serves request step) (k : ρ × α) : (step k).2.1 = k.1 := by
  cases h with
  | connect => rfl
  | read register count => rfl
  | readByte register =>
    have hread : ((a.onOwn (ρ := ρ)).bus.read register 1 k).2.1 = k.1 := rfl
    unfold Bus.readByte
    rcases h : (a.onOwn (ρ := ρ)).bus.read register 1 k with ⟨e | _ | ⟨byte, bytes⟩, l⟩ <;> rw [h] at hread <;>
      exact hread
  | write register data => rfl

theorem alone_transfer {δ : Type} (h : w.Isolates a) (hp : c.plant = w.plant a) (hs : c.scope.device = a.id)
    {d : Device (ρ × α)} (hd : c.device = .ok d) (register : UInt8) {request : Request} {step : Transfer (ρ × α) δ}
    (hserves : d.bus.Serves request step) : (alone w a).moves c s (c.transfer register request step s).2 := by
  refine ⟨Grows.transfer register request step, ?_⟩
  unfold Context.device at hd
  rw [hp, hs] at hd
  cases h.device?_own (Plant.device_eq_ok_iff.mp hd)
  rw [Context.transfer_state]
  refine ⟨(serves_onOwn hserves s.hardware).symm, fun _ _ => rfl, rfl, rfl, fun _ _ => rfl, ?_⟩
  exact (elsewhere_concat fun d hd => by rw [← Option.some.inj hd, hs]).symm

/-- Bytes of the device are kept under a key of the device. -/
theorem alone_capture (hs : c.scope.device = a.id) (register : UInt8) (bytes : Bytes) :
    (alone w a).moves c s (c.capture register bytes s).2 := by
  refine ⟨Grows.capture register bytes, rfl, fun _ _ => rfl, rfl, rfl, fun key hkey => ?_, ?_⟩
  · obtain ⟨n, hn, -⟩ := Captures.freeKey_spec s.captures c.earlier (Captures.base c.scope.device register)
    refine (Table.get?_insert_of_ne _ ?_ _).symm
    rintro rfl
    exact hkey ⟨register, n + 1, hs ▸ hn⟩
  · exact (elsewhere_concat fun d hd => by rw [← Option.some.inj hd, hs]).symm

theorem told_own (notice : Notice) : ∀ x ∈ c.told notice, ∀ d, x.device? = some d → d = a.id := by
  intro x hx d hd
  unfold Context.told at hx
  rw [Option.mem_toList, Option.map_eq_some_iff] at hx
  obtain ⟨service, -, rfl⟩ := hx
  cases hd

theorem alone_recordReading (hs : c.scope.device = a.id) (name : String) (kind : SensorKind) (value : Int) :
    (alone w a).moves c s (c.recordReading name kind value s).2 := by
  have hgrows := Grows.recordReading (c := c) (s := s) name kind value
  rw [Context.recordReading_apply] at hgrows ⊢
  exact alone_of_added hgrows rfl rfl rfl rfl
    (elsewhere_concat fun d hd => by rw [← Option.some.inj hd]; exact hs) (elsewhere_append_own (told_own _))

theorem alone_detectionVerdict {id : String} (hid : id = a.id) (outcome : Except Fault Bool) :
    (alone w a).moves c s (Context.detectionVerdict id outcome s).2 := by
  have hgrows := Grows.detectionVerdict (c := c) (s := s) id outcome
  cases outcome with
  | ok present => exact ⟨hgrows, .refl a.id s⟩
  | error fault =>
    rw [Context.detectionVerdict_error] at hgrows ⊢
    exact alone_of_added hgrows rfl rfl rfl (elsewhere_concat fun d hd => by rw [← Option.some.inj hd, hid]) rfl
      (elsewhere_concat fun d hd => by rw [← Option.some.inj hd, hid])

theorem alone_law (h : w.Isolates a) : (alone w a).Law where
  refl c s := ⟨Grows.refl c s, .refl a.id s⟩
  trans h₁ h₂ := ⟨h₁.1.trans h₂.1, h₁.2.trans h₂.2⟩
  stays hf _ := hf
  asks_of_fits hf := hf
  closed hc :=
    { calls := fun ht hu id hid => ht id (.head (hc.1 ▸ hu) hid)
      detection := fun ht hd has => by
        cases ht _ .refl
        rw [hc.1] at hd
        cases h.device?_own hd
        refine h.own _ ?_
        simp [Device.procedures, show a.detection = some _ from has] }
  unresolved h := (growing_law (ρ × α)).unresolved h.1
  inDevice hf ht _ _ := ⟨⟨hf.1, ht _ (.single .gate)⟩, fun _ h => ⟨h.1.of_context rfl rfl fun _ h => h, h.2⟩⟩
  inRail hf _ := ⟨hf, fun _ h => ⟨h.1.of_context rfl rfl fun _ h => h, h.2⟩⟩
  inRule hf _ _ := ⟨hf, fun _ h => ⟨h.1.of_context rfl rfl fun _ h => h, h.2⟩⟩
  transfer register hf hd hserves := alone_transfer h hf.1 hf.2 hd register hserves
  addFinding _ _ _ _ hf :=
    alone_of_added (Grows.pushFinding _) rfl rfl rfl
      (elsewhere_concat fun d hd => by rw [← Option.some.inj hd]; exact hf.2) rfl rfl
  capture register bytes hf := alone_capture hf.2 register bytes
  recordReading name kind value hf := alone_recordReading hf.2 name kind value
  detection hc ht _ _ _ _ := by
    refine ⟨alone_note fun d hd => by rw [← Option.some.inj hd]; exact ht _ .refl, ?_, fun _ h => ?_⟩
    · exact ⟨hc.1, ht _ .refl⟩
    · exact ⟨h.1.of_context rfl rfl (List.subset_append_left _ _), h.2⟩
  detectionVerdict outcome _ ht _ := alone_detectionVerdict (ht _ .refl) outcome
  keepPresence {c s id d} present _ ht hd hnew hnone := by
    have hid : id = a.id := ht id .refl
    refine ⟨Grows.keepPresence present hd hnew hnone, rfl, fun other hother => ?_, rfl, rfl, fun _ _ => rfl, rfl⟩
    exact (Table.get?_insert_of_ne _ (hid ▸ hother) _).symm

theorem alone_visitLaw (h : w.Isolates a) : (alone w a).VisitLaw where
  toTaskLaw := (alone_law h).taskLaw
  arrive hc _ := hc
  withVolts _ hf := ⟨hf, fun _ h => ⟨h.1.of_context rfl rfl fun _ h => h, h.2⟩⟩
  tellService {c s notice} _ _ := by
    have hgrows := Grows.tellService (c := c) (s := s) notice
    rw [Context.tellService_apply] at hgrows ⊢
    exact alone_of_added hgrows rfl rfl rfl rfl rfl (elsewhere_append_own (told_own _))
  skipped hc := alone_note fun d hd => by rw [← Option.some.inj hd]; exact hc.2
  visited _ hc := alone_note fun d hd => by rw [← Option.some.inj hd]; exact hc.2

end
end
end PowerRails
