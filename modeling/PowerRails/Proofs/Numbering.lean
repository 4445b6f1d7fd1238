import Mathlib.Data.List.Perm.Subperm
import PowerRails.Proofs.CaptureKey
import PowerRails.Proofs.Call.RunTrace

/-! # Numbered captures

Captures of one register are numbered from one on, in the order in which they are made, whoever is visited at the
time. A capture takes the first number that is free, and the numbers that are taken are always those from one up to
the number of captures made before: no other register and no other device gives keys of this one. So nothing is lost
where the captures of a visit are put together with those of earlier visits, and nothing else is kept: the captures of
a run are made by its calls that are to capture bytes and succeed, each by one of them. -/

namespace PowerRails

/-- Bytes of a register that were captured, with the key under which they are kept. -/
structure Capture where
  device : String
  register : UInt8
  key : String
  bytes : Bytes
deriving DecidableEq, Repr

/-- Whether some bytes were captured from a register of a device. -/
def Capture.isOf (device : String) (register : UInt8) (x : Capture) : Bool :=
  x.device == device && x.register == register

/-- The capture that is noted, if it is one. -/
def Activity.capture? : Activity → Option Capture
  | .captured device register key bytes => some ⟨device, register, key, bytes⟩
  | _ => none

/-- The captures among some activity, in the order in which they were made. -/
def Activity.captures (as : List Activity) : List Capture := as.filterMap Activity.capture?

theorem Activity.captures_append (as bs : List Activity) :
    Activity.captures (as ++ bs) = Activity.captures as ++ Activity.captures bs := List.filterMap_append

theorem Activity.captures_eq_nil {as : List Activity} (h : ∀ x ∈ as, x.capture? = none) :
    Activity.captures as = [] := List.filterMap_eq_nil_iff.mpr h

theorem Activity.mem_captures {device : String} {register : UInt8} {key : String} {bytes : Bytes}
    {as : List Activity} (h : .captured device register key bytes ∈ as) :
    ⟨device, register, key, bytes⟩ ∈ Activity.captures as := List.mem_filterMap.mpr ⟨_, h, rfl⟩

namespace Capture
variable {device : String} {register : UInt8} {made : List Capture} {x : Capture}

theorem isOf_iff : x.isOf device register = true ↔ x.device = device ∧ x.register = register := by simp [isOf]

/-- A capture that was made is one of those of its register. -/
theorem exists_getElem? (hx : x ∈ made) : ∃ n : Nat, (made.filter (isOf x.device x.register))[n]? = some x := by
  have hmem : x ∈ made.filter (isOf x.device x.register) := List.mem_filter.mpr ⟨hx, isOf_iff.mpr ⟨rfl, rfl⟩⟩
  exact List.mem_iff_getElem?.mp hmem

theorem mem_of_getElem? {n : Nat} (h : (made.filter (isOf device register))[n]? = some x) :
    x ∈ made ∧ x.device = device ∧ x.register = register := by
  obtain ⟨hmade, hof⟩ := List.mem_filter.mp (List.mem_of_getElem? h)
  exact ⟨hmade, isOf_iff.mp hof⟩

end Capture

namespace Captures

/-! ### What is kept of the captures that were made -/

/-- The captures that were made are kept, each under its key, and nothing else is. -/
def Holds (captures : Captures) (made : List Capture) : Prop :=
  ∀ key value, captures.get? key = some value ↔ ∃ x ∈ made, x.key = key ∧ Hex.bytes x.bytes = value

/-- The captures that were made are kept, each under the key that has its number. -/
structure Numbers (captures : Captures) (made : List Capture) : Prop where
  holds : captures.Holds made
  size : captures.size = made.length
  distinct : (captures.entries.map (·.1)).Nodup
  /-- The captures of a register have the numbers from one on. -/
  key : ∀ {device register n x}, (made.filter (Capture.isOf device register))[n]? = some x →
    x.key = Captures.key (base device register) (n + 1)

variable {captures own earlier : Captures} {made : List Capture} {device : String} {register : UInt8} {x : Capture}

theorem Holds.empty : Holds {} [] := fun _ _ => ⟨nofun, nofun⟩

theorem Holds.get? (h : captures.Holds made) (hx : x ∈ made) : captures.get? x.key = some (Hex.bytes x.bytes) :=
  (h _ _).mpr ⟨x, hx, rfl, rfl⟩

theorem Holds.insert (h : captures.Holds made) (hnew : captures.contains x.key = false) :
    Holds (captures.insert x.key (Hex.bytes x.bytes)) (made ++ [x]) := by
  intro key value
  rw [Table.get?_insert]
  constructor
  · intro hvalue
    split at hvalue
    · rename_i hkey
      exact ⟨x, by simp, hkey.symm, Option.some.inj hvalue⟩
    · obtain ⟨y, hy, hkey, hbytes⟩ := (h key value).mp hvalue
      exact ⟨y, List.mem_append_left _ hy, hkey, hbytes⟩
  · rintro ⟨y, hy, rfl, rfl⟩
    rcases List.mem_append.mp hy with hy | hy
    · have hne : y.key ≠ x.key := by
        intro heq
        rw [Table.contains_eq_false_iff, ← heq, h.get? hy] at hnew
        cases hnew
      rw [if_neg hne, h.get? hy]
    · rw [List.mem_singleton.mp hy, if_pos rfl]

namespace Numbers

theorem empty : Numbers {} [] := ⟨Holds.empty, rfl, List.nodup_nil, nofun⟩

/-- The numbers of a register that are taken are those of the captures made of it. -/
theorem taken_iff (h : captures.Numbers made) {n : Nat} :
    captures.contains (Captures.key (base device register) (n + 1)) = true ↔
      n < (made.filter (Capture.isOf device register)).length := by
  constructor
  · intro htaken
    obtain ⟨value, hvalue⟩ := Option.isSome_iff_exists.mp htaken
    obtain ⟨x, hx, hkey, -⟩ := (h.holds _ _).mp hvalue
    obtain ⟨m, hm⟩ := Capture.exists_getElem? hx
    obtain ⟨rfl, rfl, rfl⟩ := numbered_inj ((h.key hm).symm.trans hkey)
    exact (List.getElem?_eq_some_iff.mp hm).1
  · intro hn
    have hx := List.getElem?_eq_getElem hn
    obtain ⟨hmade, -⟩ := Capture.mem_of_getElem? hx
    rw [← h.key hx, Table.contains, h.holds.get? hmade]
    rfl

theorem free_iff (h : Numbers (earlier.extend own) made) {n : Nat} :
    Free own earlier (Captures.key (base device register) (n + 1)) ↔
      (made.filter (Capture.isOf device register)).length ≤ n := by
  rw [← Nat.not_lt, ← h.taken_iff, Table.contains_extend, Bool.or_eq_true, not_or, Bool.not_eq_true, Bool.not_eq_true]
  rfl

/-- The key that is chosen for a capture has the next number. -/
theorem freeKey_eq (h : Numbers (earlier.extend own) made) :
    Captures.freeKey own earlier (base device register) =
      Captures.key (base device register) ((made.filter (Capture.isOf device register)).length + 1) := by
  obtain ⟨n, hkey, hfree, hleast⟩ := freeKey_spec own earlier (base device register)
  have hge := h.free_iff.mp hfree
  have hle : n ≤ (made.filter (Capture.isOf device register)).length := by
    by_contra hlt
    exact hleast _ (Nat.not_le.mp hlt) (h.free_iff.mpr (Nat.le_refl _))
  rw [hkey, Nat.le_antisymm hle hge]

theorem insert (h : captures.Numbers made) (hnew : captures.contains x.key = false)
    (hkey : x.key = Captures.key (base x.device x.register)
      ((made.filter (Capture.isOf x.device x.register)).length + 1)) :
    Numbers (captures.insert x.key (Hex.bytes x.bytes)) (made ++ [x]) where
  holds := h.holds.insert hnew
  size := by
    have hsize : captures.entries.length = made.length := h.size
    rw [Table.insert_of_new hnew, Table.size, List.length_cons, hsize, List.length_append, List.length_singleton]
  distinct := by
    have hmem : x.key ∉ captures.entries.map (·.1) := by
      rw [← Table.contains_iff_mem, hnew]
      exact Bool.false_ne_true
    rw [Table.insert_of_new hnew]
    exact List.nodup_cons.mpr ⟨hmem, h.distinct⟩
  key {device register n y} hy := by
    rw [List.filter_append, List.filter_singleton] at hy
    cases hof : x.isOf device register with
    | false =>
      rw [hof, cond_false, List.append_nil] at hy
      exact h.key hy
    | true =>
      obtain ⟨rfl, rfl⟩ := Capture.isOf_iff.mp hof
      rw [hof, cond_true] at hy
      rcases Nat.lt_or_ge n (made.filter (Capture.isOf x.device x.register)).length with hn | hn
      · rw [List.getElem?_append_left hn] at hy
        exact h.key hy
      · rw [List.getElem?_append_right hn, List.getElem?_singleton] at hy
        split at hy
        · rename_i hlast
          cases hy
          rw [hkey, Nat.le_antisymm (Nat.sub_eq_zero_iff_le.mp hlast) hn]
        · cases hy

/-- No two captures have one key. -/
theorem nodup_keys (h : captures.Numbers made) : (made.map (·.key)).Nodup := by
  have hkept : captures.entries.map (·.1) ⊆ made.map (·.key) := by
    intro key hkey
    obtain ⟨value, hvalue⟩ := Option.isSome_iff_exists.mp (Table.contains_iff_mem.mpr hkey)
    obtain ⟨x, hx, rfl, -⟩ := (h.holds key value).mp hvalue
    exact List.mem_map_of_mem hx
  have hlength : (made.map (·.key)).length ≤ (captures.entries.map (·.1)).length := by
    rw [List.length_map, List.length_map, ← h.size]
    exact Nat.le_refl _
  exact ((List.subperm_of_subset h.distinct hkept).perm_of_length_le hlength).nodup_iff.mp h.distinct

end Numbers
end Captures

section
variable {σ : Type}

/-! ### Visits -/

/-- What is kept of the captures of a visit, and of all captures after those `before` it, which are kept already. -/
structure State.Tallies (earlier : Captures) (before : List Capture) (s : State σ) : Prop where
  own : s.captures.Holds (Activity.captures s.activity)
  all : Captures.Numbers (earlier.extend s.captures) (before ++ Activity.captures s.activity)

/-- All captures are numbered after the earlier ones. -/
def tallying (σ : Type) (earlier : Captures) (before : List Capture) : Regime σ where
  may := fun _ => True
  asks := fun c => c.earlier = earlier
  fits := fun c _ => c.earlier = earlier
  moves := fun _ s t => s.Tallies earlier before → t.Tallies earlier before

variable {earlier : Captures} {before : List Capture} {c : Context σ} {s t : State σ}

theorem State.Tallies.of_same (h : s.Tallies earlier before) (hc : t.captures = s.captures)
    (ha : Activity.captures t.activity = Activity.captures s.activity) : t.Tallies earlier before :=
  ⟨by rw [hc, ha]; exact h.own, by rw [hc, ha]; exact h.all⟩

theorem State.Tallies.added (h : s.Tallies earlier before) {more : List Activity} (hc : t.captures = s.captures)
    (ha : t.activity = s.activity ++ more) (hmore : ∀ x ∈ more, x.capture? = none) : t.Tallies earlier before :=
  h.of_same hc (by rw [ha, Activity.captures_append, Activity.captures_eq_nil hmore, List.append_nil])

theorem Context.told_capture? (c : Context σ) (notice : Notice) : ∀ x ∈ c.told notice, x.capture? = none := by
  intro x hx
  obtain ⟨service, -, rfl⟩ := Option.map_eq_some_iff.mp (Option.mem_toList.mp hx)
  rfl

theorem tallying_note {x : Activity} (hx : x.capture? = none) :
    (tallying σ earlier before).moves c s (Op.note x s).2 :=
  fun h => h.added rfl rfl fun _ hy => List.mem_singleton.mp hy ▸ hx

theorem tallying_capture (hc : c.earlier = earlier) (register : UInt8) (bytes : Bytes) :
    (tallying σ earlier before).moves c s (c.capture register bytes s).2 := by
  intro h
  rw [Context.capture_apply, hc]
  have hkey : Captures.freeKey s.captures earlier (Captures.base c.scope.device register) = _ := h.all.freeKey_eq
  obtain ⟨hown, hearlier⟩ := Captures.freeKey_free s.captures earlier (Captures.base c.scope.device register)
  generalize Captures.freeKey s.captures earlier (Captures.base c.scope.device register) = key at hkey hown hearlier ⊢
  have hnew : (earlier.extend s.captures).contains key = false := by
    rw [Table.contains_extend, hown, hearlier]
    rfl
  let x : Capture := ⟨c.scope.device, register, key, bytes⟩
  have hmade : Activity.captures (s.activity ++ [.captured c.scope.device register key bytes]) =
      Activity.captures s.activity ++ [x] := Activity.captures_append _ _
  constructor
  · rw [hmade]
    exact h.own.insert (x := x) hown
  · rw [hmade, Table.extend_insert_of_new _ hown, ← List.append_assoc]
    exact h.all.insert (x := x) hnew hkey

theorem tallying_tellService (notice : Notice) :
    (tallying σ earlier before).moves c s (c.tellService notice s).2 := by
  intro h
  rw [Context.tellService_apply]
  exact h.added rfl rfl (c.told_capture? notice)

theorem tallying_taskLaw (σ : Type) (earlier : Captures) (before : List Capture) :
    (tallying σ earlier before).TaskLaw where
  refl _ _ := id
  trans h₁ h₂ := h₂ ∘ h₁
  stays hf _ := hf
  asks_of_fits hf := hf
  closed _ := Plant.Closed.univ _
  inDevice hf _ _ _ := ⟨hf, fun _ h => h⟩
  inRail hf _ := ⟨hf, fun _ h => h⟩
  inRule hf _ _ := ⟨hf, fun _ h => h⟩
  transfer {c s d α request step} register _ _ _ := by
    intro h
    rw [Context.transfer_state]
    exact h.added rfl rfl fun _ hx => List.mem_singleton.mp hx ▸ rfl
  addFinding _ _ _ _ _ := fun h => h.of_same rfl rfl
  capture register bytes hf := tallying_capture hf register bytes
  recordReading {c s} name kind value _ := by
    intro h
    rw [Context.recordReading_apply]
    exact h.added rfl rfl (c.told_capture? _)
  assumed _ _ _ _ _ _ := fun h => h.of_same rfl rfl
  detected {c s id d as} hf _ _ _ _ _ := by
    refine ⟨hf, fun outcome t hin h => ?_⟩
    have hafter := hin (tallying_note (c := c) rfl h)
    cases outcome with
    | ok present => exact hafter.of_same rfl rfl
    | error fault =>
      have hlogged : ∀ x ∈ [Activity.log (.detectionFailed id fault)], x.capture? = none := by simp [Activity.capture?]
      exact hafter.added rfl rfl hlogged

theorem tallying_visitLaw (σ : Type) (earlier : Captures) (before : List Capture) :
    (tallying σ earlier before).VisitLaw where
  toTaskLaw := tallying_taskLaw σ earlier before
  arrive ha _ := ha
  withVolts _ hf := ⟨hf, fun _ h => h⟩
  tellService _ _ := tallying_tellService _
  skipped _ := tallying_note rfl
  visited _ _ := tallying_note rfl

namespace Controller
variable {ctl : Controller σ} {kind : RunKind} {cycle : Cycle} {p : Progress σ} {place : Chassis σ × Device σ}

theorem tallies_visitOf (h : p.report.captures.Numbers (Activity.captures p.activity)) :
    (ctl.visitOf kind cycle p place).state.Tallies p.report.captures (Activity.captures p.activity) := by
  have law := tallying_visitLaw σ p.report.captures (Activity.captures p.activity)
  refine visitOf_moves ctl kind cycle p place law rfl trivial (fun _ _ => trivial) ⟨Captures.Holds.empty, ?_⟩
  show Captures.Numbers p.report.captures (Activity.captures p.activity ++ [])
  rw [List.append_nil]
  exact h

theorem visitPlace_made : Activity.captures (ctl.visitPlace kind cycle p place).activity =
    Activity.captures p.activity ++ Activity.captures (ctl.visitOf kind cycle p place).state.activity := by
  obtain ⟨entries, hactivity⟩ := visitPlace_activity ctl kind cycle p place
  have hentries : Activity.captures (entries.map Activity.log) = [] := by
    refine Activity.captures_eq_nil fun x hx => ?_
    obtain ⟨entry, -, rfl⟩ := List.mem_map.mp hx
    rfl
  rw [hactivity, Activity.captures_append, Activity.captures_append, hentries, List.append_nil]

/-! ### Runs -/

/-- After any visits of a run, the report numbers the captures that were made in them. -/
theorem numbers_progress (ctl : Controller σ) (kind : RunKind) (places : List (Chassis σ × Device σ)) :
    (ctl.progress kind places).report.captures.Numbers (Activity.captures (ctl.progress kind places).activity) := by
  induction places using List.reverseRecOn with
  | nil => exact Captures.Numbers.empty
  | append_singleton places place ih =>
    rw [progress_concat, visitPlace_captures, visitPlace_made]
    exact (tallies_visitOf ih).all

theorem captures_run (ctl : Controller σ) (kind : RunKind) :
    Activity.captures (ctl.run kind).2 = Activity.captures (ctl.visitAll kind).activity :=
  filterMap_run (fun _ => rfl) (fun _ _ => rfl) (fun _ _ _ _ => rfl) ctl kind

end Controller

/-! ### Captures by call -/

/-- What is captured, apart from the key under which it is kept. -/
def Capture.content (x : Capture) : String × UInt8 × Bytes := (x.device, x.register, x.bytes)

namespace Call

/-- What a call captures: the bytes that it reads, if it is to capture them and succeeds. -/
def captured? (k : Call σ) : Option (String × UInt8 × Bytes) :=
  match k.task with
  | .action (.capture b) =>
    match k.outcome.1, (k.context.readBlock b.register b.count k.state).1 with
    | .ok _, .ok bytes => some (k.context.scope.device, b.register, bytes)
    | _, _ => none
  | _ => none

/-- A call that is to capture the bytes of a register succeeds, and makes one capture, of the bytes that it has read. -/
structure MakesCapture (k : Call σ) (b : BlockRead) (x : Capture) : Prop where
  task : k.task = .action (.capture b)
  answers : ∃ answer, k.outcome.1 = .ok answer
  isOf : x.isOf k.context.scope.device b.register
  read : (k.context.readBlock b.register b.count k.state).1 = .ok x.bytes
  noted : .captured x.device x.register x.key x.bytes ∈ k.outcome.2.activity
  made : Activity.captures k.outcome.2.activity = Activity.captures k.state.activity ++ [x]

variable {k : Call σ} {b : BlockRead} {x : Capture}

/-- A call that is to capture bytes fails and captures nothing, or it makes a capture. -/
theorem capture_cases (htask : k.task = .action (.capture b)) :
    (∃ fault, k.outcome.1 = .error fault) ∧
        Activity.captures k.outcome.2.activity = Activity.captures k.state.activity ∨
      ∃ x, k.MakesCapture b x := by
  obtain ⟨c, task, s⟩ := k
  obtain rfl : task = .action (.capture b) := htask
  have houtcome : outcome ⟨c, .action (.capture b), s⟩ = Op.framed (.action (Action.capture b).text)
      (c.captureBlock b) s := congrFun (Context.perform_of_single? rfl) s
  have hsame : Activity.captures (c.readBlock b.register b.count s).2.activity = Activity.captures s.activity :=
    Op.Quiet.access (fun _ => rfl) _ _ _ s
  rcases hread : c.readBlock b.register b.count s with ⟨fault | bytes, t⟩ <;> rw [hread] at hsame
  · have hcapture : c.captureBlock b s = (.error fault, t) := Op.bind_of_error hread
    rw [Op.framed_of_error hcapture] at houtcome
    rw [houtcome]
    exact .inl ⟨⟨_, rfl⟩, hsame⟩
  · have hcapture : c.captureBlock b s = (.ok true, (c.capture b.register bytes t).2) := Op.bind_of_ok hread
    rw [Op.framed_of_ok hcapture, Context.capture_apply] at houtcome
    let key := t.captures.freeKey c.earlier (Captures.base c.scope.device b.register)
    let x : Capture := ⟨c.scope.device, b.register, key, bytes⟩
    refine .inr ⟨x, rfl, ⟨true, ?_⟩, Capture.isOf_iff.mpr ⟨rfl, rfl⟩, congrArg Prod.fst hread, ?_, ?_⟩
    · rw [houtcome]
    · rw [houtcome]
      exact List.mem_append_right _ List.mem_cons_self
    · rw [houtcome]
      exact (Activity.captures_append _ _).trans (congrArg (· ++ _) hsame)

theorem MakesCapture.captured? (h : k.MakesCapture b x) : k.captured? = some x.content := by
  obtain ⟨answer, hanswer⟩ := h.answers
  obtain ⟨hdevice, hregister⟩ := Capture.isOf_iff.mp h.isOf
  unfold Call.captured? Capture.content
  rw [h.task, hanswer, hdevice, hregister]
  dsimp only
  rw [h.read]

theorem captured?_eq_none (h : ∀ b, k.task ≠ .action (.capture b)) : k.captured? = none := by
  unfold captured?
  split
  · exact absurd ‹_› (h _)
  · rfl

/-- What a call notes of captures is the capture that it makes, if it makes one. -/
theorem notes_captures (k : Call σ) :
    k.captured? = none ∧ k.notes.filterMap Activity.capture? = [] ∨
      ∃ b x, k.MakesCapture b x ∧ k.notes.filterMap Activity.capture? = [x] := by
  obtain ⟨c, task, s⟩ := k
  cases task with
  | action a =>
    cases hx : c.single? a with
    | none =>
      refine .inl ⟨captured?_eq_none fun b hb => ?_, by simp [notes, hx]⟩
      cases hb
      cases hx
    | some x =>
      -- No other single action captures; bytes that go with a finding are read, and are no capture.
      by_cases hcapture : ∃ b, a = .capture b
      · obtain ⟨b, rfl⟩ := hcapture
        have hactivity := congrArg Activity.captures (activity_of_single hx s)
        rw [Activity.captures_append] at hactivity
        rcases capture_cases (k := ⟨c, .action (.capture b), s⟩) rfl with ⟨⟨fault, hfault⟩, hsame⟩ | ⟨x, hmakes⟩
        · refine .inl ⟨?_, List.append_right_eq_self.mp (hactivity.symm.trans hsame)⟩
          simp only [captured?, hfault]
        · exact .inr ⟨b, x, hmakes, List.append_cancel_left (hactivity.symm.trans hmakes.made)⟩
      · have hquiet : Op.Quiet Activity.capture? x :=
          .single (fun _ => rfl) (fun _ _ => rfl) hx fun b hb => absurd ⟨b, hb⟩ hcapture
        refine .inl ⟨captured?_eq_none fun b hb => ?_, filterMap_notes hx hquiet s⟩
        cases hb
        exact hcapture ⟨b, rfl⟩
  | presence id =>
    refine .inl ⟨rfl, ?_⟩
    show List.filterMap _ (if _ then _ else _) = _
    split <;> rfl
  | _ => exact .inl ⟨rfl, rfl⟩

end Call

namespace Controller

/-- The captures of a run are those that its calls make, in their order. -/
theorem captures_trace (ctl : Controller σ) (kind : RunKind) :
    Activity.captures (ctl.run kind).2 = (ctl.trace kind).flatMap fun k => k.notes.filterMap Activity.capture? :=
  filterMap_activity (fun _ => rfl) (fun _ _ => rfl) ctl kind

theorem content_captures (ctl : Controller σ) (kind : RunKind) :
    (Activity.captures (ctl.run kind).2).map Capture.content = (ctl.trace kind).filterMap Call.captured? := by
  rw [captures_trace, List.map_flatMap, List.filterMap_eq_flatMap_toList]
  refine List.flatMap_congr fun k _ => ?_
  rcases k.notes_captures with ⟨hnone, hnotes⟩ | ⟨b, x, hmakes, hnotes⟩
  · rw [hnone, hnotes]
    rfl
  · rw [hmakes.captured?, hnotes]
    rfl

theorem makesCapture_of_mem {ctl : Controller σ} {kind : RunKind} {x : Capture}
    (h : x ∈ Activity.captures (ctl.run kind).2) : ∃ k b, ctl.Calls kind k ∧ k.MakesCapture b x := by
  rw [captures_trace] at h
  obtain ⟨k, hk, hx⟩ := List.mem_flatMap.mp h
  rcases k.notes_captures with ⟨-, hnotes⟩ | ⟨b, y, hmakes, hnotes⟩ <;> rw [hnotes] at hx
  · cases hx
  · obtain rfl := List.mem_singleton.mp hx
    exact ⟨k, b, mem_trace.mp hk, hmakes⟩

/-- The report of a run keeps every capture of the run, under the name of its device and register and the number
that it has among the captures of this register. The captures are those that the calls of the run make that are to
capture bytes and succeed: each of them makes one, in the order of the calls, and nothing else makes any. -/
theorem run_numbers_captures (ctl : Controller σ) (kind : RunKind) :
    ∃ r, (ctl.run kind).1.lastReport = some r ∧
      (∀ device register n value,
        r.captures.get? (Captures.key (Captures.base device register) (n + 1)) = some value ↔
          ∃ x, ((Activity.captures (ctl.run kind).2).filter (Capture.isOf device register))[n]? = some x ∧
            x.key = Captures.key (Captures.base device register) (n + 1) ∧ Hex.bytes x.bytes = value) ∧
      (∀ key value, r.captures.get? key = some value →
        ∃ device register n, key = Captures.key (Captures.base device register) (n + 1)) ∧
      (∀ d e r q m n, Captures.key (Captures.base d r) (m + 1) = Captures.key (Captures.base e q) (n + 1) →
        d = e ∧ r = q ∧ m = n) ∧
      r.captures.size = (Activity.captures (ctl.run kind).2).length ∧ (r.captures.entries.map (·.1)).Nodup ∧
      (∀ k b answer, ctl.Calls kind k → k.task = .action (.capture b) → k.outcome.1 = .ok answer →
        ∃ x ∈ Activity.captures (ctl.run kind).2, x.isOf k.context.scope.device b.register ∧
          (k.context.readBlock b.register b.count k.state).1 = .ok x.bytes ∧
          Activity.captures k.outcome.2.activity = Activity.captures k.state.activity ++ [x]) ∧
      (∀ x ∈ Activity.captures (ctl.run kind).2, ∃ k b, ctl.Calls kind k ∧ k.MakesCapture b x) ∧
      (Activity.captures (ctl.run kind).2).map Capture.content = (ctl.trace kind).filterMap Call.captured? ∧
      ∀ k, k ∈ ctl.trace kind ↔ ctl.Calls kind k := by
  have hnumbers := ctl.numbers_progress kind ctl.plant.places
  rw [progress_places, ← captures_run] at hnumbers
  refine ⟨_, rfl, fun device register n value => ?_, fun key value hvalue => ?_,
    fun d e r q m n h => Captures.numbered_inj h, hnumbers.size, hnumbers.distinct,
    fun k b answer hk htask hanswer => ?_, fun x => makesCapture_of_mem, ctl.content_captures kind, fun k => mem_trace⟩
  · constructor
    · intro hvalue
      obtain ⟨x, hx, hkey, hbytes⟩ := (hnumbers.holds _ _).mp hvalue
      obtain ⟨m, hm⟩ := Capture.exists_getElem? hx
      obtain ⟨rfl, rfl, rfl⟩ := Captures.numbered_inj ((hnumbers.key hm).symm.trans hkey)
      exact ⟨x, hm, hkey, hbytes⟩
    · rintro ⟨x, hx, hkey, hbytes⟩
      exact (hnumbers.holds _ _).mpr ⟨x, (Capture.mem_of_getElem? hx).1, hkey, hbytes⟩
  · obtain ⟨x, hx, rfl, -⟩ := (hnumbers.holds key value).mp hvalue
    obtain ⟨n, hn⟩ := Capture.exists_getElem? hx
    exact ⟨x.device, x.register, n, hnumbers.key hn⟩
  · rcases Call.capture_cases htask with ⟨⟨fault, hfault⟩, -⟩ | ⟨x, hmakes⟩
    · cases hfault.symm.trans hanswer
    · rw [captures_run]
      exact ⟨x, Activity.mem_captures (hk.noted hmakes.noted), hmakes.isOf, hmakes.read, hmakes.made⟩

end Controller
end
end PowerRails
