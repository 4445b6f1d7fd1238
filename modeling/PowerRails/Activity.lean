import PowerRails.Log

/-! # Activity

Everything that a run does to the world around it, in the order in which it happens: accesses to hardware,
captured bytes, log lines, and notices to those who registered for them. -/

namespace PowerRails

/-- Where actions work: a device, and one of its rails if a rail is active. -/
structure Scope where
  device : String
  rail : Option String := none
deriving DecidableEq, Repr

/-- What a bus is asked to do. -/
inductive Request where
  | connect
  | read (register : UInt8) (count : Nat)
  | readByte (register : UInt8)
  | write (register : UInt8) (data : Bytes)
deriving DecidableEq, Repr

/-- One access to hardware: on whose behalf, what was asked, and how it failed if it did. -/
structure Access where
  scope : Scope
  /-- Whether the device is there, as far as the cycle had found out when it was accessed. -/
  known : Option Bool
  /-- The devices whose presence was being found out, the outermost first. -/
  detecting : List String
  request : Request
  failure : Option BusError
deriving DecidableEq, Repr

/-- What those who registered are told. -/
inductive Notice where
  | finding (finding : Finding)
  | presence (device inventoryPath : String) (present : Bool)
  | railStarted (rail devicePath chassisPath : String)
  | value (kind : SensorKind) (value : Int)
  | railEnded (failed : Bool)
deriving DecidableEq, Repr

/-- One thing that happened in a call, as an outside observer sees it. -/
inductive Activity where
  | access (access : Access)
  /-- The presence detection of a device is carried out. -/
  | detection (device : String)
  | captured (device : String) (register : UInt8) (key : String) (bytes : Bytes)
  | log (entry : LogEntry)
  | notice (recipient : String) (notice : Notice)
deriving DecidableEq, Repr

/-- What was logged, in order. -/
def Activity.logEntries (as : List Activity) : List LogEntry :=
  as.filterMap fun
    | .log entry => some entry
    | _ => none

/-- The notices among some activity, each with its recipient. -/
def Activity.notices (as : List Activity) : List (String × Notice) :=
  as.filterMap fun
    | .notice recipient told => some (recipient, told)
    | _ => none

/-- The accesses to buses, in order. -/
def Activity.accesses (as : List Activity) : List Access :=
  as.filterMap fun
    | .access a => some a
    | _ => none

theorem Activity.mem_accesses {a : Access} {as : List Activity} : a ∈ Activity.accesses as ↔ .access a ∈ as := by
  simp only [Activity.accesses, List.mem_filterMap]
  constructor
  · rintro ⟨x, hx, h⟩
    cases x <;> cases h
    exact hx
  · exact fun h => ⟨_, h, rfl⟩

theorem Activity.accesses_append (as bs : List Activity) :
    Activity.accesses (as ++ bs) = Activity.accesses as ++ Activity.accesses bs := List.filterMap_append

end PowerRails
