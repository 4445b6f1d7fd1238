import PowerRails.Settings
import PowerRails.Toml.Document

/-! # Settings files

A settings file is a TOML document whose entries have the names of the limits. A limit without an entry has
its usual value, and other entries are passed over. -/

namespace PowerRails
namespace Settings

/-- What stands where a settings file is looked for. -/
inductive Source where
  | absent
  | directory
  | file (content : ByteArray)

/-- Why settings cannot be loaded. -/
inductive LoadProblem where
  | unreadable
  /-- The text is no document, or has an entry for a limit that no limit can have. -/
  | malformed
  | tooLow (f : Field)
deriving DecidableEq, Repr

/-- The limit that a file sets, or the usual one. Only a number that is not negative is a limit. -/
def limitOf (entries : Toml.Entries) (f : Field) (usual : Nat) : Option Nat :=
  match entries.get? f.name with
  | none => some usual
  | some (.integer (.ofNat n)) => some n
  | some _ => none

/-- The settings that a text describes, if it is well-formed and the limits that it sets are numbers. -/
def ofText? (text : String) : Option Settings := do
  let entries ← Toml.read text
  let maxRuleDepth ← limitOf entries .maxRuleDepth ({} : Settings).maxRuleDepth
  let maxMonitorErrors ← limitOf entries .maxMonitorErrors ({} : Settings).maxMonitorErrors
  some { maxRuleDepth, maxMonitorErrors }

/-- The settings that a file gives, with the overrides of the surroundings: a limit in the file that is too low
does not matter if it is overridden. Without a file there are no settings, whatever the surroundings are. -/
def load (source : Source) (lookup : String → Option String) : Except LoadProblem (Option Settings) :=
  match source with
  | .absent => .ok none
  | .directory => .error .unreadable
  | .file content =>
    match String.fromUTF8? content with
    | none => .error .unreadable
    | some text =>
      match ofText? text with
      | none => .error .malformed
      | some s =>
        match (s.override lookup).validate with
        | .error f => .error (.tooLow f)
        | .ok () => .ok (some (s.override lookup))

end Settings
end PowerRails
