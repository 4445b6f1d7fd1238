import PowerRails.Text.Hex

/-! # Findings

A finding is a structured remark about a device or one of its rails. Findings never alter the course of a
run: they are collected, and handed to whoever registered for them. -/

namespace PowerRails

/-- How serious a finding is, from the least to the most. -/
inductive Severity where
  | informational
  | notice
  | warning
  | error
  | critical
deriving DecidableEq, Repr

namespace Severity

/-- All severities, the lowest first. -/
def all : List Severity := [.informational, .notice, .warning, .error, .critical]

def name : Severity → String
  | .informational => "informational"
  | .notice => "notice"
  | .warning => "warning"
  | .error => "error"
  | .critical => "critical"

def ofName? (s : String) : Option Severity := all.find? (·.name == s)

/-- The place of a severity in the rising order. -/
def rank : Severity → Nat
  | .informational => 0
  | .notice => 1
  | .warning => 2
  | .error => 3
  | .critical => 4

/-- Severities compare by rank. -/
instance : Ord Severity := ⟨fun a b => compare a.rank b.rank⟩

theorem ofName?_name (s : Severity) : ofName? s.name = some s := by cases s <;> decide +kernel

end Severity

/-- A remark about a device, or about one rail of it. -/
structure Finding where
  severity : Severity
  /-- A stable code in snake case. -/
  code : String
  device : String
  rail : Option String := none
  /-- Register contents read along with the finding. -/
  captured : Option Bytes := none
  message : String := ""
deriving DecidableEq, Repr

/-- One line: severity, code, place, captured bytes if there are any, and the message unless it is empty. -/
def Finding.text (f : Finding) : String :=
  s!"[{f.severity.name}] {f.code} on {f.device}"
    ++ (match f.rail with | some r => "/" ++ r | none => "")
    ++ (match f.captured with | some bs => " " ++ Hex.bytes bs | none => "")
    ++ (if f.message.isEmpty then "" else ": " ++ f.message)

end PowerRails
