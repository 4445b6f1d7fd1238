import PowerRails.Bus.Simulated
import PowerRails.Controller
import PowerRails.Device.Inspection
import PowerRails.Report.Exchange
import PowerRails.Settings.File
import PowerRails.Proofs.AskingOrder
import PowerRails.Proofs.Atomicity
import PowerRails.Proofs.Attachment
import PowerRails.Proofs.Attribution
import PowerRails.Proofs.BitUpdates
import PowerRails.Proofs.CallerIndependence
import PowerRails.Proofs.Combinators
import PowerRails.Proofs.Debouncing
import PowerRails.Proofs.Encoding
import PowerRails.Proofs.FailStop
import PowerRails.Proofs.Forgetting
import PowerRails.Proofs.Idempotence
import PowerRails.Proofs.Identifiers
import PowerRails.Proofs.InvalidVoltages
import PowerRails.Proofs.Isolation
import PowerRails.Proofs.Location
import PowerRails.Proofs.Nesting
import PowerRails.Proofs.Numbering
import PowerRails.Proofs.Observers
import PowerRails.Proofs.Orderly
import PowerRails.Proofs.PresenceGate
import PowerRails.Proofs.Provenance
import PowerRails.Proofs.Restoration
import PowerRails.Proofs.Rewriting
import PowerRails.Proofs.SensorsService
import PowerRails.Proofs.SharedRegisters
import PowerRails.Proofs.ShortReads
import PowerRails.Proofs.Subroutine
import PowerRails.Proofs.TwosComplement
import PowerRails.Proofs.Verdict
import PowerRails.Proofs.VoutProgramming
