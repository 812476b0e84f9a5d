import CertWire.Bundle.Program
import CertWire.Main
import CertWire.Proofs.Growth
import CertWire.Proofs.ReaderIsolation
import CertWire.Proofs.Reencoding
import CertWire.Proofs.SideChannel
import CertWire.Proofs.StrictReading
import CertWire.Randomness.MersenneTwister
import CertWire.Session
import CertWire.Trial.Fuzz
import CertWire.Trial.Invariants
import CertWire.Proofs.LengthFields
import CertWire.Proofs.DigitText
import CertWire.Proofs.Documents
import CertWire.Proofs.WrittenOptions
import CertWire.Proofs.PrintedRecords
import CertWire.Proofs.ParseChain
import CertWire.Proofs.PrintedOctets
import CertWire.Proofs.CommandRoundTrip
import CertWire.Proofs.SinkInForce
import CertWire.Proofs.ExitStatus
import CertWire.Proofs.BundleAnchor
import CertWire.Proofs.Clipping
import CertWire.Proofs.SelfDelimiting
import CertWire.Proofs.WarningLines
import CertWire.Proofs.CanonicalForm
import CertWire.Proofs.FuzzRounds
import CertWire.Proofs.InvariantTrials
import CertWire.Proofs.EncodedInput
import CertWire.Proofs.RecordCount
import CertWire.Proofs.WrittenManifest
