import GroupKey.Command.Machine
import GroupKey.Main
import GroupKey.Surroundings
import GroupKey.Proofs.Files.Frame
import GroupKey.Proofs.Hex.Spelling
import GroupKey.Proofs.Writer.Delivery
import GroupKey.Proofs.Files.Change
import GroupKey.Proofs.Conversion.Stages
import GroupKey.Proofs.Conversion.Success
import GroupKey.Proofs.Conversion.Failure
import GroupKey.Proofs.Conversion.Input
import GroupKey.Proofs.Command.Runs
import GroupKey.Proofs.Files.Trace
import GroupKey.Proofs.Command.History
import GroupKey.Proofs.Conversion.Slices
import GroupKey.Proofs.Command.Refinement
import GroupKey.Proofs.Conversion.Disclosure
import GroupKey.Proofs.Command.Secrecy
import GroupKey.Proofs.Command.Logging
import GroupKey.Proofs.Conversion.KeyFile
import GroupKey.Proofs.Hex.Reading
import GroupKey.Proofs.Hex.RoundTrip
import GroupKey.Proofs.Command.Arguments
import GroupKey.Proofs.Command.Lookups
import GroupKey.Proofs.Command.Gate
import GroupKey.Proofs.Command.Diagnosis
import GroupKey.Proofs.Hex.Characters
import GroupKey.Proofs.Conversion.Equality
import GroupKey.Proofs.Files.Overwrite
import GroupKey.Proofs.Conversion.Repeat
import GroupKey.Proofs.Hex.Pieces
import GroupKey.Proofs.Text.Legible
import GroupKey.Proofs.Text.Quoting
import GroupKey.Proofs.Conversion.Spelled
import GroupKey.Proofs.Conversion.ShownPath
import GroupKey.Proofs.Conversion.Settings
