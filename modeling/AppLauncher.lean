import AppLauncher.Hosting.SampleLibrary
import AppLauncher.Main
import AppLauncher.Proofs.Files.Reading
import AppLauncher.Proofs.Launch.Calls
import AppLauncher.Proofs.Options.Budget
import AppLauncher.Proofs.Options.Characters
import AppLauncher.Proofs.Options.LineEnds
import AppLauncher.Proofs.Options.Lines
import AppLauncher.Proofs.Options.ReadStep
import AppLauncher.Proofs.Options.Storage
import AppLauncher.Proofs.Settings.RoundTrip
import AppLauncher.Proofs.Settings.WrittenLines
import AppLauncher.Proofs.Text.Boundaries
import AppLauncher.Proofs.Text.Decoding
import AppLauncher.Proofs.Toml.QuotedStrings
import AppLauncher.Proofs.Toml.Tables
import AppLauncher.Proofs.Toml.WholeNumbers
import AppLauncher.Settings.Render
import AppLauncher.Proofs.Options.Bounds
import AppLauncher.Proofs.Arguments.CVector
import AppLauncher.Proofs.Hosting.SystemCalls
import AppLauncher.Proofs.Report.Turns
import AppLauncher.Proofs.Report.Answers
import AppLauncher.Proofs.Report.Output
import AppLauncher.Proofs.Report.Independence
import AppLauncher.Proofs.Settings.Absence
import AppLauncher.Proofs.Settings.Fields
import AppLauncher.Proofs.Launch.Fallback
import AppLauncher.Proofs.Launch.ExitStatus
import AppLauncher.Proofs.Launch.Invocations
import AppLauncher.Proofs.Options.WithinLimits
import AppLauncher.Proofs.Arguments.Assembly
import AppLauncher.Proofs.Toml.KeyOrder
import AppLauncher.Proofs.Settings.KeyedReading
import AppLauncher.Proofs.Settings.KnownKeys
import AppLauncher.Proofs.Options.Progress
import AppLauncher.Proofs.Options.SeparateLines
import AppLauncher.Proofs.Files.Parents
import AppLauncher.Proofs.Hosting.Symbols
