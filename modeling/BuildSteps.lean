import BuildSteps.CommandLine.Run
import BuildSteps.Dispatcher
import BuildSteps.Failure.Description
import BuildSteps.Main
import BuildSteps.Proofs.CommandLine.FurtherWords
import BuildSteps.Proofs.CommandLine.LiteralNotices
import BuildSteps.Proofs.CommandLine.StatusTable
import BuildSteps.Proofs.Dispatch.Account
import BuildSteps.Proofs.Dispatch.Independence
import BuildSteps.Proofs.Dispatch.LogOrder
import BuildSteps.Proofs.Dispatch.Recording
import BuildSteps.Proofs.Dispatch.Reports
import BuildSteps.Proofs.Dispatch.Status
import BuildSteps.Proofs.Dispatch.Strictness
import BuildSteps.Proofs.Files.Directories
import BuildSteps.Proofs.Files.Making
import BuildSteps.Proofs.Files.Ways
import BuildSteps.Proofs.Json.Encodable
import BuildSteps.Proofs.Settings.FixedPoint
import BuildSteps.Proofs.Settings.InForce
import BuildSteps.Proofs.Settings.LevelNames
import BuildSteps.Proofs.Settings.LimitTexts
import BuildSteps.Proofs.Telemetry.Calls
import BuildSteps.Proofs.Telemetry.Decoding
import BuildSteps.Proofs.Telemetry.Effect
import BuildSteps.Proofs.Telemetry.Framing
import BuildSteps.Proofs.Telemetry.Growth
import BuildSteps.Proofs.Telemetry.Retention
import BuildSteps.Proofs.Telemetry.Stamps
import BuildSteps.Proofs.Telemetry.Success
import BuildSteps.Proofs.Text.ShellWords
import BuildSteps.Proofs.Turn.Account
import BuildSteps.Settings.Load
import BuildSteps.Telemetry.Client
