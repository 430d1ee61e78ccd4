import ConsoleShell.Console
import ConsoleShell.Guard
import ConsoleShell.Page.Render
import ConsoleShell.Proofs.AtomicSession
import ConsoleShell.Proofs.AttachedSignal
import ConsoleShell.Proofs.Attempts
import ConsoleShell.Proofs.Captures
import ConsoleShell.Proofs.Deeds
import ConsoleShell.Proofs.Delivery
import ConsoleShell.Proofs.Expendable
import ConsoleShell.Proofs.FirstMatch
import ConsoleShell.Proofs.KeptToken
import ConsoleShell.Proofs.LateRefresh
import ConsoleShell.Proofs.Nesting
import ConsoleShell.Proofs.ObservedRuns
import ConsoleShell.Proofs.PatternGrammar
import ConsoleShell.Proofs.PatternTexts
import ConsoleShell.Proofs.ProfileOwner
import ConsoleShell.Proofs.Requests
import ConsoleShell.Proofs.ShellSteps
import ConsoleShell.Proofs.Subscriptions
import ConsoleShell.Scenario
import ConsoleShell.Settings
import ConsoleShell.Shell
import ConsoleShell.Proofs.Classification
import ConsoleShell.Proofs.ReportedErrors
import ConsoleShell.Proofs.Settling
import ConsoleShell.Proofs.Blindness
import ConsoleShell.Proofs.TableFaults
import ConsoleShell.Proofs.LoneAttempt
import ConsoleShell.Proofs.SignoutReports
import ConsoleShell.Proofs.ConsoleRoutes
import ConsoleShell.Proofs.EffectiveSettings
import ConsoleShell.Proofs.ErrorRoundTrip
import ConsoleShell.Proofs.Redirects
import ConsoleShell.Proofs.SameAnswers
import ConsoleShell.Proofs.Registrations
import ConsoleShell.Proofs.LastWrite
