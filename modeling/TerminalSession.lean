import TerminalSession.Files.Tree
import TerminalSession.Main
import TerminalSession.Proofs.BindingsInPlace
import TerminalSession.Proofs.ClippedLines
import TerminalSession.Proofs.ColorBudget
import TerminalSession.Proofs.ColorPairs
import TerminalSession.Proofs.CursorsInside
import TerminalSession.Proofs.DraftedPrograms
import TerminalSession.Proofs.DryRun
import TerminalSession.Proofs.FailedInit
import TerminalSession.Proofs.GoneWindows
import TerminalSession.Proofs.History
import TerminalSession.Proofs.LiveSessions
import TerminalSession.Proofs.NativeAgreement
import TerminalSession.Proofs.PaintedWindows
import TerminalSession.Proofs.ParallelWork
import TerminalSession.Proofs.PermanentNames
import TerminalSession.Proofs.PlainText
import TerminalSession.Proofs.PlayedPrograms
import TerminalSession.Proofs.Polling
import TerminalSession.Proofs.PressedKeys
import TerminalSession.Proofs.Rebinding
import TerminalSession.Proofs.Requirements
import TerminalSession.Proofs.ReturnedTerminal
import TerminalSession.Proofs.SavedSettings
import TerminalSession.Proofs.ScreenClosing
import TerminalSession.Proofs.SessionEnd
import TerminalSession.Proofs.SparedWindows
import TerminalSession.Proofs.TextAdvance
import TerminalSession.Proofs.TextLayout
import TerminalSession.Proofs.TextStyle
import TerminalSession.Proofs.TypedInput
import TerminalSession.Proofs.UnrelatedWindow
import TerminalSession.Proofs.UnshownKeys
import TerminalSession.Proofs.ValidatedRun
import TerminalSession.Proofs.Validation
