import PipeShell.CommandLine
import PipeShell.Conversation
import PipeShell.Machine.Host
import PipeShell.Machine.FileSystem
import PipeShell.Machine.FileSystem.Changes
import PipeShell.Machine.Kernel.Calls
import PipeShell.Machine.Kernel.Scheduler
import PipeShell.Machine.Quoting
import PipeShell.Machine.Utility.Options
import PipeShell.Proofs.Requests
import PipeShell.Proofs.Wording
import PipeShell.Proofs.Responses
import PipeShell.Proofs.Asking
import PipeShell.Proofs.Conversation
import PipeShell.Proofs.RemoteShell
import PipeShell.Proofs.Rendering
import PipeShell.Proofs.Framing
import PipeShell.Proofs.Remembering
import PipeShell.Proofs.Replay
import PipeShell.Proofs.SharedScope
import PipeShell.Proofs.SerialService
import PipeShell.Proofs.Isolation
import PipeShell.Proofs.LineReading
import PipeShell.Proofs.ControlWords
import PipeShell.Proofs.Transcripts
import PipeShell.Proofs.InStep
import PipeShell.Proofs.Joining
import PipeShell.Proofs.Copying
import PipeShell.Proofs.Retention
import PipeShell.Proofs.Acceptance
import PipeShell.Proofs.DirectoryChange
import PipeShell.Proofs.StageFailures
import PipeShell.Proofs.Wiring
import PipeShell.Proofs.Delivery
import PipeShell.Proofs.Decoding
import PipeShell.Proofs.Tightening
import PipeShell.Proofs.Numerals
import PipeShell.Proofs.Settings
import PipeShell.Proofs.Scripts
import PipeShell.Proofs.Arguments
import PipeShell.Proofs.Tokenizing
