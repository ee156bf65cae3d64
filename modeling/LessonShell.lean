import LessonShell.Practice
import LessonShell.Script
import LessonShell.Wire.LessonFile
import LessonShell.Wire.Transcript
import LessonShell.Proofs.Terminal.Exposure
import LessonShell.Proofs.Terminal.Questions
import LessonShell.Proofs.Terminal.Logins
import LessonShell.Proofs.Spelling
import LessonShell.Proofs.Terminal.Secrets
import LessonShell.Proofs.Vfs.Loading
import LessonShell.Proofs.Vfs.Acceptance
import LessonShell.Proofs.Terminal.Batches
import LessonShell.Proofs.Terminal.Restart
import LessonShell.Proofs.Terminal.Transcripts
import LessonShell.Proofs.Vfs.Fidelity
import LessonShell.Proofs.Vfs.Respelling
import LessonShell.Proofs.Terminal.Failures
import LessonShell.Proofs.Terminal.Retention
import LessonShell.Proofs.Missions
import LessonShell.Proofs.Shell.Operands
import LessonShell.Proofs.Terminal.Identity
import LessonShell.Proofs.KeyPair
import LessonShell.Proofs.Terminal.KeyLogins
import LessonShell.Proofs.Terminal.Departures
import LessonShell.Proofs.Wire.Omission
import LessonShell.Proofs.Vfs.Tree
import LessonShell.Proofs.Terminal.Addresses
import LessonShell.Proofs.Terminal.Masking
import LessonShell.Proofs.Terminal.Handover
import LessonShell.Proofs.Terminal.Topics
import LessonShell.Proofs.Terminal.KeyGeneration
import LessonShell.Proofs.Terminal.HostQuestion
import LessonShell.Proofs.Vfs.Creation
import LessonShell.Proofs.Vfs.Reversal
import LessonShell.Proofs.Terminal.Moves
import LessonShell.Proofs.Terminal.WaysUp
import LessonShell.Proofs.Shell.ArgumentOrder
import LessonShell.Proofs.Shell.EchoRequests
import LessonShell.Proofs.Terminal.KeyEcho
import LessonShell.Proofs.Terminal.Directories
import LessonShell.Proofs.Resolution
import LessonShell.Proofs.Vfs.Spellings
import LessonShell.Proofs.Welcome
import LessonShell.Proofs.Ancestry
import LessonShell.Proofs.Terminal.CommandLines
