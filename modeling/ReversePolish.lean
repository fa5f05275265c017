import ReversePolish.Cursor
import ReversePolish.Description
import ReversePolish.Main
import ReversePolish.Proofs.Words
import ReversePolish.Proofs.Atomicity
import ReversePolish.Proofs.Characters
import ReversePolish.Proofs.Classification
import ReversePolish.Proofs.Composition
import ReversePolish.Proofs.Double.Rank
import ReversePolish.Proofs.Double.ReadBack
import ReversePolish.Proofs.Dump
import ReversePolish.Proofs.Sessions
import ReversePolish.Proofs.Actions
import ReversePolish.Proofs.StackBase
import ReversePolish.Proofs.Vocabularies
import ReversePolish.Proofs.Depth
import ReversePolish.Proofs.LateLookup
import ReversePolish.Proofs.Replay
import ReversePolish.Proofs.Causes
import ReversePolish.Proofs.Accumulation
import ReversePolish.Proofs.LineSources
import ReversePolish.Proofs.Messages
import ReversePolish.Proofs.SharedMachines
import ReversePolish.Proofs.Double.Readable
import ReversePolish.Proofs.Double.Shortest
import ReversePolish.Proofs.Double.SignificantDigits
import ReversePolish.Proofs.Cursors
import ReversePolish.Proofs.Displays
import ReversePolish.Proofs.Grammar
import ReversePolish.Proofs.Double.Integers
import ReversePolish.Proofs.Double.Literals
import ReversePolish.Proofs.Double.Nearest
import ReversePolish.Proofs.Double.Quotients
import ReversePolish.Proofs.Registrations
import ReversePolish.Proofs.Retries
import ReversePolish.Proofs.Shuffles
import ReversePolish.Proofs.Environments
import ReversePolish.Proofs.GivenLines
