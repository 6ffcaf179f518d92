import FuzzyRank.Main
import FuzzyRank.Proofs.ExactMatch
import FuzzyRank.Proofs.Forms
import FuzzyRank.Proofs.Independence
import FuzzyRank.Proofs.Schedule
import FuzzyRank.Proofs.Appending
import FuzzyRank.Proofs.Candidates
import FuzzyRank.Proofs.Lines
import FuzzyRank.Proofs.ReadBack
import FuzzyRank.Proofs.Narrowing
import FuzzyRank.Proofs.LetterCase
import FuzzyRank.Proofs.AuditedAlign
import FuzzyRank.Proofs.Tiebreak
import FuzzyRank.Proofs.Highlighting
import FuzzyRank.Proofs.Bracketing
import FuzzyRank.Proofs.Optima
import FuzzyRank.Proofs.RunScan
import FuzzyRank.Proofs.Status
