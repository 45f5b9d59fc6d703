import TreeSieve.Main
import TreeSieve.Proofs.Catalogue.Loading
import TreeSieve.Proofs.Catalogue.Order
import TreeSieve.Proofs.Catalogue.Rereading
import TreeSieve.Proofs.CommandLine.Languages
import TreeSieve.Proofs.Guarded.Endless
import TreeSieve.Proofs.Pattern.Anywhere
import TreeSieve.Proofs.Pattern.Matching
import TreeSieve.Proofs.Pattern.Members
import TreeSieve.Proofs.Pattern.Renaming
import TreeSieve.Proofs.Pattern.Statements
import TreeSieve.Proofs.Report.Agreement
import TreeSieve.Proofs.Scanner.Summaries
import TreeSieve.Proofs.Search.Folding
import TreeSieve.Proofs.Search.Independence
import TreeSieve.Proofs.Search.Interruption
import TreeSieve.Proofs.Search.Locations
import TreeSieve.Proofs.Search.Nonterminals
import TreeSieve.Proofs.Search.Renaming
import TreeSieve.Proofs.Source.Bisection
import TreeSieve.Proofs.Ust.Ancestors
import TreeSieve.Proofs.Ust.Faults
import TreeSieve.Proofs.Ust.Sessions
import TreeSieve.Ust.Builder
