import Crosslink.CommandLine
import Crosslink.Main
import Crosslink.Pattern
import Crosslink.Proofs.CanonicalLinks
import Crosslink.Proofs.CompileAgain
import Crosslink.Proofs.IndexLookup
import Crosslink.Proofs.MoreDocuments
import Crosslink.Proofs.OtherDocuments
import Crosslink.Proofs.DocumentOrder
import Crosslink.Proofs.ReferenceClosure
import Crosslink.Proofs.MarkdownTags
import Crosslink.Proofs.RunCounters
import Crosslink.Proofs.JsonBundles
import Crosslink.Proofs.BrokenDocuments
import Crosslink.Proofs.ResolveCommand
import Crosslink.Proofs.ClassAndMember
import Crosslink.Proofs.AliasLinks
import Crosslink.Proofs.LoneLinks
import Crosslink.Proofs.TypeTokens
import Crosslink.Proofs.PayloadGrammar
import Crosslink.Proofs.TypeTrees
import Crosslink.Proofs.CommaSpacing
import Crosslink.Proofs.Signatures
import Crosslink.Proofs.Spellings
import Crosslink.Proofs.ParameterNames
import Crosslink.Proofs.SignatureParts
import Crosslink.Proofs.Packages
import Crosslink.Proofs.StoredSettings
