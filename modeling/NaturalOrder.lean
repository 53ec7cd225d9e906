import NaturalOrder.Collator.Basic
import NaturalOrder.Locale.Resolution
import NaturalOrder.Token.Cursor
import NaturalOrder.Token.Scan
import NaturalOrder.Value.Sorting
import NaturalOrder.Version
import NaturalOrder.Proofs.AccentsAndCase
import NaturalOrder.Proofs.Antisymmetry
import NaturalOrder.Proofs.AsciiCase
import NaturalOrder.Proofs.CollationOrder
import NaturalOrder.Proofs.CommonStart
import NaturalOrder.Proofs.EmbeddedNumbers
import NaturalOrder.Proofs.Excerpts
import NaturalOrder.Proofs.FirstDifference
import NaturalOrder.Proofs.KeyAppend
import NaturalOrder.Proofs.LocaleAlias
import NaturalOrder.Proofs.LocaleCalls
import NaturalOrder.Proofs.LocaleDefault
import NaturalOrder.Proofs.LocaleId
import NaturalOrder.Proofs.LocaleInForce
import NaturalOrder.Proofs.LocaleName
import NaturalOrder.Proofs.LocaleOrder
import NaturalOrder.Proofs.LocaleResolution
import NaturalOrder.Proofs.LocaleSpelling
import NaturalOrder.Proofs.LocaleTransitivity
import NaturalOrder.Proofs.LockStep
import NaturalOrder.Proofs.LongestMatch
import NaturalOrder.Proofs.Lookahead
import NaturalOrder.Proofs.Magnitude
import NaturalOrder.Proofs.Nesting
import NaturalOrder.Proofs.Numeral
import NaturalOrder.Proofs.NumeralOrder
import NaturalOrder.Proofs.Questions
import NaturalOrder.Proofs.Refinement
import NaturalOrder.Proofs.Resumption
import NaturalOrder.Proofs.RootKey
import NaturalOrder.Proofs.RootTransitivity
import NaturalOrder.Proofs.Runs
import NaturalOrder.Proofs.Segmentation
import NaturalOrder.Proofs.SharedCursor
import NaturalOrder.Proofs.SortedValues
import NaturalOrder.Proofs.StableSort
import NaturalOrder.Proofs.StrayCursor
import NaturalOrder.Proofs.Transitivity
import NaturalOrder.Proofs.VersionText
