import Bindery.ClassBindings
import Bindery.CommandLine
import Bindery.Config
import Bindery.Main
import Bindery.Package
import Bindery.Proofs.Draft
import Bindery.Proofs.EntryPoint
import Bindery.Proofs.Grouping
import Bindery.Proofs.Lowering
import Bindery.Proofs.MemberBindings
import Bindery.Proofs.OrderedMap
import Bindery.Run
import Bindery.Proofs.OpenPath
import Bindery.Proofs.Scanner
import Bindery.Proofs.Block
import Bindery.Proofs.Agreement
import Bindery.Proofs.AgreeingBindings
import Bindery.Proofs.AppendedRecords
import Bindery.Proofs.Resolution
import Bindery.Proofs.AppendedDump
import Bindery.Proofs.TypeRules
import Bindery.Proofs.TypeWalks
import Bindery.Proofs.NativeType
import Bindery.Proofs.Payload
import Bindery.Proofs.Reports
import Bindery.Proofs.Registration
import Bindery.Proofs.Bindability
import Bindery.Proofs.EnumerationUses
import Bindery.Proofs.ExportedEnumerations
import Bindery.Proofs.MemberAccounts
import Bindery.Proofs.TextLines
import Bindery.Proofs.Numeral
import Bindery.Proofs.Trimming
import Bindery.Proofs.ReadRecords
import Bindery.Proofs.WrittenLines
import Bindery.Proofs.WrittenRecords
import Bindery.Proofs.Plans
import Bindery.Proofs.EntryPieces
import Bindery.Proofs.GroupedMembers
import Bindery.Proofs.BodyParts
import Bindery.Proofs.ArgumentBuffers
import Bindery.Proofs.CodeRuns
import Bindery.Proofs.CountDispatch
import Bindery.Proofs.EntryTexts
import Bindery.Proofs.LineEndings
import Bindery.Proofs.ReturnedObjects
import Bindery.Proofs.WrapCalls
import Bindery.Proofs.WrappedObjects
import Bindery.Proofs.UnbrokenNames
import Bindery.Proofs.CountConditions
import Bindery.Proofs.EntryLines
import Bindery.Proofs.ChosenBodies
import Bindery.Proofs.ArgumentDispatch
import Bindery.Proofs.DepthFirst
import Bindery.Proofs.Rebuilding
import Bindery.Proofs.LinkTargets
import Bindery.Proofs.Paths
import Bindery.Proofs.PackagePaths
import Bindery.Proofs.Volumes
import Bindery.Proofs.WrittenPackages
import Bindery.Proofs.JsonText
import Bindery.Proofs.LineForms
import Bindery.Proofs.SourcePieces
import Bindery.Proofs.PackageAgreement
import Bindery.Proofs.HiddenMembers
import Bindery.Proofs.HeaderForms
import Bindery.Proofs.PackageOutcomes
import Bindery.Proofs.ShortenedViews
import Bindery.Proofs.NearestHeaders
import Bindery.Proofs.TypedefNames
import Bindery.Proofs.TextPointers
import Bindery.Proofs.IncludeGuards
import Bindery.Proofs.MethodOrder
import Bindery.Proofs.DanglingLinks
import Bindery.Proofs.TrailingBlanks
import Bindery.Proofs.ContainedPaths
import Bindery.Proofs.RegistryHistory
import Bindery.Proofs.EnclosingScopes
import Bindery.Proofs.IndentedWriting
import Bindery.Proofs.SignedNumeral
import Bindery.Proofs.EnumeratorValues
