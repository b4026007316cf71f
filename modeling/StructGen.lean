import StructGen.FunctionTable
import StructGen.Main
import StructGen.Proofs.MappingText
import StructGen.Proofs.OrderIndependence
import StructGen.Proofs.TagReading
import StructGen.Proofs.CommentLines
import StructGen.Proofs.Destination
import StructGen.Proofs.Walking
import StructGen.Proofs.DirectoryMaking
import StructGen.Proofs.FileWriting
import StructGen.Proofs.WrittenModels
import StructGen.Proofs.Confinement
import StructGen.Proofs.Overwriting
import StructGen.Proofs.Interruption
import StructGen.Proofs.Regeneration
import StructGen.Proofs.SchemaRoundTrip
import StructGen.Proofs.DoubleOrder
import StructGen.Proofs.ComparisonFailure
import StructGen.Proofs.ValueEquality
import StructGen.Proofs.ValueOrder
import StructGen.Proofs.RecordSpelling
import StructGen.Proofs.Respelling
import StructGen.Proofs.SchemaRespelling
import StructGen.Proofs.Memberships
import StructGen.Proofs.UsedImports
import StructGen.Proofs.FunctionHistory
import StructGen.Proofs.OptionSpelling
import StructGen.Proofs.WritingLog
import StructGen.Proofs.OptionOrder
import StructGen.Proofs.AcceptedWords
import StructGen.Proofs.Verbosity
import StructGen.Proofs.EqualityCandidates
import StructGen.Proofs.FirstOccurrences
import StructGen.Proofs.StandardCalls
import StructGen.Proofs.IndexEntries
import StructGen.Proofs.MappingLayout
import StructGen.Proofs.TagSwitches
import StructGen.Proofs.TypeText
import StructGen.Proofs.FieldAlignment
import StructGen.Proofs.DroppedStart
import StructGen.Proofs.TightPadding
import StructGen.Proofs.PackageNames
import StructGen.Proofs.FileNames
import StructGen.Procedure
