import GuardedCrud.Main
import GuardedCrud.Proofs.Access.Annotations
import GuardedCrud.Proofs.Schema.CarriedDocs
import GuardedCrud.Proofs.Source.GuardLines
import GuardedCrud.Proofs.FailClosed
import GuardedCrud.Proofs.Schema.EditedDocs
import GuardedCrud.Proofs.DocumentationEdits
import GuardedCrud.Proofs.Record.OperationNames
import GuardedCrud.Proofs.Schema.Grammar
import GuardedCrud.Proofs.Storage.Writing
import GuardedCrud.Proofs.Schema.LineNumbers
import GuardedCrud.Proofs.Schema.LineLayout
import GuardedCrud.Proofs.LayoutIndependence
import GuardedCrud.Proofs.Source.FilePaths
import GuardedCrud.Proofs.Access.Levels
import GuardedCrud.Proofs.Source.FileLinks
import GuardedCrud.Proofs.Record.Encoding
import GuardedCrud.Proofs.Schema.Fragments
import GuardedCrud.Proofs.FragmentedSchemas
import GuardedCrud.Proofs.Schema.Brackets
import GuardedCrud.Proofs.CommandLine.Effects
import GuardedCrud.Proofs.Toml.Document
import GuardedCrud.Proofs.Settings.File
import GuardedCrud.Proofs.Storage.Tree
import GuardedCrud.Proofs.CommandLine.SavedSettings
import GuardedCrud.Proofs.Schema.TrueLines
import GuardedCrud.Proofs.Record.IdentifierNames
import GuardedCrud.Proofs.Schema.Respelling
import GuardedCrud.Proofs.Source.GuardImports
import GuardedCrud.Proofs.Access.TrailingText
import GuardedCrud.Proofs.Record.Outcome
import GuardedCrud.Proofs.Schema.FirstDeclaration
import GuardedCrud.Proofs.Schema.WrittenFields
import GuardedCrud.Proofs.Schema.WrittenLists
import GuardedCrud.Proofs.Record.Relations
import GuardedCrud.Proofs.Naming.LastWord
import GuardedCrud.Proofs.Naming.ByteOffsets
import GuardedCrud.Proofs.Access.GuardTokens
import GuardedCrud.Proofs.Storage.PathSteps
import GuardedCrud.Proofs.Storage.Relisting
import GuardedCrud.Proofs.Storage.FilesBelow
import GuardedCrud.Proofs.CommandLine.SchemaFiles
