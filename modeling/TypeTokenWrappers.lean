import TypeTokenWrappers.ClassFile.Basic
import TypeTokenWrappers.ClassFile.ByteReader
import TypeTokenWrappers.ClassFile.ConstantPool
import TypeTokenWrappers.ClassFile.Layout
import TypeTokenWrappers.ClassFile.ModifiedUtf8
import TypeTokenWrappers.ClassFile.Reader
import TypeTokenWrappers.CommandLine.Arguments
import TypeTokenWrappers.CommandLine.Commands
import TypeTokenWrappers.CommandLine.Invocation
import TypeTokenWrappers.Config.Basic
import TypeTokenWrappers.Config.Document
import TypeTokenWrappers.Config.Edit
import TypeTokenWrappers.Config.Load
import TypeTokenWrappers.Config.Placeholder
import TypeTokenWrappers.Descriptor.Basic
import TypeTokenWrappers.Descriptor.Reader
import TypeTokenWrappers.Error
import TypeTokenWrappers.Files.Host
import TypeTokenWrappers.Files.Path
import TypeTokenWrappers.Files.Tree
import TypeTokenWrappers.Files.World
import TypeTokenWrappers.Generation.Generator
import TypeTokenWrappers.Generation.Stream
import TypeTokenWrappers.Main
import TypeTokenWrappers.Output.Buffer
import TypeTokenWrappers.Output.Json
import TypeTokenWrappers.Output.SourceFile
import TypeTokenWrappers.Signature.Basic
import TypeTokenWrappers.Signature.Reader
import TypeTokenWrappers.Tasks.Container
import TypeTokenWrappers.Tasks.TaskSet
import TypeTokenWrappers.Text.Alphanumeric
import TypeTokenWrappers.Text.Pieces
import TypeTokenWrappers.Text.Quoted
import TypeTokenWrappers.Text.Taken
import TypeTokenWrappers.Text.Utf16
import TypeTokenWrappers.Text.Utf8
import TypeTokenWrappers.Toml.Document
import TypeTokenWrappers.Toml.Quotation
import TypeTokenWrappers.Toml.Reader
import TypeTokenWrappers.Toml.Scalar
import TypeTokenWrappers.Toml.Table
import TypeTokenWrappers.Toml.Value
import TypeTokenWrappers.Toml.Writer
import TypeTokenWrappers.TypeName
import TypeTokenWrappers.VariablesFile.Line
import TypeTokenWrappers.VariablesFile.Load
import TypeTokenWrappers.Wrapper.Archive
import TypeTokenWrappers.Wrapper.Basic
import TypeTokenWrappers.Wrapper.Selection
import TypeTokenWrappers.Zip.Archive
import TypeTokenWrappers.Zip.Description
import TypeTokenWrappers.Zip.EndRecord
import TypeTokenWrappers.Zip.ExtraField
import TypeTokenWrappers.Zip.Huffman
import TypeTokenWrappers.Zip.Inflate
import TypeTokenWrappers.Zip.Record
import TypeTokenWrappers.Proofs.Text.Utf16
import TypeTokenWrappers.Proofs.ClassFile.ByteReader
import TypeTokenWrappers.Proofs.ClassFile.ModifiedUtf8
import TypeTokenWrappers.Proofs.ClassFile.Pool
import TypeTokenWrappers.Proofs.ClassFile.Reader
import TypeTokenWrappers.Proofs.ClassFile.Numbering
import TypeTokenWrappers.Proofs.ClassFile.Description
import TypeTokenWrappers.Proofs.ClassFile.RoundTrip
import TypeTokenWrappers.Proofs.Descriptor.Reader
import TypeTokenWrappers.Proofs.Signature.Identifier
import TypeTokenWrappers.Proofs.Signature.ReferenceType
import TypeTokenWrappers.Proofs.Signature.Section
import TypeTokenWrappers.Proofs.Signature.Declared
import TypeTokenWrappers.Proofs.Signature.Grammar
import TypeTokenWrappers.Proofs.Wrapper.Selection
import TypeTokenWrappers.Proofs.ClassFile.Unambiguous
import TypeTokenWrappers.Proofs.Generation.Stream
import TypeTokenWrappers.Proofs.ClassFile.AddedText
import TypeTokenWrappers.Proofs.Toml.Quotation
import TypeTokenWrappers.Proofs.Toml.Document
import TypeTokenWrappers.Proofs.Config.Placeholder
import TypeTokenWrappers.Proofs.Files.Program
import TypeTokenWrappers.Proofs.Config.RoundTrip
import TypeTokenWrappers.Proofs.Files.Tree
import TypeTokenWrappers.Proofs.Files.Observed
import TypeTokenWrappers.Proofs.Generation.Scan
import TypeTokenWrappers.Proofs.Generation.Written
import TypeTokenWrappers.Proofs.Generation.Agreement
import TypeTokenWrappers.Proofs.ClassFile.CutOff
import TypeTokenWrappers.Proofs.Wrapper.ReturnType
import TypeTokenWrappers.Proofs.Generation.OtherEntries
import TypeTokenWrappers.Proofs.Generation.Failure
import TypeTokenWrappers.Proofs.Generation.Narrowing
import TypeTokenWrappers.Proofs.Tasks.TypedSteps
import TypeTokenWrappers.Proofs.Config.Substitution
import TypeTokenWrappers.Proofs.Files.Path
import TypeTokenWrappers.Proofs.Files.Way
import TypeTokenWrappers.Proofs.Files.Pair
import TypeTokenWrappers.Proofs.Files.InStep
import TypeTokenWrappers.Proofs.Generation.InStep
import TypeTokenWrappers.Proofs.CommandLine.Loading
import TypeTokenWrappers.Proofs.CommandLine.Override
import TypeTokenWrappers.Proofs.ClassFile.Encodings
import TypeTokenWrappers.Proofs.Descriptor.Inverse
import TypeTokenWrappers.Proofs.Signature.Accepted
import TypeTokenWrappers.Proofs.Signature.Defect
import TypeTokenWrappers.Proofs.Signature.Delimited
import TypeTokenWrappers.Proofs.Output.Limited
import TypeTokenWrappers.Proofs.Config.Missing
import TypeTokenWrappers.Proofs.ClassFile.UnitByUnit
import TypeTokenWrappers.Proofs.Files.FileName
import TypeTokenWrappers.Proofs.CommandLine.Marks
import TypeTokenWrappers.Proofs.Text.ByteOrder
import TypeTokenWrappers.Proofs.Files.Listing
import TypeTokenWrappers.Proofs.Files.Relisting
import TypeTokenWrappers.Proofs.Config.Classpath
import TypeTokenWrappers.Proofs.Text.Boundary
import TypeTokenWrappers.Proofs.Text.Cursor
import TypeTokenWrappers.Proofs.Descriptor.Bytewise
import TypeTokenWrappers.Proofs.Signature.Bytewise
import TypeTokenWrappers.Proofs.Text.Advance
