import ObjcImage.Bytes.Leb128
import ObjcImage.Bytes.Stream
import ObjcImage.Cli.Arguments
import ObjcImage.Cli.Run
import ObjcImage.Dump
import ObjcImage.Fixup.BindOpcode
import ObjcImage.Fixup.ChainedFixups
import ObjcImage.Fixup.ChainedPointer
import ObjcImage.Fixup.Table
import ObjcImage.Interface.Emit
import ObjcImage.Interface.Options
import ObjcImage.Interface.Render
import ObjcImage.MachO.Error
import ObjcImage.MachO.File
import ObjcImage.MachO.Header
import ObjcImage.MachO.Image
import ObjcImage.MachO.LoadCommand
import ObjcImage.MachO.Machine
import ObjcImage.MachO.Source
import ObjcImage.Main
import ObjcImage.Proofs.Declaration.Comments
import ObjcImage.Proofs.Dump.Faults
import ObjcImage.Proofs.MachO.Layout
import ObjcImage.Proofs.MachO.Translate
import ObjcImage.Proofs.ObjectModel.Index
import ObjcImage.Proofs.TypeEncoding.RoundTrip
import ObjcImage.Proofs.Walk.Invariant
import ObjcImage.Proofs.Walk.Outcome
import ObjcImage.Runtime.ClassRef
import ObjcImage.Runtime.Diagnostic
import ObjcImage.Runtime.Model
import ObjcImage.Runtime.Property
import ObjcImage.Runtime.Record
import ObjcImage.Runtime.Walk
import ObjcImage.Text.CharSet
import ObjcImage.Text.GraphemeExtend
import ObjcImage.Text.Hex
import ObjcImage.Text.Pattern.Basic
import ObjcImage.Text.Pattern.CharClass
import ObjcImage.Text.Pattern.Combine
import ObjcImage.Text.Pattern.Error
import ObjcImage.Text.Pattern.Filter
import ObjcImage.Text.Pattern.Match
import ObjcImage.Text.Pattern.Nesting
import ObjcImage.Text.Pattern.Parser
import ObjcImage.Text.Pattern.ProgramSize
import ObjcImage.Text.Pattern.Syntax
import ObjcImage.Text.Pattern.Translate
import ObjcImage.Text.Printable
import ObjcImage.Text.Quoted
import ObjcImage.Text.Unicode.Age
import ObjcImage.Text.Unicode.Alphanumeric
import ObjcImage.Text.Unicode.CaseFold
import ObjcImage.Text.Unicode.Category
import ObjcImage.Text.Unicode.Property
import ObjcImage.Text.Unicode.PropertyName
import ObjcImage.Text.Unicode.Script
import ObjcImage.Text.Unicode.Segmentation
import ObjcImage.Text.Uppercase
import ObjcImage.Text.Utf8
import ObjcImage.TypeEncoding.Basic
import ObjcImage.TypeEncoding.Declaration
import ObjcImage.TypeEncoding.Parser
import ObjcImage.Proofs.Walk.Slots
import ObjcImage.Proofs.Walk.Notes
import ObjcImage.Proofs.Walk.Names
import ObjcImage.Proofs.Walk.Records
import ObjcImage.Proofs.Walk.Policy
import ObjcImage.Proofs.Walk.Selectors
import ObjcImage.Proofs.Walk.ExtendedTypes
import ObjcImage.Proofs.Walk.EntitySelectors
import ObjcImage.Proofs.Interface.ForwardDeclarations
import ObjcImage.Proofs.Walk.ListEntries
import ObjcImage.Proofs.Interface.InheritanceOrder
import ObjcImage.Proofs.Interface.AggregateDefinitions
import ObjcImage.Proofs.Walk.Adoption
import ObjcImage.Proofs.Walk.SingleProtocol
import ObjcImage.Proofs.Walk.RecordReads
import ObjcImage.Proofs.Fixup.Chains
import ObjcImage.Proofs.Fixup.BindStream
import ObjcImage.Proofs.Property.Attributes
import ObjcImage.Proofs.MachO.CString
import ObjcImage.Proofs.MachO.Commands
import ObjcImage.Proofs.Walk.IvarOrder
import ObjcImage.Proofs.Declaration.Expansion
import ObjcImage.Proofs.Declaration.Rendering
import ObjcImage.Proofs.TypeEncoding.Progress
import ObjcImage.Proofs.TypeEncoding.Nesting
import ObjcImage.Proofs.Bytes.Leb128
import ObjcImage.Proofs.Property.Grammar
