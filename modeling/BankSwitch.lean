import BankSwitch.Assembly
import BankSwitch.Bus
import BankSwitch.Calls
import BankSwitch.CommandLine.Arguments
import BankSwitch.CommandLine.Command
import BankSwitch.CommandLine.Failure
import BankSwitch.CommandLine.Log
import BankSwitch.CommandLine.Run
import BankSwitch.Component.Basic
import BankSwitch.Component.Reader
import BankSwitch.Description.Fields
import BankSwitch.Description.Printer
import BankSwitch.Description.Text
import BankSwitch.Document.Basic
import BankSwitch.Document.Check
import BankSwitch.Document.Json
import BankSwitch.Document.Yaml.Block
import BankSwitch.Document.Yaml.Glyph
import BankSwitch.Document.Yaml.Graph
import BankSwitch.Document.Yaml.Kind
import BankSwitch.Document.Yaml.Lexer
import BankSwitch.Document.Yaml.Node
import BankSwitch.Document.Yaml.Plain
import BankSwitch.Document.Yaml.Property
import BankSwitch.Document.Yaml.Quotation
import BankSwitch.Document.Yaml.Scalar
import BankSwitch.Document.Yaml.Timestamp
import BankSwitch.Document.Yaml.Token
import BankSwitch.Document.Yaml.Value
import BankSwitch.Files
import BankSwitch.Guard.Basic
import BankSwitch.Guard.Binding
import BankSwitch.Guard.Reader
import BankSwitch.Layout.Partition
import BankSwitch.Layout.Range
import BankSwitch.Layout.Reader
import BankSwitch.Main
import BankSwitch.Number.Binary64
import BankSwitch.Proofs.Calls
import BankSwitch.Proofs.CommandLine.Acceptance
import BankSwitch.Proofs.CommandLine.Leaving
import BankSwitch.Proofs.CommandLine.Numbers
import BankSwitch.Proofs.CommandLine.Once
import BankSwitch.Proofs.CommandLine.Rereading
import BankSwitch.Proofs.CommandLine.Spelling
import BankSwitch.Proofs.CommandLine.Touches
import BankSwitch.Proofs.Congruence
import BankSwitch.Proofs.Describing.Component
import BankSwitch.Proofs.Faults
import BankSwitch.Proofs.Lexing.Numerals
import BankSwitch.Proofs.Lexing.Spacing
import BankSwitch.Proofs.Located
import BankSwitch.Proofs.Names
import BankSwitch.Proofs.Narrowing
import BankSwitch.Proofs.Printing.Component
import BankSwitch.Proofs.Printing.Writable
import BankSwitch.Proofs.Priority
import BankSwitch.Proofs.Readback
import BankSwitch.Proofs.Respacing
import BankSwitch.Proofs.Smt.Component
import BankSwitch.Proofs.Smt.Declared
import BankSwitch.Proofs.Smt.Selectors
import BankSwitch.Proofs.Traces
import BankSwitch.Proofs.Usable
import BankSwitch.Proofs.Verification
import BankSwitch.Reading
import BankSwitch.Settings.Basic
import BankSwitch.Settings.Load
import BankSwitch.Smt.Encoding
import BankSwitch.Smt.Script
import BankSwitch.Smt.Term
import BankSwitch.Source.Error
import BankSwitch.Source.Lexer
import BankSwitch.Source.Stream
import BankSwitch.Source.Token
import BankSwitch.Text.Base64
import BankSwitch.Text.Basic
import BankSwitch.Text.CharClass
import BankSwitch.Text.CharClass.Letters
import BankSwitch.Text.CharClass.Numerals
import BankSwitch.Text.CharClass.Unprintable
import BankSwitch.Text.Integer
import BankSwitch.Trace.Basic
import BankSwitch.Translation.Basic
import BankSwitch.Translation.Reader
