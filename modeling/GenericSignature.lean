import GenericSignature.CommandLine.Arguments
import GenericSignature.CommandLine.Console
import GenericSignature.CommandLine.Markup
import GenericSignature.CommandLine.Run
import GenericSignature.CommandLine.Table
import GenericSignature.Cursor
import GenericSignature.Document
import GenericSignature.Failure
import GenericSignature.Grammar.Declarations
import GenericSignature.Grammar.Fault
import GenericSignature.Grammar.Fragment
import GenericSignature.Grammar.Production
import GenericSignature.Grammar.Reader
import GenericSignature.Grammar.Types
import GenericSignature.Json.Basic
import GenericSignature.Json.Printer
import GenericSignature.Json.Reader
import GenericSignature.Main
import GenericSignature.Proofs.BackLinks
import GenericSignature.Proofs.BatchReports
import GenericSignature.Proofs.Batches
import GenericSignature.Proofs.Canonical
import GenericSignature.Proofs.Contexts
import GenericSignature.Proofs.Covering
import GenericSignature.Proofs.Deciding
import GenericSignature.Proofs.DeclarationReaders
import GenericSignature.Proofs.Displays
import GenericSignature.Proofs.DocumentShapes
import GenericSignature.Proofs.Documents
import GenericSignature.Proofs.Faults
import GenericSignature.Proofs.Files
import GenericSignature.Proofs.Following
import GenericSignature.Proofs.JsonRoundTrip
import GenericSignature.Proofs.Language
import GenericSignature.Proofs.Linking
import GenericSignature.Proofs.Lookahead
import GenericSignature.Proofs.Markup
import GenericSignature.Proofs.ParseCommand
import GenericSignature.Proofs.Parsers
import GenericSignature.Proofs.Printing
import GenericSignature.Proofs.Productions
import GenericSignature.Proofs.Reading
import GenericSignature.Proofs.Recording
import GenericSignature.Proofs.ReferencedClasses
import GenericSignature.Proofs.Scanning
import GenericSignature.Proofs.Sessions
import GenericSignature.Proofs.SharedClass
import GenericSignature.Proofs.TrailingText
import GenericSignature.Proofs.TypeReaders
import GenericSignature.Scope.Links
import GenericSignature.Scope.Resolution
import GenericSignature.Session.Basic
import GenericSignature.Session.Batch
import GenericSignature.Session.Export
import GenericSignature.Session.Log
import GenericSignature.Session.Reread
import GenericSignature.Settings.Basic
import GenericSignature.Settings.Dotenv
import GenericSignature.Settings.Expansion
import GenericSignature.Settings.Integer
import GenericSignature.Signature.Basic
import GenericSignature.Signature.Contents
import GenericSignature.Signature.Descriptor
import GenericSignature.Signature.Display
import GenericSignature.Signature.Equality
import GenericSignature.Text.Blank
import GenericSignature.Text.Digits
import GenericSignature.Text.Hex
import GenericSignature.Text.Lines
import GenericSignature.Text.Printable
import GenericSignature.Text.Quoted
import GenericSignature.Text.Width
import GenericSignature.Validation
