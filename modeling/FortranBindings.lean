import FortranBindings.Bridge.Action
import FortranBindings.Bridge.Basic
import FortranBindings.Bridge.Held
import FortranBindings.Bridge.Make
import FortranBindings.CommandLine.Options
import FortranBindings.CommandLine.Run
import FortranBindings.Config
import FortranBindings.CxxType.Basic
import FortranBindings.CxxType.Builtin
import FortranBindings.CxxType.Spelling
import FortranBindings.CxxType.Token
import FortranBindings.Decl.Callable
import FortranBindings.Decl.Class
import FortranBindings.Decl.Enumeration
import FortranBindings.Decl.Location
import FortranBindings.Decl.Typemap
import FortranBindings.Declarations.Basic
import FortranBindings.Declarations.Document
import FortranBindings.Declarations.Resolution
import FortranBindings.Declarations.Tables
import FortranBindings.DerivedType
import FortranBindings.Diagnostic
import FortranBindings.Dict
import FortranBindings.Files.Access
import FortranBindings.Files.Binding
import FortranBindings.Files.Tree
import FortranBindings.GenerateError
import FortranBindings.Generator
import FortranBindings.Json.Basic
import FortranBindings.Json.Number
import FortranBindings.Json.Reader
import FortranBindings.Json.Record
import FortranBindings.Json.Token
import FortranBindings.Json.Writer
import FortranBindings.LineDiff.Edit
import FortranBindings.LineDiff.Path
import FortranBindings.LineDiff.Report
import FortranBindings.LineDiff.Settled
import FortranBindings.Main
import FortranBindings.ModuleSource
import FortranBindings.Overloads
import FortranBindings.Proofs.Bridge.Arguments
import FortranBindings.Proofs.CxxType.Signature
import FortranBindings.Proofs.CxxType.Words
import FortranBindings.Proofs.Ensures
import FortranBindings.Proofs.Except
import FortranBindings.Proofs.Generator.Arguments
import FortranBindings.Proofs.Generator.History
import FortranBindings.Proofs.Generator.Lookups
import FortranBindings.Proofs.Generator.Settled
import FortranBindings.Proofs.Proxy.ArgumentName
import FortranBindings.Proofs.Proxy.Arguments
import FortranBindings.Proofs.Template.History
import FortranBindings.Proofs.Text.Decimal
import FortranBindings.Proxy.ArgumentName
import FortranBindings.Proxy.Basic
import FortranBindings.Proxy.Make
import FortranBindings.Registry
import FortranBindings.Registry.Indexed
import FortranBindings.Symbols
import FortranBindings.Template.Lookup
import FortranBindings.Template.Sources
import FortranBindings.Text.Blank
import FortranBindings.Text.Code
import FortranBindings.Text.Hidden
import FortranBindings.Text.Identifier
import FortranBindings.Text.Quoted
import FortranBindings.Text.Template
import FortranBindings.TypemapTable.Basic
import FortranBindings.TypemapTable.Document
import FortranBindings.TypemapTable.Library
import FortranBindings.Proofs.Generator.Outcome
import FortranBindings.Proofs.Generator.Failure
import FortranBindings.Proofs.Generator.Ledger
import FortranBindings.Proofs.Generator.Accounts
import FortranBindings.Proofs.Generator.LinkageNames
import FortranBindings.Proofs.Generator.ModuleNames
import FortranBindings.Proofs.Template.Requests
import FortranBindings.Proofs.Generator.Requests
import FortranBindings.Proofs.Generator.Keeping
import FortranBindings.Proofs.Generator.CxxSide
import FortranBindings.Proofs.TypemapTable.Library
import FortranBindings.Proofs.Declarations.Resolution
import FortranBindings.Proofs.Template.Coverage
import FortranBindings.Proofs.Generator.Coverage
import FortranBindings.Proofs.TypemapTable.Interoperability
import FortranBindings.Proofs.Template.Interoperability
import FortranBindings.Proofs.Generator.TypeBoundNames
import FortranBindings.Proofs.Generator.Additions
import FortranBindings.Proofs.Generator.Sessions
import FortranBindings.Proofs.Registry.Groups
import FortranBindings.Proofs.Generator.BindingTables
import FortranBindings.Proofs.Generator.DefinedNames
import FortranBindings.Proofs.Generator.OpaqueTypes
import FortranBindings.Proofs.Text.Filling
import FortranBindings.Proofs.Template.Filling
import FortranBindings.Proofs.Declarations.Literal
import FortranBindings.Proofs.Bridge.Literal
import FortranBindings.Proofs.Proxy.Literal
import FortranBindings.Proofs.Generator.Literal
import FortranBindings.Proofs.Json.Record
import FortranBindings.Proofs.Decl.RoundTrip
import FortranBindings.Proofs.Decl.Spelled
import FortranBindings.Proofs.Generator.MisplacedMembers
import FortranBindings.Proofs.Generator.ClassSteps
import FortranBindings.Proofs.Generator.Interleaving
import FortranBindings.Proofs.Template.Handles
import FortranBindings.Proofs.Proxy.PassedObject
import FortranBindings.Proofs.Generator.PassedObjects
import FortranBindings.Proofs.Declarations.TypedefChains
import FortranBindings.Proofs.Declarations.Flattening
import FortranBindings.Proofs.Proxy.ArgumentSearch
import FortranBindings.Proofs.Generator.DummyArguments
import FortranBindings.Proofs.Bridge.Locals
import FortranBindings.Proofs.Text.Scopes
import FortranBindings.Proofs.Decl.UnqualifiedNames
import FortranBindings.Proofs.Template.EnumFallback
import FortranBindings.Proofs.Template.VoidResults
import FortranBindings.Proofs.Bridge.Results
import FortranBindings.Proofs.Generator.Results
import FortranBindings.Proofs.TypemapTable.VisitingOrder
import FortranBindings.Proofs.Template.Misses
import FortranBindings.Proofs.Text.Lines
import FortranBindings.Proofs.Text.Tokens
import FortranBindings.Proofs.Generator.Sections
import FortranBindings.Proofs.Generator.RefusedBridges
import FortranBindings.Proofs.Declarations.Signatures
import FortranBindings.Proofs.CxxType.Spacing
import FortranBindings.Proofs.CxxType.Specifiers
import FortranBindings.Proofs.CxxType.BuiltinSpellings
import FortranBindings.Proofs.Text.LongestMatch
import FortranBindings.Proofs.Text.Rewriting
import FortranBindings.Proofs.Text.RemadeTokens
import FortranBindings.Proofs.Template.ClassNames
import FortranBindings.Proofs.Registry.Lookups
import FortranBindings.Proofs.Declarations.ClassLookups
import FortranBindings.Proofs.Template.Families
import FortranBindings.Proofs.Registry.Indexed
import FortranBindings.Proofs.Declarations.Tables
import FortranBindings.Proofs.Registry.Recordings
import FortranBindings.Proofs.TypemapTable.Overlay
import FortranBindings.Proofs.Text.Identifiers
import FortranBindings.Proofs.Generator.PlaceholderNames
import FortranBindings.CxxType.Lexeme
import FortranBindings.Text.Writing
import FortranBindings.Text.Collapse
import FortranBindings.Proofs.Text.Collapse
import FortranBindings.Proofs.Text.Writing
import FortranBindings.Proofs.CxxType.Brackets
import FortranBindings.Proofs.CxxType.Layout
import FortranBindings.Proofs.CxxType.SpellingBytes
import FortranBindings.Proofs.CxxType.Lexemes
