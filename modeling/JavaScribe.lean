import JavaScribe.Text.Letter
import JavaScribe.Text.Printable
import JavaScribe.Text.Lowercase
import JavaScribe.Text.Blank
import JavaScribe.Text.Line
import JavaScribe.Text.Dedent
import JavaScribe.Text.Quoted
import JavaScribe.Text.Numeral
import JavaScribe.Text.Extent
import JavaScribe.Text.Word
import JavaScribe.Text.Variant
import JavaScribe.Text.Mark
import JavaScribe.Text.Plain
import JavaScribe.Table
import JavaScribe.Floating.Basic
import JavaScribe.Floating.Shortest
import JavaScribe.Json.Basic
import JavaScribe.Json.Parser
import JavaScribe.Json.Printer
import JavaScribe.Json.Entries
import JavaScribe.Json.Shown
import JavaScribe.Name
import JavaScribe.TypeExpr.Basic
import JavaScribe.TypeExpr.Annotation
import JavaScribe.TypeExpr.Extent
import JavaScribe.Modifier.Basic
import JavaScribe.Modifier.Legality
import JavaScribe.Log
import JavaScribe.Modifier.Report
import JavaScribe.Category
import JavaScribe.Log.Channel
import JavaScribe.Import.Entry
import JavaScribe.Import.Set
import JavaScribe.Import.Listing
import JavaScribe.Import.Request
import JavaScribe.Member.Options
import JavaScribe.Member.Basic
import JavaScribe.Member.Order
import JavaScribe.Session.Edit
import JavaScribe.Session.Builder
import JavaScribe.Session.Basic
import JavaScribe.Javadoc.Comment
import JavaScribe.Layout.Style
import JavaScribe.Layout.Declaration
import JavaScribe.Template.Fault
import JavaScribe.Template.Value
import JavaScribe.Template.Basic
import JavaScribe.Template.Token
import JavaScribe.Template.Segment
import JavaScribe.Template.Reading
import JavaScribe.Template.Expression
import JavaScribe.Template.Scope
import JavaScribe.Template.Parser
import JavaScribe.Template.Render
import JavaScribe.Template.Library
import JavaScribe.Config.Basic
import JavaScribe.File.Path
import JavaScribe.File.Storage
import JavaScribe.Config.File
import JavaScribe.Config.Settings
import JavaScribe.ValueType.Basic
import JavaScribe.ValueType.Registry
import JavaScribe.ValueType.Registration
import JavaScribe.Source.Basic
import JavaScribe.Source.Obstacle
import JavaScribe.Source.Generator
import JavaScribe.Source.Scribe
import JavaScribe.Proofs.MemberOrder
import JavaScribe.Proofs.AcceptedEdit
import JavaScribe.Proofs.ReachableSession
import JavaScribe.Proofs.Sections
import JavaScribe.Proofs.ImportListings
import JavaScribe.Proofs.Declarations
import JavaScribe.Proofs.DeclarationOrder
import JavaScribe.Proofs.ImportRequests
import JavaScribe.Proofs.ImportSections
import JavaScribe.Proofs.CollapsedPackages
import JavaScribe.Proofs.ImportCoverage
import JavaScribe.Proofs.ImportCollection
import JavaScribe.Proofs.ModifierText
import JavaScribe.Proofs.LegalModifiers
import JavaScribe.Proofs.DeclaredMember
import JavaScribe.Proofs.MemberIdentities
import JavaScribe.Proofs.AliasLookup
import JavaScribe.Proofs.RegisteredNames
import JavaScribe.Proofs.ImportDeclarations
import JavaScribe.Proofs.ConfigLayers
import JavaScribe.Proofs.JsonNumerals
import JavaScribe.Proofs.JsonStrings
import JavaScribe.Proofs.JsonBlocks
import JavaScribe.Proofs.SavedConfig
import JavaScribe.Proofs.CompilationUnitLayout
import JavaScribe.Proofs.TidyLines
import JavaScribe.Proofs.Words
import JavaScribe.Proofs.Margins
import JavaScribe.Proofs.FormattedBodies
import JavaScribe.Proofs.NormalTexts
import JavaScribe.Proofs.CommentFrames
import JavaScribe.Proofs.BannerWidth
import JavaScribe.Proofs.TreeIsolation
import JavaScribe.Proofs.CategoryTags
import JavaScribe.Proofs.DeclaredExecutables
import JavaScribe.Proofs.ObstacleCauses
import JavaScribe.Proofs.SourceFiles
import JavaScribe.Proofs.ImportGroups
import JavaScribe.Proofs.RequestedModifiers
import JavaScribe.Proofs.MemberHistory
import JavaScribe.Proofs.MemberPrecedence
import JavaScribe.Proofs.OverloadTypes
import JavaScribe.Proofs.UndoneRegistrations
import JavaScribe.Proofs.CommentContents
import JavaScribe.Proofs.UnbrokenLines
import JavaScribe.Proofs.IndentedTypes
import JavaScribe.Proofs.BlankLines
import JavaScribe.Proofs.DecimalNumerals
import JavaScribe.Proofs.TextOrder
import JavaScribe.Proofs.TagGrammar
import JavaScribe.Proofs.LineEndings
import JavaScribe.Proofs.TagOrder
import JavaScribe.Proofs.OutputPaths
import JavaScribe.Proofs.BlockComments
