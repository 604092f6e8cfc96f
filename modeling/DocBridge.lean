import DocBridge.Main
import DocBridge.Proofs.Engine.History
import DocBridge.Proofs.Markdown.Layout
import DocBridge.Proofs.Pandoc.Stable
import DocBridge.Proofs.Plugin.Attachment
import DocBridge.Proofs.Plugin.Builtin
import DocBridge.Proofs.Plugin.Startup
import DocBridge.Tree.Editing
import DocBridge.Proofs.Markdown.Content
import DocBridge.Proofs.Markdown.Prose
import DocBridge.Proofs.Markdown.Quotes
import DocBridge.Proofs.Markdown.Passages
import DocBridge.Proofs.Markdown.Headings
import DocBridge.Proofs.Engine.Chains
import DocBridge.Proofs.Tree.Value
import DocBridge.Proofs.Json.Pretty
import DocBridge.Proofs.Pandoc.Text
import DocBridge.Proofs.Plugin.ThroughPandoc
import DocBridge.Proofs.Tree.Outputs
import DocBridge.Proofs.Tree.Unwrapping
import DocBridge.Proofs.Tree.Dispatch
import DocBridge.Proofs.Tree.Diagram
import DocBridge.Proofs.Plugin.PassThrough
import DocBridge.Proofs.Pandoc.Wording
import DocBridge.Proofs.Plugin.Contents
import DocBridge.Proofs.Cli.Arguments
import DocBridge.Proofs.Cli.Source
import DocBridge.Proofs.Files.Names
import DocBridge.Proofs.Plugin.Listing
import DocBridge.Proofs.Plugin.Faults
import DocBridge.Proofs.Pandoc.Outcomes
import DocBridge.Proofs.Markdown.Fences
import DocBridge.Proofs.Markdown.Tightness
import DocBridge.Proofs.Tree.Widths
import DocBridge.Proofs.Engine.Directories
import DocBridge.Proofs.Pandoc.Runs
import DocBridge.Proofs.Route.Steps
