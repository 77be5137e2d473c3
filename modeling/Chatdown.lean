import Chatdown.Chat.Render
import Chatdown.Command.Run
import Chatdown.Document.Dump
import Chatdown.Document.OfSyntax
import Chatdown.Format.Registry
import Chatdown.Main
import Chatdown.Proofs.Content
import Chatdown.Proofs.Indifference
import Chatdown.Proofs.LineEndings
import Chatdown.Proofs.LineMarks
import Chatdown.Proofs.Narrowing
import Chatdown.Proofs.Separation
import Chatdown.Proofs.Shape
import Chatdown.Proofs.TableLines
import Chatdown.Settings.Layer
import Chatdown.Text.Newline
import Chatdown.Text.Utf8
import Chatdown.Proofs.Malformed
import Chatdown.Proofs.ByteInput
import Chatdown.Proofs.TreeInput
import Chatdown.Proofs.Writing
import Chatdown.Proofs.Atomicity
import Chatdown.Proofs.TomlKeys
import Chatdown.Proofs.Layering
import Chatdown.Proofs.Task
import Chatdown.Proofs.Dependence
import Chatdown.Proofs.Options
import Chatdown.Proofs.Mentions
import Chatdown.Proofs.Wording
import Chatdown.Proofs.Channels
import Chatdown.Proofs.Geometry
import Chatdown.Proofs.TableGrid
import Chatdown.Proofs.JsonReading
import Chatdown.Proofs.DumpReading
import Chatdown.Proofs.InkedLines
import Chatdown.Proofs.LineBreaks
import Chatdown.Proofs.CellReading
import Chatdown.Proofs.RowOrder
import Chatdown.Proofs.Tabs
import Chatdown.Proofs.ListLines
import Chatdown.Proofs.Wrapping
import Chatdown.Proofs.FileNames
import Chatdown.Proofs.SourceLines
