import Deckhand.Kind
import Deckhand.Text.Blank
import Deckhand.Text.Lines
import Deckhand.Text.Utf8
import Deckhand.Text.Case
import Deckhand.Text.Quoted
import Deckhand.Time.Span
import Deckhand.Time.Stamp
import Deckhand.Decimal.Shortest
import Deckhand.Unicode.Break
import Deckhand.Unicode.Emoji
import Deckhand.Unicode.Width
import Deckhand.Resource
import Deckhand.Operation
import Deckhand.Catalog
import Deckhand.Form.Edit
import Deckhand.Dialog.Layers
import Deckhand.Board.Events
import Deckhand.Create.Choices
import Deckhand.Host.Memory
import Deckhand.Host.Podman.Cli
import Deckhand.EscapeFilter
import Deckhand.Refresh.Round
import Deckhand.Session.Basic
import Deckhand.Screen.Draw
import Deckhand.Key.Notation
import Deckhand.Settings.File
import Deckhand.Main
import Deckhand.Proofs.Board.Focus
import Deckhand.Proofs.Board.Offers
import Deckhand.Proofs.Board.Target
import Deckhand.Proofs.Board.Creation
import Deckhand.Proofs.Board.Typing
import Deckhand.Proofs.Host.Failures
import Deckhand.Proofs.Host.Networks
import Deckhand.Proofs.World.Live
import Deckhand.Proofs.World.Results
import Deckhand.Proofs.World.Origin
import Deckhand.Proofs.World.Session
import Deckhand.Proofs.World.Upkeep
import Deckhand.Proofs.Board.Abandoned
import Deckhand.Proofs.Board.Independence
import Deckhand.Refresh.Service
import Deckhand.Proofs.Refresh.Requests
import Deckhand.Proofs.Refresh.Reports
import Deckhand.Proofs.Text.Utf8
import Deckhand.Proofs.Toml.Number
import Deckhand.Proofs.Toml.Quoted
import Deckhand.Proofs.Toml.Document
import Deckhand.Proofs.Settings.File
import Deckhand.Proofs.Dialog.Pager
import Deckhand.Proofs.Form.Traversal
import Deckhand.Proofs.Form.Entries
import Deckhand.Proofs.Create.Dropdowns
import Deckhand.Proofs.Host.Changes
import Deckhand.Proofs.Create.Pairs
import Deckhand.Proofs.Host.Tables
import Deckhand.Proofs.Host.Memory
import Deckhand.Proofs.Board.Marks
import Deckhand.Proofs.Board.Intact
import Deckhand.Proofs.Board.Question
import Deckhand.Proofs.EscapeFilter
import Deckhand.Proofs.Host.References
import Deckhand.Proofs.Screen.Error
import Deckhand.Proofs.Create.Dropdowns
