import Gamebook.Text.Word
import Gamebook.Text.Printable
import Gamebook.Text.Digit
import Gamebook.Number.Shortest
import Gamebook.Text.Numeral
import Gamebook.Value.Display
import Gamebook.Json
import Gamebook.Value.Shape
import Gamebook.Script.Grammar
import Gamebook.Script.Basic
import Gamebook.Config
import Gamebook.Registry
import Gamebook.Shelf
import Gamebook.Draw
import Gamebook.Template
import Gamebook.Travel
import Gamebook.Store
import Gamebook.Game.Session
import Gamebook.Yaml.Data
import Gamebook.Library.Basic
import Gamebook.Library.Bundled
import Gamebook.Api.Response
import Gamebook.Proofs.Play.Law
import Gamebook.Proofs.Session.History
import Gamebook.Proofs.Session.Report
import Gamebook.Proofs.Play.Panel
import Gamebook.Proofs.Session.Chronicle
import Gamebook.Proofs.Session.Run
import Gamebook.Proofs.Session.Whereabouts
import Gamebook.Proofs.Session.Ledger
import Gamebook.Proofs.Session.Menu
import Gamebook.Proofs.Script.Playable
import Gamebook.Proofs.Script.WellFormed
import Gamebook.Proofs.Script.Wording
import Gamebook.Proofs.Script.Filling
import Gamebook.Proofs.Play.Safety
import Gamebook.Proofs.Session.Soundness
import Gamebook.Proofs.Script.Flaw
import Gamebook.Proofs.Session.Refusal
import Gamebook.Proofs.Play.Registration
import Gamebook.Proofs.Session.Isolation
import Gamebook.Proofs.Play.Lookup
import Gamebook.Proofs.Api.Sessions
import Gamebook.Proofs.Api.Response
import Gamebook.Proofs.Api.Listing
import Gamebook.Proofs.Api.Delivery
import Gamebook.Proofs.Session.Layout
import Gamebook.Proofs.Api.Table
import Gamebook.Proofs.Play.Unchecked
import Gamebook.Proofs.Play.Passage
import Gamebook.Proofs.Session.Arrival
import Gamebook.Proofs.Session.Opening
import Gamebook.Proofs.Script.Reference
import Gamebook.Proofs.Session.Fare
import Gamebook.Proofs.Play.Depth
import Gamebook.Proofs.Play.Sequence
import Gamebook.Proofs.Play.Amount
import Gamebook.Proofs.Script.Form
import Gamebook.Proofs.Script.FirstFlaw
import Gamebook.Proofs.Script.Placeholder
import Gamebook.Proofs.Script.Refilling
import Gamebook.Proofs.Play.Frame
import Gamebook.Proofs.Play.Selection
import Gamebook.Proofs.Session.Exits
import Gamebook.Proofs.Session.Itinerary
import Gamebook.Proofs.Session.Draws
import Gamebook.Proofs.Number.Exact
import Gamebook.Proofs.Play.Fairness
import Gamebook.Proofs.Session.Fate
import Gamebook.Proofs.Session.HostRegistry
import Gamebook.Proofs.Session.Listeners
import Gamebook.Proofs.Registry.History
import Gamebook.Proofs.Library.Folder
import Gamebook.Proofs.Script.Part
import Gamebook.Proofs.Script.Agreement
import Gamebook.Proofs.Script.Blank
