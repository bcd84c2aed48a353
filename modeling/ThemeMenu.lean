import ThemeMenu.App.Run
import ThemeMenu.Config.Printer
import ThemeMenu.Element.Address
import ThemeMenu.Element.Order
import ThemeMenu.Page.Document
import ThemeMenu.Chooser.Run
import ThemeMenu.Proofs.Tree.Address
import ThemeMenu.Proofs.Tree.Commute
import ThemeMenu.Proofs.Chooser.Calls
import ThemeMenu.Proofs.Page.Place
import ThemeMenu.Proofs.Chooser.Imprint
import ThemeMenu.Proofs.Chooser.NormalForm
import ThemeMenu.Proofs.Chooser.Picking
import ThemeMenu.Proofs.App.Action
import ThemeMenu.Proofs.App.Agreement
import ThemeMenu.Proofs.Chooser.Simulation
import ThemeMenu.Proofs.Chooser.Failure
import ThemeMenu.Proofs.Chooser.Injection
import ThemeMenu.Proofs.App.Events
import ThemeMenu.Proofs.Config.Overlay
import ThemeMenu.Proofs.Toml.Sheet
import ThemeMenu.Proofs.Config.Printed
import ThemeMenu.Proofs.Chooser.Tidy
import ThemeMenu.Proofs.Page.Reach
import ThemeMenu.Proofs.App.ShownError
import ThemeMenu.Proofs.App.EventValue
import ThemeMenu.Proofs.Chooser.Absorption
import ThemeMenu.Proofs.Tree.Choosing
import ThemeMenu.Proofs.Page.Choosing
import ThemeMenu.Proofs.Tree.Alike
import ThemeMenu.Proofs.Page.LastChoice
import ThemeMenu.Proofs.Page.Writing
import ThemeMenu.Proofs.Page.Appending
import ThemeMenu.Proofs.Page.History
import ThemeMenu.Proofs.App.Rendering
import ThemeMenu.Proofs.Page.Message
import ThemeMenu.Proofs.Tree.Arrival
import ThemeMenu.Proofs.Tree.Lookup
import ThemeMenu.Proofs.Tree.Selected
