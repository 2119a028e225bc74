import StateHolders.Logging.Written
import StateHolders.Main
import StateHolders.Program
import StateHolders.Proofs.Container
import StateHolders.Proofs.Session
import StateHolders.Proofs.Command
import StateHolders.Proofs.Registry.Discovery
import StateHolders.Proofs.Config.Layers
import StateHolders.Proofs.Toml.Text
import StateHolders.Proofs.Config.Saving
import StateHolders.Proofs.Registry.Refinement
import StateHolders.Proofs.Config.FixedPoint
import StateHolders.Proofs.Registry.Interchange
import StateHolders.Proofs.Config.Origins
import StateHolders.Proofs.Config.Dependence
import StateHolders.Proofs.Logging.Level
import StateHolders.Proofs.Logging.Filter
import StateHolders.Proofs.Registry.Order
import StateHolders.Proofs.TypedAccess
import StateHolders.Proofs.Container.Report
import StateHolders.Proofs.Wrapping
