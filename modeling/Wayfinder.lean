import Wayfinder.Settings.Sources
import Wayfinder.Main
import Wayfinder.Proofs.Search.BreadthFirst
import Wayfinder.Proofs.Search.Openings
import Wayfinder.Proofs.Search.Resolution
import Wayfinder.Proofs.Search.Truncation
import Wayfinder.Proofs.Search.EntryPoints
import Wayfinder.Proofs.Search.Comparisons
import Wayfinder.Proofs.Workspace.Addresses
import Wayfinder.Proofs.Workspace.BrokenSearch
import Wayfinder.Proofs.Workspace.FullNames
import Wayfinder.Proofs.Api.Disclosure
import Wayfinder.Proofs.Api.Integrity
import Wayfinder.Proofs.Api.ItemCreation
import Wayfinder.Proofs.Api.PrimaryView
import Wayfinder.Proofs.Api.Refusals
import Wayfinder.Proofs.Api.SearchAddresses
import Wayfinder.Proofs.Api.ViewCreation
import Wayfinder.Proofs.Storage.Creation
import Wayfinder.Proofs.Storage.Generations
import Wayfinder.Proofs.Storage.Duplicates
import Wayfinder.Proofs.Storage.Histories
import Wayfinder.Proofs.Storage.ItemPaths
import Wayfinder.Proofs.Storage.Outlines
import Wayfinder.Proofs.Storage.SimulatedUpdates
import Wayfinder.Proofs.Storage.Updates
import Wayfinder.Proofs.Storage.Tolerance
import Wayfinder.Proofs.Workspace.Endings
