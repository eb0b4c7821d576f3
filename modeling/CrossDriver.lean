import CrossDriver.DriverOption.Position
import CrossDriver.DriverOption.Spelling
import CrossDriver.Link.Binding
import CrossDriver.Main
import CrossDriver.Path.Place
import CrossDriver.Session
import CrossDriver.Shell.Arguments
import CrossDriver.Proofs.Shell.Bash
import CrossDriver.Proofs.Config.Field
import CrossDriver.Proofs.DriverOption.Concatenation
import CrossDriver.Proofs.Link.DefaultLibraries
import CrossDriver.Proofs.Link.BindingState
import CrossDriver.Proofs.Link.Layout
import CrossDriver.Proofs.Link.Noninterference
import CrossDriver.Proofs.Link.Failure
import CrossDriver.Proofs.Session.Reports
import CrossDriver.Proofs.Settings.Saved
import CrossDriver.Proofs.DriverOption.LackingValue
import CrossDriver.Proofs.DriverOption.Rejected
import CrossDriver.Proofs.DriverOption.Spelled
import CrossDriver.Proofs.DriverOption.Synonyms
import CrossDriver.Proofs.DriverOption.TableOrder
import CrossDriver.Proofs.DriverOption.Umbrella
import CrossDriver.Proofs.CommandLine.Agreement
import CrossDriver.Proofs.CommandLine.Ending
import CrossDriver.Proofs.CommandLine.OutputModes
import CrossDriver.Proofs.Triple.Normalised
import CrossDriver.Proofs.Shell.Arguments
import CrossDriver.Proofs.Shell.Quotation
import CrossDriver.Proofs.Shell.WordStarts
import CrossDriver.Proofs.Toolchain.DefaultDirectories
import CrossDriver.Proofs.Toolchain.HeaderOrder
import CrossDriver.Proofs.Triple.Served
import CrossDriver.Proofs.Link.Tables
import CrossDriver.Proofs.Settings.Precedence
import CrossDriver.Proofs.Registry
import CrossDriver.Proofs.Path.BelowSysroot
