import W65816.Text.Space
import W65816.Text.CaseTables
import W65816.Text.Lower
import W65816.Text.Layout
import W65816.Mode
import W65816.Fault
import W65816.Legend
import W65816.Legend.Standard
import W65816.Listing.Row
import W65816.Listing
import W65816.Listing.Standard
import W65816.Amendment
import W65816.Amendment.Standard
import W65816.Coverage
import W65816.Descriptor
import W65816.Build
import W65816.Render.Common
import W65816.Render.Cpp
import W65816.Render.Json
import W65816.Render.Rust
import W65816.Command.Number
import W65816.Command.Similarity
import W65816.Command.Options
import W65816.Command.Help
import W65816.Command.Parse
import W65816.Path
import W65816.FileSystem
import W65816.Disk
import W65816.Session
import W65816.Main
import W65816.Proofs.Coverage
import W65816.Proofs.Assemble
import W65816.Proofs.Legend
import W65816.Proofs.Listing
import W65816.Proofs.Row
import W65816.Proofs.RowModes
import W65816.Proofs.Render
import W65816.Proofs.Utf8
import W65816.Proofs.Run
import W65816.Proofs.AmendmentTable
import W65816.Proofs.Renumbering
import W65816.Proofs.Text
import W65816.Proofs.ModeChoice
import W65816.Proofs.LegendChecks
import W65816.Proofs.Positions
import W65816.Proofs.Vocabulary
import W65816.Proofs.ListingFile
