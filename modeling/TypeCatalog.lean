import TypeCatalog.Main
import TypeCatalog.Proofs.Inconsistency
import TypeCatalog.Proofs.Inspect.Dump
import TypeCatalog.Proofs.Inspect.Layers
import TypeCatalog.Proofs.Snapshot.Aliases
import TypeCatalog.Proofs.Snapshot.FixedPoint
import TypeCatalog.Proofs.Snapshot.Ignored
import TypeCatalog.Proofs.Snapshot.Literals
import TypeCatalog.Proofs.Snapshot.Prefixed
import TypeCatalog.Proofs.Snapshot.Rearrangement
import TypeCatalog.Proofs.Snapshot.StoppingPlace
import TypeCatalog.Proofs.Snapshot.StrayComma
import TypeCatalog.Proofs.Snapshot.Trace
import TypeCatalog.Proofs.SubPackages
import TypeCatalog.Settings.OfJson
import TypeCatalog.Snapshot.Load
import TypeCatalog.Snapshot.Text
import TypeCatalog.Snapshot.Write
