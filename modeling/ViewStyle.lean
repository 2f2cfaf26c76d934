import ViewStyle.Bag
import ViewStyle.Chain
import ViewStyle.Session
import ViewStyle.Proofs.ArrivalOrder
import ViewStyle.Proofs.BorderCover
import ViewStyle.Proofs.LastWrite
import ViewStyle.Proofs.Registration
import ViewStyle.Proofs.BorderBrush
import ViewStyle.Proofs.Output
import ViewStyle.Proofs.Separation
import ViewStyle.Proofs.Losses
import ViewStyle.Proofs.BagConversion
import ViewStyle.Proofs.Handled
import ViewStyle.Proofs.BrushCalls
import ViewStyle.Proofs.SecondaryBrushes
import ViewStyle.Proofs.DefaultBrush
import ViewStyle.Proofs.DecorationCheck
import ViewStyle.Proofs.ApplierReplacement
import ViewStyle.Proofs.LastEffective
import ViewStyle.Proofs.Onlookers
import ViewStyle.Proofs.Specificity
import ViewStyle.Proofs.Lengths
import ViewStyle.Proofs.Accounting
import ViewStyle.Proofs.Absorption
import ViewStyle.Proofs.DeferredCorners
import ViewStyle.Proofs.Redelivery
import ViewStyle.Proofs.TokenReports
import ViewStyle.Proofs.RawRows
import ViewStyle.Proofs.PackedColors
import ViewStyle.Proofs.TruthOfText
import ViewStyle.Proofs.Monotonicity
