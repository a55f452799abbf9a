import DalvikFold.Handler.Text
import DalvikFold.Listing.Basic
import DalvikFold.Main
import DalvikFold.Proofs.ArithmeticOutcomes
import DalvikFold.Proofs.BlankSegments
import DalvikFold.Proofs.ClassListings
import DalvikFold.Proofs.Computations
import DalvikFold.Proofs.Concatenation
import DalvikFold.Proofs.EffectTexts
import DalvikFold.Proofs.FirstStop
import DalvikFold.Proofs.FoldingSetting
import DalvikFold.Proofs.FoldingSoundness
import DalvikFold.Proofs.Footprints
import DalvikFold.Proofs.HandlerSteps
import DalvikFold.Proofs.KnownRegisters
import DalvikFold.Proofs.Layout
import DalvikFold.Proofs.ListingParts
import DalvikFold.Proofs.LiteralLoads
import DalvikFold.Proofs.NamedMethods
import DalvikFold.Proofs.NestedLines
import DalvikFold.Proofs.Passages
import DalvikFold.Proofs.Preparation
import DalvikFold.Proofs.QuotedStrings
import DalvikFold.Proofs.RegisterCounts
import DalvikFold.Proofs.RegisterGroups
import DalvikFold.Proofs.Reordering
import DalvikFold.Proofs.Rereading
import DalvikFold.Proofs.SameOperation
import DalvikFold.Proofs.Scanning
import DalvikFold.Proofs.SeparateReports
import DalvikFold.Proofs.SettingWords
import DalvikFold.Proofs.SettingsLayers
import DalvikFold.Proofs.Spellings
import DalvikFold.Proofs.StepwiseRuns
import DalvikFold.Proofs.StringLiterals
import DalvikFold.Proofs.TwosComplement
import DalvikFold.Proofs.UnknownRegisters
import DalvikFold.Proofs.UntouchedRegisters
import DalvikFold.Proofs.UntypedRegisters
import DalvikFold.Proofs.WellFormedInstructions
import DalvikFold.Proofs.WellNestedMethods
