import SdkGen.Main
import SdkGen.Proofs.Config.Merge
import SdkGen.Proofs.Extraction.ConventionalTags
import SdkGen.Proofs.Extraction.Delimiters
import SdkGen.Proofs.Extraction.Imports
import SdkGen.Proofs.Extraction.Overrides
import SdkGen.Proofs.Extraction.TagSpellings
import SdkGen.Proofs.Extraction.WireNames
import SdkGen.Proofs.Go.Joined
import SdkGen.Proofs.Go.Positions
import SdkGen.Proofs.Go.TopNodes
import SdkGen.Proofs.Model.TypeText
import SdkGen.Proofs.Report.LeafLines
import SdkGen.Proofs.Report.Model
import SdkGen.Proofs.Run.Again
import SdkGen.Proofs.Run.Complete
import SdkGen.Proofs.Run.Exit
import SdkGen.Proofs.Run.Independence
import SdkGen.Proofs.TypeScript.ConfiguredTypes
import SdkGen.Proofs.TypeScript.DeclarationLines
import SdkGen.Proofs.TypeScript.Segments
import SdkGen.Proofs.TypeScript.Settings
import SdkGen.Proofs.Model.PayloadText
