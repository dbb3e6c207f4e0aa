import SceneScript.Json.Reader
import SceneScript.Main
import SceneScript.Proofs.BackReference
import SceneScript.Proofs.CommandLine.LineEnds
import SceneScript.Proofs.Json.Stories
import SceneScript.Proofs.Report.EmotionOrder
import SceneScript.Proofs.Report.Links
import SceneScript.Proofs.Script.Concatenation
import SceneScript.Proofs.Script.Failure
import SceneScript.Proofs.Script.History
import SceneScript.Proofs.Script.Independence
import SceneScript.Proofs.Script.InlineText
import SceneScript.Proofs.Script.Keywords
import SceneScript.Proofs.Script.Lines
import SceneScript.Proofs.Script.Parameters
import SceneScript.Proofs.Script.Regular
import SceneScript.Proofs.Script.RoundTrip
import SceneScript.Proofs.Text.Squeezing
import SceneScript.Proofs.Text.Raw
import SceneScript.Proofs.CommandLine.Product
