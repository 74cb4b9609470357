import CompletionService.Deployment.Startup
import CompletionService.Engine.TokenModel
import CompletionService.Http.Server
import CompletionService.Main
import CompletionService.Storage.Tree
import CompletionService.Proofs.Offset
import CompletionService.Proofs.Stopping
import CompletionService.Proofs.Decoding
import CompletionService.Proofs.Relay
import CompletionService.Proofs.StreamVariants
import CompletionService.Proofs.Transcript
import CompletionService.Proofs.TokenStream
import CompletionService.Proofs.AdapterIds
import CompletionService.Proofs.Exchange
import CompletionService.Proofs.Prediction
import CompletionService.Proofs.JsonShapes
import CompletionService.Proofs.PlainText
import CompletionService.Proofs.Wire
import CompletionService.Proofs.PartialOffsets
import CompletionService.Proofs.Visibility
import CompletionService.Proofs.Departure
import CompletionService.Proofs.TokenBudget
import CompletionService.Proofs.Emission
import CompletionService.Proofs.Decision
import CompletionService.Proofs.Refusal
import CompletionService.Proofs.Steps
import CompletionService.Proofs.Members
import CompletionService.Proofs.FieldTypes
import CompletionService.Proofs.Records
import CompletionService.Proofs.SuccessiveMerges
import CompletionService.Proofs.RequestGrammar
import CompletionService.Proofs.Rejection
import CompletionService.Proofs.Octets
import CompletionService.Proofs.HeldBack
import CompletionService.Proofs.Opening
import CompletionService.Proofs.JsonValues
import CompletionService.Proofs.Deliveries
