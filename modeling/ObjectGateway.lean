import ObjectGateway.Backend.Context
import ObjectGateway.Durable.Store
import ObjectGateway.Http.Routes
import ObjectGateway.Main
import ObjectGateway.Memory.Store
import ObjectGateway.Proofs.Addresses
import ObjectGateway.Proofs.Backend.Equality
import ObjectGateway.Proofs.Backend.Failures
import ObjectGateway.Proofs.Backend.Ranges
import ObjectGateway.Proofs.Config.Overriding
import ObjectGateway.Proofs.Durable.Directories
import ObjectGateway.Proofs.Durable.Deleting
import ObjectGateway.Proofs.Durable.Headers
import ObjectGateway.Proofs.Durable.Pruning
import ObjectGateway.Proofs.Gateway.Auxiliary
import ObjectGateway.Proofs.Gateway.Cancellation
import ObjectGateway.Proofs.Gateway.Closing
import ObjectGateway.Proofs.Gateway.Creation
import ObjectGateway.Proofs.Gateway.FailFast
import ObjectGateway.Proofs.Gateway.NameSearch
import ObjectGateway.Proofs.Gateway.Ownership
import ObjectGateway.Proofs.Gateway.Removal
import ObjectGateway.Proofs.Gateway.Windows
import ObjectGateway.Proofs.Http.Harmless
import ObjectGateway.Proofs.Http.Transfer
import ObjectGateway.Proofs.Http.Uniqueness
import ObjectGateway.Proofs.Http.Verbs
import ObjectGateway.Proofs.Path.Grammar
import ObjectGateway.Proofs.Requests
import ObjectGateway.Proofs.Text.LetterCase
import ObjectGateway.Proofs.Text.Numerals
