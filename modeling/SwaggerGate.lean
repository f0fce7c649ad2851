import SwaggerGate.Main
import SwaggerGate.Gate
import SwaggerGate.Response
import SwaggerGate.Json.Form
import SwaggerGate.Proofs.Batch
import SwaggerGate.Proofs.Brackets
import SwaggerGate.Proofs.Captures
import SwaggerGate.Proofs.Compilation
import SwaggerGate.Proofs.Contributions
import SwaggerGate.Proofs.Delimited
import SwaggerGate.Proofs.Encoding
import SwaggerGate.Proofs.Expansion
import SwaggerGate.Proofs.Gate
import SwaggerGate.Proofs.Inlining
import SwaggerGate.Proofs.Loading
import SwaggerGate.Proofs.Locations
import SwaggerGate.Proofs.Missing
import SwaggerGate.Proofs.Models
import SwaggerGate.Proofs.Nullable
import SwaggerGate.Proofs.Options
import SwaggerGate.Proofs.Overlong
import SwaggerGate.Proofs.Parameters
import SwaggerGate.Proofs.Payload
import SwaggerGate.Proofs.Permutation
import SwaggerGate.Proofs.Precedence
import SwaggerGate.Proofs.Publication
import SwaggerGate.Proofs.Query
import SwaggerGate.Proofs.Relaxation
import SwaggerGate.Proofs.Relevance
import SwaggerGate.Proofs.Routing
import SwaggerGate.Proofs.Scalar
import SwaggerGate.Proofs.Schema.Worklist
import SwaggerGate.Proofs.Target
