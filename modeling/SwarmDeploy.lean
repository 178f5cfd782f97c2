import SwarmDeploy.Main
import SwarmDeploy.Orchestrator.Simulated
import SwarmDeploy.Proofs.Image.Qualified
import SwarmDeploy.Proofs.Image.NormalForm
import SwarmDeploy.Proofs.Deployment.Course
import SwarmDeploy.Proofs.Compile.Binding
import SwarmDeploy.Proofs.Deployment.CallProtocol
import SwarmDeploy.Proofs.Deployment.Prediction
import SwarmDeploy.Proofs.Base64
import SwarmDeploy.Proofs.Json.Written
import SwarmDeploy.Proofs.Json.Lexeme
import SwarmDeploy.Proofs.Json.Faithful
import SwarmDeploy.Proofs.Json.Record
import SwarmDeploy.Proofs.Registry.Login
import SwarmDeploy.Proofs.Registry.Address
import SwarmDeploy.Proofs.Image.Pattern
import SwarmDeploy.Proofs.Image.Parts
import SwarmDeploy.Proofs.Image.Host
import SwarmDeploy.Proofs.Registry.Credentials
import SwarmDeploy.Proofs.Service.Wire
import SwarmDeploy.Proofs.Orchestrator.Serving
import SwarmDeploy.Proofs.Deployment.Interchange
import SwarmDeploy.Proofs.Json.Settled
import SwarmDeploy.Proofs.Service.RoundTrip
import SwarmDeploy.Proofs.Request
import SwarmDeploy.Proofs.Orchestrator.Recording
import SwarmDeploy.Proofs.Server.Accounting
import SwarmDeploy.Proofs.Server.Secrecy
import SwarmDeploy.Proofs.Compile.Labels
import SwarmDeploy.Proofs.Quantity.Range
import SwarmDeploy.Proofs.Compile.Findings
import SwarmDeploy.Proofs.Compile.Hints
import SwarmDeploy.Proofs.Orchestrator.Telling
import SwarmDeploy.Proofs.Deployment.Log
import SwarmDeploy.Proofs.Settings.Document
import SwarmDeploy.Proofs.Launch.Arguments
import SwarmDeploy.Proofs.Launch.EnvFile
import SwarmDeploy.Proofs.Launch.Precedence
import SwarmDeploy.Proofs.Registry.BasicCredentials
import SwarmDeploy.Proofs.Image.Completeness
import SwarmDeploy.Proofs.Image.Spelling
import SwarmDeploy.Proofs.Number.Magnitude
import SwarmDeploy.Proofs.Quantity.Spelling
import SwarmDeploy.Proofs.Number.Rounding
import SwarmDeploy.Proofs.Quantity.Limits
import SwarmDeploy.Proofs.Number.IntegerText
import SwarmDeploy.Proofs.Registry.Port
import SwarmDeploy.Proofs.Registry.SpelledOut
import SwarmDeploy.Proofs.Compile.Replicas
import SwarmDeploy.Proofs.Deployment.Failures
import SwarmDeploy.Proofs.Text.Ends
import SwarmDeploy.Proofs.Orchestrator.Host
import SwarmDeploy.Proofs.Compile.Secrets
import SwarmDeploy.Proofs.Compile.Environment
import SwarmDeploy.Proofs.Compile.Coherence
import SwarmDeploy.Proofs.Orchestrator.Filters
import SwarmDeploy.Proofs.Json.Blanks
import SwarmDeploy.Proofs.Launch.DryRun
import SwarmDeploy.Proofs.Settings.Json
import SwarmDeploy.Proofs.Yaml.Document
