import ServicePlan.Main
import ServicePlan.Proofs.Naming
import ServicePlan.Proofs.Service
import ServicePlan.Proofs.Planned
import ServicePlan.Proofs.Api
import ServicePlan.Proofs.FunctionPlan
import ServicePlan.Proofs.Calls
import ServicePlan.Proofs.Authorization
import ServicePlan.Proofs.Locality
import ServicePlan.Proofs.Growth
import ServicePlan.Proofs.Layout
import ServicePlan.Proofs.Journal
import ServicePlan.Proofs.RouteKeys
import ServicePlan.Proofs.Json.Substitution
import ServicePlan.Proofs.Preparation
import ServicePlan.Proofs.IdentityPolicies
import ServicePlan.Proofs.Tokens
import ServicePlan.Proofs.Network
import ServicePlan.Proofs.Schema.Services
import ServicePlan.Proofs.Limits
import ServicePlan.Proofs.PlanText
import ServicePlan.Proofs.History
import ServicePlan.Proofs.Confidentiality
import ServicePlan.Proofs.Circles
import ServicePlan.Proofs.QueueWiring
import ServicePlan.Proofs.OnePass
import ServicePlan.Proofs.ApiName
import ServicePlan.Proofs.Layers
import ServicePlan.Proofs.Issuers
import ServicePlan.Proofs.SpecValues
import ServicePlan.Proofs.JobGroups
import ServicePlan.Proofs.Environments
import ServicePlan.Proofs.RootPath
import ServicePlan.Proofs.SubDomains
import ServicePlan.Proofs.Stages
import ServicePlan.Proofs.Blocks
import ServicePlan.Proofs.Runs
import ServicePlan.Proofs.Identity
import ServicePlan.Proofs.ManagedPolicies
import ServicePlan.Proofs.TokenScan
import ServicePlan.Proofs.Operations
