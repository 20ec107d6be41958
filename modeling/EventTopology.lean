import EventTopology.Http.App
import EventTopology.Log.Logger
import EventTopology.Resource.Manifest
import EventTopology.Settings.Environment
import EventTopology.Proofs.Build.Findings
import EventTopology.Proofs.Build.Contents
import EventTopology.Proofs.Build.Filing
import EventTopology.Proofs.Build.Steady
import EventTopology.Proofs.Index.Sorting
import EventTopology.Proofs.Mesh.Consumers
import EventTopology.Proofs.Mesh.Failures
import EventTopology.Proofs.Mesh.References
import EventTopology.Proofs.Key
import EventTopology.Proofs.Key.Codec
import EventTopology.Proofs.Mesh.Isolation
import EventTopology.Proofs.Mesh.Canonical
import EventTopology.Proofs.Mesh.Matching
import EventTopology.Proofs.Ending
import EventTopology.Proofs.Resource.Shape
import EventTopology.Proofs.Resource.Totality
import EventTopology.Proofs.Resource.Resolving
import EventTopology.Proofs.Build.Ending
import EventTopology.Proofs.Cluster.Typing
import EventTopology.Proofs.Build.Serving
import EventTopology.Proofs.Mesh.Errors
import EventTopology.Proofs.Mesh.Identities
import EventTopology.Proofs.Build.Lockstep
import EventTopology.Proofs.Build.Phases
import EventTopology.Proofs.Mesh.Providers
import EventTopology.Proofs.Mesh.Ordering
import EventTopology.Proofs.Mesh.Rearranging
import EventTopology.Proofs.Build.Skipping
import EventTopology.Proofs.Mesh.Malformed
import EventTopology.Proofs.Mesh.RoundTrip
import EventTopology.Proofs.Mesh.Concealing
import EventTopology.Proofs.Http.Credentials
import EventTopology.Proofs.Service.Accounting
import EventTopology.Proofs.Build.Tracing
import EventTopology.Proofs.Build.Scheduling
import EventTopology.Proofs.Mesh.Absence
import EventTopology.Proofs.Cluster.Holding
import EventTopology.Proofs.Client.Reuse
import EventTopology.Proofs.Http.Outcomes
import EventTopology.Proofs.Http.Accounting
import EventTopology.Proofs.Mesh.Sources
import EventTopology.Proofs.Resource.Spoofing
import EventTopology.Proofs.Resource.Agreement
import EventTopology.Proofs.Resource.Layouts
import EventTopology.Proofs.Resource.Declaring
import EventTopology.Proofs.Build.Discovering
import EventTopology.Proofs.Cluster.Selecting
import EventTopology.Proofs.Mesh.Telling
import EventTopology.Proofs.Cluster.Partition
import EventTopology.Proofs.Resource.Restoring
import EventTopology.Proofs.Http.Reports
