import FirstCall.Main
import FirstCall.Service.Script
import FirstCall.Proofs.Operators
import FirstCall.Proofs.Guest
import FirstCall.Proofs.Course
import FirstCall.Proofs.Life
import FirstCall.Proofs.SetUp
import FirstCall.Proofs.Requests
import FirstCall.Proofs.Stores
import FirstCall.Proofs.Bookkeeping
import FirstCall.Proofs.Failure
import FirstCall.Proofs.Preparation
import FirstCall.Proofs.Files
import FirstCall.Proofs.Dumps
import FirstCall.Proofs.OpenCalls
import FirstCall.Proofs.Abandonment
import FirstCall.Proofs.Links
import FirstCall.Proofs.LinkedOperators
import FirstCall.Proofs.Agreement
import FirstCall.Proofs.Loading
import FirstCall.Proofs.Units
import FirstCall.Proofs.Placement
import FirstCall.Proofs.Silence
import FirstCall.Proofs.Opening
import FirstCall.Proofs.Alongside
import FirstCall.Proofs.Detours
import FirstCall.Proofs.Preload
import FirstCall.Proofs.Transparency
import FirstCall.Proofs.Sparing
import FirstCall.Proofs.Keeping
import FirstCall.Proofs.Lockstep
import FirstCall.Proofs.Custody
import FirstCall.Proofs.Refusals
import FirstCall.Proofs.Defenses
import FirstCall.Proofs.Verdicts
import FirstCall.Proofs.Forest
import FirstCall.Proofs.Orders
import FirstCall.Proofs.Dumpless
import FirstCall.Proofs.Accord
import FirstCall.Proofs.Interchange
import FirstCall.Proofs.Printing
import FirstCall.Proofs.ServiceMemory
import FirstCall.Proofs.Marshalling
import FirstCall.Proofs.Retrieval
import FirstCall.Proofs.Histories
import FirstCall.Proofs.Independence
import FirstCall.Proofs.Capabilities
import FirstCall.Proofs.Aftermath
import FirstCall.Proofs.SourceText
import FirstCall.Proofs.Bounds
import FirstCall.Proofs.Marks
import FirstCall.Proofs.Attribution
import FirstCall.Proofs.Trace
import FirstCall.Proofs.Diagnostics
