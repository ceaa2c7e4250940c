import AsyncReports.Script
import AsyncReports.Session
import AsyncReports.ReportJob.Listing
import AsyncReports.Log.Output
import AsyncReports.Settings.Load
import AsyncReports.Proofs.ReportJob
import AsyncReports.Proofs.Job.Tree
import AsyncReports.Proofs.Job.Submission
import AsyncReports.Proofs.Batch
import AsyncReports.Proofs.Job.Polling
import AsyncReports.Proofs.Batch.Rounds
import AsyncReports.Proofs.Job.Heir
import AsyncReports.Proofs.Manager.Filling
import AsyncReports.Proofs.Manager.Passes
import AsyncReports.Proofs.Manager.Calls
import AsyncReports.Proofs.Manager.Custody
import AsyncReports.Proofs.Manager.Ending
import AsyncReports.Proofs.Manager.Conduct
import AsyncReports.Proofs.ReportJob.Desk
import AsyncReports.Proofs.ReportJob.Isolation
import AsyncReports.Proofs.Job.Rows
import AsyncReports.Proofs.Manager.Handover
import AsyncReports.Proofs.Requests
import AsyncReports.Proofs.Job.Attempts
import AsyncReports.Proofs.Manager.Course
import AsyncReports.Proofs.Manager.Admission
import AsyncReports.Proofs.Manager.Attempts
import AsyncReports.Proofs.Manager.RoundTrips
import AsyncReports.Proofs.Ends
import AsyncReports.Proofs.Waiting
import AsyncReports.Proofs.Dealings
import AsyncReports.Proofs.Job.Addressing
import AsyncReports.Proofs.Job.Tasks
import AsyncReports.Proofs.Job.Progress
import AsyncReports.Proofs.Job.Engaging
import AsyncReports.Proofs.Tallying
import AsyncReports.Proofs.Wary
import AsyncReports.Proofs.Manager.Progress
import AsyncReports.Proofs.Manager.Termination
import AsyncReports.Proofs.ReportJob.Ended
import AsyncReports.Proofs.ReportJob.Submissions
import AsyncReports.Proofs.Job.Agreement
import AsyncReports.Proofs.Manager.Standstill
import AsyncReports.Proofs.Job.Flattening
import AsyncReports.Proofs.Manager.Coverage
import AsyncReports.Proofs.Manager.Starvation
import AsyncReports.Proofs.Manager.Partition
import AsyncReports.Proofs.Job.Chunks
import AsyncReports.Proofs.Bytes
import AsyncReports.Proofs.Splitting
import AsyncReports.Proofs.Job.Sweep
import AsyncReports.Proofs.Job.Restarting
import AsyncReports.Proofs.Job.Retrying
import AsyncReports.Proofs.ReportJob.Resuming
import AsyncReports.Proofs.Calendar
import AsyncReports.Proofs.Lifecycle
import AsyncReports.Proofs.Probe
import AsyncReports.Proofs.Date.Text
import AsyncReports.Proofs.Decoding
import AsyncReports.Proofs.Documents
import AsyncReports.Proofs.Params
import AsyncReports.Proofs.Windows
import AsyncReports.Proofs.Settings.Loading
