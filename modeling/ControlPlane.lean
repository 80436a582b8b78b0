import ControlPlane.Authority.Deadlock
import ControlPlane.Commands.Admission
import ControlPlane.Coordinator.Staging
import ControlPlane.Domains.EmailSafety
import ControlPlane.Domains.Safety
import ControlPlane.Generations.Digest
import ControlPlane.Generations.IdentityConfig
import ControlPlane.Invoices.Amounts
import ControlPlane.Mail.Journal
import ControlPlane.Mail.Reports
import ControlPlane.Mail.Submission
import ControlPlane.Memberships.Ownership
import ControlPlane.Publications.PublicationSafety
import ControlPlane.Publications.Recoverability
import ControlPlane.Rehearsals.Receipts
import ControlPlane.Releases.Forward
import ControlPlane.Releases.Prior
import ControlPlane.Routes.Consumers
import ControlPlane.Routes.Hostnames
import ControlPlane.Routes.Readmission
import ControlPlane.Worker.DeadLetter
