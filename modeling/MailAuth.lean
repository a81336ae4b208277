import MailAuth.Header.Preamble
import MailAuth.Header.Reading
import MailAuth.Proofs.Accounted
import MailAuth.Proofs.ArcHeader
import MailAuth.Proofs.CanonicalVerdict
import MailAuth.Proofs.ErrorEvents
import MailAuth.Proofs.Joined
import MailAuth.Proofs.LogEntries
import MailAuth.Proofs.Lookup
import MailAuth.Proofs.ReadError
import MailAuth.Proofs.ReadProperty
import MailAuth.Proofs.Rebuilt
import MailAuth.Proofs.RoundTrip
import MailAuth.Proofs.SameBody
import MailAuth.Proofs.Service
import MailAuth.Proofs.StatedResult
import MailAuth.Proofs.Text.ByteOrder
import MailAuth.Proofs.Text.LetterCase
import MailAuth.Proofs.Written.Distinct
