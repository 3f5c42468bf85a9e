import Fieldwise.Json.Reader
import Fieldwise.Proofs.Bounds
import Fieldwise.Proofs.Building
import Fieldwise.Proofs.Composing
import Fieldwise.Proofs.Equality
import Fieldwise.Proofs.Mismatch
import Fieldwise.Proofs.Reordering
import Fieldwise.Proofs.RuleText.Joining
import Fieldwise.Proofs.RuleText.Normalising
import Fieldwise.Proofs.RuledFields
import Fieldwise.Proofs.SessionRun
import Fieldwise.Proofs.Sharing
import Fieldwise.Proofs.Storage
import Fieldwise.Proofs.TextForms
import Fieldwise.Proofs.Urls
import Fieldwise.Registry
import Fieldwise.Proofs.CharacterFormats
import Fieldwise.Proofs.Emails
import Fieldwise.Proofs.Calendar.Days
import Fieldwise.Proofs.Calendar.Written
import Fieldwise.Proofs.Overrides
import Fieldwise.Proofs.Calendar.Instants
import Fieldwise.Proofs.Calendar.DateTexts
import Fieldwise.Proofs.Calendar.Blameless
import Fieldwise.Proofs.Calendar.Layouts
import Fieldwise.Proofs.Appending
import Fieldwise.Proofs.Accounting
import Fieldwise.Proofs.Combining
import Fieldwise.Proofs.Json.RoundTrip
import Fieldwise.Proofs.Addresses
import Fieldwise.Proofs.Json.Integers
import Fieldwise.Proofs.NumberTexts
