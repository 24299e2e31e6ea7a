import StatusRegistry.Proofs.Bitstring.Digits
import StatusRegistry.Proofs.Bytes.BigEndian
import StatusRegistry.Proofs.Bitstring.Slots
import StatusRegistry.Proofs.Bitstring.Words
import StatusRegistry.Proofs.Steps
import StatusRegistry.Proofs.Verification.Order
import StatusRegistry.Service.Assignment
import StatusRegistry.Store.Database
import StatusRegistry.Store.Memory
import StatusRegistry.Verification
import StatusRegistry.Proofs.Bytes.Base64Url
import StatusRegistry.Proofs.Bytes.Crc32
import StatusRegistry.Proofs.Deflate.Bits
import StatusRegistry.Proofs.Deflate.Code
import StatusRegistry.Proofs.Deflate.Format
import StatusRegistry.Proofs.Deflate.Unique
import StatusRegistry.Proofs.Deflate.Reader
import StatusRegistry.Proofs.Gzip.Format
import StatusRegistry.Proofs.Gzip.Reader
import StatusRegistry.Proofs.Deflate.Stored
import StatusRegistry.Proofs.Gzip
import StatusRegistry.Proofs.Text.Ends
import StatusRegistry.Proofs.Bitstring.EncodedList
import StatusRegistry.Proofs.Bitstring.Decoding
import StatusRegistry.Proofs.StatusList
import StatusRegistry.Proofs.Store.Tables
import StatusRegistry.Proofs.Store.Consistency
import StatusRegistry.Proofs.Wording
import StatusRegistry.Proofs.Store.StatusChange
import StatusRegistry.Proofs.Store.History
import StatusRegistry.Proofs.Service.Program
import StatusRegistry.Proofs.Service.Assignment
import StatusRegistry.Proofs.Service.Interleaving
import StatusRegistry.Proofs.Calendar
import StatusRegistry.Proofs.Instant
import StatusRegistry.Proofs.Json.Reading
import StatusRegistry.Proofs.Document.Status
import StatusRegistry.Proofs.Uuid
import StatusRegistry.Proofs.Document.Records
import StatusRegistry.Proofs.Document.Normalisation
import StatusRegistry.Proofs.Verification
import StatusRegistry.Proofs.Service.Publication
import StatusRegistry.Proofs.StatusList.Runs
import StatusRegistry.Proofs.StatusList.Validity
import StatusRegistry.Proofs.Store.Columns
import StatusRegistry.Proofs.Talk
import StatusRegistry.Proofs.Store.Session
import StatusRegistry.Proofs.Store.Transaction
import StatusRegistry.Proofs.Store.Mapping
import StatusRegistry.Proofs.Store.Missing
import StatusRegistry.Proofs.Store.Server
import StatusRegistry.Proofs.Store.Stored
import StatusRegistry.Proofs.Store.Agreement
import StatusRegistry.Proofs.Store.Holding
import StatusRegistry.Proofs.Store.Canonical
import StatusRegistry.Proofs.Service.Attempts
import StatusRegistry.Proofs.Store.Permanence
import StatusRegistry.Proofs.Service.Contention
import StatusRegistry.Proofs.Store.Groups
import StatusRegistry.Proofs.Service.Elsewhere
import StatusRegistry.Proofs.Service.Issuance
import StatusRegistry.Proofs.Service.Choice
import StatusRegistry.Proofs.Service.Clock
import StatusRegistry.Proofs.Store.Seconds
import StatusRegistry.Proofs.Url.Percent
import StatusRegistry.Proofs.Url.Host
import StatusRegistry.Proofs.Url.Authority
import StatusRegistry.Proofs.Url.Path
import StatusRegistry.Proofs.Url.Hierarchy
import StatusRegistry.Proofs.Url.Reading
import StatusRegistry.Proofs.Service.Address
import StatusRegistry.Proofs.Text.Value
import StatusRegistry.Proofs.Document.Index
import StatusRegistry.Proofs.Verification.Range
import StatusRegistry.Proofs.Verification.Messages
import StatusRegistry.Proofs.Deflate.Behind
import StatusRegistry.Proofs.Gzip.Members
import StatusRegistry.Proofs.Bitstring.Behind
