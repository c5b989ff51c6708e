import SignedQueue.Text.Unprintable
import SignedQueue.Text.Utf8
import SignedQueue.Digest.Hmac
import SignedQueue.Markup.Tree
import SignedQueue.Markup.Document
import SignedQueue.Envelope.Basic
import SignedQueue.Request.Canonical
import SignedQueue.Signature.Interleaving
import SignedQueue.Client.Basic
import SignedQueue.Call.Dispatch
import SignedQueue.Call.Interleaving
import SignedQueue.Call.Traffic
import SignedQueue.Queue.Client
import SignedQueue.Proofs.HeaderFields
import SignedQueue.Proofs.CanonicalHeaders
import SignedQueue.Proofs.Signing
import SignedQueue.Proofs.SignatureCoverage
import SignedQueue.Proofs.WebAddress
import SignedQueue.Proofs.SignedResource
import SignedQueue.Proofs.ExactlyOnce
import SignedQueue.Proofs.AbortedExchange
import SignedQueue.Proofs.TextOctets
import SignedQueue.Proofs.Base64Groups
import SignedQueue.Proofs.WrittenText
import SignedQueue.Proofs.WrittenDocument
import SignedQueue.Proofs.SentValues
import SignedQueue.Proofs.UnambiguousText
import SignedQueue.Proofs.Departure
import SignedQueue.Proofs.CustomHeaders
import SignedQueue.Proofs.Course
import SignedQueue.Proofs.Supervision
import SignedQueue.Proofs.Execution
import SignedQueue.Proofs.RequestIds
import SignedQueue.Proofs.CallOutcome
import SignedQueue.Proofs.RequestPaths
import SignedQueue.Proofs.HomeAddress
import SignedQueue.Proofs.FixedCredential
import SignedQueue.Proofs.RedactedLogs
import SignedQueue.Proofs.IndependentCalls
import SignedQueue.Proofs.HeaderStore
import SignedQueue.Proofs.LostCredential
import SignedQueue.Proofs.SeenCompletion
import SignedQueue.Proofs.HeaderPrecedence
import SignedQueue.Proofs.HeaderSpellings
import SignedQueue.Proofs.AtomicSigning
import SignedQueue.Proofs.EchoedAttributes
import SignedQueue.Proofs.CanonicalForm
import SignedQueue.Proofs.TreeOutline
import SignedQueue.Proofs.WrittenBatch
import SignedQueue.Proofs.ReceivedBatch
import SignedQueue.Proofs.AnsweredCall
import SignedQueue.Proofs.FailedItems
import SignedQueue.Proofs.DocumentOrder
import SignedQueue.Proofs.SuccessfulReplies
