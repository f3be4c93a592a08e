import BlobTransfer.BlockId
import BlobTransfer.Text.Ascii
import BlobTransfer.Text.Blank
import BlobTransfer.Text.Decimal
import BlobTransfer.Time.Duration
import BlobTransfer.Retry.Options
import BlobTransfer.Retry.Overrides
import BlobTransfer.Time.Binary64
import BlobTransfer.Time.DurationText
import BlobTransfer.Time.Scaling
import BlobTransfer.Json.Parser
import BlobTransfer.Json.Record
import BlobTransfer.Blob.Properties
import BlobTransfer.Blob.Span
import BlobTransfer.Codec.Blob
import BlobTransfer.Codec.Options
import BlobTransfer.Upload.Options
import BlobTransfer.Text.Utf8
import BlobTransfer.Url.Basic
import BlobTransfer.Url.Parser
import BlobTransfer.Url.Redaction
import BlobTransfer.Body.Abortable
import BlobTransfer.Body.Look
import BlobTransfer.Http.Header
import BlobTransfer.Http.Request
import BlobTransfer.Http.Response
import BlobTransfer.Pipeline.UserAgent
import BlobTransfer.Body.Live
import BlobTransfer.Store.Basic
import BlobTransfer.Upload.BufferPool
import BlobTransfer.Reader.Basic
import BlobTransfer.Reader.Drain
import BlobTransfer.Reader.Script
import BlobTransfer.Log.Entry
import BlobTransfer.Pipeline.Attempt
import BlobTransfer.Pipeline.Basic
import BlobTransfer.Pipeline.Script
import BlobTransfer.Upload.Run
import BlobTransfer.Adapter.Basic
import BlobTransfer.Description.Basic
import BlobTransfer.Description.Pipeline
import BlobTransfer.Description.Transfer
import BlobTransfer.Upload.Script
import BlobTransfer.Reader.Shelf
import BlobTransfer.Reader.Use
import BlobTransfer.Proofs.Scope.Endless
import BlobTransfer.Proofs.Upload.Clock
import BlobTransfer.Proofs.Upload.Outcome
import BlobTransfer.Proofs.Reader.Delivery
import BlobTransfer.Proofs.Reader.Resumption
import BlobTransfer.Proofs.Upload.Buffers
import BlobTransfer.Proofs.Upload.FirstError
import BlobTransfer.Proofs.Upload.Progress
import BlobTransfer.Proofs.Reader.Sharing
import BlobTransfer.Proofs.Pipeline.Repetition
import BlobTransfer.Proofs.Retry.Deadline
import BlobTransfer.Store.Log
import BlobTransfer.Proofs.BlockId
import BlobTransfer.Proofs.Reader.Buffering
import BlobTransfer.Proofs.Store.Log
import BlobTransfer.Proofs.Upload.Sharing
import BlobTransfer.Proofs.Codec.Blob
import BlobTransfer.Proofs.Retry.Overrides
import BlobTransfer.Proofs.Retry.Validation
import BlobTransfer.Proofs.RoundTrip
import BlobTransfer.Proofs.Scope.Lineage
import BlobTransfer.Proofs.Scope.Forest
import BlobTransfer.Proofs.Reader.Ranges
import BlobTransfer.Pipeline.Dispatch
import BlobTransfer.Proofs.Log.Secrets
import BlobTransfer.Proofs.Reader.Moves
import BlobTransfer.Proofs.Reader.Ending
import BlobTransfer.Http.Use
import BlobTransfer.Proofs.Http.Use
import BlobTransfer.Proofs.Log.Entries
import BlobTransfer.Pipeline.Traffic
import BlobTransfer.Pipeline.Activity
import BlobTransfer.Pipeline.Policy
import BlobTransfer.Pipeline.Chain
import BlobTransfer.Proofs.Pipeline.Traffic
import BlobTransfer.Proofs.Pipeline.Numbering
import BlobTransfer.Proofs.Pipeline.Activity
import BlobTransfer.Proofs.Pipeline.Chain
import BlobTransfer.Proofs.Retry.Delay
import BlobTransfer.Proofs.Url.Parameters
import BlobTransfer.Proofs.Reader.Budget
import BlobTransfer.Proofs.Upload.Losses
import BlobTransfer.Proofs.Upload.Reports
import BlobTransfer.Proofs.Upload.Limits
import BlobTransfer.Proofs.Reader.Draining
import BlobTransfer.Proofs.Body.Abort
import BlobTransfer.Proofs.Store.Parts
import BlobTransfer.Proofs.Reader.Reasons
import BlobTransfer.Proofs.BlockOrder
import BlobTransfer.Proofs.Upload.BufferPool
