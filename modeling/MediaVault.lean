import MediaVault.Cli
import MediaVault.Digest.Crc32
import MediaVault.Image.Decoder
import MediaVault.Main
import MediaVault.Store.Faults
import MediaVault.Proofs.Pieces
import MediaVault.Proofs.Run
import MediaVault.Proofs.S3.Plan
import MediaVault.Proofs.S3.Exchange
import MediaVault.Proofs.S3.Upload
import MediaVault.Proofs.Store.Memory
import MediaVault.Proofs.Store.Observed
import MediaVault.Proofs.Store.Listing
import MediaVault.Proofs.S3.Bucket
import MediaVault.Proofs.S3.Behaved
import MediaVault.Proofs.S3.Reference
import MediaVault.Proofs.Media.Service
import MediaVault.Proofs.Media.Ingest
import MediaVault.Proofs.Media.History
import MediaVault.Proofs.Media.Agreement
import MediaVault.Proofs.Media.Backends
import MediaVault.Proofs.Access.Permission
import MediaVault.Proofs.Api.Gateway
import MediaVault.Proofs.Api.Route
import MediaVault.Proofs.Object.Key
import MediaVault.Proofs.Api.Change
import MediaVault.Proofs.Api.Authorization
import MediaVault.Proofs.Api.Trace
import MediaVault.Proofs.Api.Namespace
import MediaVault.Proofs.Access.Remote
import MediaVault.Proofs.Api.Denial
import MediaVault.Proofs.Api.ImageViews
import MediaVault.Proofs.Concurrency.Clients
import MediaVault.Proofs.Store.Signature
import MediaVault.Proofs.Concurrency.Bootstrap
import MediaVault.Proofs.Api.PostListing
import MediaVault.Proofs.Api.FreshPosts
import MediaVault.Proofs.Store.Records
import MediaVault.Proofs.Api.Lookups
import MediaVault.Proofs.Media.Lookup
import MediaVault.Proofs.Api.LostBucket
import MediaVault.Proofs.S3.Refusal
import MediaVault.Proofs.Media.Blame
import MediaVault.Proofs.Api.UploadErrors
import MediaVault.Proofs.Http.Multipart
import MediaVault.Proofs.Http.Arrival
import MediaVault.Proofs.Api.Forms
import MediaVault.Proofs.Media.Limit
import MediaVault.Proofs.Api.UploadLimit
import MediaVault.Proofs.S3.Pages
import MediaVault.Proofs.Store.PrefixScan
import MediaVault.Proofs.Delivery.Expiry
import MediaVault.Proofs.Store.Presigned
import MediaVault.Proofs.Delivery.Resolution
import MediaVault.Proofs.Delivery.Designation
import MediaVault.Proofs.Api.Descriptions
import MediaVault.Proofs.Api.FieldSelection
import MediaVault.Proofs.Object.Extension
import MediaVault.Proofs.Config.Settings
import MediaVault.Proofs.Api.Credentials
import MediaVault.Proofs.Api.ObjectHeaders
import MediaVault.Proofs.Store.Spelling
import MediaVault.Proofs.Image.Format
import MediaVault.Proofs.Api.Classification
