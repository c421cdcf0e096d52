import Syndication.Main
import Syndication.View.Json
import Syndication.Content.Json
import Syndication.Image.Json
import Syndication.Proofs.Attempt.Interference
import Syndication.Proofs.Attempt.Services
import Syndication.Proofs.Attempt.Success
import Syndication.Proofs.Digest.BitStream
import Syndication.Proofs.Plu.Digest
import Syndication.Proofs.Plu.Coding
import Syndication.Proofs.Plu.Emission
import Syndication.Proofs.Product.Offer
import Syndication.Proofs.Product.Progress
import Syndication.Proofs.Content.Units
import Syndication.Proofs.Content.Listing
import Syndication.Proofs.Content.Payload
import Syndication.Proofs.Store.Merging
import Syndication.Proofs.Store.History
import Syndication.Proofs.Stage.Agreement
import Syndication.Proofs.Stage.Steps
import Syndication.Proofs.Stage.Passes
import Syndication.Proofs.Stage.Success
import Syndication.Proofs.Stage.Completion
import Syndication.Proofs.Cache.Flattening
import Syndication.Proofs.Cache.Copying
import Syndication.Proofs.Cache.Contests
import Syndication.Proofs.Cache.Eviction
import Syndication.Proofs.Run.Operations
import Syndication.Proofs.Run.Soundness
import Syndication.Proofs.Run.Recovery
import Syndication.Proofs.Run.Publication
import Syndication.Proofs.Run.Interleaving
import Syndication.Proofs.Run.Versions
import Syndication.Proofs.Purge.Effect
import Syndication.Proofs.Purge.Resumption
import Syndication.Proofs.Purge.Retirement
import Syndication.Proofs.Purge.Overlap
import Syndication.Proofs.Run.Clearance
import Syndication.Proofs.Attempt.Confinement
import Syndication.Proofs.Store.Dossier
import Syndication.Proofs.Stage.Flagging
import Syndication.Proofs.Stage.Conclusion
import Syndication.Proofs.Content.Sources
import Syndication.Proofs.Stage.Isolation
import Syndication.Proofs.Cache.Accounting
import Syndication.Proofs.Stage.Repetition
import Syndication.Proofs.Plu.Canonical
import Syndication.Proofs.Text.Literal
import Syndication.Proofs.Plu.Grammar
import Syndication.Proofs.Product.Arrangement
import Syndication.Proofs.Image.Duplicates
import Syndication.Proofs.Image.Provenance
import Syndication.Proofs.Image.Missing
import Syndication.Proofs.Document.Fields
import Syndication.Proofs.Document.Stored
import Syndication.Proofs.Plu.OptionSpace
import Syndication.Proofs.Plu.FirstOffence
import Syndication.Proofs.Schedule.Desk
import Syndication.Proofs.Schedule.Laws
import Syndication.Proofs.Schedule.Office
import Syndication.Proofs.Schedule.Execution
import Syndication.Proofs.Schedule.Fairness
import Syndication.Proofs.Run.Records
import Syndication.Proofs.Purge.Aftermath
import Syndication.Proofs.Collaborator.Remembering
import Syndication.Proofs.Collaborator.Repetition
import Syndication.Proofs.Content.Naming
import Syndication.Proofs.Sequence.Insertion
import Syndication.Proofs.Collaborator.Categories
import Syndication.Proofs.Collaborator.Endpoints
