import NetIdentity.Chain
import NetIdentity.Record.Canonical
import NetIdentity.Store.Calls
import NetIdentity.Proofs.Creation
import NetIdentity.Proofs.Effects
import NetIdentity.Proofs.Deeds
import NetIdentity.Proofs.Refinement
import NetIdentity.Proofs.Uniqueness
import NetIdentity.Proofs.Custody
import NetIdentity.Proofs.Representation
import NetIdentity.Proofs.Conservation
import NetIdentity.Proofs.Establishing
import NetIdentity.Proofs.Immutability
import NetIdentity.Proofs.Announcements
import NetIdentity.Proofs.StoredForm
import NetIdentity.Proofs.Answers
import NetIdentity.Proofs.Noninterference
import NetIdentity.Proofs.StoreHistories
import NetIdentity.Proofs.Reading
import NetIdentity.Proofs.Refusals
import NetIdentity.Proofs.Funding
import NetIdentity.Proofs.Clients
import NetIdentity.Proofs.Atomicity
import NetIdentity.Proofs.Amending
import NetIdentity.Proofs.Addressing
import NetIdentity.Proofs.TornRecords
import NetIdentity.Proofs.Splitting
import NetIdentity.Proofs.Publication
import NetIdentity.Proofs.Independence
import NetIdentity.Proofs.Readers
import NetIdentity.Proofs.WrittenForm
