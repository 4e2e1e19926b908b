import DeviceSync.Http.Line
import DeviceSync.Main
import DeviceSync.Proofs.Credential.Provenance
import DeviceSync.Proofs.Credential.PublicKey
import DeviceSync.Proofs.Http.Readable
import DeviceSync.Proofs.Manifest.Digest
import DeviceSync.Proofs.Manifest.Log
import DeviceSync.Proofs.Profile.ArrivalOrder
import DeviceSync.Proofs.Profile.Coherence
import DeviceSync.Proofs.Profile.Custody
import DeviceSync.Proofs.Profile.Delivery
import DeviceSync.Proofs.Profile.Fields
import DeviceSync.Proofs.Profile.Maximum
import DeviceSync.Proofs.Profile.Preference
import DeviceSync.Proofs.Profile.Refusal
import DeviceSync.Proofs.Profile.Replica
import DeviceSync.Proofs.Profile.Retry
import DeviceSync.Proofs.Profile.Updates
import DeviceSync.Proofs.Service.Balance
import DeviceSync.Proofs.Service.Start
import DeviceSync.Proofs.Service.Traversal
import DeviceSync.Proofs.Settings.Variables
