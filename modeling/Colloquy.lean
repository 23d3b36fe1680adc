import Colloquy.Main
import Colloquy.Paging.Drain
import Colloquy.Proofs.CommandLine.Reading
import Colloquy.Proofs.Paging.Drain
import Colloquy.Proofs.Paging.RoundTrip
import Colloquy.Proofs.Service.Announcement
import Colloquy.Proofs.Service.Isolation
import Colloquy.Proofs.Store.Drain
import Colloquy.Proofs.Store.Keeping
import Colloquy.Proofs.Store.KeyOrder
import Colloquy.Proofs.Store.Tally
import Colloquy.Proofs.Store.History
import Colloquy.Proofs.Store.Integrity
import Colloquy.Proofs.Store.Overwrite
import Colloquy.Proofs.Service.Refusal
import Colloquy.Proofs.Service.Validity
import Colloquy.Proofs.CommandLine.Effect
import Colloquy.Proofs.Store.Filter
import Colloquy.Proofs.Service.Fresh
import Colloquy.Proofs.Store.Refusal
import Colloquy.Proofs.Service.Fault
import Colloquy.Proofs.Store.Admission
import Colloquy.Proofs.Store.Batch
import Colloquy.Proofs.Store.Identity
import Colloquy.Proofs.Record.RoundTrip
import Colloquy.CommandLine.Spelling
import Colloquy.Proofs.CommandLine.Spelling
import Colloquy.CommandLine.Paging
import Colloquy.Proofs.CommandLine.Continuation
import Colloquy.Proofs.CommandLine.Paging
