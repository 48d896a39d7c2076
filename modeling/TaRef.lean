import TaRef.Library.Machine
import TaRef.Library.Block
import TaRef.Library.Cbc
import TaRef.Library.Gcm
import TaRef.Library.GcmParts
import TaRef.Library.Memory
import TaRef.Library.LittleEndian
import TaRef.Library.Splice
import TaRef.Library.Heap
import TaRef.Handle
import TaRef.Crypto.Mbedtls
import TaRef.Crypto.Reference
import TaRef.Storage.Host
import TaRef.Storage.Edge
import TaRef.Storage.Object
import TaRef.Storage.Keystone
import TaRef.Storage.Sgx
import TaRef.Storage.Run
import TaRef.Storage.Start
import TaRef.Storage.Specification
import TaRef.Storage.CompleteWrite
import TaRef.Library.Reader
import TaRef.Storage.Session
import TaRef.Storage.RoundTrip
import TaRef.Storage.FailedCall
import TaRef.Storage.ObjectStore
import TaRef.Storage.Refinement
import TaRef.Storage.RefinedTransfers
import TaRef.Storage.RefinedCalls
import TaRef.Storage.PlatformAgreement
import TaRef.Crypto.Bundled
import TaRef.Crypto.Instances
import TaRef.Crypto.Traced
import TaRef.Crypto.Hash
import TaRef.Crypto.Blockwise
import TaRef.Operation.Handle
import TaRef.Operation.Backend
import TaRef.Operation.Api
import TaRef.Operation.Run
import TaRef.Operation.Specification
import TaRef.Operation.ModeSeparation
import TaRef.Operation.CbcSession
import TaRef.Operation.CipherActivity
import TaRef.Operation.GcmSession
import TaRef.Operation.AeStates
import TaRef.Operation.Keystream
import TaRef.Operation.World
import TaRef.Operation.KeyHistory
import TaRef.Operation.KeyProvenance
import TaRef.Operation.SignatureAgreement
import TaRef.Operation.UnverifiedPlaintext
import TaRef.Operation.AeSession
import TaRef.Operation.ChunkedMessages
import TaRef.Operation.ChunkedAads
import TaRef.Operation.OutputCapacity
import TaRef.Operation.LibraryFailure
import TaRef.Operation.DigestSession
import TaRef.Operation.DigestReuse
import TaRef.Storage.HostileHost
import TaRef.Storage.ExactTransfer
import TaRef.Storage.FailedOpen
import TaRef.Storage.StaleHandle
import TaRef.Storage.ReadOutcome
import TaRef.Storage.Isolation
import TaRef.Storage.ReadOnlyOpen
import TaRef.Storage.PrefixOverwrite
import TaRef.Random
import TaRef.SystemTime
import TaRef.SeededRandom
import TaRef.Trace
import TaRef.Profiler.Recorder
import TaRef.Profiler.BufferBound
import TaRef.Profiler.Analyzer
import TaRef.Profiler.LogSafety
import TaRef.Library.Nesting
import TaRef.Profiler.NestedLog
import TaRef.Library.CircularList
import TaRef.Profiler.NmParse
import TaRef.Profiler.NmListing
import TaRef.Profiler.SymbolTable
import TaRef.Profiler.SymbolLookup
import TaRef.Profiler.Calls
import TaRef.Profiler.EndToEnd
import TaRef.Printf.Vsnprintf
import TaRef.Printf.Characters
import TaRef.Printf.Buffer
import TaRef.Printf.Grammar
import TaRef.Printf.Format
import TaRef.Printf.Integers
import TaRef.Printf.Messages
import TaRef.Printf.PrintBuffer
import TaRef.Programs.Process
import TaRef.Programs.Storage
import TaRef.Programs.SecureStorage
import TaRef.Programs.MessageDigest
import TaRef.Programs.DigestService
import TaRef.Programs.Cryptography
import TaRef.Programs.SymmetricKey
import TaRef.Programs.AsymmetricKey
import TaRef.Programs.TestSuite
import TaRef.Library.Stride
import TaRef.Programs.MemoryBenchmark
import TaRef.Programs.Recording
import TaRef.Profiler.Optee
