import CrashDump.Main
import CrashDump.Cursor.Script
import CrashDump.Dump.Session
import CrashDump.Proofs.AddressSpace
import CrashDump.Proofs.RoundTrip
import CrashDump.Proofs.SlicedRecords
import CrashDump.Proofs.RestingReads
import CrashDump.Proofs.SpanReads
import CrashDump.Proofs.SoftReads
import CrashDump.Proofs.Overlaps
import CrashDump.Proofs.AppendedBytes
import CrashDump.Proofs.StreamOrder
import CrashDump.Proofs.ReaderRuns
import CrashDump.Proofs.Sessions
import CrashDump.Proofs.OneImage
import CrashDump.Proofs.SavedBlocks
import CrashDump.Proofs.ListCounts
import CrashDump.Proofs.Footprint
import CrashDump.Proofs.ClosedReaders
import CrashDump.Proofs.DumpBounds
import CrashDump.Proofs.FullReports
import CrashDump.Proofs.DeclaredSizes
import CrashDump.Proofs.RecordBytes
import CrashDump.Proofs.ParseLog
import CrashDump.Proofs.FirstMissing
import CrashDump.Proofs.ExitCodes
import CrashDump.Proofs.MemoryValues
import CrashDump.Proofs.StoredNames
import CrashDump.Proofs.HexDumps
import CrashDump.Proofs.PrintedTables
import CrashDump.Proofs.Calendar
import CrashDump.Proofs.JoinedReads
import CrashDump.Proofs.FlagTexts
import CrashDump.Proofs.ModuleLookups
