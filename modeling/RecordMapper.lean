import RecordMapper.Clause.Lexer
import RecordMapper.Decimal.Numeral
import RecordMapper.Executor.Scripted
import RecordMapper.Files.Disk
import RecordMapper.Main
import RecordMapper.Proofs.Session.Isolation
import RecordMapper.Proofs.Session.Placeholders
import RecordMapper.Proofs.Session.RoundTrip
import RecordMapper.Proofs.Value.Stored
import RecordMapper.Schema.Access
import RecordMapper.Schema.Declaration
import RecordMapper.Schema.TypeName
import RecordMapper.Session.Operation
import RecordMapper.Proofs.Executor.Protocol
import RecordMapper.Proofs.Session.Protocol
import RecordMapper.Proofs.Clause.Fragment
import RecordMapper.Proofs.Clause.History
import RecordMapper.Proofs.Clause.Outline
import RecordMapper.Proofs.Session.Values
import RecordMapper.Proofs.Clause.Reading
import RecordMapper.Proofs.Schema.Access
import RecordMapper.Proofs.Executor.Buffered
import RecordMapper.Proofs.Session.Batch
import RecordMapper.Proofs.Session.Issued
import RecordMapper.Proofs.Session.Log
import RecordMapper.Proofs.Executor.Fetched
import RecordMapper.Proofs.Schema.Row
import RecordMapper.Proofs.Session.Delivery
import RecordMapper.Proofs.Clause.Regions
import RecordMapper.Proofs.Value.Instant
import RecordMapper.Proofs.Schema.Lookup
import RecordMapper.Proofs.Session.Assignments
import RecordMapper.Proofs.Schema.Fault
import RecordMapper.Proofs.Session.Counting
import RecordMapper.Proofs.Store.ResultSet
import RecordMapper.Proofs.Schema.TypeName
import RecordMapper.Proofs.Clause.Joined
import RecordMapper.Proofs.CommandLine.Parameter
