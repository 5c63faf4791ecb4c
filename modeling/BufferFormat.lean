import BufferFormat.CommandLine.Render
import BufferFormat.Host.Memory
import BufferFormat.Main
import BufferFormat.Proofs.Text.Utf8
import BufferFormat.Proofs.Encoding.CodePage
import BufferFormat.Proofs.Text.Utf16
import BufferFormat.Proofs.Encoding.Label
import BufferFormat.Proofs.Encoding.RoundTrip
import BufferFormat.Proofs.Host.Memory
import BufferFormat.Proofs.Host.Reading
import BufferFormat.Proofs.FileSystem
import BufferFormat.Proofs.Host.Writing
import BufferFormat.Proofs.Config.Precedence
import BufferFormat.Proofs.Config.Executable
import BufferFormat.Proofs.Batch.Frame
import BufferFormat.Proofs.Encoding.Index
import BufferFormat.Proofs.Encoding.Japanese
import BufferFormat.Proofs.Encoding.Gb18030
import BufferFormat.Proofs.Encoding.DoubleByte
import BufferFormat.Proofs.Encoding.ReadBack
import BufferFormat.Proofs.Encoding.Blank
import BufferFormat.Proofs.Host.Echo
import BufferFormat.Proofs.Locale
import BufferFormat.Proofs.Host.Stability
import BufferFormat.Proofs.Batch.Ending
import BufferFormat.Proofs.Batch.Piping
import BufferFormat.Proofs.Batch.Sight
import BufferFormat.Proofs.Batch.Report
import BufferFormat.Proofs.Batch.Unavailable
import BufferFormat.Proofs.Batch.Interleaving
import BufferFormat.Proofs.Batch.Parallel
import BufferFormat.Proofs.Text.Search
import BufferFormat.Proofs.Text.Lossy
import BufferFormat.Proofs.Text.Split
import BufferFormat.Proofs.Encoding.Declaration
import BufferFormat.Proofs.Host.Faults
import BufferFormat.Proofs.Host.Heading
import BufferFormat.Proofs.Host.EmptyDiff
import BufferFormat.Proofs.Formatter.Classification
import BufferFormat.Proofs.Path
import BufferFormat.Proofs.FileSystem.Spelling
import BufferFormat.Proofs.FileSystem.AgreeExcept
import BufferFormat.Proofs.FileSystem.Evaluation
import BufferFormat.Proofs.Config.Spelling
import BufferFormat.Proofs.Batch.Listing
import BufferFormat.Proofs.Batch.Stray
import BufferFormat.Proofs.Config.Discovery
import BufferFormat.Proofs.FileSystem.Tree
import BufferFormat.Proofs.Batch.Walk
import BufferFormat.Proofs.Batch.Repetition
import BufferFormat.Proofs.Formatter.WorkingDirectory
import BufferFormat.Proofs.Text.Decimal
import BufferFormat.Proofs.Formatter.Arguments
import BufferFormat.Proofs.Encoding.Separators
import BufferFormat.Proofs.Config.Whole
import BufferFormat.Proofs.CommandLine.Rendering
import BufferFormat.Proofs.Toml.Written
import BufferFormat.Proofs.Config.LineLength
import BufferFormat.Proofs.Formatter.Search
