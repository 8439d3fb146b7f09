import CrateSync.Main
import CrateSync.Proofs.Sync.History
import CrateSync.Proofs.Sync.SecondRun
import CrateSync.Proofs.Sync.Truth
import CrateSync.Proofs.Sync.AnyOrder
import CrateSync.Proofs.Sync.Names
import CrateSync.Proofs.Console.Markup
import CrateSync.Proofs.Console.Presentable
import CrateSync.Proofs.Command.Presentation
import CrateSync.Proofs.Command.Formats
import CrateSync.Proofs.Command.Tests
import CrateSync.Proofs.Text.Lines
import CrateSync.Proofs.Text.Numeral
import CrateSync.Proofs.Console.Json
import CrateSync.Proofs.Command.Answer
import CrateSync.Proofs.Manifest.Rework
import CrateSync.Proofs.Toml.Locality
import CrateSync.Proofs.Toml.Statements
import CrateSync.Proofs.Toml.Update
import CrateSync.Proofs.Toml.Effect
import CrateSync.Proofs.Toml.LeaveOut
import CrateSync.Proofs.Toml.Entries
import CrateSync.Proofs.Manifest.Reading
import CrateSync.Proofs.Manifest.Spread
import CrateSync.Proofs.Manifest.Meaning
import CrateSync.Proofs.Toml.PlainLine
import CrateSync.Proofs.Toml.PlainStatement
import CrateSync.Proofs.Manifest.Recognition
import CrateSync.Proofs.Manifest.Plain
import CrateSync.Proofs.TestRun.Setting
import CrateSync.Proofs.Manifest.Pairs
import CrateSync.Proofs.Manifest.Cut
import CrateSync.Proofs.Manifest.Settled
import CrateSync.Proofs.Config.Template
import CrateSync.Proofs.Patch
import CrateSync.Proofs.License.Notice
import CrateSync.Proofs.Config.License
import CrateSync.Proofs.Command.Document
