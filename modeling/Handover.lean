import Handover.Text.Blank
import Handover.Text.Directive
import Handover.Text.Hex
import Handover.Text.LetterCase
import Handover.Text.Printable
import Handover.Text.Quoted
import Handover.Failure
import Handover.File.Tree
import Handover.Interface.Decl
import Handover.Interface.Parser
import Handover.Interface.Primitive
import Handover.Interface.Token
import Handover.Interface.Words
import Handover.Wit
import Handover.Text.Suffix
import Handover.Text.Utf8
import Handover.Header.CClass
import Handover.Header.CType
import Handover.Header.Code
import Handover.Header.Scope
import Handover.Slot
import Handover.Script.Reference
import Handover.Wasm.Binary
import Handover.Wasm.Instr
import Handover.Wasm.Leb128
import Handover.Wasm.Module
import Handover.Wasm.ValType
import Handover.Live.Backend
import Handover.Live.Table
import Handover.Log.Record
import Handover.Object.Holder
import Handover.Object.Payload
import Handover.Object.Proxy
import Handover.Object.World
import Handover.Wasm.Program
import Handover.Wasm.Run
import Handover.Wasm.Typing
import Handover.Decimal.Notation
import Handover.Decimal.Shortest
import Handover.Entry
import Handover.Host.Boundary
import Handover.Host.Engine
import Handover.Host.Result
import Handover.Script.File
import Handover.Toml.Numeral
import Handover.Toml.Quoted
import Handover.Settings
import Handover.Toml.Document
import Handover.Toml.Statement
import Handover.Foreign
import Handover.Log.Line
import Handover.Text.Duration
import Handover.Text.JsonString
import Handover.Trace
import Handover.CommandLine.App
import Handover.CommandLine.Flags
import Handover.CommandLine.Invocation
import Handover.Terminal.Field
import Handover.Terminal.Model
import Handover.Log.Stamp
import Handover.Main
import Handover.Text.BreakClass
import Handover.Text.Glyph
import Handover.Text.Wrap
import Handover.Grid
import Handover.Proofs.LiveTable
import Handover.Proofs.Actions
import Handover.Proofs.Holders
import Handover.Proofs.Keeping
import Handover.Proofs.Bench
import Handover.Proofs.Accounts
import Handover.Proofs.Guest
import Handover.Proofs.Confinement
import Handover.Proofs.HandingOver
import Handover.Proofs.Leb128
import Handover.Proofs.Utf8
import Handover.Proofs.ModuleRoundTrip
import Handover.Proofs.Grammar
import Handover.Proofs.Methods
import Handover.Proofs.Declarations
import Handover.Proofs.Layout
import Handover.Proofs.Spelling
import Handover.Proofs.SourceBytes
import Handover.Proofs.SourceLines
import Handover.Proofs.EventLog
import Handover.Proofs.TableLayout
import Handover.Proofs.NameStyles
import Handover.Proofs.HeaderNames
import Handover.Proofs.Building
import Handover.Proofs.Indices
import Handover.Proofs.Independence
import Handover.Proofs.Instructions
import Handover.Proofs.ReferenceScript
import Handover.Proofs.Linking
import Handover.Proofs.Stability
import Handover.Proofs.ForeignOwnership
import Handover.Proofs.Custody
import Handover.Proofs.Session
import Handover.Proofs.Resolution
import Handover.Proofs.Offences
import Handover.Proofs.TypeAgreement
import Handover.Proofs.SelfContainment
import Handover.Proofs.Release
import Handover.Proofs.Reordering
import Handover.Proofs.Streaming
import Handover.Proofs.Leftovers
