import Debuggee.Action
import Debuggee.Address
import Debuggee.Arch
import Debuggee.Arch.InstructionSet
import Debuggee.Arch.Name
import Debuggee.Arch.Registers
import Debuggee.Arch.Word
import Debuggee.Assoc
import Debuggee.Auxv
import Debuggee.Auxv.Listing
import Debuggee.Auxv.Stack
import Debuggee.Boundary
import Debuggee.Cache
import Debuggee.Cache.Bank
import Debuggee.Chunk
import Debuggee.CommandLine
import Debuggee.CommandLine.Arguments
import Debuggee.Config
import Debuggee.Debugger
import Debuggee.Descriptor
import Debuggee.Engine
import Debuggee.Engine.Faults
import Debuggee.Engine.Machine
import Debuggee.Engine.Recorder
import Debuggee.Engine.Scene
import Debuggee.Engine.Store
import Debuggee.Error
import Debuggee.Event
import Debuggee.Event.Counted
import Debuggee.Event.Registry
import Debuggee.Expression
import Debuggee.Logging
import Debuggee.Main
import Debuggee.Mapping
import Debuggee.Memory
import Debuggee.Observer
import Debuggee.Process
import Debuggee.Proofs.Along
import Debuggee.Proofs.Concur
import Debuggee.Proofs.Engine.Mirrors
import Debuggee.Proofs.Registers.Mirrored
import Debuggee.Proofs.Engine.Numbered
import Debuggee.Proofs.Registers.Live
import Debuggee.Proofs.Registers.Remembered
import Debuggee.Ptid
import Debuggee.RegisterSet
import Debuggee.RegisterSet.Flag
import Debuggee.Registers
import Debuggee.Selection
import Debuggee.Terminal
import Debuggee.Text.Blank
import Debuggee.Text.Case
import Debuggee.Text.Letter
import Debuggee.Text.Numeral
import Debuggee.Text.Path
import Debuggee.Text.Quoted
import Debuggee.Text.Ranges
import Debuggee.Text.Search
import Debuggee.Text.Utf8
import Debuggee.Watch
import Debuggee.Workbench
import Debuggee.Proofs.Registers.Run
import Debuggee.Proofs.Engine.Machine
import Debuggee.Proofs.Debugger.Attachment
import Debuggee.Proofs.Registers.Changes
import Debuggee.Proofs.Event.Deed
import Debuggee.Proofs.Event.Delivery
import Debuggee.Proofs.Selection
import Debuggee.Proofs.Registers.Again
import Debuggee.Proofs.Registers.Reselection
import Debuggee.Proofs.Registers.Bases
import Debuggee.Proofs.Engine.Still
import Debuggee.Proofs.Engine.Question
import Debuggee.Proofs.Auxv.Words
import Debuggee.Proofs.Auxv.Quiet
import Debuggee.Proofs.Auxv.Walk
import Debuggee.Proofs.Auxv.Recovery
import Debuggee.Proofs.Auxv.StartStack
import Debuggee.Proofs.Memory.Pieces
import Debuggee.Proofs.Memory.Prefix
import Debuggee.Proofs.Memory.LeadingRun
import Debuggee.Proofs.Debugger.Setup
import Debuggee.Proofs.Debugger.Snapshot
import Debuggee.Proofs.Registers.History
import Debuggee.Proofs.Debugger.Duties
import Debuggee.Proofs.Debugger.Course
import Debuggee.Proofs.Cache.Ledger
import Debuggee.Proofs.Debugger.Roster
import Debuggee.Proofs.Debugger.Session
import Debuggee.Proofs.Auxv.Sources
import Debuggee.Proofs.Boundary.Reach
import Debuggee.Proofs.Boundary.StackTop
import Debuggee.Proofs.Memory.Written
import Debuggee.Proofs.Boundary.Agreement
import Debuggee.Proofs.Memory.Strings
import Debuggee.Proofs.Memory.Scalars
import Debuggee.Proofs.Loop
import Debuggee.Proofs.Auxv.Trail
import Debuggee.Proofs.Auxv.FileName
import Debuggee.Proofs.Arch.Word
import Debuggee.Proofs.Arch.Packing
import Debuggee.Proofs.Expression
import Debuggee.Proofs.Engine.Stored
import Debuggee.Proofs.Registers.Written
import Debuggee.Proofs.Registers.Spelling
import Debuggee.Proofs.Text.Words
import Debuggee.Proofs.Text.Numeral
import Debuggee.Proofs.Auxv.Listing
import Debuggee.Proofs.Event.Budget
import Debuggee.Proofs.Event.Identity
import Debuggee.Proofs.Registers.Normal
import Debuggee.Proofs.Registers.Range
import Debuggee.Proofs.Occurrences
import Debuggee.Proofs.RegisterSet.Enumeration
import Debuggee.Proofs.RegisterSet.Fields
import Debuggee.Proofs.Auxv.Entries
import Debuggee.Proofs.Registers.Telling
import Debuggee.Proofs.Debugger.Sequel
import Debuggee.Proofs.Debugger.Resizes
import Debuggee.Proofs.Selection.Absent
import Debuggee.Proofs.Boundary.Probes
import Debuggee.Proofs.Text.Blank
import Debuggee.Proofs.CommandLine.Number
import Debuggee.Proofs.Process.PastCommands
import Debuggee.Proofs.Text.Path
import Debuggee.Proofs.Text.Case
import Debuggee.Proofs.RegisterSet.Rendering
import Debuggee.Proofs.Auxv.NameScan
