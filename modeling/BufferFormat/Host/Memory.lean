import BufferFormat.Session

/-!
# A host in memory

A host that keeps its buffer in memory and records everything that a run asked of it.

## Main definitions

* `Panel`: A diff that was shown.
* `MemoryHost`: The buffer, its surroundings and the records.
* `MemoryHost.perform`: Carrying out an action.
* `MemoryHost.runWith`: A run over the buffer with any formatter, with its result.
* `MemoryHost.run`: A run with the formatter that the world holds.
-/

namespace BufferFormat

/-- A text that was shown beside the buffer. -/
structure Panel where
  label : String
  text : String
  highlighting : String
  deriving DecidableEq, Repr

/-- A host in memory. -/
structure MemoryHost where
  buffer : Buffer
  file : Option Path := none
  folders : List Path := []
  notifications : List String := []
  panels : List Panel := []
  /-- How often the buffer was replaced. -/
  replacements : Nat := 0
  deriving DecidableEq, Repr

namespace MemoryHost

/-- What a run reads. -/
def view (h : MemoryHost) : View :=
  ⟨h.buffer, h.file, h.folders⟩

/-- Replace the whole text. -/
def replaceText (h : MemoryHost) (text : String) : MemoryHost :=
  { h with buffer := { h.buffer with text }, replacements := h.replacements + 1 }

/-- Show a message. -/
def notify (h : MemoryHost) (message : String) : MemoryHost :=
  { h with notifications := h.notifications ++ [message] }

/-- Show a text beside the buffer. -/
def openPanel (h : MemoryHost) (label text highlighting : String) : MemoryHost :=
  { h with panels := h.panels ++ [⟨label, text, highlighting⟩] }

/-- Carry out an action. -/
def perform (h : MemoryHost) : Action → MemoryHost
  | .reject _ message => h.notify message
  | .keep => h.notify alreadyFormatted
  | .replace text => h.replaceText text
  | .showDiff label text => h.openPanel label text diffSyntax

/-- Carry out what a run calls for. A run that stopped calls for nothing. -/
def settle (h : MemoryHost) : Except Fault Action → MemoryHost × Except Fault Applied
  | .error fault => (h, .error fault)
  | .ok action => (h.perform action, .ok action.applied)

/-- A run over the buffer with any formatter. -/
def runWith (start : Formatter.Starter) (h : MemoryHost) (w : World) (config : Config)
    (platform : Platform) (mode : Mode) : MemoryHost × Except Fault Applied :=
  h.settle (attemptWith start w config platform h.view mode).action

/-- A run over the buffer. -/
def run (h : MemoryHost) (w : World) (config : Config) (platform : Platform) (mode : Mode) :
    MemoryHost × Except Fault Applied :=
  h.runWith (Formatter.start w · platform) w config platform mode

end MemoryHost

end BufferFormat
