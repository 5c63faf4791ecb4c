import BufferFormat.CommandLine.Argument
import BufferFormat.Path

/-!
# Help

The texts that queries ask for. The help shows every option in a row, with the explanations in one
column.

## Main definitions

* `programName`: The name under which the program was started.
* `Query.text`: The text that a query asks for.
-/

namespace BufferFormat

/-- The name of the program. -/
def ownName : String := "blackpipe"

/-- What the program is for. -/
def purpose : String := "Run the Black formatter over Python buffers through stdin/stdout"

/-- The name under which the program was started, or its own name if that is no name of a file. -/
def programName (argv : List String) : String :=
  (argv.head?.bind fun program => Path.fileName? ⟨program⟩).getD ownName

/-- How an option may be written. The names stand below each other, with or without a letter in
    front. -/
def Named.spelling (n : Named) : String :=
  match n.short? with
  | some c => String.ofList ['-', c, ',', ' '] ++ n.shown
  | none => "    " ++ n.shown

/-- A row of the help, in which the explanation begins after `width` characters. -/
def helpRow (width : Nat) (spelling about : String) : String :=
  "  " ++ spelling ++ "".pushn ' ' (width - spelling.length) ++ about ++ "\n"

/-- Rows of the help, two blanks apart. -/
def helpRows (rows : List (String × String)) : String :=
  let width := (rows.map fun row => row.1.length).foldl max 0 + 2
  String.join (rows.map fun row => helpRow width row.1 row.2)

/-- The explanation of the command line. -/
def helpText (program : String) : String :=
  purpose ++ "\n\nUsage: " ++ program ++ " [OPTIONS] " ++ Argument.inputs.shown ++
    "\n\nArguments:\n" ++
    helpRows [(Argument.inputs.shown,
      "Files or directories to format ('-' or nothing reads stdin)")] ++
    "\nOptions:\n" ++ helpRows (Named.all.map fun n => (n.spelling, n.about))

/-- The version of the program. -/
def versionText : String := ownName ++ " 0.1.0\n"

/-- The text that a query asks for. -/
def Query.text (program : String) : Query → String
  | .help => helpText program
  | .version => versionText

end BufferFormat
