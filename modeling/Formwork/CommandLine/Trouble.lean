import Formwork.CommandLine.Assignment
import Formwork.Config.File
import Formwork.Output.Task
import Formwork.Preset.Bundled
import Formwork.ValuesFile

/-!
# What can go wrong in a run

One type gathers the causes for which a run fails.  Most of them are reported to the user and make
the run end with the exit code of a failure; a fault of the program itself has a code of its own.
Some are not expected, such as a directory where a file should be or a codec that is not for texts;
they end the run abruptly, and whoever started it must deal with them.
-/

namespace Formwork.CommandLine

/-- Why a run fails. -/
inductive Trouble where
  /-- The options are not accepted; the text is the encoding that was given. -/
  | config (given : Text) (issues : List Issue)
  | templateNotFound (path : Path)
  | disk (cause : Disk.Error)
  | encoding (cause : Encoding.NameError)
  | undecodable (cause : Foreign)
  | preset (cause : Preset.Unknown)
  | noTemplate
  | bothGiven
  | values (cause : ValuesFile.Fault)
  | argument (cause : ArgumentError)
  /-- Several outputs and no directory for them. -/
  | noDirectory
  | engine (cause : Fault)
  /-- There is no room for rendering. -/
  | exhausted (cause : Foreign)
  | name (cause : Preset.NameFault)
  /-- Two outputs have the same place. -/
  | collision (path : Path)
  | output (cause : Output.Fault)
  /-- The console does not take what is passed to it. -/
  | console (cause : Foreign)
  /-- The output does not take a text. -/
  | stdout (cause : Foreign)
  deriving Repr, DecidableEq

namespace Trouble

def message : Trouble → Text
  | config given issues => Config.report given issues
  | templateNotFound path => "Template file not found: " ++ path.text
  | disk cause => cause.message
  | encoding cause => cause.message
  | undecodable cause => cause.message
  | preset cause => cause.message
  | noTemplate => "A template path or --preset is required"
  | bothGiven => "Pass either a template path or --preset, not both"
  | values cause => cause.message
  | argument cause => cause.message
  | noDirectory => "Rendering several templates requires --output DIR"
  | engine cause => cause.message
  | exhausted cause => cause.message
  | name cause => cause.message
  | collision path => "Two templates render to the same file: " ++ path.text
  | output cause => cause.message
  | console cause => cause.message
  | stdout cause => cause.message

/-- Whether an error of the disk is expected: something is missing, is there already, or cannot be
a path at all. -/
def isExpectedOnDisk : Disk.Cause → Bool
  | .absent => true
  | .present => true
  | .nullCharacter => true
  | .notDirectory => false
  | .isDirectory => false
  | .nameTooLong => false
  | .tooManyLinks => false
  | .refused _ => false

/-- Whether it is expected that a name selects no codec for texts: no name holds the null character,
and the other names have been looked up before. -/
def isExpectedOfName : Encoding.NameError → Bool
  | .nullCharacter => true
  | .unknown _ => false
  | .notText _ => false

/-- Whether the cause is reported to the user. -/
def isReported : Trouble → Bool
  | disk cause => isExpectedOnDisk cause.cause
  | encoding cause => isExpectedOfName cause
  | undecodable cause => cause.isExpected
  | values (.disk cause) => isExpectedOnDisk cause.cause
  | values (.raised cause) => cause.isExpected
  | engine (.rule _) => false
  | exhausted cause => cause.isExpected
  | name (.fault (.rule _)) => false
  | output (.disk cause) => isExpectedOnDisk cause.cause
  | output (.encoding cause) => isExpectedOfName cause
  | output (.unencodable cause) => cause.isExpected
  | console cause => cause.isExpected
  | stdout cause => cause.isExpected
  | _ => true

/-- Whether the cause is a fault of the program itself, which had completed the values before. -/
def isInternal : Trouble → Bool
  | engine (.unbound _) => true
  | name (.fault (.unbound _)) => true
  | _ => false

def missing : Trouble → List Text
  | engine (.missing names) => names
  | name (.fault (.missing names)) => names
  | _ => []

end Trouble

end Formwork.CommandLine
