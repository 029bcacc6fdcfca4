import Formwork.Console.Basic
import Formwork.Output.Batch
import Formwork.Rule.Basic
import Formwork.ValuesFile

/-!
# Hosts

A run relies on what is around it: the codecs and the readers of documents that are installed, the
room that there is for rendering, the console and the output that the run tells its results to, and
the scheduler of the tasks that write outputs.  All of these belong to a `Host`, and any of them may
fail.  Of a host one thing is known beforehand: its default encoding is UTF-8.
-/

namespace Formwork.CommandLine

/-- What runs take place on. -/
structure Host where
  codecs : Codec.Table
  readers : ValuesFile.Readers
  /-- The error if there is no room for rendering a template with values and rules. -/
  exhausts : Text → Table Text → List Rule → Option Foreign
  /-- The error if the console does not take an entry. -/
  refuses : Console.Entry → Option Foreign
  /-- The error if the output does not take a text. -/
  rejects : Text → Option Foreign
  scheduler : Output.Scheduler
  codecs_default : codecs Config.defaultEncoding = .ok Encoding.utf8.codec

namespace Host

/-- The host that this library makes up by itself; it never fails. -/
def library : Host where
  codecs := Encoding.codecs
  readers := .library
  exhausts := fun _ _ _ => none
  refuses := fun _ => none
  rejects := fun _ => none
  scheduler := .inTurn
  codecs_default := by
    have h : Encoding.ofName Config.defaultEncoding = .ok .utf8 := by rfl
    rw [Encoding.codecs, h]
    rfl

/-- Passes entries to the console, up to the first one that it does not take.  What has been passed
is given back, and the error. -/
def print (host : Host) : List Console.Entry → List Console.Entry × Option Foreign
  | [] => ([], none)
  | e :: es =>
    match host.refuses e with
    | some error => ([e], some error)
    | none =>
      let (passed, error) := host.print es
      (e :: passed, error)

end Host

end Formwork.CommandLine
