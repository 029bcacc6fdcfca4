import Formwork.CommandLine.Words

/-!
# Commands

There are three commands: one that writes the outputs of templates, one that lists the
placeholders of a template, and one that lists the presets.  A command line that is none of them
has no meaning, and nothing is said about it but that.
-/

namespace Formwork.CommandLine

/-- What to render and how. -/
structure RenderRequest where
  templates : List Text
  presets : List Text
  derivations : List Text
  encoding : Option Text
  assignments : List Text
  valuesFile : Option Text
  output : Option Text
  force : Bool
  indent : Bool
  deriving Repr, DecidableEq

/-- The template whose placeholders are listed. -/
structure InspectRequest where
  template : Option Text
  preset : Option Text
  derivations : List Text
  encoding : Option Text
  deriving Repr, DecidableEq

inductive Command where
  | help
  | render (r : RenderRequest)
  | inspect (r : InspectRequest)
  | presets
  deriving Repr, DecidableEq

namespace Command

def commonSpellings : Spellings := [("-h", .help), ("--help", .help)]

def renderSpellings : Spellings :=
  commonSpellings ++
    [("--preset", .preset), ("-p", .preset), ("--derive", .derive), ("--encoding", .encoding),
      ("--set", .assign), ("-s", .assign), ("--values", .values), ("-f", .values),
      ("--output", .output), ("-o", .output), ("--force", .force), ("--indent", .indent)]

def inspectSpellings : Spellings :=
  commonSpellings ++
    [("--preset", .preset), ("-p", .preset), ("--derive", .derive), ("--encoding", .encoding)]

/-- The options and operands of a command with the given options. -/
def parts (table : Spellings) (allowed : Operands) (ws : List Text) : Option Parts :=
  Word.classifyAll table ws >>= Parts.ofWords allowed

/-- Help if it is asked for; else the command, if it takes all words. -/
def orHelp (p : Parts) (c : Command) : Option Command :=
  if p.uses .help then some .help else if p.surplus then none else some c

def readRender (ws : List Text) : Option Command := do
  let p ← parts renderSpellings .any ws
  orHelp p <| .render {
    templates := p.operands
    presets := p.all .preset
    derivations := p.all .derive
    encoding := p.last? .encoding
    assignments := p.all .assign
    valuesFile := p.last? .values
    output := p.last? .output
    force := p.uses .force
    indent := p.uses .indent }

def readInspect (ws : List Text) : Option Command := do
  let p ← parts inspectSpellings .atMostOne ws
  orHelp p <| .inspect {
    template := p.operands.head?
    preset := p.last? .preset
    derivations := p.all .derive
    encoding := p.last? .encoding }

def readPresets (ws : List Text) : Option Command := do
  orHelp (← parts commonSpellings .none ws) .presets

/-- The command of a command line.  Help may be asked for behind options that are unknown. -/
def read : List Text → Option Command
  | [] => none
  | name :: ws =>
    if name == "render".toList then readRender ws
    else if name == "inspect".toList then readInspect ws
    else if name == "presets".toList then readPresets ws
    else
      match Word.classifyAll commonSpellings [name] with
      | some [.option .help none] => some .help
      | some [.unknown] => (read ws).filter (· = .help)
      | _ => none

end Command

end Formwork.CommandLine
