import Formwork.Text.Blank

/-!
# The words of a command line

The words after a command are options, values of options and operands.  A word that begins with a
hyphen is an option if it spells one: in full, with a value after an equals sign, by the beginning
of a long name that fits no other option, or as a letter with its value right after it.  A single
hyphen, a negative number and a word with a space in it are no options, and after a word of two
hyphens none is.

Operands stand together: once other words have followed, no further operand is taken.
-/

namespace Formwork.CommandLine

/-- The options of all commands. -/
inductive Switch where
  | help
  | preset
  | derive
  | encoding
  | assign
  | values
  | output
  | force
  | indent
  deriving Repr, DecidableEq

def Switch.hasValue : Switch → Bool
  | help => false
  | force => false
  | indent => false
  | _ => true

abbrev Spellings := List (String × Switch)

inductive Operands where
  | none
  | atMostOne
  | any
  deriving Repr, DecidableEq

inductive Word where
  /-- An option, possibly with a value in the same word. -/
  | option (switch : Switch) (attached : Option Text)
  /-- An option that the command does not have. -/
  | unknown
  /-- The word of two hyphens. -/
  | separator
  | plain (word : Text)
  deriving Repr, DecidableEq

namespace Word

/-- The option that is spelled in full. -/
def spelledBy (table : Spellings) (w : Text) : Option Switch :=
  (table.find? fun e => e.1.toList == w).map Prod.snd

/-- The options whose long name begins as the word does. -/
def extensions (table : Spellings) (w : Text) : List Switch :=
  (table.filter fun e => w.isPrefixOf e.1.toList).map Prod.snd

/-- Whether a word is a negative number without an exponent; a newline at its end does not matter. -/
def isNegativeNumber (w : Text) : Bool :=
  let isDigit (c : Char) : Bool := (Text.digitValue? c).isSome
  match if w.getLast? == some '\n' then w.dropLast else w with
  | '-' :: ds =>
    match Text.cutAt? '.' ds with
    | none => !ds.isEmpty && ds.all isDigit
    | some (a, b) => a.all isDigit && !b.isEmpty && b.all isDigit
  | _ => false

/-- A word that spells no option. -/
def noOption (w : Text) : Word :=
  if isNegativeNumber w || w.contains ' ' then .plain w else .unknown

/-- The option that a word abbreviates, or that has its value right after its letter.  An
abbreviation of several options is no word. -/
def abbreviated (table : Spellings) (w : Text) : Option Word :=
  match w with
  | '-' :: '-' :: _ =>
    let (name, value) :=
      match Text.cutAt? '=' w with
      | some (a, b) => (a, some b)
      | none => (w, none)
    match extensions table name with
    | [] => some (noOption w)
    | [s] => some (.option s value)
    | _ => none
  | '-' :: c :: value =>
    match spelledBy table ['-', c] with
    | some s => some (.option s (some value))
    | none => some (noOption w)
  | _ => some (.plain w)

/-- A word in front of any separator. -/
def classify (table : Spellings) (w : Text) : Option Word :=
  match w with
  | '-' :: _ :: _ =>
    match spelledBy table w with
    | some s => some (.option s none)
    | none =>
      match Text.cutAt? '=' w with
      | none => abbreviated table w
      | some (a, b) =>
        match spelledBy table a with
        | some s => some (.option s (some b))
        | none => abbreviated table w
  | _ => some (.plain w)

/-- The words of a command line. -/
def classifyAll (table : Spellings) : List Text → Option (List Word)
  | [] => some []
  | w :: ws =>
    if w = ['-', '-'] then some (.separator :: ws.map .plain)
    else do return (← classify table w) :: (← classifyAll table ws)

end Word

/-- The options of a command line, in order, with their values, its operands, and whether it has
words that the command does not take. -/
structure Parts where
  options : List (Switch × Text) := []
  operands : List Text := []
  surplus : Bool := false
  deriving Repr, DecidableEq

namespace Parts

def all (p : Parts) (s : Switch) : List Text :=
  (p.options.filter fun e => e.1 == s).map Prod.snd

def last? (p : Parts) (s : Switch) : Option Text := (p.all s).getLast?

def uses (p : Parts) (s : Switch) : Bool := p.options.any fun e => e.1 == s

def withOption (p : Parts) (s : Switch) (value : Text) : Parts :=
  { p with options := (s, value) :: p.options }

def isOperand : Word → Bool
  | .plain _ => true
  | .separator => true
  | _ => false

/-- The operands that stand at the front, and the words after them. -/
def takeOperands (allowed : Operands) (ws : List Word) : List Text × List Word :=
  let plain (ws : List Word) : List Text := ws.filterMap fun w =>
    match w with
    | .plain s => some s
    | _ => none
  match allowed with
  | .none => ([], ws)
  | .any => (plain (ws.takeWhile isOperand), ws.dropWhile isOperand)
  | .atMostOne =>
    match ws with
    | .separator :: .plain s :: rest => ([s], rest)
    | .separator :: rest => ([], rest)
    | .plain s :: .separator :: rest => ([s], rest)
    | .plain s :: rest => ([s], rest)
    | rest => ([], rest)

/-- Sorts words into options and operands; `allowed` says which operands may still follow.  Nothing
comes of an option that lacks its value or has one that it does not take.  A word that the command
does not take is passed over, for the request for help, where reading ends, may follow it. -/
def ofWords (allowed : Operands) (ws : List Word) : Option Parts :=
  match ws with
  | [] => some {}
  | .unknown :: rest => (ofWords allowed rest).map fun p => { p with surplus := true }
  | .option .help none :: _ => some { options := [(.help, [])] }
  | .option s attached :: rest =>
    if s.hasValue then
      match attached, rest with
      | some value, rest => (ofWords allowed rest).map (·.withOption s value)
      | none, .plain value :: rest => (ofWords allowed rest).map (·.withOption s value)
      | none, _ => none
    else
      match attached with
      | some _ => none
      | none => (ofWords allowed rest).map (·.withOption s [])
  | w :: rest =>
    let (operands, next) := takeOperands allowed (w :: rest)
    if _fewer : next.length < rest.length + 1 then
      (ofWords .none next).map fun p => { p with operands }
    else (ofWords allowed rest).map fun p => { p with surplus := true }
termination_by ws.length

end Parts

end Formwork.CommandLine
