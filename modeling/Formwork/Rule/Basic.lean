import Formwork.Fields.Readers
import Formwork.Naming
import Formwork.Supplied
import Formwork.Text.Quoted

/-!
# Derivation rules

A rule derives the value of one name from the values of others, its inputs.  Most rules write one
input in a naming style, but a rule may combine several inputs, and the function behind it may be
anything; so what a function gives is not always a text, and `Product` leaves room for that.  Nor is
what it is given always a text, for values can be supplied as data of any kind; a `Misfit` says why a
function does not take them.

A rule can be given as data, by its name, its inputs and a description; the function behind it comes
separately.
-/

namespace Formwork

/-! ## Misfits -/

/-- Why a function does not take what it is given. -/
inductive Misfit where
  /-- Values of this kind do not have that operation. -/
  | lacks (kind operation : Text)
  | other (reason : Text)
  deriving Repr, DecidableEq

def Misfit.message : Misfit → Text
  | lacks kind operation =>
    "'" ++ kind ++ "' object has no attribute '" ++ operation ++ "'"
  | other reason => reason

/-! ## Rules -/

/-- What the function behind a rule gives. -/
inductive Product where
  /-- The derived value. -/
  | text (value : Text)
  /-- Something that is not a text but a value of another kind. -/
  | other (kind : Text)
  /-- Nothing: the function does not take the inputs it is given. -/
  | refusal (cause : Misfit)
  deriving Repr, DecidableEq

/-- A rule: the name it derives, the names it reads, and the function from one to the other. -/
structure Rule where
  name : Text
  inputs : List Text
  compute : List Json → Product
  description : Text

namespace Rule

/-- Why a rule gives no value. -/
inductive Failure where
  /-- An input has no value. -/
  | unboundInput (name : Text)
  /-- The function gives something that is not a text. -/
  | notText (rule kind : Text)
  /-- The function refuses its inputs. -/
  | refused (cause : Misfit)
  deriving Repr, DecidableEq

def Failure.message : Failure → Text
  | unboundInput name => Text.quoted name
  | notText rule kind =>
    "Derivation rule '" ++ rule ++ "' returned " ++ kind ++ ", expected str"
  | refused cause => cause.message

/-- The values of the inputs, in order, or the first input that has none. -/
def inputValues {α : Type} (values : Table α) : List Text → Except Failure (List α)
  | [] => .ok []
  | n :: ns =>
    match values.get? n with
    | none => .error (.unboundInput n)
    | some v => (inputValues values ns).map (v :: ·)

def apply {α : Type} [Supplied α] (rule : Rule) (values : Table α) : Except Failure Text := do
  match rule.compute ((← inputValues values rule.inputs).map Supplied.toJson) with
  | .text value => return value
  | .other kind => throw (.notText rule.name kind)
  | .refusal cause => throw (.refused cause)

end Rule

/-! ## Rules that apply a style -/

namespace Style

/-- The complaint when a style is given `n` values instead of one. -/
def arityComplaint (style : Style) (n : Nat) : Text :=
  let takesOne (title : Text) : Text :=
    title ++ "() takes 1 positional argument but " ++ Nat.toDigits 10 n ++ " were given"
  let takesNone (title : Text) : Text :=
    title ++ "() takes no arguments (" ++ Nat.toDigits 10 (n - 1) ++ " given)"
  match style with
  | camel => takesOne "camel_case"
  | kebab => takesOne "kebab_case"
  | pascal => takesOne "pascal_case"
  | slug => takesOne "slugify"
  | snake => takesOne "snake_case"
  | lower => takesNone "str.lower"
  | upper => takesNone "str.upper"

/-- Why a style does not take a value of another kind than text. -/
def kindMisfit (style : Style) (kind : Text) : Misfit :=
  let foreign (operation : Text) : Misfit :=
    .other ("descriptor '" ++ operation ++ "' for 'str' objects doesn't apply to a '" ++ kind
      ++ "' object")
  match style with
  | slug => .lacks kind "lower"
  | lower => foreign "lower"
  | upper => foreign "upper"
  | _ => .lacks kind "strip"

/-- Whether a style looks at the kind of the first value before it counts the values. -/
def looksFirst : Style → Bool
  | lower => true
  | upper => true
  | _ => false

/-- Why a style does not take these values; it takes a single text. -/
def misfit (style : Style) (values : List Json) : Misfit :=
  match values with
  | .text _ :: _ => .other (style.arityComplaint values.length)
  | v :: rest =>
    if rest.isEmpty || style.looksFirst then style.kindMisfit v.kind
    else .other (style.arityComplaint values.length)
  | [] => .other (style.arityComplaint 0)

/-- The style as the function of a rule; it takes exactly one input, which must be a text. -/
def compute (style : Style) : List Json → Product
  | [.text value] => .text (style.apply value)
  | values => .refusal (style.misfit values)

end Style

structure UnknownStyle where
  word : Text
  deriving Repr, DecidableEq

/-- The complaint about a word that selects no style lists those that do. -/
def UnknownStyle.message (e : UnknownStyle) : Text :=
  "Unknown transform '" ++ e.word ++ "'; expected one of "
    ++ Names.commaList (Style.all.map Style.name)

/-- The rule that writes one input in a style. -/
def Rule.ofStyle (name source : Text) (style : Style) (description : Text := []) : Rule :=
  ⟨name, [source], style.compute, description⟩

/-- The rule that writes one input in the style that a word selects. -/
def Rule.derive (name source word : Text) : Except UnknownStyle Rule :=
  match Style.ofName? word with
  | none => .error ⟨word⟩
  | some style => .ok (.ofStyle name source style (word ++ " case of " ++ source))

/-! ## Rules as data -/

open Checked

/-- The inputs of a rule: at least one. -/
def Rule.readInputs (j : Json) : Checked (List Text) :=
  match Fields.tuple Fields.text j with
  | .ok [] => .fail .tooShort
  | other => other

def Rule.readFields (compute : List Json → Product) (ms : List (Text × Json)) : Checked Rule :=
  (both (Fields.required "name" Fields.text ms)
    (both (Fields.required "inputs" Rule.readInputs ms)
      (Fields.optional "description" [] Fields.text ms))).map
    fun (name, inputs, description) => ⟨name, inputs, compute, description⟩

end Formwork
